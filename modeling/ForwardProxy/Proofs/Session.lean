import ForwardProxy.Session
import Mathlib.Data.List.Induction

/-!
This module contains the theory of sessions. Main statement: `run_remembers` says what a session
remembers of its steps: the last values for the configuration under construction, the last
configuration that was made the current one, and the one that was current when it was stored.
-/

namespace ForwardProxy.Session

def Step.written? (f : Config.Field) : Step → Option Text
  | .set (.only g) value => if f = g then some value else none
  | .set .allProxies value => if f = .noProxy then none else some value
  | _ => none

def Step.isNewBuilder : Step → Bool
  | .newBuilder => true
  | _ => false

/-! In what follows a history is a list of steps, of which the last one stands first. -/

def lastWritten (f : Config.Field) (history : List Step) : Text :=
  ((history.takeWhile fun step => !step.isNewBuilder).findSome? (Step.written? f)).getD []

def lastBuilder (history : List Step) : Config where
  httpProxy := lastWritten .httpProxy history
  httpsProxy := lastWritten .httpsProxy history
  noProxy := lastWritten .noProxy history

/-- The configuration that was made the current one last. -/
def lastCurrent : List Step → Config
  | [] => {}
  | .build :: earlier => lastBuilder earlier
  | .new config :: _ => config
  | .load env :: _ => (Config.load env).config
  | .reset :: _ => {}
  | _ :: earlier => lastCurrent earlier

theorem lastWritten_cons (f : Config.Field) (step : Step) (history : List Step) :
    lastWritten f (step :: history) =
      if step.isNewBuilder then [] else (step.written? f).getD (lastWritten f history) := by
  unfold lastWritten
  cases hfresh : step.isNewBuilder with
  | true => simp [hfresh]
  | false =>
    rw [List.takeWhile_cons_of_pos (by simp [hfresh]), List.findSome?_cons]
    cases step.written? f with
    | none => rfl
    | some value => rfl

theorem get_lastBuilder (f : Config.Field) (history : List Step) :
    (lastBuilder history).get f = lastWritten f history := by
  cases f with
  | httpProxy => rfl
  | httpsProxy => rfl
  | noProxy => rfl

def after (state : Session) (steps : List Step) : Session :=
  steps.foldl next state

variable {state : Session}

theorem after_append (a b : List Step) : state.after (a ++ b) = (state.after a).after b := by
  unfold after
  apply List.foldl_append

theorem get_builder_next (f : Config.Field) (step : Step) :
    (state.next step).builder.get f =
      if step.isNewBuilder then [] else (step.written? f).getD (state.builder.get f) := by
  cases step with
  | set setting value =>
    simp only [next, Config.get_set, Step.isNewBuilder, Bool.false_eq_true, if_false]
    cases setting with
    | only g => by_cases h : f = g <;> simp [Config.Setting.fields, Step.written?, h]
    | allProxies => cases f <;> rfl
  | newBuilder => cases f <;> rfl
  | _ => rfl

theorem get_builder_after (f : Config.Field) (steps : List Step) :
    (({} : Session).after steps).builder.get f = lastWritten f steps.reverse := by
  induction steps using List.reverseRecOn with
  | nil => cases f <;> rfl
  | append_singleton steps step ih =>
    rw [after_append, List.reverse_concat, lastWritten_cons, ← ih]
    exact get_builder_next f step

theorem builder_after (steps : List Step) :
    (({} : Session).after steps).builder = lastBuilder steps.reverse := by
  apply Config.eq_of_get_eq
  intro f
  rw [get_builder_after, get_lastBuilder]

theorem current_after (steps : List Step) :
    (({} : Session).after steps).current = lastCurrent steps.reverse := by
  induction steps using List.reverseRecOn with
  | nil => rfl
  | append_singleton steps step ih =>
    rw [after_append, List.reverse_concat]
    cases step with
    | build => exact builder_after steps
    | new config => rfl
    | load env => rfl
    | reset => rfl
    | _ => exact ih

theorem stored_next_of_ne {step : Step} (h : step ≠ .store) :
    (state.next step).stored = state.stored := by
  cases step with
  | store => contradiction
  | _ => rfl

theorem stored_after_of_not_mem {steps : List Step} (h : Step.store ∉ steps) :
    (state.after steps).stored = state.stored := by
  induction steps generalizing state with
  | nil => rfl
  | cons step steps ih =>
    rw [List.mem_cons, not_or] at h
    have hnext : (state.next step).stored = state.stored := stored_next_of_ne (Ne.symm h.1)
    rw [← hnext]
    exact ih h.2

theorem stored_after_store {earlier later : List Step} (h : Step.store ∉ later) :
    (state.after (earlier ++ .store :: later)).stored = some (state.after earlier).current := by
  rw [after_append]
  exact stored_after_of_not_mem h

theorem length_run (steps : List Step) : (state.run steps).length = steps.length := by
  induction steps generalizing state with
  | nil => rfl
  | cons step steps ih => exact congrArg (· + 1) ih

theorem run_append (a b : List Step) :
    state.run (a ++ b) = state.run a ++ (state.after a).run b := by
  induction a generalizing state with
  | nil => rfl
  | cons step a ih => exact congrArg (state.answer (state.next step) step :: ·) ih

theorem getElem?_run (earlier later : List Step) (step : Step) :
    (state.run (earlier ++ step :: later))[earlier.length]? =
      some ((state.after earlier).answer ((state.after earlier).next step) step) := by
  rw [run_append, List.getElem?_append_right (Nat.le_of_eq (length_run earlier))]
  rw [length_run, Nat.sub_self]
  rfl

theorem answer_call_of_none {after : Session} {url : Text} (h : state.stored = none) :
    state.answer after (.call url) = .noneStored := by
  unfold answer
  rw [h]

theorem answer_call_of_some {after : Session} {url : Text} {config : Config}
    (h : state.stored = some config) :
    state.answer after (.call url) = withUrl url fun u => .result (config.proxyFor u) := by
  unfold answer
  rw [h]

theorem run_remembers (steps : List Step) :
    (∀ f, (({} : Session).after steps).builder.get f = lastWritten f steps.reverse) ∧
    (({} : Session).after steps).current = lastCurrent steps.reverse ∧
    (∀ earlier later url rest, steps = earlier ++ .store :: later ++ .call url :: rest →
      Step.store ∉ later →
        (({} : Session).run steps)[(earlier ++ .store :: later).length]? =
          some (withUrl url fun u => .result ((lastCurrent earlier.reverse).proxyFor u))) ∧
    (∀ earlier url rest, steps = earlier ++ .call url :: rest → Step.store ∉ earlier →
      (({} : Session).run steps)[earlier.length]? = some .noneStored) := by
  refine ⟨fun f => get_builder_after f steps, current_after steps, ?_, ?_⟩
  · rintro earlier later url rest rfl hlater
    rw [getElem?_run, answer_call_of_some (stored_after_store hlater), current_after]
  · rintro earlier url rest rfl hearlier
    have hstored : (({} : Session).after earlier).stored = none := stored_after_of_not_mem hearlier
    rw [getElem?_run, answer_call_of_none hstored]

theorem run_remembers_across_builds :
    let earlier : List Step := [.set .allProxies "p:1".toList,
      .set (.only .httpProxy) "q:2".toList, .build]
    let later : List Step := [.newBuilder, .set (.only .noProxy) ['*'], .build, .call "::".toList,
      .reset]
    let steps := earlier ++ .store :: later ++ [.call "http://foo.com".toList]
    (({} : Session).after steps).builder.get .httpProxy = [] ∧
    (({} : Session).after steps).builder.get .noProxy = ['*'] ∧
    (({} : Session).run steps)[9]? = some (withUrl "http://foo.com".toList fun u =>
      .result (Config.proxyFor ⟨"q:2".toList, "p:1".toList, []⟩ u)) := by
  intro earlier later steps
  obtain ⟨hbuilder, -, hcall, -⟩ := run_remembers steps
  refine ⟨hbuilder .httpProxy, hbuilder .noProxy, hcall earlier later _ [] rfl ?_⟩
  simp [later]

end ForwardProxy.Session
