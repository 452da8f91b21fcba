/-!
This module contains look-ups in tables over ranges of code points: whether one holds a code point,
what it carries, and where a run of code points is sent in step, as the capital letters of an
alphabet are to its small letters. A table lists its ranges in ascending order, so a search ends at
the first range that starts too late.
-/

namespace ForwardProxy.Unicode

/-- Ascending ranges of code points, each given by its first and its last one. -/
abbrev Spans := List (Nat × Nat)

def Spans.holds : Spans → Nat → Bool
  | [], _ => false
  | (first, last) :: rest, n => if n < first then false else n ≤ last || Spans.holds rest n

/-- The range that a code point falls in: the place inside the range, and what the range carries. -/
def rangeAt? {α : Type} : List (Nat × Nat × α) → Nat → Option (Nat × α)
  | [], _ => none
  | (first, last, value) :: rest, n =>
    if n < first then none
    else if n ≤ last then some (n - first, value)
    else rangeAt? rest n

def valueAt? {α : Type} (ranges : List (Nat × Nat × α)) (n : Nat) : Option α :=
  (rangeAt? ranges n).map Prod.snd

/-- Every `step`-th code point from `first` to `last`, sent to the ones from `image` on in step. -/
structure Run where
  first : Nat
  last : Nat
  step : Nat
  image : Nat

def Run.image? : List Run → Nat → Option Nat
  | [], _ => none
  | run :: rest, n =>
    if n < run.first then none
    else if n ≤ run.last ∧ (n - run.first) % run.step = 0 then some (run.image + (n - run.first))
    else Run.image? rest n

theorem Spans.exists_of_holds {spans : Spans} {n : Nat} (h : spans.holds n = true) :
    ∃ span ∈ spans, span.1 ≤ n ∧ n ≤ span.2 := by
  induction spans with
  | nil => simp [holds] at h
  | cons span rest ih =>
    obtain ⟨first, last⟩ := span
    simp only [holds] at h
    split at h
    · simp at h
    · rw [Bool.or_eq_true, decide_eq_true_eq] at h
      rcases h with h | h
      · exact ⟨_, List.mem_cons_self, by simp only; omega, h⟩
      · obtain ⟨span, hmem, hspan⟩ := ih h
        exact ⟨span, List.mem_cons_of_mem _ hmem, hspan⟩

end ForwardProxy.Unicode
