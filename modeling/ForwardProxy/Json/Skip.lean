import ForwardProxy.Json.Literal
import ForwardProxy.Json.Number

/-!
This module contains the skipping of values of JSON. The lists and objects that are open around the
place in hand are kept beside the text, the innermost one first.
-/

namespace ForwardProxy.Json

def isBlank (c : Char) : Bool :=
  c = ' ' || c = '\n' || c = '\r' || c = '\t'

def next? (s : Text) : Option (Char × Text) :=
  match s.dropWhile isBlank with
  | [] => none
  | c :: rest => some (c, rest)

theorem next?_length {s rest : Text} {c : Char} (h : next? s = some (c, rest)) :
    rest.length < s.length := by
  unfold next? at h
  split at h
  · simp at h
  · rename_i d r hd
    simp only [Option.some.injEq, Prod.mk.injEq] at h
    have := List.Sublist.length_le (List.dropWhile_sublist isBlank (l := s))
    rw [hd, List.length_cons, h.2] at this
    omega

theorem next?_inj {s t t' : Text} {c c' : Char} (h : next? s = some (c, t))
    (h' : next? s = some (c', t')) : c = c' ∧ t = t' := by
  rw [h, Option.some.injEq, Prod.mk.injEq] at h'
  exact h'

def words : List Text :=
  ["null".toList, "true".toList, "false".toList]

def skipWord? (s : Text) : Option Text :=
  words.findSome? fun word => Text.dropStart? word s

def skipScalar? (s : Text) : Option Text :=
  match s with
  | '"' :: rest => skipString? rest
  | _ => (skipWord? s).or ((readNumeral? s).map Prod.snd)

theorem skipWord?_length {s rest : Text} (h : skipWord? s = some rest) :
    rest.length < s.length := by
  obtain ⟨word, hw, h⟩ := List.exists_of_findSome?_eq_some h
  have : 0 < word.length := by
    simp only [words, List.mem_cons, List.not_mem_nil, or_false] at hw
    rcases hw with rfl | rfl | rfl <;> decide
  rw [Text.dropStart?_eq_some_iff.1 h, List.length_append]
  omega

theorem skipScalar?_length {s rest : Text} (h : skipScalar? s = some rest) :
    rest.length < s.length := by
  unfold skipScalar? at h
  split at h
  · have := skipString?_length h
    simp only [List.length_cons]
    omega
  · rcases Option.or_eq_some_iff.1 h with h | ⟨-, h⟩
    · exact skipWord?_length h
    · obtain ⟨⟨x, r⟩, hx, rfl⟩ := Option.map_eq_some_iff.1 h
      exact readNumeral?_length hx

inductive Frame
  | list
  | object
  deriving DecidableEq, Repr

mutual

def skipValue? (frames : List Frame) (s : Text) : Option Text :=
  match h : next? s with
  | none => none
  | some (c, rest) =>
    have := next?_length h
    if c = '[' then
      match h : next? rest with
      | some (']', rest) =>
        have := next?_length h
        skipRest? frames rest
      | _ => skipValue? (.list :: frames) rest
    else if c = '\x7b' then
      match h : next? rest with
      | some ('\x7d', rest) =>
        have := next?_length h
        skipRest? frames rest
      | _ => skipMember? frames rest
    else
      match h : skipScalar? (c :: rest) with
      | none => none
      | some after =>
        have : after.length ≤ rest.length := Nat.le_of_lt_succ (skipScalar?_length h)
        skipRest? frames after
termination_by s.length

def skipMember? (frames : List Frame) (s : Text) : Option Text :=
  match h : next? s with
  | some ('"', rest) =>
    have := next?_length h
    match h : skipString? rest with
    | none => none
    | some rest =>
      have := skipString?_length h
      match h : next? rest with
      | some (':', rest) =>
        have := next?_length h
        skipValue? (.object :: frames) rest
      | _ => none
  | _ => none
termination_by s.length

def skipRest? (frames : List Frame) (s : Text) : Option Text :=
  match frames with
  | [] => some s
  | .list :: outer =>
    match h : next? s with
    | some (',', rest) =>
      have := next?_length h
      skipValue? (.list :: outer) rest
    | some (']', rest) =>
      have := next?_length h
      skipRest? outer rest
    | _ => none
  | .object :: outer =>
    match h : next? s with
    | some (',', rest) =>
      have := next?_length h
      skipMember? outer rest
    | some ('\x7d', rest) =>
      have := next?_length h
      skipRest? outer rest
    | _ => none
termination_by s.length

end

/-- In texts below a length something is skipped, or at least nothing is added where only frames are
closed. -/
structure SkipsBelow (n : Nat) : Prop where
  value {frames : List Frame} {s rest : Text} (hs : s.length < n)
    (h : skipValue? frames s = some rest) : rest.length < s.length
  member {frames : List Frame} {s rest : Text} (hs : s.length < n)
    (h : skipMember? frames s = some rest) : rest.length < s.length
  close {frames : List Frame} {s rest : Text} (hs : s.length < n)
    (h : skipRest? frames s = some rest) : rest.length ≤ s.length

namespace SkipsBelow

variable {n : Nat} {frames : List Frame} {s rest : Text}

theorem mono (below : SkipsBelow n) {m : Nat} (hle : m ≤ n) : SkipsBelow m where
  value hs := below.value (Nat.lt_of_lt_of_le hs hle)
  member hs := below.member (Nat.lt_of_lt_of_le hs hle)
  close hs := below.close (Nat.lt_of_lt_of_le hs hle)

theorem value_self (below : SkipsBelow s.length) (h : skipValue? frames s = some rest) :
    rest.length < s.length := by
  unfold skipValue? at h
  split at h
  · contradiction
  · next hfirst =>
    have hfirst := next?_length hfirst
    split at h
    · split at h
      · next hclosing =>
        have hclosing := next?_length hclosing
        have := below.close (by omega) h
        omega
      · have := below.value hfirst h
        omega
    · split at h
      · split at h
        · next hclosing =>
          have hclosing := next?_length hclosing
          have := below.close (by omega) h
          omega
        · have := below.member hfirst h
          omega
      · split at h
        · contradiction
        · next hscalar =>
          have hscalar := Nat.le_of_lt_succ (skipScalar?_length hscalar)
          have := below.close (by omega) h
          omega

theorem member_self (below : SkipsBelow s.length) (h : skipMember? frames s = some rest) :
    rest.length < s.length := by
  unfold skipMember? at h
  split at h
  · next hquote =>
    have hquote := next?_length hquote
    split at h
    · contradiction
    · next hkey =>
      have hkey := skipString?_length hkey
      split at h
      · next hcolon =>
        have hcolon := next?_length hcolon
        have := below.value (by omega) h
        omega
      · contradiction
  · contradiction

theorem close_self (below : SkipsBelow s.length) (h : skipRest? frames s = some rest) :
    rest.length ≤ s.length := by
  unfold skipRest? at h
  split at h
  · rw [Option.some.injEq] at h
    exact Nat.le_of_eq (congrArg List.length h.symm)
  · split at h
    · next hcomma =>
      have hcomma := next?_length hcomma
      have := below.value hcomma h
      omega
    · next hclosing =>
      have hclosing := next?_length hclosing
      have := below.close hclosing h
      omega
    · contradiction
  · split at h
    · next hcomma =>
      have hcomma := next?_length hcomma
      have := below.member hcomma h
      omega
    · next hclosing =>
      have hclosing := next?_length hclosing
      have := below.close hclosing h
      omega
    · contradiction

end SkipsBelow

theorem skipsBelow (n : Nat) : SkipsBelow n := by
  induction n with
  | zero =>
    constructor
    all_goals
      intro _ _ _ hs
      contradiction
  | succ n ih =>
    have below {s : Text} (hs : s.length < n + 1) : SkipsBelow s.length :=
      ih.mono (Nat.le_of_lt_succ hs)
    constructor
    · intro _ _ _ hs
      exact (below hs).value_self
    · intro _ _ _ hs
      exact (below hs).member_self
    · intro _ _ _ hs
      exact (below hs).close_self

theorem skipValue?_length {frames : List Frame} {s rest : Text}
    (h : skipValue? frames s = some rest) : rest.length < s.length :=
  (skipsBelow s.length).value_self h

end ForwardProxy.Json
