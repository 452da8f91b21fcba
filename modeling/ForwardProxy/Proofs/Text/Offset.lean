import ForwardProxy.Text

/-!
This module contains the places in a text as numbers of bytes in UTF-8, and the cuts at such places.
Main statements: `exists_slice_iff` says between which places a text can be cut out, and
`slice_append` what is cut out.
-/

namespace ForwardProxy.Text

def size (s : Text) : Nat :=
  (String.ofList s).utf8ByteSize

def findFirst? (c : Char) (s : Text) : Option Nat :=
  (cutFirst? c s).map fun (before, _) => size before

def findLast? (c : Char) (s : Text) : Option Nat :=
  (cutLast? c s).map fun (before, _) => size before

/-- What stands before and after a place. There is nothing to cut after the end of a text, nor
inside of a character. -/
def cutAt? (n : Nat) : Text → Option (Text × Text)
  | [] => if n = 0 then some ([], []) else none
  | c :: rest =>
    if n = 0 then some ([], c :: rest)
    else if c.utf8Size ≤ n then
      (cutAt? (n - c.utf8Size) rest).map fun (before, after) => (c :: before, after)
    else none

structure BadSlice where
  text : Text
  start : Nat
  stop : Nat
  deriving DecidableEq, Repr

def slice (s : Text) (start stop : Nat) : Except BadSlice Text :=
  match (cutAt? stop s).bind fun (front, _) => cutAt? start front with
  | some (_, part) => .ok part
  | none => .error ⟨s, start, stop⟩

@[simp]
theorem size_nil : size [] = 0 := by
  simp [size]

@[simp]
theorem size_cons (c : Char) (s : Text) : size (c :: s) = c.utf8Size + size s := by
  simp [size]

@[simp]
theorem size_append (s t : Text) : size (s ++ t) = size s + size t := by
  simp [size]

theorem size_eq_zero_iff {s : Text} : size s = 0 ↔ s = [] := by
  cases s with
  | nil => simp
  | cons c s =>
    have hpos := c.utf8Size_pos
    simp only [size_cons, reduceCtorEq, iff_false]
    omega

theorem findFirst?_eq_some_iff {c : Char} {n : Nat} {s : Text} :
    findFirst? c s = some n ↔
      ∃ before after, s = before ++ c :: after ∧ c ∉ before ∧ size before = n := by
  simp [findFirst?, Option.map_eq_some_iff, cutFirst?_eq_some_iff, and_assoc]

theorem cutAt?_eq_some_iff {n : Nat} {s before after : Text} :
    cutAt? n s = some (before, after) ↔ s = before ++ after ∧ size before = n := by
  induction s generalizing n before with
  | nil =>
    unfold cutAt?
    cases before with
    | nil => simp [eq_comm, and_comm]
    | cons b before => simp
  | cons c s ih =>
    have hpos := c.utf8Size_pos
    unfold cutAt?
    cases before with
    | nil =>
      by_cases hn : n = 0
      · simp [hn]
      · simp [hn, Ne.symm hn]
    | cons b before =>
      simp only [List.cons_append, List.cons.injEq, size_cons]
      split
      · simp only [Option.some.injEq, Prod.mk.injEq, reduceCtorEq, false_and, false_iff]
        rintro ⟨⟨rfl, -⟩, hn⟩
        omega
      · split
        · next hle =>
          rw [Option.map_eq_some_iff]
          constructor
          · rintro ⟨⟨front, rest⟩, hcut, heq⟩
            simp only [Prod.mk.injEq, List.cons.injEq] at heq
            obtain ⟨⟨rfl, rfl⟩, rfl⟩ := heq
            obtain ⟨hs, hn⟩ := ih.1 hcut
            exact ⟨⟨rfl, hs⟩, by omega⟩
          · rintro ⟨⟨rfl, hs⟩, hn⟩
            exact ⟨(before, after), ih.2 ⟨hs, by omega⟩, rfl⟩
        · next hlt =>
          simp only [reduceCtorEq, false_iff]
          rintro ⟨⟨rfl, -⟩, hn⟩
          omega

theorem append_inj_of_size {a b c d : Text} (h : a ++ b = c ++ d) (hsize : size a = size c) :
    a = c ∧ b = d := by
  have ha : cutAt? (size c) (a ++ b) = some (a, b) := cutAt?_eq_some_iff.2 ⟨rfl, hsize⟩
  have hc : cutAt? (size c) (a ++ b) = some (c, d) := cutAt?_eq_some_iff.2 ⟨h, rfl⟩
  rw [ha, Option.some.injEq, Prod.mk.injEq] at hc
  exact hc

theorem slice_eq_ok_iff {start stop : Nat} {s part : Text} :
    slice s start stop = .ok part ↔
      ∃ before after, s = before ++ part ++ after ∧ size before = start ∧
        size (before ++ part) = stop := by
  have hcut : slice s start stop = .ok part ↔
      ∃ before,
        (cutAt? stop s).bind (fun (front, _) => cutAt? start front) = some (before, part) := by
    unfold slice
    split
    · next before part' hcut => simp [hcut]
    · next hcut => simp [hcut]
  rw [hcut]
  apply exists_congr
  intro before
  simp only [Option.bind_eq_some_iff, Prod.exists, cutAt?_eq_some_iff]
  constructor
  · rintro ⟨front, after, ⟨rfl, hstop⟩, rfl, hstart⟩
    exact ⟨after, rfl, hstart, hstop⟩
  · rintro ⟨after, rfl, hstart, hstop⟩
    exact ⟨_, after, ⟨rfl, hstop⟩, rfl, hstart⟩

theorem slice_append (before part after : Text) :
    slice (before ++ part ++ after) (size before) (size (before ++ part)) = .ok part :=
  slice_eq_ok_iff.2 ⟨before, after, rfl, rfl, rfl⟩

theorem slice_start (part after : Text) : slice (part ++ after) 0 (size part) = .ok part :=
  slice_eq_ok_iff.2 ⟨[], after, rfl, size_nil, rfl⟩

theorem slice_end (before part : Text) :
    slice (before ++ part) (size before) (size (before ++ part)) = .ok part :=
  slice_eq_ok_iff.2 ⟨before, [], (List.append_nil _).symm, rfl, rfl⟩

theorem size_lt_size_iff {c d : Char} {a b before after : Text} (hne : c ≠ d)
    (h : a ++ c :: b = before ++ d :: after) (hlast : c ∉ b) :
    size a < size before ↔ c ∉ after := by
  rcases List.append_eq_append_iff.1 h with ⟨between, rfl, hrest⟩ | ⟨between, rfl, hrest⟩
  · cases between with
    | nil => exact absurd (List.cons.inj hrest).1 hne
    | cons x between =>
      have hpos := x.utf8Size_pos
      rw [List.cons_append, List.cons.injEq] at hrest
      rw [hrest.2, List.mem_append, List.mem_cons, not_or, not_or] at hlast
      simp only [size_append, size_cons, hlast.2.2, not_false_eq_true, iff_true]
      omega
  · cases between with
    | nil => exact absurd (List.cons.inj hrest).1 (Ne.symm hne)
    | cons x between =>
      rw [List.cons_append, List.cons.injEq] at hrest
      simp [hrest.2]

theorem isValid_iff {n : Nat} {s : Text} :
    (String.Pos.Raw.mk n).IsValid (String.ofList s) ↔
      ∃ before after, s = before ++ after ∧ size before = n := by
  rw [String.Pos.Raw.isValid_ofList]
  constructor
  · rintro ⟨i, hi⟩
    exact ⟨s.take i, s.drop i, (List.take_append_drop i s).symm, hi.symm⟩
  · rintro ⟨before, after, rfl, hn⟩
    exact ⟨before.length, by rw [List.take_left, ← hn]; rfl⟩

theorem exists_slice_iff {start stop : Nat} {s : Text} :
    (∃ part, slice s start stop = .ok part) ↔
      start ≤ stop ∧ (String.Pos.Raw.mk start).IsValid (String.ofList s) ∧
        (String.Pos.Raw.mk stop).IsValid (String.ofList s) := by
  simp only [slice_eq_ok_iff, isValid_iff]
  constructor
  · rintro ⟨part, before, after, rfl, rfl, rfl⟩
    refine ⟨?_, ⟨before, part ++ after, by simp, rfl⟩, ⟨before ++ part, after, rfl, rfl⟩⟩
    rw [size_append]
    exact Nat.le_add_right _ _
  · rintro ⟨hle, ⟨before, rest, rfl, rfl⟩, ⟨front, after, hfront, rfl⟩⟩
    rcases List.append_eq_append_iff.1 hfront with ⟨part, rfl, rfl⟩ | ⟨part, rfl, rfl⟩
    · exact ⟨part, before, after, by simp, rfl, rfl⟩
    · -- The part ends where it starts, so nothing stands between the two places.
      rw [size_append] at hle
      have hpart : part = [] := size_eq_zero_iff.1 (by omega)
      subst hpart
      rw [List.append_nil]
      exact ⟨[], front, rest, by simp, rfl, by simp⟩

example : slice "éa".toList 0 2 = .ok ['é'] := rfl

example : slice "éa".toList 1 3 = .error ⟨"éa".toList, 1, 3⟩ := rfl

end ForwardProxy.Text
