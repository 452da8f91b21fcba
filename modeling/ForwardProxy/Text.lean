/-!
This module contains texts as lists of characters, the ways of cutting them at a separator, and the
removal of white space from their two ends.
-/

namespace ForwardProxy

abbrev Text := List Char

namespace Text

def cutFirst? (sep : Char) : Text → Option (Text × Text)
  | [] => none
  | c :: rest =>
    if c = sep then some ([], rest)
    else (cutFirst? sep rest).map fun (before, after) => (c :: before, after)

def cutLast? (sep : Char) : Text → Option (Text × Text)
  | [] => none
  | c :: rest =>
    match cutLast? sep rest with
    | some (before, after) => some (c :: before, after)
    | none => if c = sep then some ([], rest) else none

def dropStart? : Text → Text → Option Text
  | [], s => some s
  | _ :: _, [] => none
  | c :: start, d :: s => if c = d then dropStart? start s else none

def dropEnd? (ending s : Text) : Option Text :=
  if ending.isSuffixOf s then some (s.take (s.length - ending.length)) else none

def isAscii (s : Text) : Bool :=
  s.all fun c => c.toNat < 0x80

/-- The property `White_Space`. -/
def isBlank (c : Char) : Bool :=
  let n := c.toNat
  (9 ≤ n && n ≤ 13) || n == 0x20 || n == 0x85 || n == 0xA0 || n == 0x1680 ||
    (0x2000 ≤ n && n ≤ 0x200A) || n == 0x2028 || n == 0x2029 || n == 0x202F || n == 0x205F ||
    n == 0x3000

def trimStart (s : Text) : Text :=
  s.dropWhile isBlank

def trimEnd (s : Text) : Text :=
  (s.reverse.dropWhile isBlank).reverse

def trim (s : Text) : Text :=
  trimEnd (trimStart s)

@[simp]
theorem trim_nil : trim [] = [] := rfl

theorem dropStart?_eq_some_iff {start s rest : Text} :
    dropStart? start s = some rest ↔ s = start ++ rest := by
  induction start generalizing s with
  | nil => simp [dropStart?]
  | cons c start ih =>
    cases s with
    | nil => simp [dropStart?]
    | cons d s => by_cases hc : c = d <;> simp [dropStart?, hc, ih, eq_comm]

theorem dropEnd?_eq_some_iff {ending s rest : Text} :
    dropEnd? ending s = some rest ↔ s = rest ++ ending := by
  unfold dropEnd?
  constructor
  · intro h
    split at h
    · rename_i hs
      obtain ⟨t, rfl⟩ := List.isSuffixOf_iff_suffix.1 hs
      simp_all
    · simp at h
  · rintro rfl
    simp [List.isSuffixOf_iff_suffix]

theorem cutFirst?_eq_some_iff {sep : Char} {s before after : Text} :
    cutFirst? sep s = some (before, after) ↔ s = before ++ sep :: after ∧ sep ∉ before := by
  induction s generalizing before with
  | nil => simp [cutFirst?]
  | cons c rest ih =>
    by_cases hc : c = sep
    · subst hc
      cases before <;> simp [cutFirst?]
      intro hb _ hn
      exact absurd hb hn
    · cases before with
      | nil => simp [cutFirst?, hc]
      | cons b before =>
        simp only [cutFirst?, hc, if_false, Option.map_eq_some_iff, Prod.exists, Prod.mk.injEq,
          List.cons.injEq, List.cons_append, List.mem_cons, not_or]
        constructor
        · rintro ⟨_, _, h, ⟨rfl, rfl⟩, rfl⟩
          obtain ⟨h, hn⟩ := ih.1 h
          exact ⟨⟨rfl, h⟩, fun h => hc h.symm, hn⟩
        · rintro ⟨⟨rfl, h⟩, -, hn⟩
          exact ⟨_, _, ih.2 ⟨h, hn⟩, ⟨rfl, rfl⟩, rfl⟩

theorem cutFirst?_eq_none_iff {sep : Char} {s : Text} : cutFirst? sep s = none ↔ sep ∉ s := by
  induction s with
  | nil => simp [cutFirst?]
  | cons c rest ih =>
    by_cases hc : c = sep
    · simp [cutFirst?, hc]
    · simp [cutFirst?, hc, ih, Ne.symm hc]

theorem cutLast?_eq_none_iff {sep : Char} {s : Text} : cutLast? sep s = none ↔ sep ∉ s := by
  induction s with
  | nil => simp [cutLast?]
  | cons c rest ih =>
    cases h : cutLast? sep rest with
    | none =>
      have := ih.1 h
      by_cases hc : c = sep
      · simp [cutLast?, h, hc]
      · simp [cutLast?, h, hc, this, Ne.symm hc]
    | some p =>
      have : sep ∈ rest := by
        apply Classical.byContradiction
        intro hn
        simp [ih.2 hn] at h
      simp [cutLast?, h, this]

theorem cutLast?_eq_some_iff {sep : Char} {s before after : Text} :
    cutLast? sep s = some (before, after) ↔ s = before ++ sep :: after ∧ sep ∉ after := by
  induction s generalizing before after with
  | nil => simp [cutLast?]
  | cons c rest ih =>
    cases h : cutLast? sep rest with
    | none =>
      have hn := cutLast?_eq_none_iff.1 h
      cases before with
      | nil =>
        by_cases hc : c = sep
        · simp only [cutLast?, h, hc, if_true, Option.some.injEq, Prod.mk.injEq, List.nil_append,
            List.cons.injEq, true_and]
          exact ⟨fun h => ⟨h, h ▸ hn⟩, And.left⟩
        · simp [cutLast?, h, hc]
      | cons b before =>
        have : rest ≠ before ++ sep :: after := fun h => hn (by simp [h])
        by_cases hc : c = sep <;> simp [cutLast?, h, hc, this]
    | some p =>
      obtain ⟨x, y⟩ := p
      simp only [cutLast?, h, Option.some.injEq, Prod.mk.injEq]
      cases before with
      | nil =>
        obtain ⟨hr, hn⟩ := ih.1 h
        simp only [List.cons_ne_nil, false_and, List.nil_append, List.cons.injEq, false_iff]
        rintro ⟨⟨-, rfl⟩, hm⟩
        exact hm (by simp [hr])
      | cons b before =>
        have := @ih before after
        rw [h, Option.some.injEq, Prod.mk.injEq] at this
        simp only [List.cons.injEq, List.cons_append, and_assoc]
        rw [this]

end Text

end ForwardProxy
