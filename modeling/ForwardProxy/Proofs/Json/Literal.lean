import ForwardProxy.Json.Literal
import ForwardProxy.Proofs.Text.Digits
import Mathlib.Data.List.Basic

/-!
This module contains the grammar of string literals and what they stand for: a literal spells a
sequence of UTF-16 code units, which is a text if its surrogates are paired. Main statements:
`readString?_body` and `skipString?_body` say how literals are read and skipped, and `exists_literal`
that every text has the literal that it is written as.
-/

namespace ForwardProxy.Json

def shortEscapes : List (Char × Char) :=
  [('"', '"'), ('\\', '\\'), ('/', '/'), ('b', '\x08'), ('f', '\x0c'), ('n', '\n'), ('r', '\r'),
    ('t', '\t')]

/-- A part of a literal: a character as it is, a letter after a backslash, or the number of a code
unit. -/
inductive Piece
  | plain (c : Char) (h : 0x20 ≤ c.toNat ∧ c ≠ '"' ∧ c ≠ '\\')
  | short (letter c : Char) (h : (letter, c) ∈ shortEscapes)
  | unit (a b c d : Char) (n : Nat) (h : Text.number? 16 [a, b, c, d] = some n)

def Piece.toText : Piece → Text
  | .plain c _ => [c]
  | .short letter _ _ => ['\\', letter]
  | .unit a b c d _ _ => ['\\', 'u', a, b, c, d]

def units (c : Char) : List Nat :=
  if c.toNat < 0x10000 then [c.toNat]
  else [0xD800 + (c.toNat - 0x10000) / 0x400, 0xDC00 + (c.toNat - 0x10000) % 0x400]

def Piece.units : Piece → List Nat
  | .plain c _ => Json.units c
  | .short _ c _ => Json.units c
  | .unit _ _ _ _ n _ => [n]

def ofUnits? : List Nat → Option Text
  | [] => some []
  | n :: rest =>
    if isTrailing n then none
    else if isLeading n then
      match rest with
      | [] => none
      | m :: rest =>
        if isTrailing m then
          (ofUnits? rest).map (Char.ofNat (0x10000 + (n - 0xD800) * 0x400 + (m - 0xDC00)) :: ·)
        else none
    else (ofUnits? rest).map (Char.ofNat n :: ·)

abbrev Literal := List Piece

namespace Literal

def body (l : Literal) : Text :=
  l.flatMap Piece.toText

def toText (l : Literal) : Text :=
  '"' :: l.body ++ ['"']

def text? (l : Literal) : Option Text :=
  ofUnits? (l.flatMap Piece.units)

def plain (s : Text) (h : s.all fun c => 0x20 ≤ c.toNat ∧ c ≠ '"' ∧ c ≠ '\\') : Literal :=
  s.attach.map fun c => .plain c.1 (of_decide_eq_true (List.all_eq_true.1 h c.1 c.2))

end Literal

theorem not_surrogate (c : Char) : c.toNat < 0xD800 ∨ 0xE000 ≤ c.toNat ∧ c.toNat < 0x110000 := by
  have hvalid : c.toNat.isValidChar := c.valid
  unfold Nat.isValidChar at hvalid
  omega

theorem not_isTrailing_of_isLeading {n : Nat} (h : isLeading n = true) : isTrailing n = false := by
  simp only [isLeading, Bool.and_eq_true, decide_eq_true_eq] at h
  simp only [isTrailing, Bool.and_eq_false_iff, decide_eq_false_iff_not]
  omega

theorem exists_units (c : Char) : ∃ n rest, units c = n :: rest ∧ isTrailing n = false := by
  have hc := not_surrogate c
  unfold units isTrailing
  split
  · refine ⟨_, _, rfl, ?_⟩
    simp only [Bool.and_eq_false_iff, decide_eq_false_iff_not]
    omega
  · refine ⟨_, _, rfl, ?_⟩
    simp only [Bool.and_eq_false_iff, decide_eq_false_iff_not]
    omega

theorem ofUnits?_single {n : Nat} (htrailing : isTrailing n = false)
    (hleading : isLeading n = false) (rest : List Nat) :
    ofUnits? (n :: rest) = (ofUnits? rest).map (Char.ofNat n :: ·) := by
  rw [ofUnits?.eq_def]
  simp only [htrailing, hleading, Bool.false_eq_true, if_false]

theorem ofUnits?_pair {n m : Nat} (hleading : isLeading n = true) (htrailing : isTrailing m = true)
    (rest : List Nat) :
    ofUnits? (n :: m :: rest) =
      (ofUnits? rest).map (Char.ofNat (0x10000 + (n - 0xD800) * 0x400 + (m - 0xDC00)) :: ·) := by
  rw [ofUnits?, not_isTrailing_of_isLeading hleading, hleading, htrailing]
  rfl

theorem ofUnits?_trailing {n : Nat} (h : isTrailing n = true) (rest : List Nat) :
    ofUnits? (n :: rest) = none := by
  rw [ofUnits?.eq_def]
  exact if_pos h

theorem ofUnits?_leading {n : Nat} (h : isLeading n = true) {rest : List Nat}
    (hrest : ∀ m ∈ rest.head?, isTrailing m = false) : ofUnits? (n :: rest) = none := by
  cases rest with
  | nil =>
    rw [ofUnits?, not_isTrailing_of_isLeading h, h]
    rfl
  | cons m rest =>
    rw [ofUnits?, not_isTrailing_of_isLeading h, h, hrest m rfl]
    rfl

theorem ofUnits?_units_append (c : Char) (rest : List Nat) :
    ofUnits? (units c ++ rest) = (ofUnits? rest).map (c :: ·) := by
  have hc := not_surrogate c
  unfold units
  split
  · rw [List.singleton_append, ofUnits?_single, Char.ofNat_toNat]
    · simp only [isTrailing, Bool.and_eq_false_iff, decide_eq_false_iff_not]
      omega
    · simp only [isLeading, Bool.and_eq_false_iff, decide_eq_false_iff_not]
      omega
  · have hvalue : 0x10000 + (0xD800 + (c.toNat - 0x10000) / 0x400 - 0xD800) * 0x400 +
        (0xDC00 + (c.toNat - 0x10000) % 0x400 - 0xDC00) = c.toNat := by
      omega
    rw [List.cons_append, List.singleton_append, ofUnits?_pair, hvalue, Char.ofNat_toNat]
    · simp only [isLeading, Bool.and_eq_true, decide_eq_true_eq]
      omega
    · simp only [isTrailing, Bool.and_eq_true, decide_eq_true_eq]
      omega

theorem text?_plain {c : Char} {h : 0x20 ≤ c.toNat ∧ c ≠ '"' ∧ c ≠ '\\'} {l : Literal} :
    Literal.text? (.plain c h :: l) = l.text?.map (c :: ·) :=
  ofUnits?_units_append c _

theorem text?_short {letter c : Char} {h : (letter, c) ∈ shortEscapes} {l : Literal} :
    Literal.text? (.short letter c h :: l) = l.text?.map (c :: ·) :=
  ofUnits?_units_append c _

/-! Reading -/

theorem readString?_plain {c : Char} (h : 0x20 ≤ c.toNat ∧ c ≠ '"' ∧ c ≠ '\\') (s : Text) :
    readString? (c :: s) = (readString? s).map fun (text, rest) => (c :: text, rest) := by
  rw [readString?]
  · exact if_neg (by omega)
  · exact h.2.1
  · exact h.2.2

theorem readString?_escaped {s after : Text} {c : Char} (h : readEscape? s = some (c, after)) :
    readString? ('\\' :: s) = (readString? after).map fun (text, rest) => (c :: text, rest) := by
  rw [readString?]
  split
  · next hnone =>
    rw [h] at hnone
    contradiction
  · next hsome =>
    rw [h] at hsome
    obtain ⟨rfl, rfl⟩ := Prod.mk.inj (Option.some.inj hsome)
    rfl

theorem readString?_misescaped {s : Text} (h : readEscape? s = none) :
    readString? ('\\' :: s) = none := by
  rw [readString?]
  split
  · rfl
  · next hsome =>
    rw [h] at hsome
    contradiction

theorem readEscape?_short {letter c : Char} (h : (letter, c) ∈ shortEscapes) (s : Text) :
    readEscape? (letter :: s) = some (c, s) := by
  simp only [shortEscapes, List.mem_cons, Prod.mk.injEq, List.not_mem_nil, or_false] at h
  obtain ⟨rfl, rfl⟩ | ⟨rfl, rfl⟩ | ⟨rfl, rfl⟩ | ⟨rfl, rfl⟩ | ⟨rfl, rfl⟩ | ⟨rfl, rfl⟩ |
    ⟨rfl, rfl⟩ | ⟨rfl, rfl⟩ := h
  all_goals rfl

theorem unit?_digits {a b c d : Char} {n : Nat} (h : Text.number? 16 [a, b, c, d] = some n)
    (s : Text) : unit? (a :: b :: c :: d :: s) = some (n, s) := by
  rw [unit?, h]
  rfl

section

variable {a b c d : Char} {n : Nat}

theorem readEscape?_single (h : Text.number? 16 [a, b, c, d] = some n)
    (htrailing : isTrailing n = false) (hleading : isLeading n = false) (s : Text) :
    readEscape? ('u' :: a :: b :: c :: d :: s) = some (Char.ofNat n, s) := by
  simp [readEscape?, unit?_digits h, htrailing, hleading]

theorem readEscape?_trailing (h : Text.number? 16 [a, b, c, d] = some n)
    (htrailing : isTrailing n = true) (s : Text) :
    readEscape? ('u' :: a :: b :: c :: d :: s) = none := by
  simp [readEscape?, unit?_digits h, htrailing]

theorem readEscape?_pair {a' b' c' d' : Char} {m : Nat}
    (h : Text.number? 16 [a, b, c, d] = some n) (h' : Text.number? 16 [a', b', c', d'] = some m)
    (hleading : isLeading n = true) (htrailing : isTrailing m = true) (s : Text) :
    readEscape? ('u' :: a :: b :: c :: d :: '\\' :: 'u' :: a' :: b' :: c' :: d' :: s) =
      some (Char.ofNat (0x10000 + (n - 0xD800) * 0x400 + (m - 0xDC00)), s) := by
  simp [readEscape?, unit?_digits h, unit?_digits h', hleading, htrailing,
    not_isTrailing_of_isLeading hleading]

theorem readEscape?_leading (h : Text.number? 16 [a, b, c, d] = some n)
    (hleading : isLeading n = true) {s : Text}
    (hs : ∀ t m after, s = '\\' :: 'u' :: t → unit? t = some (m, after) → isTrailing m = false) :
    readEscape? ('u' :: a :: b :: c :: d :: s) = none := by
  simp only [readEscape?, unit?_digits h, hleading, not_isTrailing_of_isLeading hleading,
    Bool.false_eq_true, if_false, if_true]
  split
  · next t =>
    split
    · rfl
    · next m after hunit =>
      rw [hs t m after rfl hunit]
      rfl
  · rfl

end

namespace Literal

theorem trailing_cases (l : Literal) :
    (∃ a b c d m, ∃ h : Text.number? 16 [a, b, c, d] = some m, ∃ rest,
      l = .unit a b c d m h :: rest ∧ isTrailing m = true) ∨
    (∀ m ∈ (l.flatMap Piece.units).head?, isTrailing m = false) ∧
      ∀ rest t m after, l.body ++ '"' :: rest = '\\' :: 'u' :: t → unit? t = some (m, after) →
        isTrailing m = false := by
  cases l with
  | nil =>
    right
    simp [body]
  | cons piece l =>
    cases piece with
    | plain c h =>
      obtain ⟨n, us, hunits, hn⟩ := exists_units c
      right
      constructor
      · intro m hm
        rw [List.flatMap_cons, Piece.units, hunits, List.cons_append, List.head?_cons] at hm
        rwa [← Option.some.inj hm]
      · intro rest t m after ht
        exact absurd (List.cons.inj ht).1 h.2.2
    | short letter c h =>
      obtain ⟨n, us, hunits, hn⟩ := exists_units c
      right
      constructor
      · intro m hm
        rw [List.flatMap_cons, Piece.units, hunits, List.cons_append, List.head?_cons] at hm
        rwa [← Option.some.inj hm]
      · intro rest t m after ht
        have hletter : letter = 'u' := (List.cons.inj (List.cons.inj ht).2).1
        rw [hletter] at h
        exact absurd h (by simp [shortEscapes])
    | unit a b c d n h =>
      cases hn : isTrailing n with
      | true => exact .inl ⟨a, b, c, d, n, h, l, rfl, hn⟩
      | false =>
        right
        constructor
        · intro m hm
          rwa [← Option.some.inj hm]
        · intro rest t m after ht hunit
          have htail : a :: b :: c :: d :: (Literal.body l ++ '"' :: rest) = t :=
            (List.cons.inj (List.cons.inj ht).2).2
          rw [← htail, unit?_digits h, Option.some.injEq, Prod.mk.injEq] at hunit
          rwa [← hunit.1]

end Literal

theorem readString?_body (l : Literal) (rest : Text) :
    readString? (l.body ++ '"' :: rest) = l.text?.map (·, rest) := by
  match l with
  | [] =>
    rw [Literal.body, List.flatMap_nil, List.nil_append, readString?]
    rfl
  | .plain c h :: l =>
    have hread : readString? (Literal.body (.plain c h :: l) ++ '"' :: rest) = _ :=
      readString?_plain h (Literal.body l ++ '"' :: rest)
    rw [hread, readString?_body l rest, text?_plain, Option.map_map, Option.map_map]
    rfl
  | .short letter c h :: l =>
    have hread : readString? (Literal.body (.short letter c h :: l) ++ '"' :: rest) = _ :=
      readString?_escaped (readEscape?_short h (Literal.body l ++ '"' :: rest))
    rw [hread, readString?_body l rest, text?_short, Option.map_map, Option.map_map]
    rfl
  | .unit a b c d n h :: l =>
    have htext : Literal.text? (.unit a b c d n h :: l) = ofUnits? (n :: l.flatMap Piece.units) :=
      rfl
    rw [htext]
    cases hleading : isLeading n with
    | false =>
      cases htrailing : isTrailing n with
      | true =>
        rw [ofUnits?_trailing htrailing]
        exact readString?_misescaped (readEscape?_trailing h htrailing _)
      | false =>
        have hread : readString? (Literal.body (.unit a b c d n h :: l) ++ '"' :: rest) = _ :=
          readString?_escaped
            (readEscape?_single h htrailing hleading (Literal.body l ++ '"' :: rest))
        rw [hread, readString?_body l rest, ofUnits?_single htrailing hleading, Literal.text?,
          Option.map_map, Option.map_map]
        rfl
    | true =>
      -- A leading surrogate is read together with the piece that follows it.
      obtain ⟨a', b', c', d', m, h', l', rfl, htrailing⟩ | ⟨hunits, hbody⟩ :=
        Literal.trailing_cases l
      · have hread : readString?
            (Literal.body (.unit a b c d n h :: .unit a' b' c' d' m h' :: l') ++ '"' :: rest) = _ :=
          readString?_escaped
            (readEscape?_pair h h' hleading htrailing (Literal.body l' ++ '"' :: rest))
        have hunits : List.flatMap Piece.units (.unit a' b' c' d' m h' :: l') =
            m :: l'.flatMap Piece.units :=
          rfl
        rw [hread, readString?_body l' rest, hunits, ofUnits?_pair hleading htrailing,
          Literal.text?, Option.map_map, Option.map_map]
        rfl
      · rw [ofUnits?_leading hleading hunits]
        exact readString?_misescaped (readEscape?_leading h hleading (hbody rest))
termination_by l.length

/-! Skipping -/

theorem skipString?_plain {c : Char} (h : 0x20 ≤ c.toNat ∧ c ≠ '"' ∧ c ≠ '\\') (s : Text) :
    skipString? (c :: s) = skipString? s := by
  rw [skipString?]
  · have hplain : ¬ (decide (c.toNat < 0x20) || decide (c = '\\')) = true := by
      simp only [Bool.or_eq_true, decide_eq_true_eq, not_or]
      exact ⟨by omega, h.2.2⟩
    exact if_neg hplain
  · exact h.2.1
  · intro a b c d rest hc
    exact absurd hc h.2.2
  · intro d rest hc
    exact absurd hc h.2.2

theorem skipString?_short {letter c : Char} (h : (letter, c) ∈ shortEscapes) (s : Text) :
    skipString? ('\\' :: letter :: s) = skipString? s := by
  have hshort : ∀ p ∈ shortEscapes, (shortEscape? p.1).isSome = true ∧ p.1 ≠ 'u' := by decide
  obtain ⟨hsome, hu⟩ := hshort _ h
  rw [skipString?]
  · exact if_pos hsome
  · intro a b c d rest hletter
    exact absurd hletter hu

theorem skipString?_unit {a b c d : Char} {n : Nat} (h : Text.number? 16 [a, b, c, d] = some n)
    (s : Text) : skipString? ('\\' :: 'u' :: a :: b :: c :: d :: s) = skipString? s := by
  rw [skipString?, unit?_digits h]
  rfl

theorem skipString?_body (l : Literal) (rest : Text) :
    skipString? (l.body ++ '"' :: rest) = some rest := by
  induction l with
  | nil => rfl
  | cons piece l ih =>
    cases piece with
    | plain c h => exact (skipString?_plain h (Literal.body l ++ '"' :: rest)).trans ih
    | short letter c h => exact (skipString?_short h (Literal.body l ++ '"' :: rest)).trans ih
    | unit a b c d n h => exact (skipString?_unit h (Literal.body l ++ '"' :: rest)).trans ih

/-! Writing -/

theorem exists_piece (c : Char) :
    ∃ piece : Piece, piece.toText = escape c ∧ piece.units = units c := by
  by_cases hshort : c ∈ ['"', '\\', '\x08', '\x0c', '\n', '\r', '\t']
  · simp only [List.mem_cons, List.not_mem_nil, or_false] at hshort
    obtain rfl | rfl | rfl | rfl | rfl | rfl | rfl := hshort
    · exact ⟨.short '"' _ (by decide), rfl, rfl⟩
    · exact ⟨.short '\\' _ (by decide), rfl, rfl⟩
    · exact ⟨.short 'b' _ (by decide), rfl, rfl⟩
    · exact ⟨.short 'f' _ (by decide), rfl, rfl⟩
    · exact ⟨.short 'n' _ (by decide), rfl, rfl⟩
    · exact ⟨.short 'r' _ (by decide), rfl, rfl⟩
    · exact ⟨.short 't' _ (by decide), rfl, rfl⟩
  · simp only [List.mem_cons, List.not_mem_nil, or_false, not_or] at hshort
    obtain ⟨hquote, hslash, hb, hf, hn, hr, ht⟩ := hshort
    have hescape : escape c =
        if c.toNat < 0x20 then
          "\\u00".toList ++ [Nat.digitChar (c.toNat / 16), Nat.digitChar (c.toNat % 16)]
        else [c] := by
      simp only [escape, hquote, hslash, hb, hf, hn, hr, ht, if_false]
    rw [hescape]
    split
    · next hcontrol =>
      have hdigits : ∀ n < 0x20,
          Text.number? 16 ['0', '0', Nat.digitChar (n / 16), Nat.digitChar (n % 16)] = some n := by
        decide
      refine ⟨.unit '0' '0' _ _ c.toNat (hdigits c.toNat hcontrol), rfl, ?_⟩
      rw [Piece.units, units, if_pos (by omega)]
    · next hcontrol => exact ⟨.plain c ⟨by omega, hquote, hslash⟩, rfl, rfl⟩

theorem exists_literal (s : Text) :
    ∃ l : Literal, l.body = s.flatMap escape ∧ l.text? = some s := by
  induction s with
  | nil => exact ⟨[], rfl, rfl⟩
  | cons c s ih =>
    obtain ⟨l, hbody, htext⟩ := ih
    obtain ⟨piece, hpiece, hunits⟩ := exists_piece c
    refine ⟨piece :: l, ?_, ?_⟩
    · rw [Literal.body, List.flatMap_cons, List.flatMap_cons, hpiece, ← Literal.body, hbody]
    · rw [Literal.text?, List.flatMap_cons, hunits, ofUnits?_units_append, ← Literal.text?, htext]
      rfl

end ForwardProxy.Json
