import ForwardProxy.Proofs.Ip.V4

/-!
This module contains the theory of the pieces that addresses of version 6 are written in. Main
statements: `piece?_eq_some_iff` and `pieces?_eq_some_iff` say which texts denote them.
-/

namespace ForwardProxy.Ip

open Text (hex digit? isDecimal)

theorem hex_ne_nil (n : Nat) : hex n ≠ [] :=
  Nat.toDigits_ne_nil

theorem isDecimal_eq_false {c : Char} (hc : digit? 16 c = none) : isDecimal c = false := by
  rw [← Bool.not_eq_true]
  intro h
  have := Text.isSome_digit?_of_isDecimal h
  rw [hc] at this
  contradiction

/-- One to four hexadecimal digits of either case, with leading zeros or without. -/
def IsPiece (s : Text) (x : UInt16) : Prop :=
  s.length ≤ 4 ∧ ∃ zeros, s.map Char.toLower = List.replicate zeros '0' ++ hex x.toNat

theorem piece?_eq_some_iff {s : Text} {x : UInt16} : piece? s = some x ↔ IsPiece s x := by
  unfold piece? IsPiece
  rw [Option.ite_none_right_eq_some]
  apply and_congr_right
  intro hlength
  rw [Option.map_eq_some_iff]
  constructor
  · rintro ⟨n, hread, rfl⟩
    obtain ⟨zeros, hs⟩ := Text.number?_hex_eq_some_iff.1 hread
    have hn : n < 16 ^ 4 := by
      rw [← Nat.length_toDigits_le_iff (by decide) (by decide)]
      have hsum := congrArg List.length hs
      rw [List.length_map, List.length_append] at hsum
      unfold hex at hsum
      omega
    exact ⟨zeros, by rwa [UInt16.toNat_ofNat_of_lt' hn]⟩
  · intro hs
    exact ⟨x.toNat, Text.number?_hex_eq_some_iff.2 hs, UInt16.ofNat_toNat⟩

theorem map_toLower_hex (n : Nat) : (hex n).map Char.toLower = hex n := by
  apply Text.map_toLower_eq_self
  intro c hc
  have hdigits : ∀ d < 16, d.digitChar.isUpper = false := by decide
  obtain ⟨d, hd, rfl⟩ := Text.digitChar_of_mem_toDigits (by decide) hc
  exact hdigits d hd

theorem isPiece_hex (x : UInt16) : IsPiece (hex x.toNat) x := by
  constructor
  · unfold hex
    rw [Nat.length_toDigits_le_iff (by decide) (by decide)]
    exact x.toNat_lt
  · exact ⟨0, map_toLower_hex x.toNat⟩

namespace IsPiece

variable {s t : Text} {x : UInt16} {c : Char}

theorem isSome_digit? (h : IsPiece s x) (hc : c ∈ s) : (digit? 16 c).isSome = true := by
  have hpiece := piece?_eq_some_iff.2 h
  unfold piece? at hpiece
  rw [Option.ite_none_right_eq_some, Option.map_eq_some_iff] at hpiece
  obtain ⟨-, n, hread, -⟩ := hpiece
  rw [Option.isSome_iff_ne_none]
  intro hnone
  unfold Text.number? at hread
  rw [Text.readDigits_eq_none hc hnone, ite_self] at hread
  contradiction

theorem not_mem (h : IsPiece s x) (hc : digit? 16 c = none) : c ∉ s := by
  intro hmem
  have hsome := h.isSome_digit? hmem
  rw [hc] at hsome
  contradiction

theorem ne_nil (h : IsPiece s x) : s ≠ [] := by
  rintro rfl
  obtain ⟨-, zeros, hs⟩ := h
  exact hex_ne_nil _ (List.append_eq_nil_iff.1 hs.symm).2

end IsPiece

inductive ArePieces (mixed : Bool) : Text → List UInt16 → Prop
  | piece {s : Text} {x : UInt16} (h : IsPiece s x) : ArePieces mixed s [x]
  | dotted (x : V4) (h : mixed = true) : ArePieces mixed x.toText x.pieces
  | cons {s t : Text} {x : UInt16} {pieces : List UInt16} (h : IsPiece s x)
      (hrest : ArePieces mixed t pieces) : ArePieces mixed (s ++ ':' :: t) (x :: pieces)

theorem pieces?.go_cons {mixed : Bool} {first : Text} {rest : List Text} (h : rest ≠ []) :
    pieces?.go mixed (first :: rest) =
      (piece? first).bind fun x => (pieces?.go mixed rest).map (x :: ·) := by
  obtain ⟨next, rest, rfl⟩ := List.exists_cons_of_ne_nil h
  rw [pieces?.go]
  · cases piece? first with
    | none => rfl
    | some x => cases pieces?.go mixed (next :: rest) <;> rfl
  · simp

theorem arePieces_of_go {mixed : Bool} {parts : List Text} {pieces : List UInt16}
    (hne : parts ≠ []) (h : pieces?.go mixed parts = some pieces) :
    ArePieces mixed ([':'].intercalate parts) pieces := by
  induction parts generalizing pieces with
  | nil => contradiction
  | cons first rest ih =>
    by_cases hrest : rest = []
    · subst hrest
      rw [List.intercalate_singleton]
      unfold pieces?.go at h
      split at h
      · next v4 hread =>
        rw [Option.ite_none_right_eq_some, V4.ofText?_iff_eq_toText] at hread
        obtain ⟨hmixed, rfl⟩ := hread
        rw [← Option.some.inj h]
        exact .dotted v4 hmixed
      · obtain ⟨x, hread, rfl⟩ := Option.map_eq_some_iff.1 h
        exact .piece (piece?_eq_some_iff.1 hread)
    · rw [pieces?.go_cons hrest, Option.bind_eq_some_iff] at h
      obtain ⟨x, hread, h⟩ := h
      obtain ⟨pieces, hpieces, rfl⟩ := Option.map_eq_some_iff.1 h
      rw [List.intercalate_cons_of_ne_nil hrest, List.append_assoc]
      exact .cons (piece?_eq_some_iff.1 hread) (ih hrest hpieces)

namespace ArePieces

variable {mixed : Bool} {s : Text} {pieces : List UInt16}

theorem pieces? (h : ArePieces mixed s pieces) : Ip.pieces? mixed s = some pieces := by
  unfold Ip.pieces?
  induction h with
  | @piece s x h =>
    have hv4 : V4.ofText? s = none := V4.ofText?_eq_none_of_not_mem (h.not_mem (by decide))
    rw [List.splitOn_eq_singleton (h.not_mem (by decide))]
    simp only [pieces?.go, hv4, ite_self, piece?_eq_some_iff.2 h]
    rfl
  | dotted v4 hmixed =>
    rw [List.splitOn_eq_singleton (V4.not_mem_toText (by decide) (by decide))]
    simp only [pieces?.go, if_pos hmixed, V4.ofText?_toText]
  | cons h _ ih =>
    rw [List.splitOn_append_cons_self_of_not_mem (h.not_mem (by decide))]
    rw [pieces?.go_cons (List.splitOn_ne_nil _ _), piece?_eq_some_iff.2 h, ih]
    rfl

end ArePieces

theorem pieces?_eq_some_iff {mixed : Bool} {s : Text} {pieces : List UInt16} :
    pieces? mixed s = some pieces ↔ ArePieces mixed s pieces := by
  constructor
  · intro h
    have hs : [':'].intercalate (s.splitOn ':') = s := List.intercalate_splitOn ':'
    rw [← hs]
    exact arePieces_of_go (List.splitOn_ne_nil _ _) h
  · exact ArePieces.pieces?

namespace ArePieces

variable {mixed : Bool} {s : Text} {pieces : List UInt16}

theorem ne_nil (h : ArePieces mixed s pieces) : s ≠ [] := by
  cases h with
  | piece h => exact h.ne_nil
  | dotted v4 _ =>
    intro hnil
    have hread := V4.ofText?_toText v4
    rw [hnil] at hread
    contradiction
  | cons _ _ => simp

theorem head?_ne (h : ArePieces mixed s pieces) : s.head? ≠ some ':' := by
  intro hhead
  cases h with
  | piece h => exact h.not_mem (by decide) (List.mem_of_head? hhead)
  | dotted v4 _ =>
    exact V4.not_mem_toText (by decide) (by decide) (List.mem_of_head? hhead)
  | cons h _ =>
    rw [List.head?_append_of_ne_nil _ h.ne_nil] at hhead
    exact h.not_mem (by decide) (List.mem_of_head? hhead)

theorem eq_or_isSome_digit?_of_mem {c : Char} (h : ArePieces mixed s pieces) (hc : c ∈ s) :
    c = '.' ∨ c = ':' ∨ (digit? 16 c).isSome = true := by
  induction h with
  | piece h => exact .inr (.inr (h.isSome_digit? hc))
  | dotted v4 _ =>
    cases V4.eq_dot_or_isDecimal_of_mem_toText hc with
    | inl h => exact .inl h
    | inr h => exact .inr (.inr (Text.isSome_digit?_of_isDecimal h))
  | cons h _ ih =>
    rw [List.mem_append, List.mem_cons] at hc
    rcases hc with hc | hc | hc
    · exact .inr (.inr (h.isSome_digit? hc))
    · exact .inr (.inl hc)
    · exact ih hc

theorem colon_mem (h : ArePieces mixed s pieces) (hlength : 2 < pieces.length) : ':' ∈ s := by
  cases h with
  | piece => contradiction
  | dotted => contradiction
  | cons => simp

end ArePieces

end ForwardProxy.Ip
