import ForwardProxy.Proofs.Ip.Pieces

/-!
This module contains the theory of addresses of version 6. Main statements: `V6.ofText?_iff_denotes`
says which texts denote an address, and `V6.denotes_toText` and `V6.denotes_toMixedText` that both
of its own texts do.
-/

namespace ForwardProxy.Ip

open Text (hex digit?)

theorem eq_of_cutPair? {s before after : Text} (h : cutPair? s = some (before, after)) :
    s = before ++ ':' :: ':' :: after := by
  fun_induction cutPair? s generalizing before with
  | case1 rest =>
    rw [Option.some.injEq, Prod.mk.injEq] at h
    rw [← h.1, ← h.2]
    rfl
  | case2 c rest _ ih =>
    rw [Option.map_eq_some_iff] at h
    obtain ⟨⟨x, y⟩, hrest, h⟩ := h
    rw [Prod.mk.injEq] at h
    rw [← h.1, ← h.2]
    rw [h.2] at hrest
    rw [ih hrest, h.2]
    rfl
  | case3 => contradiction

theorem cutPair?_cons {c : Char} {s : Text} (h : c = ':' → s.head? ≠ some ':') :
    cutPair? (c :: s) = (cutPair? s).map fun p => (c :: p.1, p.2) := by
  rw [cutPair?.eq_2]
  rintro rest rfl rfl
  exact h rfl rfl

theorem cutPair?_append {digits s : Text} (h : ':' ∉ digits) :
    cutPair? (digits ++ s) = (cutPair? s).map fun p => (digits ++ p.1, p.2) := by
  induction digits with
  | nil => simp
  | cons c digits ih =>
    rw [List.mem_cons, not_or] at h
    rw [List.cons_append, cutPair?_cons fun hc => absurd hc.symm h.1]
    rw [ih h.2, Option.map_map]
    rfl

theorem ArePieces.cutPair?_append {mixed : Bool} {s : Text} {pieces : List UInt16}
    (h : ArePieces mixed s pieces) (t : Text) :
    cutPair? (s ++ t) = (cutPair? t).map fun p => (s ++ p.1, p.2) := by
  induction h with
  | piece h => exact Ip.cutPair?_append (h.not_mem (by decide))
  | dotted v4 _ => exact Ip.cutPair?_append (V4.not_mem_toText (by decide) (by decide))
  | @cons s rest _ _ h hrest ih =>
    rw [List.append_assoc, List.cons_append, Ip.cutPair?_append (h.not_mem (by decide))]
    rw [cutPair?_cons]
    · rw [ih, Option.map_map, Option.map_map]
      simp [Function.comp_def]
    · intro _
      rw [List.head?_append_of_ne_nil _ hrest.ne_nil]
      exact hrest.head?_ne

namespace V6

def Side (mixed : Bool) (s : Text) (pieces : List UInt16) : Prop :=
  s = [] ∧ pieces = [] ∨ ArePieces mixed s pieces

/-- The texts that denote an address. A pair of colons stands for one piece of zero or more. -/
inductive Denotes : Text → V6 → Prop
  | full {s : Text} {x : V6} (h : ArePieces true s x.pieces) : Denotes s x
  | short {before after : Text} {left right : List UInt16} {zeros : Nat} {x : V6}
      (hleft : Side false before left) (hright : Side true after right) (hzeros : 0 < zeros)
      (h : x.pieces = left ++ List.replicate zeros 0 ++ right) :
      Denotes (before ++ ':' :: ':' :: after) x

def side? (mixed : Bool) (s : Text) : Option (List UInt16) :=
  if s.isEmpty then some [] else pieces? mixed s

theorem side?_eq_some_iff {mixed : Bool} {s : Text} {pieces : List UInt16} :
    side? mixed s = some pieces ↔ Side mixed s pieces := by
  unfold side? Side
  cases s with
  | nil =>
    rw [if_pos List.isEmpty_nil, Option.some.injEq]
    constructor
    · intro h
      exact .inl ⟨rfl, h.symm⟩
    · rintro (⟨-, rfl⟩ | h)
      · rfl
      · exact absurd rfl h.ne_nil
  | cons c s =>
    rw [if_neg (by simp), pieces?_eq_some_iff]
    simp

theorem Side.eq_or_isSome_digit?_of_mem {mixed : Bool} {s : Text} {pieces : List UInt16} {c : Char}
    (h : Side mixed s pieces) (hc : c ∈ s) :
    c = '.' ∨ c = ':' ∨ (digit? 16 c).isSome = true := by
  rcases h with ⟨rfl, -⟩ | h
  · contradiction
  · exact h.eq_or_isSome_digit?_of_mem hc

theorem Side.cutPair?_append {mixed : Bool} {s : Text} {pieces : List UInt16}
    (h : Side mixed s pieces) (t : Text) :
    cutPair? (s ++ t) = (cutPair? t).map fun p => (s ++ p.1, p.2) := by
  rcases h with ⟨rfl, -⟩ | h
  · simp
  · exact h.cutPair?_append t

theorem ofPieces?_eq_some_iff {pieces : List UInt16} {x : V6} :
    ofPieces? pieces = some x ↔ x.pieces = pieces := by
  unfold ofPieces?
  constructor
  · intro h
    split at h
    · rw [← Option.some.inj h]
    · contradiction
  · rintro rfl
    rw [dif_pos x.length_pieces]

theorem ofText?_of_cutPair? {s before after : Text} (h : cutPair? s = some (before, after)) :
    ofText? s = (side? false before).bind fun left => (side? true after).bind fun right =>
      if left.length + right.length < 8 then
        ofPieces? (left ++ List.replicate (8 - left.length - right.length) 0 ++ right)
      else none := by
  unfold ofText? side?
  rw [h]
  by_cases hbefore : before.isEmpty
  all_goals by_cases hafter : after.isEmpty
  all_goals simp only [hbefore, hafter]
  all_goals rfl

theorem denotes_of_ofText? {s : Text} {x : V6} (h : ofText? s = some x) : Denotes s x := by
  cases hcut : cutPair? s with
  | none =>
    unfold ofText? at h
    rw [hcut] at h
    obtain ⟨pieces, hpieces, h⟩ := Option.bind_eq_some_iff.1 h
    rw [ofPieces?_eq_some_iff] at h
    rw [pieces?_eq_some_iff, ← h] at hpieces
    exact .full hpieces
  | some cut =>
    obtain ⟨before, after⟩ := cut
    rw [ofText?_of_cutPair? hcut] at h
    obtain ⟨left, hleft, h⟩ := Option.bind_eq_some_iff.1 h
    obtain ⟨right, hright, h⟩ := Option.bind_eq_some_iff.1 h
    rw [Option.ite_none_right_eq_some, ofPieces?_eq_some_iff] at h
    rw [side?_eq_some_iff] at hleft hright
    rw [eq_of_cutPair? hcut]
    exact .short hleft hright (by omega) h.2

theorem Denotes.ofText? {s : Text} {x : V6} (h : Denotes s x) : V6.ofText? s = some x := by
  cases h with
  | full h =>
    have hcut := h.cutPair?_append []
    rw [List.append_nil] at hcut
    unfold V6.ofText?
    simp only [hcut, cutPair?, Option.map_none, h.pieces?]
    exact ofPieces?_eq_some_iff.2 rfl
  | @short before after left right zeros x hleft hright hzeros h =>
    have hcut : cutPair? (before ++ ':' :: ':' :: after) = some (before, after) := by
      rw [hleft.cutPair?_append]
      simp [cutPair?]
    have hlength := congrArg List.length h
    simp only [x.length_pieces, List.length_append, List.length_replicate] at hlength
    rw [ofText?_of_cutPair? hcut, side?_eq_some_iff.2 hleft, side?_eq_some_iff.2 hright]
    rw [Option.bind_some, Option.bind_some, if_pos (by omega), ofPieces?_eq_some_iff, h]
    congr
    omega

theorem ofText?_iff_denotes {s : Text} {x : V6} : V6.ofText? s = some x ↔ Denotes s x :=
  ⟨denotes_of_ofText?, Denotes.ofText?⟩

theorem Denotes.eq_or_isSome_digit?_of_mem {s : Text} {x : V6} {c : Char} (h : Denotes s x)
    (hc : c ∈ s) : c = '.' ∨ c = ':' ∨ (digit? 16 c).isSome = true := by
  cases h with
  | full h => exact h.eq_or_isSome_digit?_of_mem hc
  | short hleft hright _ _ =>
    simp only [List.mem_append, List.mem_cons] at hc
    rcases hc with hc | rfl | rfl | hc
    · exact hleft.eq_or_isSome_digit?_of_mem hc
    · exact .inr (.inl rfl)
    · exact .inr (.inl rfl)
    · exact hright.eq_or_isSome_digit?_of_mem hc

theorem ofText?_eq_none {s : Text} {c : Char} (hmem : c ∈ s) (hdot : c ≠ '.') (hcolon : c ≠ ':')
    (hc : digit? 16 c = none) : ofText? s = none := by
  rw [Option.eq_none_iff_forall_ne_some]
  intro x hread
  rcases (denotes_of_ofText? hread).eq_or_isSome_digit?_of_mem hmem with h | h | h
  · exact hdot h
  · exact hcolon h
  · rw [hc] at h
    contradiction

theorem Denotes.colon_mem {s : Text} {x : V6} (h : Denotes s x) : ':' ∈ s := by
  cases h with
  | full h =>
    apply h.colon_mem
    rw [x.length_pieces]
    decide
  | short => simp

theorem joined_singleton (piece : UInt16) : joined [piece] = hex piece.toNat := by
  simp [joined]

theorem joined_cons_cons (piece next : UInt16) (pieces : List UInt16) :
    joined (piece :: next :: pieces) = hex piece.toNat ++ ':' :: joined (next :: pieces) := by
  simp [joined]

theorem arePieces_joined {mixed : Bool} {pieces : List UInt16} (h : pieces ≠ []) :
    ArePieces mixed (joined pieces) pieces := by
  induction pieces with
  | nil => contradiction
  | cons piece pieces ih =>
    cases pieces with
    | nil =>
      rw [joined_singleton]
      exact .piece (isPiece_hex piece)
    | cons next pieces =>
      rw [joined_cons_cons]
      exact .cons (isPiece_hex piece) (ih (List.cons_ne_nil _ _))

theorem side_joined {mixed : Bool} (pieces : List UInt16) : Side mixed (joined pieces) pieces := by
  by_cases h : pieces = []
  · rw [h]
    exact .inl ⟨rfl, rfl⟩
  · exact .inr (arePieces_joined h)

theorem replicate_zero_append_drop (pieces : List UInt16) :
    List.replicate (pieces.takeWhile (· == 0)).length 0 ++
      pieces.drop (pieces.takeWhile (· == 0)).length = pieces := by
  induction pieces with
  | nil => rfl
  | cons piece pieces ih =>
    rw [List.takeWhile_cons]
    split
    · next hzero =>
      rw [List.length_cons, List.replicate_succ, List.drop_succ_cons, List.cons_append, ih]
      rw [beq_iff_eq] at hzero
      rw [hzero]
    · rfl

theorem eq_of_longestZeros {pieces : List UInt16} {start length : Nat}
    (h : longestZeros pieces = (start, length)) :
    pieces.take start ++ List.replicate length 0 ++ pieces.drop (start + length) = pieces := by
  induction pieces generalizing start length with
  | nil =>
    simp only [longestZeros, Prod.mk.injEq] at h
    simp [← h.2]
  | cons piece pieces ih =>
    rcases hrest : longestZeros pieces with ⟨first, count⟩
    simp only [longestZeros, hrest] at h
    split at h
    · rw [Prod.mk.injEq] at h
      rw [← h.1, ← h.2, List.take_zero, List.nil_append, Nat.zero_add]
      apply replicate_zero_append_drop
    · rw [Prod.mk.injEq] at h
      rw [← h.1, ← h.2, Nat.add_right_comm]
      rw [List.take_succ_cons, List.drop_succ_cons, List.cons_append, List.cons_append, ih hrest]

theorem denotes_toText (x : V6) : Denotes x.toText x := by
  have hpieces := x.length_pieces
  rcases hzeros : longestZeros x.pieces with ⟨start, length⟩
  unfold toText
  simp only [hzeros]
  split
  · exact .full (arePieces_joined (List.ne_nil_of_length_pos (by omega)))
  · next hlength =>
    rw [List.append_assoc, List.cons_append, List.cons_append, List.nil_append]
    exact .short (side_joined _) (side_joined _) (by omega) (eq_of_longestZeros hzeros).symm

theorem joined_halves (piece : UInt16) :
    (piece / 256).toUInt8.toUInt16 * 256 + piece.toUInt8.toUInt16 = piece := by
  apply UInt16.toNat_inj.1
  have := piece.toNat_lt
  simp
  omega

theorem pieces_of_mapped? {x : V6} {v4 : V4} (h : x.mapped? = some v4) :
    x.pieces = List.replicate 5 0 ++ 0xFFFF :: v4.pieces := by
  unfold mapped? at h
  split at h
  · next high low hpieces =>
    rw [Option.some.injEq] at h
    rw [hpieces, ← h]
    simp only [V4.pieces, joined_halves]
    rfl
  · contradiction

theorem denotes_toMixedText (x : V6) : Denotes x.toMixedText x := by
  unfold toMixedText
  split
  · next v4 hmapped =>
    have hright : ArePieces true ("ffff:".toList ++ v4.toText) (0xFFFF :: v4.pieces) :=
      .cons (isPiece_hex 0xFFFF) (.dotted v4 rfl)
    have hleft : Side false [] [] := .inl ⟨rfl, rfl⟩
    have hzeros : 0 < 5 := by decide
    exact .short hleft (.inr hright) hzeros (pieces_of_mapped? hmapped)
  · exact denotes_toText x

theorem colon_mem_toMixedText (x : V6) : ':' ∈ x.toMixedText :=
  (denotes_toMixedText x).colon_mem

end V6

end ForwardProxy.Ip
