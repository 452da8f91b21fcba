import ForwardProxy.Proofs.Ip.V6

/-!
This module contains the theory of addresses of either version. Main statements:
`Ip.ofText?_iff_denotes` says which texts denote an address, and `Ip.ofText?_toText` that its own
text does.
-/

namespace ForwardProxy.Ip

open Text (digit?)

def isAddressChar (c : Char) : Bool :=
  c = '.' || c = ':' || (digit? 16 c).isSome

def isTextChar (c : Char) : Bool :=
  isAddressChar c && !c.isUpper

theorem isTextChar_of_mem_hex {n : Nat} {c : Char} (hc : c ∈ Text.hex n) : isTextChar c = true := by
  have hdigits : ∀ d < 16, isTextChar d.digitChar = true := by decide
  obtain ⟨d, hd, rfl⟩ := Text.digitChar_of_mem_toDigits (by decide) hc
  exact hdigits d hd

theorem isTextChar_of_mem_joined {pieces : List UInt16} {c : Char} (hc : c ∈ V6.joined pieces) :
    isTextChar c = true := by
  cases Text.mem_intercalate hc with
  | inl hc =>
    rw [List.mem_singleton] at hc
    rw [hc]
    rfl
  | inr h =>
    obtain ⟨part, hpart, hc⟩ := h
    rw [List.mem_map] at hpart
    obtain ⟨piece, -, rfl⟩ := hpart
    exact isTextChar_of_mem_hex hc

theorem V4.isTextChar_of_mem_toText {x : V4} {c : Char} (hc : c ∈ x.toText) :
    isTextChar c = true := by
  cases V4.eq_dot_or_isDecimal_of_mem_toText hc with
  | inl h =>
    rw [h]
    rfl
  | inr h =>
    apply Text.forall_decimal (p := fun c => isTextChar c = true) _ h
    decide

theorem V6.isTextChar_of_mem_toText {x : V6} {c : Char} (hc : c ∈ x.toText) :
    isTextChar c = true := by
  unfold toText at hc
  simp only at hc
  split at hc
  · exact isTextChar_of_mem_joined hc
  · simp only [List.mem_append, List.mem_cons, List.not_mem_nil, or_false, or_self] at hc
    rcases hc with (hc | rfl) | hc
    · exact isTextChar_of_mem_joined hc
    · rfl
    · exact isTextChar_of_mem_joined hc

theorem V6.isTextChar_of_mem_toMixedText {x : V6} {c : Char} (hc : c ∈ x.toMixedText) :
    isTextChar c = true := by
  unfold toMixedText at hc
  split at hc
  · next v4 _ =>
    rw [List.mem_append] at hc
    cases hc with
    | inl hc =>
      have h : ∀ c ∈ "::ffff:".toList, isTextChar c = true := List.all_eq_true.1 (by decide)
      exact h c hc
    | inr hc => exact V4.isTextChar_of_mem_toText hc
  · exact V6.isTextChar_of_mem_toText hc

theorem isTextChar_of_mem_toText {x : Ip} {c : Char} (hc : c ∈ x.toText) : isTextChar c = true := by
  cases x with
  | v4 x => exact V4.isTextChar_of_mem_toText hc
  | v6 x => exact V6.isTextChar_of_mem_toMixedText hc

theorem isAddressChar_of_mem_toText {x : Ip} {c : Char} (hc : c ∈ x.toText) :
    isAddressChar c = true := by
  have h := isTextChar_of_mem_toText hc
  unfold isTextChar at h
  exact (Bool.and_eq_true_iff.1 h).1

theorem not_mem_toText {x : Ip} {c : Char} (hc : isAddressChar c = false) : c ∉ x.toText := by
  intro hmem
  rw [isAddressChar_of_mem_toText hmem] at hc
  contradiction

theorem ascii_of_isAddressChar {c : Char} (h : isAddressChar c = true) : c.toNat < 0x80 := by
  simp only [isAddressChar, Bool.or_eq_true, decide_eq_true_eq] at h
  rcases h with (rfl | rfl) | h
  · decide
  · decide
  · have := Text.toNat_of_digit? h
    omega

theorem toNat_of_mem_toText {x : Ip} {c : Char} (hc : c ∈ x.toText) : c.toNat < 0x80 :=
  ascii_of_isAddressChar (isAddressChar_of_mem_toText hc)

inductive Denotes : Text → Ip → Prop
  | v4 (x : V4) : Denotes x.toText (.v4 x)
  | v6 {s : Text} {x : V6} (h : V6.Denotes s x) : Denotes s (.v6 x)

theorem ofText?_iff_denotes {s : Text} {x : Ip} : ofText? s = some x ↔ Denotes s x := by
  unfold ofText?
  constructor
  · intro h
    split at h
    · next v4 hv4 =>
      rw [← Option.some.inj h, V4.ofText?_iff_eq_toText.1 hv4]
      exact .v4 v4
    · obtain ⟨v6, hv6, rfl⟩ := Option.map_eq_some_iff.1 h
      exact .v6 (V6.ofText?_iff_denotes.1 hv6)
  · intro h
    cases h with
    | v4 v4 => rw [V4.ofText?_toText]
    | v6 h =>
      have hv4 : V4.ofText? s = none := V4.ofText?_eq_none h.colon_mem (by decide) rfl
      rw [hv4, V6.ofText?_iff_denotes.2 h]
      rfl

theorem ofText?_toText (x : Ip) : ofText? x.toText = some x := by
  rw [ofText?_iff_denotes]
  cases x with
  | v4 x => exact .v4 x
  | v6 x => exact .v6 (V6.denotes_toMixedText x)

theorem ofText?_eq_none {s : Text} {c : Char} (hmem : c ∈ s) (hc : isAddressChar c = false) :
    ofText? s = none := by
  simp only [isAddressChar, Bool.or_eq_false_iff, decide_eq_false_iff_not,
    Option.isSome_eq_false_iff, Option.isNone_iff_eq_none] at hc
  obtain ⟨⟨hdot, hcolon⟩, hdigit⟩ := hc
  have hv4 : V4.ofText? s = none := by
    apply V4.ofText?_eq_none hmem hdot
    exact isDecimal_eq_false hdigit
  have hv6 : V6.ofText? s = none := V6.ofText?_eq_none hmem hdot hcolon hdigit
  unfold ofText?
  rw [hv4, hv6]
  rfl

end ForwardProxy.Ip
