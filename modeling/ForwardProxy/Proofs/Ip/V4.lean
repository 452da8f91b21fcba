import ForwardProxy.Ip
import ForwardProxy.Proofs.Text.Digits

/-!
This module contains the theory of addresses of version 4. Main statement:
`V4.ofText?_iff_eq_toText` says that an address is read back from its text, and from no other text.
-/

namespace ForwardProxy.Ip

open Text (isDecimal isDecimal_of_mem_ofNat)

theorem octet?_ofNat (x : UInt8) : octet? (Text.ofNat x.toNat) = some x := by
  unfold octet?
  rw [if_neg]
  · rw [Text.number?_ofNat]
    simp only
    rw [if_pos x.toNat_lt, UInt8.ofNat_toNat]
  · rintro ⟨hlength, hhead⟩
    cases Nat.eq_zero_or_pos x.toNat with
    | inl hzero =>
      rw [hzero] at hlength
      exact absurd hlength (by decide)
    | inr hpos => exact Text.head?_toDigits_ne_zero (by decide) hpos hhead

theorem octet?_eq_some_iff {s : Text} {x : UInt8} : octet? s = some x ↔ s = Text.ofNat x.toNat := by
  constructor
  · intro h
    unfold octet? at h
    split at h
    · contradiction
    · next hzero =>
      split at h
      · next n hread =>
        rw [Option.ite_none_right_eq_some] at h
        obtain ⟨hn, rfl⟩ := h.imp_right Option.some.inj
        obtain ⟨zeros, hs⟩ := Text.exists_zeros_of_number? (by decide) (by decide) hread
        rw [Text.map_toLower_of_number? hread] at hs
        -- A zero in front would be one digit of several.
        cases zeros with
        | zero =>
          rw [UInt8.toNat_ofNat_of_lt' hn]
          exact hs
        | succ zeros =>
          have hne : Nat.toDigits 10 n ≠ [] := Nat.toDigits_ne_nil
          have hlength := List.length_pos_iff.2 hne
          have hlong := congrArg List.length hs
          rw [List.length_append, List.length_replicate] at hlong
          refine absurd ⟨by omega, ?_⟩ hzero
          rw [hs]
          rfl
      · contradiction
  · rintro rfl
    exact octet?_ofNat x

namespace V4

theorem splitOn_toText (x : V4) :
    x.toText.splitOn '.' =
      [Text.ofNat x.a.toNat, Text.ofNat x.b.toNat, Text.ofNat x.c.toNat, Text.ofNat x.d.toNat] := by
  apply List.splitOn_intercalate
  · intro part hpart hmem
    have hdot : isDecimal '.' = true := by
      simp only [List.mem_cons, List.not_mem_nil, or_false] at hpart
      rcases hpart with rfl | rfl | rfl | rfl
      all_goals exact isDecimal_of_mem_ofNat hmem
    contradiction
  · exact List.cons_ne_nil _ _

theorem ofText?_toText (x : V4) : ofText? x.toText = some x := by
  unfold ofText?
  rw [splitOn_toText]
  simp only [octet?_ofNat]
  rfl

theorem ofText?_iff_eq_toText {s : Text} {x : V4} : ofText? s = some x ↔ s = x.toText := by
  constructor
  · intro h
    unfold ofText? at h
    split at h
    · next a b c d hparts =>
      simp only [Option.bind_eq_bind, Option.bind_eq_some_iff, octet?_eq_some_iff] at h
      obtain ⟨a', rfl, b', rfl, c', rfl, d', rfl, h⟩ := h
      have hs : ['.'].intercalate (s.splitOn '.') = s := List.intercalate_splitOn '.'
      rw [← hs, hparts, ← Option.some.inj h]
      rfl
    · contradiction
  · rintro rfl
    exact ofText?_toText x

theorem eq_dot_or_isDecimal_of_mem_toText {x : V4} {c : Char} (hc : c ∈ x.toText) :
    c = '.' ∨ isDecimal c = true := by
  cases Text.mem_intercalate hc with
  | inl hc =>
    left
    exact List.mem_singleton.1 hc
  | inr h =>
    right
    obtain ⟨part, hpart, hc⟩ := h
    simp only [List.mem_cons, List.not_mem_nil, or_false] at hpart
    rcases hpart with rfl | rfl | rfl | rfl
    all_goals exact isDecimal_of_mem_ofNat hc

theorem not_mem_toText {x : V4} {c : Char} (hdot : c ≠ '.') (hc : isDecimal c = false) :
    c ∉ x.toText := by
  intro hmem
  cases eq_dot_or_isDecimal_of_mem_toText hmem with
  | inl h => exact hdot h
  | inr h =>
    rw [hc] at h
    contradiction

theorem ofText?_eq_none {s : Text} {c : Char} (hmem : c ∈ s) (hdot : c ≠ '.')
    (hc : isDecimal c = false) : ofText? s = none := by
  rw [Option.eq_none_iff_forall_ne_some]
  intro x hread
  rw [ofText?_iff_eq_toText] at hread
  rw [hread] at hmem
  exact not_mem_toText hdot hc hmem

theorem ofText?_eq_none_of_not_mem {s : Text} (h : '.' ∉ s) : ofText? s = none := by
  unfold ofText?
  rw [List.splitOn_eq_singleton h]

end V4

end ForwardProxy.Ip
