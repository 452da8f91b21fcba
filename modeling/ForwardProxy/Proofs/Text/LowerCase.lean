import ForwardProxy.Text.LowerCase
import Mathlib

/-!
This module contains the theory of lower-casing. On ASCII texts every letter is lower-cased on its
own; in other texts it is enough that no cased letter starts what follows, or that no sigma ends
what stands before. Main statement: `lower_map_toLower` says that the case of ASCII letters does not
matter, whatever stands around.
-/

namespace ForwardProxy.Text

theorem isAscii_iff {s : Text} : isAscii s = true ↔ ∀ c ∈ s, c.toNat < 0x80 := by
  simp [isAscii]

theorem forall_ascii {p : Char → Prop} (h : ∀ n < 0x80, p (Char.ofNat n)) {c : Char}
    (hc : c.toNat < 0x80) : p c := by
  rw [← Char.ofNat_toNat c]
  exact h c.toNat hc

theorem lowerChar_of_ascii {c : Char} (hc : c.toNat < 0x80) : lowerChar c = [c.toLower] := by
  apply forall_ascii (p := fun c => lowerChar c = [c.toLower]) _ hc
  decide

theorem lower.go_of_ascii {before s : Text} (h : ∀ c ∈ s, c.toNat < 0x80) :
    lower.go before s = s.map Char.toLower := by
  induction s generalizing before with
  | nil => rfl
  | cons c s ih =>
    have hc := h c List.mem_cons_self
    have hsigma : c ≠ 'Σ' := by
      intro h
      rw [h] at hc
      exact absurd hc (by decide)
    simp only [lower.go, if_neg hsigma, lowerChar_of_ascii hc]
    rw [ih fun d hd => h d (List.mem_cons_of_mem _ hd)]
    rfl

theorem lower_of_ascii {s : Text} (h : ∀ c ∈ s, c.toNat < 0x80) :
    lower s = s.map Char.toLower := by
  unfold lower
  apply lower.go_of_ascii h

theorem startsCased_append_congr {s t t' : Text} (h : startsCased t = startsCased t') :
    startsCased (s ++ t) = startsCased (s ++ t') := by
  unfold startsCased at h ⊢
  rw [List.dropWhile_append, List.dropWhile_append]
  cases s.dropWhile Unicode.isCaseIgnorable with
  | nil =>
    rw [if_pos List.isEmpty_nil, if_pos List.isEmpty_nil]
    exact h
  | cons c rest => rfl

theorem startsCased_append {s t : Text} (h : startsCased t = false) :
    startsCased (s ++ t) = startsCased s := by
  have hcongr := @startsCased_append_congr s t [] h
  rwa [List.append_nil] at hcongr

/-- A sigma that follows a cased letter ends the text, up to characters that casing does not see. Its
small form depends on what is put behind the text. -/
def EndsInSigma (s : Text) : Prop :=
  ∃ x y, s = x ++ 'Σ' :: y ∧ startsCased x.reverse = true ∧
    ∀ c ∈ y, Unicode.isCaseIgnorable c = true

theorem not_endsInSigma_concat {s : Text} {c : Char} (hsigma : c ≠ 'Σ')
    (hseen : Unicode.isCaseIgnorable c = false) : ¬ EndsInSigma (s ++ [c]) := by
  rintro ⟨x, y, hs, -, hy⟩
  have hlast := congrArg List.getLast? hs
  rw [List.getLast?_concat, List.getLast?_append_cons] at hlast
  have hmem : c ∈ 'Σ' :: y := List.mem_of_getLast? hlast.symm
  cases List.mem_cons.1 hmem with
  | inl h => exact hsigma h
  | inr h =>
    rw [hy c h] at hseen
    contradiction

theorem startsCased_append_of_exists {s : Text} (h : ∃ c ∈ s, Unicode.isCaseIgnorable c = false)
    (t : Text) : startsCased (s ++ t) = startsCased s := by
  obtain ⟨c, hc, hseen⟩ := h
  unfold startsCased
  rw [List.dropWhile_append]
  cases hrest : s.dropWhile Unicode.isCaseIgnorable with
  | nil =>
    rw [List.dropWhile_eq_nil_iff] at hrest
    rw [hrest c hc] at hseen
    contradiction
  | cons d rest => rfl

theorem lower.go_append_congr {before s t t' : Text}
    (h : startsCased t = startsCased t' ∨ ¬ EndsInSigma (before.reverse ++ s)) :
    ∃ front, lower.go before (s ++ t) = front ++ lower.go (s.reverse ++ before) t ∧
      lower.go before (s ++ t') = front ++ lower.go (s.reverse ++ before) t' := by
  induction s generalizing before with
  | nil => exact ⟨[], rfl, rfl⟩
  | cons c s ih =>
    have hmove : (c :: before).reverse ++ s = before.reverse ++ c :: s := by simp
    obtain ⟨front, ht, ht'⟩ := @ih (c :: before) (by rwa [hmove])
    by_cases hsigma : c = 'Σ'
    · subst hsigma
      -- The sigma looks at what follows only if a cased letter stands before it.
      have hfinal : (startsCased before && !startsCased (s ++ t)) =
          (startsCased before && !startsCased (s ++ t')) := by
        cases hbefore : startsCased before with
        | false => rfl
        | true =>
          rcases h with h | h
          · rw [startsCased_append_congr h]
          · have hseen : ∃ c ∈ s, Unicode.isCaseIgnorable c = false := by
              by_contra hnone
              simp only [not_exists, not_and, Bool.not_eq_false] at hnone
              exact h ⟨before.reverse, s, rfl, by rwa [List.reverse_reverse], hnone⟩
            rw [startsCased_append_of_exists hseen, startsCased_append_of_exists hseen]
      refine ⟨(if startsCased before && !startsCased (s ++ t') then ['ς'] else ['σ']) ++ front,
        ?_, ?_⟩
      · simp only [List.cons_append, lower.go, if_true, ht, hfinal]
        simp
      · simp only [List.cons_append, lower.go, if_true, ht']
        simp
    · refine ⟨lowerChar c ++ front, ?_, ?_⟩
      · simp only [List.cons_append, lower.go, if_neg hsigma, ht]
        simp
      · simp only [List.cons_append, lower.go, if_neg hsigma, ht']
        simp

theorem lower.go_append {before s t : Text} (h : startsCased t = false) :
    lower.go before (s ++ t) = lower.go before s ++ lower.go (s.reverse ++ before) t := by
  obtain ⟨front, ht, hs⟩ := @lower.go_append_congr before s t [] (.inl h)
  have hfront : lower.go before s = front := by
    rwa [List.append_nil, lower.go, List.append_nil] at hs
  rw [ht, hfront]

theorem lower_append_of_ascii {s t : Text} (hcased : startsCased t = false)
    (h : ∀ c ∈ t, c.toNat < 0x80) : lower (s ++ t) = lower s ++ t.map Char.toLower := by
  unfold lower
  rw [lower.go_append hcased, lower.go_of_ascii h]

theorem toNat_of_isUpper {c : Char} (h : c.isUpper = true) : 65 ≤ c.toNat ∧ c.toNat ≤ 90 := by
  simp only [Char.isUpper, decide_eq_true_eq, ge_iff_le, UInt32.le_iff_toNat_le] at h
  exact h

theorem ascii_of_toLower {c : Char} (h : c.toLower.toNat < 0x80) : c.toNat < 0x80 := by
  cases hupper : c.isUpper with
  | true =>
    have := toNat_of_isUpper hupper
    omega
  | false => rwa [Char.toLower_eq_of_not_isUpper (ne_true_of_eq_false hupper)] at h

theorem ascii_of_isAlphanum {c : Char} (h : c.isAlphanum = true) : c.toNat < 0x80 := by
  simp only [Char.isAlphanum, Char.isAlpha, Char.isUpper, Char.isLower, Char.isDigit,
    Bool.or_eq_true, Bool.and_eq_true, decide_eq_true_eq, ge_iff_le, UInt32.le_iff_toNat_le] at h
  have hends : 'A'.val.toNat = 65 ∧ 'Z'.val.toNat = 90 ∧ 'a'.val.toNat = 97 ∧ 'z'.val.toNat = 122 ∧
      '0'.val.toNat = 48 ∧ '9'.val.toNat = 57 := by decide
  have hval : c.toNat = c.val.toNat := rfl
  omega

theorem map_toLower_eq_self {s : Text} (h : ∀ c ∈ s, c.isUpper = false) :
    s.map Char.toLower = s := by
  have hlower : ∀ c ∈ s, c.toLower = c := by
    intro c hc
    exact Char.toLower_eq_of_not_isUpper (ne_true_of_eq_false (h c hc))
  rw [List.map_congr_left hlower]
  apply List.map_id'

theorem toNat_toLower_of_ascii {c : Char} (h : c.toNat < 0x80) : c.toLower.toNat < 0x80 := by
  apply forall_ascii (p := fun c => c.toLower.toNat < 0x80) _ h
  decide

theorem ascii_map_toLower {s : Text} (h : ∀ c ∈ s, c.toNat < 0x80) :
    ∀ c ∈ s.map Char.toLower, c.toNat < 0x80 := by
  intro c hc
  obtain ⟨d, hd, rfl⟩ := List.mem_map.1 hc
  exact toNat_toLower_of_ascii (h d hd)

theorem map_toLower_map_toLower {s : Text} (h : ∀ c ∈ s, c.toNat < 0x80) :
    (s.map Char.toLower).map Char.toLower = s.map Char.toLower := by
  rw [List.map_map]
  apply List.map_congr_left
  intro c hc
  apply forall_ascii (p := fun c => c.toLower.toLower = c.toLower) _ (h c hc)
  decide

theorem apply_toLower {α : Type} {f : Char → α}
    (h : ∀ n < 0x80, f (Char.ofNat n).toLower = f (Char.ofNat n)) (c : Char) :
    f c.toLower = f c := by
  by_cases hc : c.toNat < 0x80
  · exact forall_ascii (p := fun c => f c.toLower = f c) h hc
  · rw [Char.toLower_eq_of_not_isUpper]
    intro hupper
    have := toNat_of_isUpper hupper
    omega

theorem startsCased_map_toLower (s : Text) :
    startsCased (s.map Char.toLower) = startsCased s := by
  have hignorable : Unicode.isCaseIgnorable ∘ Char.toLower = Unicode.isCaseIgnorable := by
    funext c
    exact apply_toLower (by decide) c
  unfold startsCased
  rw [List.dropWhile_map, hignorable]
  cases s.dropWhile Unicode.isCaseIgnorable with
  | nil => rfl
  | cons c rest => exact apply_toLower (f := Unicode.isCased) (by decide) c

theorem lower.go_map_toLower (before s : Text) :
    lower.go (before.map Char.toLower) (s.map Char.toLower) = lower.go before s := by
  induction s generalizing before with
  | nil => rfl
  | cons c s ih =>
    have hsigma : c.toLower = 'Σ' ↔ c = 'Σ' :=
      decide_eq_decide.1 (apply_toLower (f := fun c => decide (c = 'Σ')) (by decide) c)
    have hchar : lowerChar c.toLower = lowerChar c := apply_toLower (by decide) c
    have hbefore := ih (c :: before)
    rw [List.map_cons] at hbefore
    simp only [List.map_cons, lower.go, hsigma, hchar, startsCased_map_toLower, hbefore]

theorem lower_map_toLower (s : Text) : lower (s.map Char.toLower) = lower s := by
  unfold lower
  exact lower.go_map_toLower [] s

theorem lower.go_append_before {before start : Text} (h : startsCased start = false) (s : Text) :
    lower.go (before ++ start) s = lower.go before s := by
  induction s generalizing before with
  | nil => rfl
  | cons c s ih =>
    have hbefore : c :: (before ++ start) = (c :: before) ++ start := rfl
    simp only [lower.go, startsCased_append h, hbefore, ih]

theorem lower_cons_of_ascii {c : Char} (hcased : startsCased [c] = false) (hc : c.toNat < 0x80)
    (s : Text) : lower (c :: s) = c.toLower :: lower s := by
  have hsigma : c ≠ 'Σ' := by
    rintro rfl
    exact absurd hc (by decide)
  have hgo : lower.go ([] ++ [c]) s = lower.go [] s := lower.go_append_before hcased s
  rw [List.nil_append] at hgo
  unfold lower
  simp only [lower.go, if_neg hsigma, lowerChar_of_ascii hc, hgo]
  rfl

end ForwardProxy.Text
