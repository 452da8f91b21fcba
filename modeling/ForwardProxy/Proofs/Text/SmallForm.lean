import ForwardProxy.Proofs.Text.Trim
import ForwardProxy.Proofs.Unicode.Casing
import Mathlib

/-!
This module contains the small forms of texts, of which lower-casing picks one: only the form of a
capital sigma is left open. Main statements: `smallForm_lower`, and `lower_eq_self` with
`SmallForm.isSmall_of_mem`, by which lower-casing a part of a lower-cased text changes nothing.
-/

namespace ForwardProxy.Text

open Unicode

def smallForms (c : Char) : List Text :=
  if c = 'Σ' then [['σ'], ['ς']] else [lowerChar c]

inductive SmallForm : Text → Text → Prop
  | nil : SmallForm [] []
  | cons {c : Char} {small s t : Text} (hsmall : small ∈ smallForms c) (h : SmallForm s t) :
      SmallForm (c :: s) (small ++ t)

/-- Lower-casing leaves the character as it is, wherever it stands. -/
def isSmall (c : Char) : Bool :=
  c ≠ 'Σ' && lowerChar c = [c]

def isMark (c : Char) : Bool :=
  isBlank c || c = ':' || c = ']'

def marks : Spans := [
  (9, 13), (0x20, 0x20), (0x3A, 0x3A), (0x5D, 0x5D), (0x85, 0x85), (0xA0, 0xA0),
  (0x1680, 0x1680), (0x2000, 0x200A), (0x2028, 0x2029), (0x202F, 0x202F), (0x205F, 0x205F),
  (0x3000, 0x3000)]

section Character

variable {c d : Char} {small : Text}

theorem isMark_of_isBlank (h : isBlank c = true) : isMark c = true := by
  unfold isMark
  rw [h, Bool.true_or, Bool.true_or]

theorem exists_mark_of_isMark (h : isMark c = true) :
    ∃ span ∈ marks, span.1 ≤ c.toNat ∧ c.toNat ≤ span.2 := by
  unfold isMark isBlank at h
  simp only [Bool.or_eq_true, Bool.and_eq_true, decide_eq_true_eq, beq_iff_eq] at h
  simp only [marks, List.mem_cons, List.not_mem_nil, or_false, exists_eq_or_imp, exists_eq_left]
  rcases h with (h | rfl) | rfl
  · omega
  · decide
  · decide

theorem isCased_of_isMark (h : isMark c = true) : isCased c = false := by
  have hmarks : (marks.all fun mark => cased.all fun span =>
      mark.2 < span.1 || span.2 < mark.1) = true := by decide +kernel
  obtain ⟨mark, hmark, hc⟩ := exists_mark_of_isMark h
  rw [← Bool.not_eq_true]
  intro hcased
  obtain ⟨span, hspan, hc'⟩ := Spans.exists_of_holds hcased
  have hapart := List.all_eq_true.1 (List.all_eq_true.1 hmarks mark hmark) span hspan
  rw [Bool.or_eq_true, decide_eq_true_eq, decide_eq_true_eq] at hapart
  omega

theorem not_isMark_of_image? {n m : Nat} (h : Run.image? lowerCase n = some m) :
    ¬ (∃ span ∈ marks, span.1 ≤ n ∧ n ≤ span.2) ∧
      ¬ (∃ span ∈ marks, span.1 ≤ m ∧ m ≤ span.2) := by
  have hmarks : (marks.all fun span => lowerCase.all (Run.avoids span)) = true := by decide +kernel
  constructor
  · rintro ⟨span, hspan, hn⟩
    exact (Run.avoids_image? (List.all_eq_true.1 hmarks span hspan) h).1 hn
  · rintro ⟨span, hspan, hm⟩
    exact (Run.avoids_image? (List.all_eq_true.1 hmarks span hspan) h).2 hm

theorem smallForms_cases (h : small ∈ smallForms c) :
    (c ∈ ['Σ', 'İ'] ∧ ∀ d ∈ small, d ∈ ['σ', 'ς', 'i', '\u0307']) ∨
    (∃ d, small = [d] ∧ Run.image? lowerCase c.toNat = some d.toNat) ∨
    (small = [c] ∧ isSmall c = true) := by
  unfold smallForms at h
  split at h
  · next hsigma =>
    left
    refine ⟨by simp [hsigma], ?_⟩
    simp only [List.mem_cons, List.not_mem_nil, or_false] at h
    rcases h with rfl | rfl <;> simp
  · next hsigma =>
    rw [List.mem_singleton] at h
    by_cases hdotted : c = 'İ'
    · left
      have hlower : lowerChar c = ['i', '\u0307'] := if_pos hdotted
      rw [h, hlower, hdotted]
      simp
    · right
      have hlower : lowerChar c = [((Run.image? lowerCase c.toNat).map Char.ofNat).getD c] := by
        unfold lowerChar
        rw [if_neg hdotted]
      cases himage : Run.image? lowerCase c.toNat with
      | none =>
        right
        rw [himage] at hlower
        refine ⟨h.trans hlower, ?_⟩
        simp [isSmall, hsigma, hlower]
      | some m =>
        left
        rw [himage] at hlower
        refine ⟨Char.ofNat m, h.trans hlower, ?_⟩
        rw [Char.toNat_ofNat, if_pos (isValidChar_image himage)]

theorem ne_nil_of_mem_smallForms (h : small ∈ smallForms c) : small ≠ [] := by
  unfold smallForms lowerChar at h
  grind

theorem eq_of_isMark (h : small ∈ smallForms c) (hd : d ∈ small)
    (hmark : isMark c = true ∨ isMark d = true) : d = c := by
  rcases smallForms_cases h with ⟨hc, hsmall⟩ | ⟨d', rfl, himage⟩ | ⟨rfl, -⟩
  · have hplain : (['Σ', 'İ', 'σ', 'ς', 'i', '\u0307'].all fun c => !isMark c) = true := by
      decide +kernel
    simp only [List.all_eq_true, Bool.not_eq_true'] at hplain
    have hc := hplain c (by grind)
    have hd := hplain d (by grind)
    simp [hc, hd] at hmark
  · obtain rfl := List.mem_singleton.1 hd
    obtain ⟨hc, hd⟩ := not_isMark_of_image? himage
    cases hmark with
    | inl hmark => exact absurd (exists_mark_of_isMark hmark) hc
    | inr hmark => exact absurd (exists_mark_of_isMark hmark) hd
  · exact List.mem_singleton.1 hd

theorem isBlank_of_mem_smallForms (h : small ∈ smallForms c) (hd : d ∈ small) :
    isBlank d = isBlank c := by
  rw [Bool.eq_iff_iff]
  constructor
  · intro hblank
    rwa [eq_of_isMark h hd (.inr (isMark_of_isBlank hblank))] at hblank
  · intro hblank
    rwa [eq_of_isMark h hd (.inl (isMark_of_isBlank hblank))]

theorem isSmall_of_image?_eq_none (hdotted : c ≠ 'İ') (h : Run.image? lowerCase c.toNat = none) :
    isSmall c = true := by
  have hsigma : c ≠ 'Σ' := by
    rintro rfl
    exact absurd h (by decide +kernel)
  unfold isSmall lowerChar
  rw [if_neg hdotted, h]
  simp [hsigma]

theorem isSmall_of_mem_smallForms (h : small ∈ smallForms c) (hd : d ∈ small) :
    isSmall d = true := by
  rcases smallForms_cases h with ⟨-, hsmall⟩ | ⟨d', rfl, himage⟩ | ⟨rfl, hc⟩
  · have hends : (['σ', 'ς', 'i', '\u0307'].all fun d =>
        d ≠ 'İ' && Run.image? lowerCase d.toNat = none) = true := by decide +kernel
    simp only [List.all_eq_true, Bool.and_eq_true, decide_eq_true_eq] at hends
    obtain ⟨hdotted, himage⟩ := hends d (hsmall d hd)
    exact isSmall_of_image?_eq_none hdotted himage
  · obtain rfl := List.mem_singleton.1 hd
    have hdotted : d ≠ 'İ' := by
      rintro rfl
      have htable : lowerCase.all (Run.avoids (0x130, 0x130)) = true := by decide +kernel
      exact (Run.avoids_image? htable himage).2 (by decide)
    exact isSmall_of_image?_eq_none hdotted (image?_image himage)
  · obtain rfl := List.mem_singleton.1 hd
    exact hc

end Character

theorem lower_eq_self {s : Text} (h : ∀ c ∈ s, isSmall c = true) : lower s = s := by
  have hgo : ∀ before, lower.go before s = s := by
    induction s with
    | nil => intro before; rfl
    | cons c s ih =>
      intro before
      have hc := h c List.mem_cons_self
      simp only [isSmall, Bool.and_eq_true, decide_eq_true_eq] at hc
      unfold lower.go
      rw [if_neg hc.1, hc.2, ih fun d hd => h d (List.mem_cons_of_mem _ hd)]
      rfl
  exact hgo []

theorem smallForm_go (before s : Text) : SmallForm s (lower.go before s) := by
  induction s generalizing before with
  | nil => exact .nil
  | cons c s ih =>
    unfold lower.go
    apply SmallForm.cons _ (ih _)
    unfold smallForms
    split
    · split <;> simp
    · simp

theorem smallForm_lower (s : Text) : SmallForm s (lower s) :=
  smallForm_go [] s

namespace SmallForm

variable {s t : Text}

theorem append_cases {a b : Text} (h : SmallForm (a ++ b) t) :
    ∃ x y, t = x ++ y ∧ SmallForm a x ∧ SmallForm b y := by
  induction a generalizing t with
  | nil => exact ⟨[], t, rfl, .nil, h⟩
  | cons c a ih =>
    cases h with
    | cons hsmall h =>
      obtain ⟨x, y, rfl, hx, hy⟩ := ih h
      exact ⟨_, y, (List.append_assoc _ _ _).symm, .cons hsmall hx, hy⟩

theorem exists_of_mem {d : Char} (h : SmallForm s t) (hd : d ∈ t) :
    ∃ c ∈ s, ∃ small ∈ smallForms c, d ∈ small := by
  induction h with
  | nil => contradiction
  | cons hsmall h ih =>
    cases List.mem_append.1 hd with
    | inl hd => exact ⟨_, List.mem_cons_self, _, hsmall, hd⟩
    | inr hd =>
      obtain ⟨c, hc, hform⟩ := ih hd
      exact ⟨c, List.mem_cons_of_mem _ hc, hform⟩

theorem isSmall_of_mem {d : Char} (h : SmallForm s t) (hd : d ∈ t) : isSmall d = true := by
  obtain ⟨c, -, small, hsmall, hd⟩ := h.exists_of_mem hd
  exact isSmall_of_mem_smallForms hsmall hd

theorem mem_iff_of_isMark {d : Char} (h : SmallForm s t) (hd : isMark d = true) :
    d ∈ t ↔ d ∈ s := by
  constructor
  · intro hmem
    obtain ⟨c, hc, small, hsmall, hdsmall⟩ := h.exists_of_mem hmem
    rwa [eq_of_isMark hsmall hdsmall (.inr hd)]
  · intro hmem
    induction h with
    | nil => contradiction
    | cons hsmall h ih =>
      rw [List.mem_append]
      cases List.mem_cons.1 hmem with
      | inl hc =>
        left
        obtain ⟨e, he⟩ := List.exists_mem_of_ne_nil _ (ne_nil_of_mem_smallForms hsmall)
        rw [hc] at hd ⊢
        rwa [eq_of_isMark hsmall he (.inl hd)] at he
      | inr hmem => exact .inr (ih hmem)

theorem any_head? (h : SmallForm s t) : t.head?.any isBlank = s.head?.any isBlank := by
  cases h with
  | nil => rfl
  | @cons c small s t hsmall h =>
    obtain ⟨d, rest, rfl⟩ := List.exists_cons_of_ne_nil (ne_nil_of_mem_smallForms hsmall)
    rw [List.cons_append, List.head?_cons, List.head?_cons, Option.any_some, Option.any_some]
    exact isBlank_of_mem_smallForms hsmall List.mem_cons_self

theorem any_getLast? (h : SmallForm s t) : t.getLast?.any isBlank = s.getLast?.any isBlank := by
  rcases List.eq_nil_or_concat s with rfl | ⟨front, c, rfl⟩
  · cases h
    rfl
  · rw [List.concat_eq_append] at h ⊢
    obtain ⟨x, y, rfl, -, hy⟩ := h.append_cases
    cases hy with
    | @cons _ small _ _ hsmall hrest =>
      cases hrest
      obtain ⟨d, hd⟩ := Option.isSome_iff_exists.1
        (List.getLast?_isSome.2 (ne_nil_of_mem_smallForms hsmall))
      rw [List.append_nil, List.getLast?_append, hd, Option.some_or, List.getLast?_concat]
      exact isBlank_of_mem_smallForms hsmall (List.mem_of_getLast? hd)

theorem trimStart_eq_self_iff (h : SmallForm s t) : trimStart t = t ↔ trimStart s = s := by
  rw [Text.trimStart_eq_self_iff, Text.trimStart_eq_self_iff, h.any_head?]

theorem trimEnd_eq_self_iff (h : SmallForm s t) : trimEnd t = t ↔ trimEnd s = s := by
  rw [Text.trimEnd_eq_self_iff, Text.trimEnd_eq_self_iff, h.any_getLast?]

theorem eq_nil_iff (h : SmallForm s t) : t = [] ↔ s = [] := by
  cases h with
  | nil => rfl
  | cons hsmall h => simp [ne_nil_of_mem_smallForms hsmall]

end SmallForm

end ForwardProxy.Text
