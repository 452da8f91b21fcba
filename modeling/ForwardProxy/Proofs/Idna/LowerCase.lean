import ForwardProxy.Proofs.Idna
import ForwardProxy.Proofs.Text.SmallForm

/-!
This module contains what lower-casing and the ASCII forms of names have in common. Main statement:
`Idna.toAscii?_eq_lower` says that the two agree where lower-casing leaves nothing but ASCII.
-/

namespace ForwardProxy

namespace Text

open Unicode

/-- The characters with a small form in ASCII: those of ASCII itself, and the Kelvin sign. -/
def hasAsciiForm (c : Char) : Bool :=
  c.toNat < 0x80 || c = '\u212a'

variable {c : Char} {s t small : Text}

theorem eq_of_image?_ascii {n m : Nat} (h : Run.image? lowerCase n = some m) (hm : m < 0x80) :
    n < 0x80 ∨ n = 0x212A := by
  have htable : (lowerCase.all fun run =>
      0x80 ≤ run.image || run.last < 0x80 || (run.first == 0x212A && run.last == 0x212A)) = true := by
    decide +kernel
  obtain ⟨run, hmem, i, hi, -, rfl, rfl⟩ := Run.exists_of_image? h
  have hrun := List.all_eq_true.1 htable run hmem
  simp only [Bool.or_eq_true, Bool.and_eq_true, decide_eq_true_eq, beq_iff_eq] at hrun
  omega

theorem hasAsciiForm_iff : hasAsciiForm c = true ↔ c.toNat < 0x80 ∨ c.toNat = 0x212A := by
  unfold hasAsciiForm
  rw [Bool.or_eq_true, decide_eq_true_eq, decide_eq_true_eq, ← Char.toNat_inj]
  rfl

theorem hasAsciiForm_of_lowerChar (h : ∀ d ∈ lowerChar c, d.toNat < 0x80) :
    hasAsciiForm c = true := by
  unfold lowerChar at h
  split at h
  · exact absurd (h '\u0307' (by decide)) (by decide)
  · rw [List.forall_mem_singleton] at h
    rw [hasAsciiForm_iff]
    cases himage : Run.image? lowerCase c.toNat with
    | none =>
      rw [himage] at h
      exact .inl h
    | some m =>
      rw [himage, Option.map_some, Option.getD_some, Char.toNat_ofNat] at h
      rw [if_pos (isValidChar_image himage)] at h
      exact eq_of_image?_ascii himage h

theorem ascii_lowerChar (h : hasAsciiForm c = true) : ∀ d ∈ lowerChar c, d.toNat < 0x80 := by
  unfold hasAsciiForm at h
  rw [Bool.or_eq_true, decide_eq_true_eq, decide_eq_true_eq] at h
  cases h with
  | inl hascii =>
    rw [lowerChar_of_ascii hascii, List.forall_mem_singleton]
    exact toNat_toLower_of_ascii hascii
  | inr hkelvin =>
    have hkelvin' : lowerChar '\u212a' = ['k'] := by decide +kernel
    rw [hkelvin, hkelvin', List.forall_mem_singleton]
    decide

theorem forall_ascii_smallForms_iff (h : small ∈ smallForms c) :
    (∀ d ∈ small, d.toNat < 0x80) ↔ hasAsciiForm c = true := by
  unfold smallForms at h
  split at h
  · next hsigma =>
    subst hsigma
    simp only [List.mem_cons, List.not_mem_nil, or_false] at h
    rcases h with rfl | rfl
    all_goals simp [hasAsciiForm]
  · rw [List.mem_singleton.1 h]
    exact ⟨hasAsciiForm_of_lowerChar, ascii_lowerChar⟩

theorem SmallForm.forall_ascii_iff (h : SmallForm s t) :
    (∀ d ∈ t, d.toNat < 0x80) ↔ ∀ c ∈ s, hasAsciiForm c = true := by
  induction h with
  | nil => simp
  | cons hsmall h ih =>
    rw [List.forall_mem_append, List.forall_mem_cons, forall_ascii_smallForms_iff hsmall, ih]

theorem map_toLower_lower (h : ∀ c ∈ s, hasAsciiForm c = true) :
    (lower s).map Char.toLower = lower s := by
  have hform := smallForm_lower s
  rw [← lower_of_ascii (hform.forall_ascii_iff.2 h), lower_eq_self]
  intro c hc
  exact hform.isSmall_of_mem hc

end Text

namespace Idna

open Text (hasAsciiForm lower lowerChar)

variable {denied : Char → Bool} {c : Char} {s name : Text}

theorem mapChar_of_hasAsciiForm (h : hasAsciiForm c = true) : mapChar c = .text (lowerChar c) := by
  unfold hasAsciiForm at h
  rw [Bool.or_eq_true, decide_eq_true_eq, decide_eq_true_eq] at h
  cases h with
  | inl hascii =>
    unfold mapChar
    rw [if_pos hascii, Text.lowerChar_of_ascii hascii]
  | inr hkelvin =>
    rw [hkelvin]
    decide +kernel

theorem mapped?.go_of_hasAsciiForm {before : Text} (h : ∀ c ∈ s, hasAsciiForm c = true) :
    mapped?.go s = some (lower.go before s) := by
  induction s generalizing before with
  | nil => rfl
  | cons c s ih =>
    rw [List.forall_mem_cons] at h
    have hsigma : c ≠ 'Σ' := by
      rintro rfl
      exact absurd h.1 (by decide)
    unfold mapped?.go lower.go
    rw [mapChar_of_hasAsciiForm h.1, ih h.2, if_neg hsigma]
    rfl

theorem mapped?_eq_lower (h : ∀ c ∈ s, hasAsciiForm c = true) : mapped? s = some (lower s) := by
  have hascii := (Text.smallForm_lower s).forall_ascii_iff.2 h
  have hgo : mapped?.go s = some (lower s) := mapped?.go_of_hasAsciiForm h
  unfold mapped?
  rw [hgo, Option.map_some, normalForm_of_ascii hascii]

theorem toAscii?_eq_lower (h : ∀ c ∈ s, hasAsciiForm c = true)
    (hname : toAscii? denied s = some name) : name = lower s := by
  have hascii := (Text.smallForm_lower s).forall_ascii_iff.2 h
  exact (toAscii?_eq_of_mapped? (mapped?_eq_lower h) hascii hname).1

end Idna

end ForwardProxy
