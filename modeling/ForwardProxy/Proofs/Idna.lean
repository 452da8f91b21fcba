import ForwardProxy.Idna
import ForwardProxy.Proofs.Text
import ForwardProxy.Proofs.Text.LowerCase

/-!
This module contains the theory of internationalised names on ASCII texts. Main statement:
`toAscii?_eq_map_toLower` says that such a name can only be refused or put into small letters.
-/

namespace ForwardProxy.Idna

theorem mapped?.go_of_ascii {s : Text} (h : ∀ c ∈ s, c.toNat < 0x80) :
    mapped?.go s = some (s.map Char.toLower) := by
  induction s with
  | nil => rfl
  | cons c s ih =>
    have hc : mapChar c = .text [c.toLower] := by
      unfold mapChar
      rw [if_pos (h c List.mem_cons_self)]
    unfold mapped?.go
    rw [hc, ih fun d hd => h d (List.mem_cons_of_mem _ hd)]
    rfl

theorem normalForm_of_ascii {s : Text} (h : ∀ c ∈ s, c.toNat < 0x80) :
    Unicode.normalForm s = s := by
  unfold Unicode.normalForm
  rw [if_pos]
  rw [List.all_eq_true]
  intro c hc
  have := h c hc
  rw [decide_eq_true_eq]
  omega

theorem mapped?_of_ascii {s : Text} (h : ∀ c ∈ s, c.toNat < 0x80) :
    mapped? s = some (s.map Char.toLower) := by
  unfold mapped?
  rw [mapped?.go_of_ascii h, Option.map_some]
  rw [normalForm_of_ascii (Text.ascii_map_toLower h)]

theorem intercalate_asciiLabel {s : Text} (h : ∀ c ∈ s, c.toNat < 0x80) :
    ['.'].intercalate ((s.splitOn '.').map asciiLabel) = s := by
  have hlabel : ∀ label ∈ s.splitOn '.', asciiLabel label = label := by
    intro label hlabel
    unfold asciiLabel
    rw [if_pos]
    rw [Text.isAscii_iff]
    intro c hc
    exact h c (Text.mem_of_mem_splitOn hlabel hc)
  rw [List.map_congr_left hlabel, List.map_id', List.intercalate_splitOn]

variable {denied : Char → Bool} {s t name : Text}

theorem exists_mapped_of_toAscii? (h : toAscii? denied s = some name) :
    ∃ t, mapped? s = some t ∧ (∀ c ∈ t, denied c = false) ∧
      name = ['.'].intercalate ((t.splitOn '.').map asciiLabel) := by
  unfold toAscii? at h
  obtain ⟨t, hmapped, h⟩ := Option.bind_eq_some_iff.1 h
  refine ⟨t, hmapped, ?_⟩
  split at h
  · contradiction
  · next hdenied =>
    obtain ⟨plain, -, h⟩ := Option.bind_eq_some_iff.1 h
    split at h
    · rw [Option.pure_def, Option.some.injEq] at h
      refine ⟨?_, h.symm⟩
      rw [Bool.not_eq_true, List.any_eq_false] at hdenied
      intro c hc
      exact Bool.eq_false_iff.2 (hdenied c hc)
    · contradiction

theorem toAscii?_eq_of_mapped? (hmapped : mapped? s = some t) (hascii : ∀ c ∈ t, c.toNat < 0x80)
    (h : toAscii? denied s = some name) : name = t ∧ ∀ c ∈ name, denied c = false := by
  obtain ⟨t', hmapped', hdenied, rfl⟩ := exists_mapped_of_toAscii? h
  rw [hmapped, Option.some.injEq] at hmapped'
  subst hmapped'
  rw [intercalate_asciiLabel hascii]
  exact ⟨rfl, hdenied⟩

theorem toAscii?_eq_map_toLower (h : ∀ c ∈ s, c.toNat < 0x80)
    (hname : toAscii? denied s = some name) :
    name = s.map Char.toLower ∧ ∀ c ∈ name, denied c = false :=
  toAscii?_eq_of_mapped? (mapped?_of_ascii h) (Text.ascii_map_toLower h) hname

theorem toAscii?_map_toLower (h : ∀ c ∈ s, c.toNat < 0x80) :
    toAscii? denied (s.map Char.toLower) = toAscii? denied s := by
  unfold toAscii?
  rw [mapped?_of_ascii (Text.ascii_map_toLower h), mapped?_of_ascii h,
    Text.map_toLower_map_toLower h]

end ForwardProxy.Idna
