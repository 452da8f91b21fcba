import ForwardProxy.Proofs.Text
import ForwardProxy.Proofs.Text.LowerCase
import Mathlib.Data.List.DropRight

/-!
This module contains the theory of trimming: which texts are trimmed already, and what may stand
around a text or before it without being seen. Main statements: `trim_append_append` and
`trim_cons_trimStart`.
-/

namespace ForwardProxy.Text

variable {c : Char} {s before after : Text}

theorem trimStart_eq_self_iff : trimStart s = s ↔ s.head?.any isBlank = false := by
  unfold trimStart
  rw [List.dropWhile_eq_self_iff]
  cases s <;> simp

theorem trimEnd_eq_self_iff : trimEnd s = s ↔ s.getLast?.any isBlank = false := by
  have h : trimEnd s = s.rdropWhile isBlank := rfl
  rw [h, List.rdropWhile_eq_self_iff]
  by_cases hs : s = []
  · simp [hs]
  · simp [hs, List.getLast?_eq_some_getLast hs]

theorem trimEnd_prefix (s : Text) : trimEnd s <+: s :=
  List.rdropWhile_prefix isBlank s

theorem trimStart_trim (s : Text) : trimStart (trim s) = trim s := by
  have hidem : trimStart (trimStart s) = trimStart s := List.dropWhile_idempotent isBlank s
  -- What is left of the end starts as it did before, unless nothing is left.
  obtain ⟨rest, hrest⟩ := trimEnd_prefix (trimStart s)
  unfold trim
  rw [trimStart_eq_self_iff] at hidem ⊢
  cases hend : trimEnd (trimStart s) with
  | nil => rfl
  | cons c s' => rwa [← hrest, hend] at hidem

theorem trimStart_append (h : ∀ c ∈ before, isBlank c = true) :
    trimStart (before ++ s) = trimStart s :=
  List.dropWhile_append_of_pos h

theorem trimEnd_append (h : ∀ c ∈ after, isBlank c = true) : trimEnd (s ++ after) = trimEnd s := by
  unfold trimEnd
  rw [List.reverse_append, List.dropWhile_append_of_pos]
  simpa using h

theorem trim_append_append (hbefore : ∀ c ∈ before, isBlank c = true)
    (hafter : ∀ c ∈ after, isBlank c = true) : trim (before ++ s ++ after) = trim s := by
  unfold trim
  rw [List.append_assoc, trimStart_append hbefore]
  unfold trimStart
  rw [List.dropWhile_append]
  split
  · next hs =>
    have hnone : after.dropWhile isBlank = [] := List.dropWhile_eq_nil_iff.2 hafter
    rw [hnone, List.isEmpty_iff.1 hs]
  · exact trimEnd_append hafter

theorem trim_cons_trimStart (hc : isBlank c = false) (s : Text) :
    trim (c :: trimStart s) = c :: trim s := by
  have hstart : trimStart (c :: trimStart s) = c :: trimStart s := by
    rw [trimStart_eq_self_iff, List.head?_cons, Option.any_some, hc]
  have hend := @trimEnd_append_cons [] (trimStart s) c hc
  unfold trim
  rw [hstart]
  exact hend

theorem trimStart_map_toLower (s : Text) :
    trimStart (s.map Char.toLower) = (trimStart s).map Char.toLower := by
  have hblank : isBlank ∘ Char.toLower = isBlank := by
    funext c
    exact apply_toLower (by decide) c
  unfold trimStart
  rw [List.dropWhile_map, hblank]

theorem trim_map_toLower (s : Text) : trim (s.map Char.toLower) = (trim s).map Char.toLower := by
  unfold trim trimEnd
  rw [trimStart_map_toLower, ← List.map_reverse]
  have h := trimStart_map_toLower (trimStart s).reverse
  unfold trimStart at h ⊢
  rw [h, List.map_reverse]

end ForwardProxy.Text
