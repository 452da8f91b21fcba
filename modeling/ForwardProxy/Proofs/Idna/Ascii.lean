import ForwardProxy.Proofs.Idna

/-!
This module contains what the ASCII forms of names are made of. Main statements: `Punycode.mem_encode`
and `Idna.plain_of_toAscii?`, by which no character that is denied gets into an ASCII form.
-/

namespace ForwardProxy

namespace Punycode

variable {c d : Char} {e : Encoder} {s : Text}

def IsDigit (c : Char) : Prop :=
  ∃ n < 36, c = ofDigit n

theorem isDigit_of_mem_writeNumber {bias place n : Nat} (h : c ∈ writeNumber bias place n) :
    IsDigit c := by
  fun_induction writeNumber bias place n with
  | case1 place n hlast =>
    have hlow := @threshold_le place bias
    exact ⟨n, by omega, List.mem_singleton.1 h⟩
  | case2 place n hmore t ih =>
    cases List.mem_cons.1 h with
    | inl hfirst =>
      have hlow : t ≤ 26 := threshold_le
      have hmod : (n - t) % (36 - t) < 36 - t := Nat.mod_lt _ (by omega)
      exact ⟨_, by omega, hfirst⟩
    | inr hrest => exact ih hrest

namespace Encoder

theorem mem_output_pass (h : c ∈ (e.pass d).output) : c ∈ e.output ∨ IsDigit c := by
  unfold pass at h
  split at h
  · exact .inl h
  · split at h
    · cases List.mem_append.1 h with
      | inl h => exact .inl h
      | inr h => exact .inr (isDigit_of_mem_writeNumber h)
    · exact .inl h

theorem mem_output_put {n : Nat} (h : c ∈ (e.put s n).output) : c ∈ e.output ∨ IsDigit c := by
  revert h
  apply List.foldlRecOn (motive := fun e' => c ∈ e'.output → c ∈ e.output ∨ IsDigit c) s pass
  · exact .inl
  · intro e' ih d _ h
    cases mem_output_pass h with
    | inl h => exact ih h
    | inr h => exact .inr h

theorem mem_output_foldl_put {ns : List Nat} (h : c ∈ (ns.foldl (put s) e).output) :
    c ∈ e.output ∨ IsDigit c := by
  revert h
  apply List.foldlRecOn (motive := fun e' => c ∈ e'.output → c ∈ e.output ∨ IsDigit c) ns (put s)
  · exact .inl
  · intro e' ih n _ h
    cases mem_output_put h with
    | inl h => exact ih h
    | inr h => exact .inr h

end Encoder

theorem mem_encode (h : c ∈ encode s) : c ∈ s ∧ c.toNat < 0x80 ∨ c = '-' ∨ IsDigit c := by
  unfold encode at h
  cases Encoder.mem_output_foldl_put h with
  | inl hbasic =>
    dsimp only at hbasic
    split at hbasic
    · contradiction
    · cases List.mem_append.1 hbasic with
      | inl hbasic =>
        obtain ⟨hmem, hascii⟩ := List.mem_filter.1 hbasic
        exact .inl ⟨hmem, of_decide_eq_true hascii⟩
      | inr hhyphen => exact .inr (.inl (List.mem_singleton.1 hhyphen))
  | inr hdigit => exact .inr (.inr hdigit)

end Punycode

namespace Idna

variable {denied : Char → Bool} {s label name : Text} {c : Char}

def isCode (c : Char) : Bool :=
  c.isLower || c.isDigit || c = '-'

theorem isCode_of_isDigit (h : Punycode.IsDigit c) : isCode c = true := by
  have hdigits : ∀ n < 36, isCode (Punycode.ofDigit n) = true := by decide
  obtain ⟨n, hn, rfl⟩ := h
  exact hdigits n hn

theorem ascii_of_isCode (h : isCode c = true) : c.toNat < 0x80 := by
  unfold isCode at h
  simp only [Bool.or_eq_true, decide_eq_true_eq] at h
  rcases h with h | rfl
  · apply Text.ascii_of_isAlphanum
    unfold Char.isAlphanum Char.isAlpha
    cases h with
    | inl h => rw [h, Bool.or_true, Bool.true_or]
    | inr h => rw [h, Bool.or_true]
  · decide

theorem mem_asciiLabel (h : c ∈ asciiLabel label) :
    c ∈ label ∧ c.toNat < 0x80 ∨ isCode c = true := by
  unfold asciiLabel at h
  split at h
  · next hascii => exact .inl ⟨h, Text.isAscii_iff.1 hascii c h⟩
  · cases List.mem_append.1 h with
    | inl hmarker =>
      have hcode : ∀ c ∈ marker, isCode c = true := List.all_eq_true.1 (by decide)
      exact .inr (hcode c hmarker)
    | inr hcoded =>
      rcases Punycode.mem_encode hcoded with hlabel | rfl | hdigit
      · exact .inl hlabel
      · exact .inr (by decide)
      · exact .inr (isCode_of_isDigit hdigit)

theorem plain_of_toAscii? (h : toAscii? denied s = some name) (hc : c ∈ name) :
    c.toNat < 0x80 ∧ (denied c = false ∨ c = '.' ∨ isCode c = true) := by
  obtain ⟨t, -, hdenied, rfl⟩ := exists_mapped_of_toAscii? h
  cases Text.mem_intercalate hc with
  | inl hdot =>
    rw [List.mem_singleton] at hdot
    rw [hdot]
    exact ⟨by decide, .inr (.inl rfl)⟩
  | inr hpart =>
    obtain ⟨part, hpart, hc⟩ := hpart
    obtain ⟨label, hlabel, rfl⟩ := List.mem_map.1 hpart
    cases mem_asciiLabel hc with
    | inl hown =>
      have ht := Text.mem_of_mem_splitOn hlabel hown.1
      exact ⟨hown.2, .inl (hdenied c ht)⟩
    | inr hcode => exact ⟨ascii_of_isCode hcode, .inr (.inr hcode)⟩

end Idna

end ForwardProxy
