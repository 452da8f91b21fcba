import ForwardProxy.Proofs.Text.Digits
import ForwardProxy.Text.Quoted
import Mathlib.Data.List.Basic

/-!
This module contains the theory of quoted texts. Main statements: `unquote?_quote` says that a text
is read back from its quoted form, whatever follows it, and `isPrintable_of_mem_quote` that nothing
stands in a quoted form that does not show.
-/

namespace ForwardProxy.Text

open Unicode

def unescape? : Text → Option (Char × Text)
  | '0' :: rest => some ('\x00', rest)
  | 't' :: rest => some ('\t', rest)
  | 'r' :: rest => some ('\r', rest)
  | 'n' :: rest => some ('\n', rest)
  | '\\' :: rest => some ('\\', rest)
  | '"' :: rest => some ('"', rest)
  | 'u' :: '\x7b' :: rest =>
    match cutFirst? '\x7d' rest with
    | none => none
    | some (digits, rest) => (number? 16 digits).map fun n => (Char.ofNat n, rest)
  | _ => none

theorem unescape?_length {s rest : Text} {c : Char} (h : unescape? s = some (c, rest)) :
    rest.length < s.length := by
  unfold unescape? at h
  split at h
  case h_7 after =>
    split at h
    · contradiction
    · next digits tail hcut =>
      obtain ⟨n, -, hn⟩ := Option.map_eq_some_iff.1 h
      obtain ⟨-, rfl⟩ := Prod.mk.inj hn
      rw [(cutFirst?_eq_some_iff.1 hcut).1]
      simp only [List.length_cons, List.length_append]
      omega
  case h_8 => contradiction
  all_goals
    obtain ⟨-, rfl⟩ := Prod.mk.inj (Option.some.inj h)
    simp

/-- Reads a quoted text from behind its opening quote up to the first quote that is not escaped, and
undoes the escapes. -/
def unquote? (s : Text) : Option (Text × Text) :=
  match s with
  | [] => none
  | '"' :: rest => some ([], rest)
  | '\\' :: rest =>
    match h : unescape? rest with
    | none => none
    | some (c, after) =>
      have := unescape?_length h
      (unquote? after).map fun (text, rest) => (c :: text, rest)
  | c :: rest => (unquote? rest).map fun (text, rest) => (c :: text, rest)
termination_by s.length

theorem unquote?_backslash {s after : Text} {c : Char} (h : unescape? s = some (c, after)) :
    unquote? ('\\' :: s) = (unquote? after).map fun (text, rest) => (c :: text, rest) := by
  rw [unquote?]
  split
  · next hnone =>
    rw [h] at hnone
    contradiction
  · next hsome =>
    rw [h] at hsome
    obtain ⟨rfl, rfl⟩ := Prod.mk.inj (Option.some.inj hsome)
    rfl

theorem unescape?_numeric (c : Char) (s : Text) :
    unescape? ((numeric c).tail ++ s) = some (c, s) := by
  have hdigits : '\x7d' ∉ Nat.toDigits 16 c.toNat := by
    intro hmem
    obtain ⟨d, hd, hchar⟩ := digitChar_of_mem_toDigits (by decide) hmem
    have : ∀ d < 16, '\x7d' ≠ Nat.digitChar d := by decide
    exact this d hd hchar
  have hcut : cutFirst? '\x7d' (Nat.toDigits 16 c.toNat ++ '\x7d' :: s) =
      some (Nat.toDigits 16 c.toNat, s) :=
    cutFirst?_eq_some_iff.2 ⟨rfl, hdigits⟩
  have htail : (numeric c).tail ++ s =
      'u' :: '\x7b' :: (Nat.toDigits 16 c.toNat ++ '\x7d' :: s) := by
    simp [numeric]
  rw [htail, unescape?, hcut]
  simp only
  rw [number?_toDigits (by decide) (by decide), Option.map_some, Char.ofNat_toNat]

theorem escape_cases (c : Char) :
    (∃ letter ∈ "0trn\\\"".toList, escape c = ['\\', letter] ∧
      ∀ s, unescape? (letter :: s) = some (c, s)) ∨
    escape c = numeric c ∨
    escape c = [c] ∧ c ≠ '\\' ∧ c ≠ '"' ∧ isPrintable c = true := by
  by_cases hshort : c ∈ ['\x00', '\t', '\r', '\n', '\\', '"']
  · left
    simp only [List.mem_cons, List.not_mem_nil, or_false] at hshort
    obtain rfl | rfl | rfl | rfl | rfl | rfl := hshort
    · exact ⟨'0', by decide, rfl, fun s => rfl⟩
    · exact ⟨'t', by decide, rfl, fun s => rfl⟩
    · exact ⟨'r', by decide, rfl, fun s => rfl⟩
    · exact ⟨'n', by decide, rfl, fun s => rfl⟩
    · exact ⟨'\\', by decide, rfl, fun s => rfl⟩
    · exact ⟨'"', by decide, rfl, fun s => rfl⟩
  · right
    simp only [List.mem_cons, List.not_mem_nil, or_false, not_or] at hshort
    obtain ⟨hnul, htab, hcr, hlf, hslash, hquote⟩ := hshort
    have hescape : escape c = if extendsGrapheme c || !isPrintable c then numeric c else [c] := by
      simp only [escape, hnul, htab, hcr, hlf, hslash, hquote, if_false]
    split at hescape
    · exact .inl hescape
    · next hvisible =>
      simp only [Bool.or_eq_true, Bool.not_eq_true', not_or, Bool.not_eq_false] at hvisible
      exact .inr ⟨hescape, hslash, hquote, hvisible.2⟩

theorem unquote?_escape_append (c : Char) (s : Text) :
    unquote? (escape c ++ s) = (unquote? s).map fun (text, rest) => (c :: text, rest) := by
  obtain ⟨letter, -, hescape, hread⟩ | hescape | ⟨hescape, hslash, hquote, -⟩ := escape_cases c
  · rw [hescape]
    exact unquote?_backslash (hread s)
  · rw [hescape]
    exact unquote?_backslash (unescape?_numeric c s)
  · rw [hescape, List.singleton_append, unquote?]
    · exact hquote
    · exact hslash

theorem unquote?_quote (s rest : Text) :
    unquote? (s.flatMap escape ++ '"' :: rest) = some (s, rest) := by
  induction s with
  | nil =>
    rw [List.flatMap_nil, List.nil_append, unquote?]
  | cons c s ih =>
    rw [List.flatMap_cons, List.append_assoc, unquote?_escape_append, ih]
    rfl

theorem eq_of_quote_append {s t rest rest' : Text} (h : quote s ++ rest = quote t ++ rest') :
    s = t ∧ rest = rest' := by
  simp only [quote, List.cons_append, List.append_assoc, List.nil_append, List.cons.injEq,
    true_and] at h
  have hread := unquote?_quote s rest
  rw [h, unquote?_quote, Option.some.injEq, Prod.mk.injEq] at hread
  exact ⟨hread.1.symm, hread.2.symm⟩

def breaksLine (c : Char) : Prop :=
  c.toNat < 0x20 ∨ c.toNat = 0x7F ∨ c.toNat ∈ [0x85, 0x2028, 0x2029]

theorem not_breaksLine_of_isPrintable {c : Char} (h : isPrintable c = true) : ¬ breaksLine c := by
  have hcontrol : ∀ n < 0x20, isPrintable (Char.ofNat n) = false := by decide
  have hother : ∀ n ∈ [0x7F, 0x85, 0x2028, 0x2029], isPrintable (Char.ofNat n) = false := by
    decide
  rw [← Char.ofNat_toNat c] at h
  rintro (hlow | hdelete | hmem)
  · rw [hcontrol _ hlow] at h
    contradiction
  · rw [hother c.toNat (by simp [hdelete])] at h
    contradiction
  · rw [hother c.toNat (List.mem_cons_of_mem _ hmem)] at h
    contradiction

theorem isPrintable_of_mem_numeric {c d : Char} (h : d ∈ numeric c) : isPrintable d = true := by
  have hdigit : ∀ n < 16, isPrintable (Nat.digitChar n) = true := by decide
  simp only [numeric, List.mem_append, List.mem_singleton] at h
  obtain (hopen | hmem) | hclose := h
  · have : ∀ d ∈ "\\u\x7b".toList, isPrintable d = true := List.all_eq_true.1 (by decide)
    exact this d hopen
  · obtain ⟨n, hn, rfl⟩ := digitChar_of_mem_toDigits (by decide) hmem
    exact hdigit n hn
  · rw [hclose]
    decide

theorem isPrintable_of_mem_escape {c d : Char} (h : d ∈ escape c) : isPrintable d = true := by
  have hshort : ∀ letter ∈ "0trn\\\"".toList, ['\\', letter].all isPrintable = true :=
    List.all_eq_true.1 (by decide)
  obtain ⟨letter, hletter, hescape, -⟩ | hescape | ⟨hescape, -, -, hprintable⟩ := escape_cases c
  · rw [hescape] at h
    exact List.all_eq_true.1 (hshort letter hletter) d h
  · rw [hescape] at h
    exact isPrintable_of_mem_numeric h
  · rw [hescape, List.mem_singleton] at h
    rwa [h]

theorem isPrintable_of_mem_quote {s : Text} {c : Char} (h : c ∈ quote s) :
    isPrintable c = true := by
  have hquote : isPrintable '"' = true := by decide
  simp only [quote, List.cons_append, List.mem_cons, List.mem_append, List.mem_flatMap,
    List.not_mem_nil, or_false] at h
  obtain rfl | ⟨d, -, hd⟩ | rfl := h
  · exact hquote
  · exact isPrintable_of_mem_escape hd
  · exact hquote

end ForwardProxy.Text
