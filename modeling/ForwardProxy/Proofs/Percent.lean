import ForwardProxy.Percent
import ForwardProxy.Proofs.Text

/-!
This module contains the theory of percent-encoding. Main statements: `decode?_encode` says that a
text is read back from its encoded form, and `decode?_eq_none_iff` which texts stand for no text.
-/

namespace ForwardProxy.Percent

variable {keep : Char → Bool} {c : Char} {s t : Text}

theorem encode_cons :
    encode keep (c :: s) =
      (if keep c then [c] else (String.utf8EncodeChar c).flatMap encodeByte) ++ encode keep s :=
  List.flatMap_cons

theorem encode_eq_nil_iff : encode keep s = [] ↔ s = [] := by
  cases s with
  | nil => simp
  | cons c s =>
    have hfirst :
        (if keep c then [c] else (String.utf8EncodeChar c).flatMap encodeByte) ≠ [] := by
      split
      · exact List.cons_ne_nil _ _
      · cases hbytes : String.utf8EncodeChar c with
        | nil => exact absurd hbytes String.utf8EncodeChar_ne_nil
        | cons b bytes => exact List.cons_ne_nil _ _
    simp [encode_cons, hfirst]

theorem digit?_upperDigit {n : Nat} (h : n < 16) : Text.digit? 16 (upperDigit n) = some n := by
  have hdigits : ∀ n < 16, Text.digit? 16 (upperDigit n) = some n := by decide
  exact hdigits n h

theorem bytes_encodeByte_append (b : UInt8) (s : Text) :
    bytes (encodeByte b ++ s) = b :: bytes s := by
  have hbyte : b.toNat < 256 := b.toNat_lt
  have hhigh := digit?_upperDigit (n := b.toNat / 16) (by omega)
  have hlow := digit?_upperDigit (n := b.toNat % 16) (by omega)
  have hvalue : 16 * (b.toNat / 16) + b.toNat % 16 = b.toNat := Nat.div_add_mod _ _
  rw [encodeByte, List.cons_append, List.cons_append, List.singleton_append, bytes, if_pos rfl,
    hhigh, hlow]
  dsimp only
  rw [hvalue, UInt8.ofNat_toNat]

theorem bytes_flatMap_encodeByte_append (l : List UInt8) (s : Text) :
    bytes (l.flatMap encodeByte ++ s) = l ++ bytes s := by
  induction l with
  | nil => rfl
  | cons b l ih =>
    rw [List.flatMap_cons, List.append_assoc, bytes_encodeByte_append, ih, List.cons_append]

theorem bytes_encode (h : ∀ c ∈ s, keep c = true → c ≠ '%') :
    bytes (encode keep s) = s.flatMap String.utf8EncodeChar := by
  induction s with
  | nil => rfl
  | cons c s ih =>
    rw [List.forall_mem_cons] at h
    rw [encode_cons, List.flatMap_cons]
    split
    · next hkeep => rw [List.singleton_append, bytes_cons (h.1 hkeep), ih h.2]
    · rw [bytes_flatMap_encodeByte_append, ih h.2]

theorem decode?_eq_some_iff : decode? s = some t ↔ bytes s = t.flatMap String.utf8EncodeChar :=
  Text.utf8Decode?_eq_some_iff

theorem decode?_eq_none_iff : decode? s = none ↔ ¬ (bytes s).toByteArray.IsValidUTF8 :=
  Text.utf8Decode?_eq_none_iff

theorem decode?_encode (h : ∀ c ∈ s, keep c = true → c ≠ '%') :
    decode? (encode keep s) = some s :=
  decode?_eq_some_iff.2 (bytes_encode h)

theorem ascii_of_mem_encodeByte {b : UInt8} (h : c ∈ encodeByte b) : c.toNat < 0x80 := by
  have hdigits : ∀ n < 16, (upperDigit n).toNat < 0x80 := by decide
  have hbyte : b.toNat < 256 := b.toNat_lt
  simp only [encodeByte, List.mem_cons, List.not_mem_nil, or_false] at h
  rcases h with rfl | rfl | rfl
  · decide
  · exact hdigits _ (by omega)
  · exact hdigits _ (by omega)

theorem ascii_of_mem_encode (hkeep : ∀ c, keep c = true → c.toNat < 0x80)
    (h : c ∈ encode keep s) : c.toNat < 0x80 := by
  obtain ⟨d, -, hd⟩ := List.mem_flatMap.1 h
  split at hd
  · next hkept =>
    rw [List.mem_singleton.1 hd]
    exact hkeep d hkept
  · obtain ⟨b, -, hb⟩ := List.mem_flatMap.1 hd
    exact ascii_of_mem_encodeByte hb

end ForwardProxy.Percent
