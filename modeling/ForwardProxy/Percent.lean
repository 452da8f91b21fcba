import ForwardProxy.Text.Digits

/-!
This module contains percent-encoding: a character that may not be written is replaced by the bytes
of its UTF-8 form, each as a percent sign and two hexadecimal digits.
-/

namespace ForwardProxy.Percent

def upperDigit (n : Nat) : Char :=
  (Nat.digitChar n).toUpper

def encodeByte (b : UInt8) : Text :=
  ['%', upperDigit (b.toNat / 16), upperDigit (b.toNat % 16)]

def encode (keep : Char → Bool) (s : Text) : Text :=
  s.flatMap fun c => if keep c then [c] else (String.utf8EncodeChar c).flatMap encodeByte

/-- The bytes that a text stands for. A percent sign without two digits stands for itself. -/
def bytes : Text → List UInt8
  | [] => []
  | [c] => String.utf8EncodeChar c
  | [c, d] => String.utf8EncodeChar c ++ String.utf8EncodeChar d
  | c :: hi :: lo :: rest =>
    if c = '%' then
      match Text.digit? 16 hi, Text.digit? 16 lo with
      | some x, some y => UInt8.ofNat (16 * x + y) :: bytes rest
      | _, _ => String.utf8EncodeChar c ++ bytes (hi :: lo :: rest)
    else String.utf8EncodeChar c ++ bytes (hi :: lo :: rest)

def decode? (s : Text) : Option Text :=
  (bytes s).toByteArray.utf8Decode?.map Array.toList

@[simp]
theorem encode_nil {keep : Char → Bool} : encode keep [] = [] := rfl

@[simp]
theorem encode_append {keep : Char → Bool} {s t : Text} :
    encode keep (s ++ t) = encode keep s ++ encode keep t := by
  simp [encode]

theorem encode_eq_self {keep : Char → Bool} {s : Text} (h : ∀ c ∈ s, keep c = true) :
    encode keep s = s := by
  induction s with
  | nil => rfl
  | cons c s ih =>
    have hs := ih fun d hd => h d (List.mem_cons_of_mem _ hd)
    simp only [encode] at hs
    simp [encode, h c List.mem_cons_self, hs]

theorem bytes_cons {c : Char} (hc : c ≠ '%') (s : Text) :
    bytes (c :: s) = String.utf8EncodeChar c ++ bytes s := by
  match s with
  | [] => simp [bytes]
  | [d] => simp [bytes]
  | hi :: lo :: rest => rw [bytes, if_neg hc]

theorem bytes_eq_flatMap {s : Text} (h : '%' ∉ s) : bytes s = s.flatMap String.utf8EncodeChar := by
  induction s with
  | nil => rfl
  | cons c s ih =>
    rw [List.mem_cons, not_or] at h
    rw [bytes_cons (Ne.symm h.1), ih h.2, List.flatMap_cons]

theorem decode?_eq_self {s : Text} (h : '%' ∉ s) : decode? s = some s := by
  have : (s.flatMap String.utf8EncodeChar).toByteArray.utf8Decode? = some s.toArray :=
    List.utf8Decode?_utf8Encode
  rw [decode?, bytes_eq_flatMap h, this]
  simp

end ForwardProxy.Percent
