import ForwardProxy.Binary64.Shortest

/-!
This module contains numbers of JSON. A whole number that fits into 64 bits is exact; any other one
is computed with fifty-three binary digits.
-/

namespace ForwardProxy.Json

open Text (isDecimal)

structure Numeral where
  isNegative : Bool
  whole : Text
  fraction : Option Text
  /-- Whether the exponent is negative, and its digits. -/
  exponent : Option (Bool × Text)
  deriving DecidableEq, Repr

def readDigits? (s : Text) : Option (Text × Text) :=
  let digits := s.takeWhile isDecimal
  if digits.isEmpty then none else some (digits, s.drop digits.length)

def readSign (s : Text) : Bool × Text :=
  match s with
  | '-' :: rest => (true, rest)
  | '+' :: rest => (false, rest)
  | _ => (false, s)

def readWhole? (s : Text) : Option (Text × Text) :=
  match readDigits? s with
  | some ('0' :: _ :: _, _) => none
  | other => other

def readFraction? (s : Text) : Option (Option Text × Text) :=
  match s with
  | '.' :: rest => (readDigits? rest).map fun (digits, rest) => (some digits, rest)
  | _ => some (none, s)

def readExponent? (s : Text) : Option (Option (Bool × Text) × Text) :=
  match s with
  | c :: rest =>
    if c = 'e' ∨ c = 'E' then
      let (isNegative, rest) := readSign rest
      (readDigits? rest).map fun (digits, rest) => (some (isNegative, digits), rest)
    else some (none, s)
  | [] => some (none, s)

def readNumeral? (s : Text) : Option (Numeral × Text) := do
  let (isNegative, s) := if s.head? = some '-' then (true, s.tail) else (false, s)
  let (whole, s) ← readWhole? s
  let (fraction, s) ← readFraction? s
  let (exponent, s) ← readExponent? s
  return (⟨isNegative, whole, fraction, exponent⟩, s)

inductive Number
  | whole (n : Int)
  | decimal (isNegative : Bool) (x : Binary64)
  deriving DecidableEq, Repr

def Number.toText : Number → Text
  | .whole n => (if n < 0 then ['-'] else []) ++ Text.ofNat n.natAbs
  | .decimal isNegative x => (if isNegative then ['-'] else []) ++ x.toText

def appendDigits (n : Nat) : Text → Nat × Nat
  | [] => (n, 0)
  | c :: rest =>
    match Text.digit? 10 c with
    | some d =>
      let next := n * 10 + d
      if next < UInt64.size then appendDigits next rest else (n, rest.length + 1)
    | none => (n, rest.length + 1)

/-- Divides by a power of ten, in steps that a power of ten can have. -/
def divideByPower (x : Binary64) (k : Nat) : Binary64 :=
  if h : 308 < k then
    if x.isZero then x else divideByPower (x.div (.powerOfTen 308)) (k - 308)
  else x.div (.powerOfTen k)
termination_by k
decreasing_by omega

def scaled? (significand : Nat) (power : Int) : Option Binary64 :=
  let x := Binary64.ofNat significand
  if power < 0 then some (divideByPower x power.natAbs)
  else if 308 < power then if significand = 0 then some x else none
  else
    let y := x.mul (.powerOfTen power.natAbs)
    if y.isFinite then some y else none

namespace Numeral

def significand (x : Numeral) : Nat × Int :=
  let (n, dropped) := appendDigits 0 x.whole
  let fraction := x.fraction.getD []
  let (n, rest) := appendDigits n fraction
  (n, dropped - (fraction.length - rest))

def value? (x : Numeral) : Option Number :=
  let (n, power) := x.significand
  let whole? : Option Int :=
    if x.fraction.isSome || x.exponent.isSome || power ≠ 0 then none
    else if !x.isNegative then some n
    else if 1 ≤ n ∧ 2 * n ≤ UInt64.size then some (-n)
    else none
  match whole? with
  | some n => some (.whole n)
  | none =>
    let shift : Int :=
      match x.exponent with
      | none => 0
      | some (isNegative, digits) =>
        let size := (Text.number? 10 digits).getD 0
        if isNegative then -size else size
    if UInt32.size ≤ 2 * shift.natAbs then
      if n = 0 ∨ shift < 0 then some (.decimal x.isNegative (.ofNat 0)) else none
    else (scaled? n (power + shift)).map (.decimal x.isNegative)

end Numeral

theorem readDigits?_length {s digits rest : Text} (h : readDigits? s = some (digits, rest)) :
    rest.length < s.length := by
  unfold readDigits? at h
  simp only at h
  split at h
  · simp at h
  · rename_i hd
    simp only [Option.some.injEq, Prod.mk.injEq] at h
    have hs : s ≠ [] := by
      rintro rfl
      simp at hd
    rw [← h.2, List.length_drop]
    have := List.length_pos_iff.2 hs
    have : 0 < (s.takeWhile isDecimal).length := by
      apply List.length_pos_iff.2
      simpa using hd
    omega

theorem readWhole?_length {s digits rest : Text} (h : readWhole? s = some (digits, rest)) :
    rest.length < s.length := by
  unfold readWhole? at h
  split at h
  · simp at h
  · exact readDigits?_length h

theorem readFraction?_length {s rest : Text} {digits : Option Text}
    (h : readFraction? s = some (digits, rest)) : rest.length ≤ s.length := by
  unfold readFraction? at h
  split at h
  · obtain ⟨p, hp, h⟩ := Option.map_eq_some_iff.1 h
    have := readDigits?_length hp
    simp only [Prod.mk.injEq] at h
    simp only [← h.2, List.length_cons]
    omega
  · simp only [Option.some.injEq, Prod.mk.injEq] at h
    simp [h.2]

theorem readSign_length {s : Text} : (readSign s).2.length ≤ s.length := by
  unfold readSign
  split <;> simp

theorem readExponent?_length {s rest : Text} {digits : Option (Bool × Text)}
    (h : readExponent? s = some (digits, rest)) : rest.length ≤ s.length := by
  unfold readExponent? at h
  split at h
  · rename_i c tail
    split at h
    · obtain ⟨p, hp, h⟩ := Option.map_eq_some_iff.1 h
      have : p.2.length < (readSign tail).2.length := readDigits?_length hp
      have := @readSign_length tail
      simp only [Prod.mk.injEq] at h
      simp only [← h.2, List.length_cons]
      omega
    · simp only [Option.some.injEq, Prod.mk.injEq] at h
      simp [h.2]
  · simp only [Option.some.injEq, Prod.mk.injEq] at h
    simp [h.2]

theorem readNumeral?_length {s rest : Text} {x : Numeral}
    (h : readNumeral? s = some (x, rest)) : rest.length < s.length := by
  unfold readNumeral? at h
  simp only [Option.bind_eq_bind, Option.bind_eq_some_iff, Prod.exists, Option.pure_def,
    Option.some.injEq, Prod.mk.injEq] at h
  obtain ⟨whole, a, hw, fraction, b, hf, exponent, c, he, -, rfl⟩ := h
  have hw := readWhole?_length hw
  have hf := readFraction?_length hf
  have he := readExponent?_length he
  have : (if s.head? = some '-' then (true, s.tail) else (false, s)).2.length ≤ s.length := by
    split <;> simp
  omega

end ForwardProxy.Json
