import ForwardProxy.Text

/-!
This module contains natural numbers as they are read and written in a base up to sixteen.
-/

namespace ForwardProxy.Text

def digit? (base : Nat) (c : Char) : Option Nat :=
  let n := c.toNat
  let value :=
    if 48 ≤ n ∧ n ≤ 57 then n - 48
    else if 97 ≤ n ∧ n ≤ 102 then n - 87
    else if 65 ≤ n ∧ n ≤ 70 then n - 55
    else base
  if value < base then some value else none

def isDecimal (c : Char) : Bool :=
  (digit? 10 c).isSome

def readDigits (base : Nat) : Nat → Text → Option Nat
  | n, [] => some n
  | n, c :: rest =>
    match digit? base c with
    | some value => readDigits base (n * base + value) rest
    | none => none

def number? (base : Nat) (s : Text) : Option Nat :=
  if s.isEmpty then none else readDigits base 0 s

def ofNat (n : Nat) : Text :=
  Nat.toDigits 10 n

def hex (n : Nat) : Text :=
  Nat.toDigits 16 n

theorem readDigits_append {base n : Nat} {s t : Text} :
    readDigits base n (s ++ t) = (readDigits base n s).bind (readDigits base · t) := by
  induction s generalizing n with
  | nil => simp [readDigits]
  | cons c s ih =>
    simp only [List.cons_append, readDigits]
    split <;> simp [ih]

end ForwardProxy.Text
