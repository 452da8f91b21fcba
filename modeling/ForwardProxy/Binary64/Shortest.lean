import ForwardProxy.Binary64
import ForwardProxy.Text.Digits

/-!
This module contains the decimal text of a number with fifty-three binary digits: the fewest digits
that tell it from all others, and of those the nearest.
-/

namespace ForwardProxy.Binary64

def borders (x : Binary64) : (Nat × Nat) × (Nat × Nat) :=
  let quarter := ⟨1, x.exponent - 2⟩
  let (unit, d) := ratio quarter
  let below := if x.mantissa = limit / 2 ∧ -1074 < x.exponent then 1 else 2
  (((4 * x.mantissa - below) * unit, d), ((4 * x.mantissa + 2) * unit, d))

def isReadAs (x : Binary64) (n d : Nat) : Bool :=
  let ((low, lowD), (high, highD)) := x.borders
  let a := low * d
  let b := n * lowD
  let e := n * highD
  let f := high * d
  (a < b && e < f) || (x.mantissa % 2 == 0 && a ≤ b && e ≤ f)

def leadingZeros (n d : Nat) : Nat → Nat
  | 0 => 0
  | fuel + 1 => if d ≤ n then 0 else leadingZeros (10 * n) d fuel + 1

def magnitude (x : Binary64) : Int :=
  let (n, d) := x.ratio
  if d ≤ n then (Nat.toDigits 10 (n / d)).length - 1
  else -(leadingZeros n d 400 : Int)

def candidate? (x : Binary64) (place : Int) : Option Nat :=
  let (n, d) := x.ratio
  let n := n * Nat.pow 10 (-place).toNat
  let d := d * Nat.pow 10 place.toNat
  let low := n / d
  let isRead (digits : Nat) :=
    x.isReadAs (digits * Nat.pow 10 place.toNat) (Nat.pow 10 (-place).toNat)
  match isRead low, isRead (low + 1) with
  | true, false => some low
  | false, true => some (low + 1)
  | true, true =>
    let rest := 2 * (n % d)
    if rest < d ∨ (rest = d ∧ low % 2 = 0) then some low else some (low + 1)
  | false, false => none

def dropZeros (digits : Nat) (place : Int) : Nat → Nat × Int
  | 0 => (digits, place)
  | fuel + 1 =>
    if digits % 10 = 0 then dropZeros (digits / 10) (place + 1) fuel else (digits, place)

/-- The fewest digits that are read as the number, and the place of the last one. -/
def shortest (x : Binary64) : Nat × Int :=
  go x.magnitude 17
where
  go (place : Int) : Nat → Nat × Int
    | 0 => (0, place)
    | fuel + 1 =>
      match x.candidate? place with
      | some digits => dropZeros digits place 17
      | none => go (place - 1) fuel

/-- Digits are written with a point from `10 ^ -5` to `10 ^ 16`, and with an exponent outside, whose
sign is always written. -/
def toText (x : Binary64) : Text :=
  if x.isZero then "0.0".toList
  else
    let (digits, place) := x.shortest
    let text := Text.ofNat digits
    let point := text.length + place
    if 0 ≤ place ∧ point ≤ 16 then text ++ List.replicate place.toNat '0' ++ ".0".toList
    else if 0 < point ∧ point ≤ 16 then
      text.take point.toNat ++ '.' :: text.drop point.toNat
    else if -5 < point ∧ point ≤ 0 then
      "0.".toList ++ List.replicate (-point).toNat '0' ++ text
    else
      let exponent := point - 1
      let exponent := (if exponent < 0 then '-' else '+') :: Text.ofNat exponent.natAbs
      match text with
      | [digit] => digit :: 'e' :: exponent
      | digit :: rest => digit :: '.' :: rest ++ 'e' :: exponent
      | [] => []

end ForwardProxy.Binary64
