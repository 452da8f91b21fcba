/-!
This module contains numbers with fifty-three binary digits, as most machines compute with them. A
result that needs more digits is rounded to the nearest number, and to the even one of two.
-/

namespace ForwardProxy

/-- The value `mantissa * 2 ^ exponent`. Signs are kept elsewhere. -/
structure Binary64 where
  mantissa : Nat
  exponent : Int
  deriving DecidableEq, Repr

namespace Binary64

def limit : Nat :=
  1 <<< 53

def bits (n : Nat) : Nat :=
  if n = 0 then 0 else n.log2 + 1

def quotient (n d : Nat) (exponent : Int) : Nat × Bool :=
  let n := n <<< (-exponent).toNat
  let d := d <<< exponent.toNat
  let q := n / d
  (q, d < 2 * (n % d) || (d == 2 * (n % d) && q % 2 == 1))

def ofRatio (n d : Nat) : Binary64 :=
  let least := max (bits n - bits d - 53 : Int) (-1074)
  let exponent := if (quotient n d least).1 < limit then least else least + 1
  let (q, up) := quotient n d exponent
  let q := if up then q + 1 else q
  if q = limit then ⟨limit / 2, exponent + 1⟩ else ⟨q, exponent⟩

def ratio (x : Binary64) : Nat × Nat :=
  (x.mantissa <<< x.exponent.toNat, 1 <<< (-x.exponent).toNat)

def isZero (x : Binary64) : Bool :=
  x.mantissa == 0

def isFinite (x : Binary64) : Bool :=
  x.exponent ≤ 971

def mul (x y : Binary64) : Binary64 :=
  let (a, b) := x.ratio
  let (c, d) := y.ratio
  ofRatio (a * c) (b * d)

def div (x y : Binary64) : Binary64 :=
  let (a, b) := x.ratio
  let (c, d) := y.ratio
  ofRatio (a * d) (b * c)

def ofNat (n : Nat) : Binary64 :=
  ofRatio n 1

def powerOfTen (k : Nat) : Binary64 :=
  ofNat (Nat.pow 10 k)

end Binary64

end ForwardProxy
