import ForwardProxy.Text

/-!
This module contains Punycode: the ASCII characters of a label, followed by numbers in base 36 that
tell which other characters to put in, and where.
-/

namespace ForwardProxy.Punycode

def digit? (c : Char) : Option Nat :=
  let n := c.toNat
  if 97 ≤ n ∧ n ≤ 122 then some (n - 97)
  else if 65 ≤ n ∧ n ≤ 90 then some (n - 65)
  else if 48 ≤ n ∧ n ≤ 57 then some (n - 22)
  else none

def ofDigit (n : Nat) : Char :=
  if n < 26 then Char.ofNat (n + 97) else Char.ofNat (n + 22)

def threshold (place bias : Nat) : Nat :=
  if place ≤ bias then 1 else if bias + 26 ≤ place then 26 else place - bias

theorem one_le_threshold {place bias : Nat} : 1 ≤ threshold place bias := by
  unfold threshold
  split
  · omega
  · split <;> omega

theorem threshold_le {place bias : Nat} : threshold place bias ≤ 26 := by
  unfold threshold
  split
  · omega
  · split <;> omega

def adapt (delta length : Nat) (isFirst : Bool) : Nat :=
  let delta := if isFirst then delta / 700 else delta / 2
  go 0 (delta + delta / length)
where
  go (k delta : Nat) : Nat :=
    if delta ≤ 455 then k + 36 * delta / (delta + 38) else go (k + 36) (delta / 35)
  termination_by delta

def writeNumber (bias place n : Nat) : Text :=
  if h : n < threshold place bias then [ofDigit n]
  else
    let t := threshold place bias
    ofDigit (t + (n - t) % (36 - t)) :: writeNumber bias (place + 36) ((n - t) / (36 - t))
termination_by n
decreasing_by
  have := @one_le_threshold place bias
  exact Nat.lt_of_le_of_lt (Nat.div_le_self _ _) (by omega)

/-- The state between two insertions: no character below `least` is left to put in, and `delta`
places have been passed since the last insertion. -/
structure Encoder where
  least : Nat
  delta : Nat
  bias : Nat
  /-- The characters written so far, as they are or as numbers. -/
  written : Nat
  isFirst : Bool
  output : Text

def Encoder.pass (e : Encoder) (c : Char) : Encoder :=
  if c.toNat < e.least then { e with delta := e.delta + 1 }
  else if c.toNat = e.least then
    { e with
      delta := 0
      bias := adapt e.delta (e.written + 1) e.isFirst
      written := e.written + 1
      isFirst := false
      output := e.output ++ writeNumber e.bias 36 e.delta }
  else e

def Encoder.put (s : Text) (e : Encoder) (n : Nat) : Encoder :=
  let e := { e with delta := e.delta + (n - e.least) * (e.written + 1), least := n }
  let e := s.foldl Encoder.pass e
  { e with delta := e.delta + 1, least := n + 1 }

def foreign (s : Text) : List Nat :=
  s.foldr (fun c ns => if c.toNat < 0x80 then ns else insert c.toNat ns) []
where
  insert (n : Nat) : List Nat → List Nat
    | [] => [n]
    | m :: ms => if n < m then n :: m :: ms else if n = m then m :: ms else m :: insert n ms

def encode (s : Text) : Text :=
  let basic := s.filter fun c => c.toNat < 0x80
  let output := if basic.isEmpty then [] else basic ++ ['-']
  ((foreign s).foldl (Encoder.put s) ⟨0x80, 0, 72, basic.length, true, output⟩).output

/-- A number is read digit by digit, and added to `index` on the way. -/
structure Decoder where
  point : Nat
  index : Nat
  bias : Nat
  /-- The index before the number in hand. -/
  start : Nat
  place : Nat
  weight : Nat
  text : Text

def checked (n : Nat) : Option Nat :=
  if n < UInt32.size then some n else none

def char? (n : Nat) : Option Char :=
  if n.isValidChar then some (Char.ofNat n) else none

def Decoder.insert? (d : Decoder) : Option Decoder := do
  let length := d.text.length + 1
  let point ← checked (d.point + d.index / length)
  let c ← char? point
  let index := d.index % length
  return {
    point
    index := index + 1
    bias := adapt (d.index - d.start) length (d.start == 0)
    start := index + 1
    place := 36
    weight := 1
    text := d.text.take index ++ c :: d.text.drop index }

def Decoder.run? (d : Decoder) : Text → Option Text
  | [] => if d.place = 36 then some d.text else none
  | c :: rest => do
    let digit ← digit? c
    let index ← checked (d.index + (← checked (digit * d.weight)))
    let d := { d with index }
    let t := threshold d.place d.bias
    if digit < t then (← d.insert?).run? rest
    else
      let weight ← checked (d.weight * (36 - t))
      { d with weight, place := d.place + 36 }.run? rest

def decode? (s : Text) : Option Text :=
  match Text.cutLast? '-' s with
  | some (c :: basic, digits) => run (c :: basic) digits
  | _ => run [] s
where
  run (basic digits : Text) : Option Text :=
    (Decoder.mk 0x80 0 72 0 36 1 basic).run? digits

end ForwardProxy.Punycode
