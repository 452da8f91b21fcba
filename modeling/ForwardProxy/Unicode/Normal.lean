import ForwardProxy.Unicode.CombiningClass
import ForwardProxy.Unicode.Composition

/-!
This module contains normalization form C: marks stand in their canonical order, and a base and its
marks are written as one character wherever there is one.
-/

namespace ForwardProxy.Unicode

def hangulParts? (c : Char) : Option (List Char) :=
  let n := c.toNat
  if 0xAC00 ≤ n ∧ n < 0xAC00 + 11172 then
    let index := n - 0xAC00
    let leading := Char.ofNat (0x1100 + index / 588)
    let vowel := Char.ofNat (0x1161 + index % 588 / 28)
    let trailing := index % 28
    some (leading :: vowel :: if trailing = 0 then [] else [Char.ofNat (0x11A7 + trailing)])
  else none

def hangulComposite? (first second : Char) : Option Char :=
  let m := first.toNat
  let n := second.toNat
  if 0x1100 ≤ m ∧ m < 0x1113 ∧ 0x1161 ≤ n ∧ n < 0x1176 then
    some (Char.ofNat (0xAC00 + ((m - 0x1100) * 21 + (n - 0x1161)) * 28))
  else if 0xAC00 ≤ m ∧ m < 0xAC00 + 11172 ∧ (m - 0xAC00) % 28 = 0 ∧ 0x11A8 ≤ n ∧ n < 0x11C3 then
    some (Char.ofNat (m + (n - 0x11A7)))
  else none

/-- The canonical decomposition of a character. No composite has more than three marks. -/
def decomposed (c : Char) : List Char :=
  match hangulParts? c with
  | some parts => parts
  | none => go 3 c
where
  go : Nat → Char → List Char
    | 0, c => [c]
    | depth + 1, c =>
      match canonicalPair? c with
      | some (base, mark) => go depth base ++ [mark]
      | none => [c]

def reordered : List Char → List Char
  | [] => []
  | c :: rest => place c (reordered rest)
where
  place (c : Char) : List Char → List Char
    | [] => [c]
    | d :: rest =>
      if combiningClass d ≠ 0 ∧ combiningClass d < combiningClass c then d :: place c rest
      else c :: d :: rest

def composed : List Char → List Char
  | [] => []
  | c :: rest => go c [] rest
where
  /-- The marks between the base and the rest are given from their end. -/
  go (base : Char) (marks : List Char) : List Char → List Char
    | [] => base :: marks.reverse
    | c :: rest =>
      let isNear := marks.head?.all fun mark => combiningClass mark < combiningClass c
      match if isNear then (hangulComposite? base c).or (primaryComposite? base c) else none with
      | some joined => go joined marks rest
      | none =>
        if combiningClass c = 0 then base :: marks.reverse ++ go c [] rest
        else go base (c :: marks) rest

/-- Normalization form C. Characters below the first mark are in that form already. -/
def normalForm (s : List Char) : List Char :=
  if s.all fun c => c.toNat < 0x300 then s
  else composed (reordered (s.flatMap decomposed))

end ForwardProxy.Unicode
