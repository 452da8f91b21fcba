import ForwardProxy.Text.Digits

/-!
This module contains Internet addresses of both versions: the types, the texts that denote an
address, and the one text that an address is written as.
-/

namespace ForwardProxy.Ip

open Text (ofNat hex number?)

structure V4 where
  a : UInt8
  b : UInt8
  c : UInt8
  d : UInt8
  deriving DecidableEq, Repr

structure V6 where
  pieces : List UInt16
  length_pieces : pieces.length = 8
  deriving DecidableEq, Repr

def octet? (s : Text) : Option UInt8 :=
  if 1 < s.length ∧ s.head? = some '0' then none
  else
    match number? 10 s with
    | some n => if n < 256 then some (UInt8.ofNat n) else none
    | none => none

namespace V4

def toText (x : V4) : Text :=
  ['.'].intercalate [ofNat x.a.toNat, ofNat x.b.toNat, ofNat x.c.toNat, ofNat x.d.toNat]

def ofText? (s : Text) : Option V4 :=
  match s.splitOn '.' with
  | [a, b, c, d] => do return ⟨← octet? a, ← octet? b, ← octet? c, ← octet? d⟩
  | _ => none

def ofNat (n : Nat) : V4 :=
  ⟨UInt8.ofNat (n >>> 24), UInt8.ofNat (n >>> 16), UInt8.ofNat (n >>> 8), UInt8.ofNat n⟩

def isLoopback (x : V4) : Bool :=
  x.a == 127

def pieces (x : V4) : List UInt16 :=
  [x.a.toUInt16 * 256 + x.b.toUInt16, x.c.toUInt16 * 256 + x.d.toUInt16]

end V4

def piece? (s : Text) : Option UInt16 :=
  if s.length ≤ 4 then (number? 16 s).map UInt16.ofNat else none

/-- The pieces of a colon-parted text. Where `mixed` allows it, the last two may be dotted. -/
def pieces? (mixed : Bool) (s : Text) : Option (List UInt16) :=
  go (s.splitOn ':')
where
  go : List Text → Option (List UInt16)
    | [] => some []
    | [last] =>
      match if mixed then V4.ofText? last else none with
      | some v4 => some v4.pieces
      | none => (piece? last).map ([·])
    | first :: rest => do return (← piece? first) :: (← go rest)

def cutPair? : Text → Option (Text × Text)
  | ':' :: ':' :: rest => some ([], rest)
  | c :: rest => (cutPair? rest).map fun (before, after) => (c :: before, after)
  | [] => none

namespace V6

def ofPieces? (pieces : List UInt16) : Option V6 :=
  if h : pieces.length = 8 then some ⟨pieces, h⟩ else none

/-- Eight pieces, or fewer around a pair of colons that stands for at least one piece of zero. -/
def ofText? (s : Text) : Option V6 :=
  match cutPair? s with
  | none => (pieces? true s).bind ofPieces?
  | some (before, after) => do
    let left ← if before.isEmpty then some [] else pieces? false before
    let right ← if after.isEmpty then some [] else pieces? true after
    if left.length + right.length < 8 then
      ofPieces? (left ++ List.replicate (8 - left.length - right.length) 0 ++ right)
    else none

def longestZeros : List UInt16 → Nat × Nat
  | [] => (0, 0)
  | piece :: rest =>
    let (start, length) := longestZeros rest
    let here := ((piece :: rest).takeWhile (· == 0)).length
    if length ≤ here then (0, here) else (start + 1, length)

def joined (pieces : List UInt16) : Text :=
  [':'].intercalate (pieces.map fun piece => hex piece.toNat)

def toText (x : V6) : Text :=
  let (start, length) := longestZeros x.pieces
  if length < 2 then joined x.pieces
  else joined (x.pieces.take start) ++ [':', ':'] ++ joined (x.pieces.drop (start + length))

def mapped? (x : V6) : Option V4 :=
  match x.pieces with
  | [0, 0, 0, 0, 0, 0xFFFF, high, low] =>
    some ⟨(high / 256).toUInt8, high.toUInt8, (low / 256).toUInt8, low.toUInt8⟩
  | _ => none

def toMixedText (x : V6) : Text :=
  match x.mapped? with
  | some v4 => "::ffff:".toList ++ v4.toText
  | none => x.toText

def isLoopback (x : V6) : Bool :=
  x.pieces == [0, 0, 0, 0, 0, 0, 0, 1] || x.mapped?.any V4.isLoopback

end V6

end Ip

inductive Ip
  | v4 (x : Ip.V4)
  | v6 (x : Ip.V6)
  deriving DecidableEq, Repr

namespace Ip

def toText : Ip → Text
  | .v4 x => x.toText
  | .v6 x => x.toMixedText

def ofText? (s : Text) : Option Ip :=
  match V4.ofText? s with
  | some x => some (.v4 x)
  | none => (V6.ofText? s).map .v6

/-- The host itself: `127.0.0.0/8`, `::1`, and what is mapped from the former. -/
def isLoopback : Ip → Bool
  | .v4 x => x.isLoopback
  | .v6 x => x.isLoopback

end Ip

end ForwardProxy
