import ForwardProxy.Idna
import ForwardProxy.Percent
import ForwardProxy.Url

/-!
This module contains the reading of hosts. The host of a server is looked up by name or number, so
it is brought into one form; any other host is only checked and encoded.
-/

namespace ForwardProxy.Url

open Text (number?)

def bracketed (s : Text) : Except ParseError Host :=
  if s.getLast? = some ']' then
    match Ip.V6.ofText? s.dropLast with
    | some address => .ok (.ipv6 address)
    | none => .error .invalidIpv6
  else .error .invalidIpv6

/-- A part of a numeric address: octal after a zero, hexadecimal after `0x`, and decimal else. -/
def addressPart? (s : Text) : Option Nat :=
  match s with
  | '0' :: x :: digits =>
    if x = 'x' ∨ x = 'X' then if digits.isEmpty then some 0 else number? 16 digits
    else number? 8 (x :: digits)
  | _ => number? 10 s

def addressParts (s : Text) : List Text :=
  let parts := s.splitOn '.'
  if parts.getLast? = some [] then parts.dropLast else parts

/-- A name whose last part is a number has to be an address. -/
def endsInNumber (s : Text) : Bool :=
  match (addressParts s).getLast? with
  | none => false
  | some part => (number? 10 part).isSome || (addressPart? part).isSome

def address? (s : Text) : Option Ip.V4 := do
  let parts := addressParts s
  let numbers ← parts.mapM addressPart?
  let last ← numbers.getLast?
  let front := numbers.dropLast
  let room := 1 <<< (8 * (4 - front.length))
  if 3 < front.length || front.any (255 < ·) || room ≤ last then none
  else return .ofNat (front.foldl (fun value n => value * 256 + n) 0 * room + last)

def isReserved (c : Char) : Bool :=
  c ∈ ['#', '/', ':', '<', '>', '?', '@', '[', '\\', ']', '^', '|']

def isDenied (c : Char) : Bool :=
  c.toNat ≤ 0x20 || c.toNat == 0x7F || c = '%' || isReserved c

def serverHost (s : Text) : Except ParseError Host :=
  match s with
  | '[' :: rest => bracketed rest
  | _ =>
    match (Percent.decode? s).bind (Idna.toAscii? isDenied) with
    | none => .error .invalidDomainName
    | some name =>
      if name.isEmpty then .error .emptyHost
      else if endsInNumber name then
        match address? name with
        | some address => .ok (.ipv4 address)
        | none => .error .invalidIpv4
      else .ok (.domain name)

def genericHost (s : Text) : Except ParseError Host :=
  match s with
  | '[' :: rest => bracketed rest
  | _ =>
    if s.any fun c => c ∈ ['\x00', '\t', '\n', '\r', ' '] || isReserved c then
      .error .invalidDomainCharacter
    else .ok (.domain (Percent.encode keepsInPlain s))

end ForwardProxy.Url
