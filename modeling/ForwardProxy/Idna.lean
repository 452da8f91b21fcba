import ForwardProxy.Idna.Mapping
import ForwardProxy.Idna.Punycode
import ForwardProxy.Unicode.BidiClass
import ForwardProxy.Unicode.JoiningType
import ForwardProxy.Unicode.Normal

/-!
This module contains the ASCII form of internationalised host names. A name is mapped and normalized
as a whole and checked label by label: its joiners, which are invisible and allowed only where they
change the shape of the letters beside them, and its direction, by which it stays readable when
parts of the name run from right to left. Then the labels outside ASCII are written in Punycode.
-/

namespace ForwardProxy.Idna

open Unicode

def nonJoiner : Char := '\u200c'

def joiner : Char := '\u200d'

def meets (kinds : List JoiningType) (s : Text) : Bool :=
  match s.dropWhile fun c => joiningType c = .transparent with
  | [] => false
  | c :: _ => joiningType c ∈ kinds

def allowsJoiner (before : Text) (c : Char) (after : Text) : Bool :=
  if c = joiner then before.head?.any isVirama
  else if c = nonJoiner then
    before.head?.any isVirama || (meets [.left, .dual] before && meets [.right, .dual] after)
  else true

def joinersFit (label : Text) : Bool :=
  go [] label
where
  go (before : Text) : Text → Bool
    | [] => true
    | c :: after => allowsJoiner before c after && go (c :: before) after

def runsRightToLeft (s : Text) : Bool :=
  s.any fun c => bidiClass c ∈ [.rightToLeft, .arabicLetter, .arabicNumber]

def isNeutral (k : BidiClass) : Bool :=
  k ∈ [.europeanNumber, .europeanSeparator, .europeanTerminator, .commonSeparator, .otherNeutral,
    .boundaryNeutral, .nonspacingMark]

def lastClass? (classes : List BidiClass) : Option BidiClass :=
  (classes.filter (· ≠ .nonspacingMark)).getLast?

def keepsDirection (label : Text) : Bool :=
  let classes := label.map bidiClass
  match classes with
  | [] => true
  | first :: _ =>
    if first = .leftToRight then
      classes.all (fun k => k = .leftToRight || isNeutral k) &&
        (lastClass? classes).any (· ∈ [.leftToRight, .europeanNumber])
    else if first = .rightToLeft ∨ first = .arabicLetter then
      classes.all
          (fun k => k ∈ [.rightToLeft, .arabicLetter, .arabicNumber] || isNeutral k) &&
        (lastClass? classes).any
          (· ∈ [.rightToLeft, .arabicLetter, .europeanNumber, .arabicNumber]) &&
        !(classes.contains .europeanNumber && classes.contains .arabicNumber)
    else false

def mapped? (s : Text) : Option Text :=
  (go s).map normalForm
where
  go : Text → Option Text
    | [] => some []
    | c :: rest =>
      match mapChar c with
      | .refused => none
      | .text replacement => (go rest).map (replacement ++ ·)

def marker : Text := "xn--".toList

def isSound (label : Text) : Bool :=
  Text.isAscii label || (!label.head?.any isMark && joinersFit label && label.length ≤ 1000)

/-- The characters that a label stands for. A label in Punycode stands for one that is in mapped
form already, and that holds neither a dot nor a denied character. -/
def unicodeLabel? (denied : Char → Bool) (label : Text) : Option Text :=
  match Text.dropStart? marker label with
  | none => some label
  | some coded =>
    if !Text.isAscii coded || coded.isEmpty || coded.getLast? = some '-' || 2000 < coded.length then
      none
    else
      match Punycode.decode? coded with
      | none => none
      | some decoded =>
        if mapped? decoded = some decoded && !decoded.any (fun c => c = '.' || denied c) then
          some decoded
        else none

def asciiLabel (label : Text) : Text :=
  if Text.isAscii label then label else marker ++ Punycode.encode label

/-- The ASCII form of a name. Denied are characters of the mapped name, and all of them ASCII. -/
def toAscii? (denied : Char → Bool) (name : Text) : Option Text := do
  let mapped ← mapped? name
  if mapped.any denied then none
  else
    let labels := mapped.splitOn '.'
    let plain ← labels.mapM (unicodeLabel? denied)
    if plain.all isSound && (!plain.any runsRightToLeft || plain.all keepsDirection) then
      return ['.'].intercalate (labels.map asciiLabel)
    else none

end ForwardProxy.Idna
