import PddlAssist.HostName.Mapping
import PddlAssist.HostName.Punycode
import PddlAssist.Text.Utf8
import PddlAssist.Unicode.Composed
import PddlAssist.Unicode.Direction
import PddlAssist.Unicode.Joining

namespace PddlAssist.HostName

open Unicode

structure Label where
  codes : List Nat
  ascii : List Char
  deriving DecidableEq, Repr, Inhabited

def read? (codes : List Nat) : Option (List Nat) :=
  (codes.mapM readChar?).map fun images => compose images.flatten

def isAscii (codes : List Nat) : Bool := codes.all (· < 0x80)

def mark : List Nat := ['x', 'n', '-', '-'].map Char.toNat

namespace Label

def decoded? (text : List Nat) : Option Label := do
  let written := text.map Char.ofNat
  let codes ← Punycode.decode? (written.drop mark.length)
  if isAscii text && !isAscii codes && !mark.isPrefixOf codes && read? codes == some codes then
    some ⟨codes, written⟩
  else none

def ofCodes? (codes : List Nat) : Option Label :=
  if mark.isPrefixOf codes then decoded? codes
  else if isAscii codes then some ⟨codes, codes.map Char.ofNat⟩
  else some ⟨codes, mark.map Char.ofNat ++ Punycode.encode codes⟩

def deniedSigns : List Char :=
  ['%', '#', '/', ':', '<', '>', '?', '@', '[', '\\', ']', '^', '|']

def isDenied (n : Nat) : Bool := n ≤ 0x20 || n == 0x7F || deniedSigns.contains (Char.ofNat n)

/-- A label does not begin with a mark that belongs to the character before it. -/
def beginsWithMark (codes : List Nat) : Bool :=
  codes.head?.any fun n => CharSet.within n (Category.having Category.marks).ranges

def nonJoiner : Nat := 0x200C

def joiner : Nat := 0x200D

def meets (sides : List Joining) (codes : List Nat) : Bool :=
  ((codes.map Joining.ofCode).find? (· != .transparent)).any sides.contains

/-- A joiner stands behind a mark that takes a vowel away, and a non-joiner stands there or between
letters that would join. The characters `before` come in reverse order. -/
def joinersFit (before : List Nat) : List Nat → Bool
  | [] => true
  | n :: rest =>
    let afterVirama := before.head?.any (combiningClass · == viramaClass)
    let fits :=
      if n = joiner then afterVirama
      else if n = nonJoiner then
        afterVirama || (meets [.onward, .dual] before && meets [.backward, .dual] rest)
      else true
    fits && joinersFit (n :: before) rest

def rightward : List Direction :=
  [.leftToRight, .europeanNumber, .numberSeparator, .commonSeparator, .numberTerminator,
   .otherNeutral, .boundaryNeutral, .mark]

def leftward : List Direction :=
  [.rightToLeft, .arabicLetter, .arabicNumber, .europeanNumber, .numberSeparator, .commonSeparator,
   .numberTerminator, .otherNeutral, .boundaryNeutral, .mark]

/-- The directions of a label agree with that of its first character, and its last character that is
no mark is a letter or a digit. -/
def directionsFit (codes : List Nat) : Bool :=
  let directions := codes.map Direction.ofCode
  let ends := directions.reverse.find? (· != .mark)
  match directions.head? with
  | none => true
  | some .leftToRight =>
    directions.all rightward.contains && ends.any [.leftToRight, .europeanNumber].contains
  | some first =>
    [.rightToLeft, .arabicLetter].contains first && directions.all leftward.contains &&
      ends.any [.rightToLeft, .arabicLetter, .europeanNumber, .arabicNumber].contains &&
      !(directions.contains .europeanNumber && directions.contains .arabicNumber)

def isLeftward (codes : List Nat) : Bool :=
  codes.any fun n => [.rightToLeft, .arabicLetter, .arabicNumber].contains (Direction.ofCode n)

def isValid (l : Label) : Bool :=
  !l.codes.any isDenied && !beginsWithMark l.codes && joinersFit [] l.codes

end Label

def splitLabels (codes : List Nat) : List (List Nat) := codes.splitOnP (· = '.'.toNat)

def toAscii? (bytes : Text.Bytes) : Option (List Char) := do
  let chars ← Text.decode? bytes
  let codes ← read? (chars.map Char.toNat)
  let labels ← (splitLabels codes).mapM Label.ofCodes?
  let anyLeftward := labels.any (Label.isLeftward ·.codes)
  if labels.all Label.isValid && (!anyLeftward || labels.all (Label.directionsFit ·.codes)) then
    some (['.'].intercalate (labels.map (·.ascii)))
  else none

end PddlAssist.HostName
