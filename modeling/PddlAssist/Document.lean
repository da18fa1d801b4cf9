import PddlAssist.Text.Blank
import PddlAssist.Text.Bytes

namespace PddlAssist

open Text

/-- A line and a column, both counted from zero. Columns count UTF-16 units. -/
structure Position where
  line : Nat
  character : Nat
  deriving DecidableEq, Repr, Inhabited

structure Range where
  start : Position
  stop : Position
  deriving DecidableEq, Repr, Inhabited

def units (c : Char) : Nat := if c.toNat < 0x10000 then 1 else 2

def Position.next (p : Position) (c : Char) : Position :=
  if c = '\n' then ⟨p.line + 1, 0⟩ else ⟨p.line, p.character + units c⟩

structure Document where
  chars : List Char
  deriving DecidableEq, Repr, Inhabited

namespace Document

def text (d : Document) : String := String.ofList d.chars

def size (d : Document) : Nat := width d.chars

def positionFrom (p : Position) : Nat → List Char → Position
  | _, [] => p
  | n, c :: cs => if c.utf8Size ≤ n then positionFrom (p.next c) (n - c.utf8Size) cs else p

/-- The position of an offset. Offsets past the end stand for the end. -/
def positionAt (d : Document) (offset : Nat) : Position := positionFrom ⟨0, 0⟩ offset d.chars

def rangeOf (d : Document) (span : Span) : Range := ⟨d.positionAt span.start, d.positionAt span.stop⟩

def column : Nat → List Char → Nat
  | _, [] => 0
  | n, c :: cs => if n = 0 ∨ c = '\n' then 0 else c.utf8Size + column (n - units c) cs

def offsetFrom (character : Nat) : Nat → List Char → Option Nat
  | 0, cs => some (column character cs)
  | _ + 1, [] => none
  | line + 1, c :: cs =>
    (offsetFrom character (if c = '\n' then line else line + 1) cs).map (c.utf8Size + ·)

/-- The offset of a position. A column past the end of its line stands for the end of the line. -/
def offset? (d : Document) (p : Position) : Option Nat := offsetFrom p.character p.line d.chars

def splitLines : List Char → List (List Char)
  | [] => [[]]
  | c :: cs =>
    if c = '\n' then [] :: splitLines cs
    else
      match splitLines cs with
      | [] => [[c]]
      | line :: lines => (c :: line) :: lines

def linesFrom (start : Nat) : List (List Char) → List (Nat × List Char)
  | [] => []
  | line :: lines => (start, line) :: linesFrom (start + width line + 1) lines

/-- A carriage return at the end of a line belongs to the line break. -/
def dropReturn (line : List Char) : List Char :=
  if line.getLast? = some '\r' then line.dropLast else line

def lines (d : Document) : List (Nat × List Char) :=
  (linesFrom 0 (splitLines d.chars)).map fun (start, line) => (start, dropReturn line)

def lineCount (d : Document) : Nat := (splitLines d.chars).length

def line? (d : Document) (n : Nat) : Option (List Char) := (d.lines[n]?).map (·.2)

def lineSpan? (d : Document) (n : Nat) : Option Span :=
  (d.lines[n]?).map fun (start, line) => ⟨start, start + width line⟩

def endPosition (d : Document) : Position := d.positionAt d.size

def range (d : Document) : Range := ⟨⟨0, 0⟩, d.endPosition⟩

/-- All of line `n`, or the place where it would start if the document is shorter. -/
def lineRange (d : Document) (n : Nat) : Range :=
  ⟨⟨n, 0⟩, (d.lineSpan? n).elim ⟨n, 0⟩ (d.positionAt ·.stop)⟩

end Document
end PddlAssist
