namespace PddlAssist

/-- Ranges in ascending order, no two of which touch. The surrogates are no characters. -/
structure CharSet where
  ranges : List (Nat × Nat) := []
  deriving DecidableEq, Repr, Inhabited

namespace CharSet

def maxCode : Nat := 0x10FFFF

def within (n : Nat) : List (Nat × Nat) → Bool
  | [] => false
  | (low, high) :: rest => if n < low then false else n ≤ high || within n rest

def contains (s : CharSet) (c : Char) : Bool := within c.toNat s.ranges

def isEmpty (s : CharSet) : Bool := s.ranges.isEmpty

def joinFrom (low high : Nat) : List (Nat × Nat) → List (Nat × Nat)
  | [] => [(low, high)]
  | (a, b) :: rest =>
    if a ≤ high + 1 then joinFrom low (max high b) rest else (low, high) :: joinFrom a b rest

def ofRanges (ranges : List (Nat × Nat)) : CharSet :=
  match ranges.mergeSort (fun a b => a.1 ≤ b.1) with
  | [] => ⟨[]⟩
  | (low, high) :: rest => ⟨joinFrom low high rest⟩

def single (c : Char) : CharSet := ⟨[(c.toNat, c.toNat)]⟩

def range (low high : Char) : CharSet := ⟨[(low.toNat, high.toNat)]⟩

def union (a b : CharSet) : CharSet := ofRanges (a.ranges ++ b.ranges)

def unions (sets : List CharSet) : CharSet := ofRanges (sets.flatMap ranges)

def gapsFrom (next : Nat) : List (Nat × Nat) → List (Nat × Nat)
  | [] => if next ≤ maxCode then [(next, maxCode)] else []
  | (low, high) :: rest =>
    if next < low then (next, low - 1) :: gapsFrom (high + 1) rest else gapsFrom (high + 1) rest

def gaps (s : CharSet) : CharSet := ⟨gapsFrom 0 s.ranges⟩

def inter (a b : CharSet) : CharSet := (a.gaps.union b.gaps).gaps

def all : CharSet := ⟨[(0, 0xD7FF), (0xE000, maxCode)]⟩

def compl (s : CharSet) : CharSet := s.gaps.inter all

def diff (a b : CharSet) : CharSet := a.inter b.gaps

def symmDiff (a b : CharSet) : CharSet := (a.union b).diff (a.inter b)

def isAscii (s : CharSet) : Bool := s.ranges.all (·.2 < 0x80)

def hexValue (c : Char) : Nat := if c.isDigit then c.toNat - 48 else c.toNat - 55

def hexNumber (cs : List Char) : Nat := cs.foldl (fun n c => 16 * n + hexValue c) 0

def everySecond (low high : Nat) : List (Nat × Nat) :=
  (List.range ((high - low) / 2 + 1)).map fun i => (low + 2 * i, low + 2 * i)

/-- A word of a table that is being read: the number before the dash, if there was one, the number
after it, and whether only every second code point counts. -/
structure Word where
  low : Option Nat := none
  value : Nat := 0
  digits : Nat := 0
  halved : Bool := false

def Word.ranges (w : Word) : List (Nat × Nat) :=
  if w.digits = 0 then []
  else
    let low := w.low.getD w.value
    if w.halved then everySecond low w.value else [(low, w.value)]

def readWords (w : Word) : List Char → List (Nat × Nat)
  | [] => w.ranges
  | ' ' :: rest | '\n' :: rest => w.ranges ++ readWords {} rest
  | '-' :: rest => readWords { low := some w.value, digits := w.digits } rest
  | '/' :: rest => readWords { w with halved := true } rest
  | c :: rest =>
    if w.halved then readWords w rest
    else readWords { w with value := 16 * w.value + hexValue c, digits := w.digits + 1 } rest

/-- A set that is written as hexadecimal code points, ranges with a dash, and ranges of every second
code point with `/2` at their end. -/
def ofHex (text : String) : CharSet := ofRanges (readWords {} text.toList)

end CharSet
end PddlAssist
