import PddlAssist.Text.Case
import PddlAssist.Document

namespace PddlAssist

open Text

/-- Characters that join with a neighbouring name into one identifier. -/
def isIdentifierChar (c : Char) : Bool :=
  c.isAlphanum || c == '-' || c == '_' || c == '?' || c == ':' || c == '.'

def commentedAfter (commented : Bool) (c : Char) : Bool :=
  if c = '\n' then false else commented || c == ';'

def isCommented (cs : List Char) (offset : Nat) : Bool :=
  (takeBytes offset cs).foldl commentedAfter false

structure Occurrence.Head where
  offset : Nat
  previous : Option Char
  commented : Bool
  /-- Characters of the last match still to pass: matches do not overlap. -/
  passing : Nat

def Occurrence.Head.move (head : Occurrence.Head) (c : Char) (passing : Nat) : Occurrence.Head :=
  ⟨head.offset + c.utf8Size, some c, commentedAfter head.commented c, passing⟩

def joins : Option Char → Bool
  | some c => isIdentifierChar c
  | none => false

def occurrencesFrom (name : List Char) (scope : Span) (head : Occurrence.Head) :
    List Char → List Span
  | [] => []
  | c :: cs =>
    if head.passing > 0 then
      occurrencesFrom name scope (head.move c (head.passing - 1)) cs
    else if scope.start ≤ head.offset ∧ head.offset + width name ≤ scope.stop ∧
        startsWithName name (c :: cs) then
      let rest := occurrencesFrom name scope (head.move c (name.length - 1)) cs
      if joins head.previous || joins ((c :: cs).drop name.length).head? || head.commented then rest
      else ⟨head.offset, head.offset + width name⟩ :: rest
    else occurrencesFrom name scope (head.move c 0) cs

/-- The spans in `scope` where `name` is written as a whole identifier outside comments. -/
def occurrences (cs : List Char) (scope : Span) (name : String) : List Span :=
  if name.isEmpty ∨ scope.stop > width cs ∨ scope.start ≥ scope.stop then []
  else occurrencesFrom name.toList scope ⟨0, none, false, 0⟩ cs

def precededByBracket (cs : List Char) (offset : Nat) : Bool :=
  (trimEnd (takeBytes offset cs)).getLast? == some '('

/-- The last characters before `offset`, blanks apart, are a dash that stands alone. -/
def precededByDash (cs : List Char) (offset : Nat) : Bool :=
  match (trimEnd (takeBytes offset cs)).reverse with
  | ['-'] => true
  | '-' :: c :: _ => c == ' ' || c == '\t' || c == '\n'
  | _ => false

end PddlAssist
