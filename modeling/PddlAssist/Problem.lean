import PddlAssist.Issue
import PddlAssist.TypedList

namespace PddlAssist

open Text

inductive InitValue where
  | bool (b : Bool)
  | number (x : Float)
  deriving Repr, Inhabited

structure Atom where
  name : String
  arguments : List String
  span : Span
  deriving DecidableEq, Repr, Inhabited

def Atom.fullName (a : Atom) : String := " ".intercalate (a.name :: a.arguments)

inductive InitEntry where
  | literal (atom : Atom) (positive : Bool)
  | fluent (atom : Atom) (value : Float)
  | timedLiteral (time : Float) (atom : Atom) (positive : Bool)
  | timedFluent (time : Float) (atom : Atom) (value : Float)
  deriving Repr, Inhabited

structure TimedValue where
  time : Float
  variableName : String
  value : InitValue
  deriving Repr, Inhabited

def TimedValue.liftedName (v : TimedValue) : String := (wordsOf v.variableName).headD ""

namespace InitEntry

def atom : InitEntry → Atom
  | literal atom _ | fluent atom _ | timedLiteral _ atom _ | timedFluent _ atom _ => atom

def timedValue (entry : InitEntry) : TimedValue :=
  match entry with
  | literal atom positive => ⟨0, atom.fullName, .bool positive⟩
  | fluent atom value => ⟨0, atom.fullName, .number value⟩
  | timedLiteral time atom positive => ⟨time, atom.fullName, .bool positive⟩
  | timedFluent time atom value => ⟨time, atom.fullName, .number value⟩

end InitEntry

structure ProblemSections where
  objects : Option Span := none
  init : Option Span := none
  goal : Option Span := none
  metric : Option Span := none
  deriving DecidableEq, Repr, Inhabited

structure Problem where
  name : String
  domainName : String
  /-- Where the domain's name is written, or the bracket that lacks it. -/
  domainNameSpan : Span
  objects : List ObjectGroup := []
  objectEntries : List TypedEntry := []
  initEntries : List InitEntry := []
  inits : List TimedValue := []
  sections : ProblemSections := {}
  preprocessed : Option String := none
  deriving Repr, Inhabited

namespace Problem

def isForDomain (p : Problem) (name : String) : Bool := sameName p.domainName name

def objectType? (p : Problem) (object : String) : Option String := ObjectGroup.typeOf? p.objects object

end Problem
end PddlAssist
