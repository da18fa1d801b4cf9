import PddlAssist.Document

namespace PddlAssist

inductive Severity where
  | error
  | warning
  | information
  | hint
  deriving DecidableEq, Repr, Inhabited

structure Issue where
  message : String
  range : Range
  severity : Severity
  deriving DecidableEq, Repr, Inhabited

def Issue.error (message : String) (range : Range) : Issue := ⟨message, range, .error⟩

def Issue.warning (message : String) (range : Range) : Issue := ⟨message, range, .warning⟩

end PddlAssist
