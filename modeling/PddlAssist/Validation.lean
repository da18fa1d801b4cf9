import PddlAssist.Diagnostic
import PddlAssist.Network
import Std.Data.TreeMap

namespace PddlAssist

open Std (TreeMap)
open Text

structure ValidationInput where
  uri : Uri
  text : List Char
  deriving DecidableEq, Repr, Inhabited

structure ValidationBundle where
  domain : ValidationInput
  problems : List ValidationInput
  deriving DecidableEq, Repr, Inhabited

def ValidationBundle.inputs (b : ValidationBundle) : List ValidationInput := b.domain :: b.problems

/-- Diagnostics by the address of the file. A file of the bundle that came back clean has an empty
list, which clears its earlier diagnostics. -/
abbrev ValidationReport := TreeMap String (List Diagnostic)

namespace ValidationReport

def empty (b : ValidationBundle) : ValidationReport :=
  b.inputs.foldl (fun report input => report.insert input.uri.text []) ∅

/-- Adds a diagnostic, unless the file has one with the same message at the same place. -/
def push (report : ValidationReport) (uri : Uri) (d : Diagnostic) : ValidationReport :=
  let known := report.getD uri.text []
  if known.any fun other => other.range == d.range && other.message == d.message then
    report.insert uri.text known
  else report.insert uri.text (known ++ [d])

def pushAll (report : ValidationReport) (found : List (Uri × Diagnostic)) : ValidationReport :=
  found.foldl (fun report (uri, d) => report.push uri d) report

end ValidationReport

inductive ValidationError where
  | notConfigured
  | notStarted (command : String) (reason : StartError)
  | badPattern (pattern : String)
  | noReply (url : String) (reason : String)
  | badReply
  | timeout (seconds : Nat)
  deriving DecidableEq, Repr, Inhabited

def ValidationError.message : ValidationError → String
  | notConfigured => "no validator is configured"
  | notStarted command reason =>
    "failed to run validator '" ++ command ++ "': " ++ reason.message
  | badPattern pattern => "invalid validator output pattern '" ++ pattern ++ "'"
  | noReply url reason => "validation request to " ++ url ++ " failed: " ++ reason
  | badReply => "unexpected validation service response:"
  | timeout seconds => "validator did not finish within " ++ toString seconds ++ " seconds"

structure Verdict where
  elapsed : Nat := 0
  result : Except ValidationError ValidationReport

abbrev Validator := ValidationBundle → Network → Verdict × Network

namespace Validation

/-- Severities are known by their names, in any case and also in the plural; an unknown name is an
error. -/
def severity (name : List Char) : Severity :=
  let name := lower (String.ofList (trim name))
  match String.ofList (name.toList.reverse.dropWhile (· == 's')).reverse with
  | "warning" => .warning
  | "information" | "info" => .information
  | "hint" => .hint
  | _ => .error

/-- All of a line, or its part from a column on. A column past the end of the line is a place. -/
def lineRange (document : Document) (line : Nat) (column : Option Nat) : Range :=
  let whole := document.lineRange line
  match column with
  | none => whole
  | some character =>
    let start : Position := ⟨line, character⟩
    ⟨start, if whole.stop.character > character then whole.stop else start⟩

end Validation
end PddlAssist
