import PddlAssist.Json.Record
import PddlAssist.Program
import PddlAssist.Settings
import PddlAssist.Text.Blank
import PddlAssist.Text.Case
import PddlAssist.Text.Digit

namespace PddlAssist

open Text

inductive Directive where
  | command (command : String) (arguments : List String)
  | python (command : String) (arguments : List String)
  | jinja2 (data : String)
  | nunjucks (data : String)
  deriving DecidableEq, Repr, Inhabited

namespace Directive

def label : Directive → String
  | command .. => "command"
  | python .. => "python"
  | jinja2 _ => "jinja2"
  | nunjucks _ => "nunjucks"

inductive Error where
  | invalid
  | unsupported (label : String)
  | notConfigured (label : String)
  | notStarted (command : String) (reason : StartError)
  | failed (command : String) (status : ExitStatus) (stderr : String) (line : Option Nat)
  deriving DecidableEq, Repr, Inhabited

namespace Error

def message : Error → String
  | invalid => "invalid pre-parsing meta-instruction:"
  | unsupported label => "pre-processor type '" ++ label ++ "' is not supported"
  | notConfigured label => label ++ " pre-processor is not configured"
  | notStarted line reason => "failed to run '" ++ line ++ "': " ++ reason.message
  | failed line status stderr _ =>
    "'" ++ line ++ "' exited with " ++ status.message ++ ": " ++ stderr

def line? : Error → Option Nat
  | failed _ _ _ line => line
  | _ => none

end Error

open Json

def ofFields? (type : String) (fields : Json) : Option Directive :=
  let program? : Option (String × List String) := do
    let r ← record? [["command"], ["args"]] fields
    return (← r.required 0 str?, ← r.withDefault 1 [] (list? str?))
  let data? : Option String := do
    let r ← record? [["data"]] fields
    r.required 0 str?
  match type with
  | "command" => program?.map fun (name, arguments) => .command name arguments
  | "python" => program?.map fun (script, arguments) => .python script arguments
  | "jinja2" => data?.map .jinja2
  | "nunjucks" => data?.map .nunjucks
  | _ => none

/-- A directive is a record with its type as one key, or as the first item. -/
def ofJson? : Json → Option Directive
  | .obj entries =>
    match valuesFor ["type"] entries with
    | [.str type] => ofFields? type (.obj (entries.filter (·.1 != "type")))
    | _ => none
  | .arr (.str type :: rest) => ofFields? type (.arr rest)
  | _ => none

def mark : String := ";;!pre-parsing:"

def ofText? (cs : List Char) : Option (Except Error Directive) :=
  let first := trim (cs.takeWhile (· != '\n'))
  if mark.toList.isPrefixOf first then
    let json := String.ofList (trim (first.drop mark.toList.length))
    some (((Json.parse? json).bind ofJson?).elim (.error .invalid) .ok)
  else none

/-- The digits after the word `line` and an optional colon, at the front of a text. -/
def lineDigits? (cs : List Char) : Option (List Char) :=
  if startsWithName ['l', 'i', 'n', 'e'] cs then
    let rest :=
      match cs.drop 4 with
      | ':' :: rest => rest
      | rest => rest
    let digits := (trimStart rest).takeWhile isDecimalDigit
    if digits.isEmpty then none else some digits
  else none

def findLine? : List Char → Option (List Char)
  | [] => none
  | c :: cs => (lineDigits? (c :: cs)).or (findLine? cs)

def blamedLine? (errors : List Char) : Option Nat :=
  (findLine? errors).bind fun digits =>
    let n := Decimal.digitsValue digits
    if digits.all Char.isDigit && n < Nat.pow 2 32 then some (n - 1) else none

def program (directive : Directive) (settings : PreprocessorSettings) :
    Except Error (String × List String) :=
  match directive with
  | command name arguments => .ok (name, arguments)
  | python script arguments => .ok (settings.pythonPath, script :: arguments)
  | jinja2 data =>
    match settings.jinja2Script with
    | some script => .ok (settings.pythonPath, [script, data])
    | none => .error (.notConfigured "jinja2")
  | nunjucks _ => .error (.unsupported directive.label)

def transform (directive : Directive) (host : Host) (settings : PreprocessorSettings)
    (folder : Option String) (cs : List Char) : Except Error (List Char) := do
  let (name, arguments) ← directive.program settings
  let command : Command := { program := name, arguments, folder, input := encode cs }
  match host command with
  | .error reason => .error (.notStarted command.line reason)
  | .ok outcome =>
    if outcome.status.isSuccess then return decodeLossy outcome.output
    else
      let errors := trim (decodeLossy outcome.errors)
      .error (.failed command.line outcome.status (String.ofList errors) (blamedLine? errors))

end Directive
end PddlAssist
