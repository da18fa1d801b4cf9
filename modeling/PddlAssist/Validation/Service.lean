import PddlAssist.Json.Record
import PddlAssist.Text.Digit
import PddlAssist.Validation

namespace PddlAssist

open Text

structure ServiceIssue where
  location : String
  severity : String
  position : Option Position
  message : String
  deriving DecidableEq, Repr, Inhabited

namespace ServiceIssue

open Json

def readPosition? (j : Json) : Option Position := do
  let r ← record? [["line"], ["character", "column"]] j
  return ⟨← r.required 0 word32?, ← r.withDefault 1 0 word32?⟩

/-- An issue has a message; an array also says that it has no position. -/
def read? (j : Json) : Option ServiceIssue := do
  let r ← record? [["location"], ["severity"], ["position"], ["message"]] j
  let position ←
    if r.positional then r.required 2 (optional? readPosition?)
    else r.withDefault 2 none (optional? readPosition?)
  return {
    location := ← r.withDefault 0 "" str?
    severity := ← r.withDefault 1 "" str?
    position
    message := ← r.required 3 str? }

/-- The file that a location stands for, by its place in the bundle. The domain has its name, and
problems are counted from zero by the digits at the end. -/
def target (location : String) (problems : Nat) : Nat :=
  let location := trimmed location
  if problems = 0 || sameName location "domain" then 0
  else
    let digits := (location.toList.reverse.takeWhile Char.isDigit).reverse
    let index := (naturalBelow? (Nat.pow 2 64) digits).getD 0
    if index < problems then index + 1 else 1

def diagnostic? (b : ValidationBundle) (issue : ServiceIssue) : Option (Uri × Diagnostic) :=
  (b.inputs[target issue.location b.problems.length]?).map fun input =>
    let range := issue.position.elim ⟨⟨0, 0⟩, ⟨0, 0⟩⟩ fun position =>
      Validation.lineRange ⟨input.text⟩ position.line (some position.character)
    (input.uri, .own range (Validation.severity issue.severity.toList) (trimmed issue.message))

def report (b : ValidationBundle) (issues : List ServiceIssue) : ValidationReport :=
  (ValidationReport.empty b).pushAll (issues.filterMap (diagnostic? b))

end ServiceIssue

namespace Validation

def serviceRequest (url : String) (seconds : Nat) (b : ValidationBundle) : Request :=
  let text (input : ValidationInput) : Json := .str (String.ofList input.text)
  { method := .post, url, seconds,
    body := some (.obj [("domain", text b.domain), ("problems", .arr (b.problems.map text))]) }

def readReply (url : String) (b : ValidationBundle) :
    Except String String → Except ValidationError ValidationReport
  | .error reason => .error (.noReply url reason)
  | .ok body =>
    match (Json.parse? body).bind (Json.list? ServiceIssue.read?) with
    | some issues => .ok (ServiceIssue.report b issues)
    | none => .error .badReply

def service (url : String) (seconds : Nat) : Validator := fun bundle network =>
  let (reply, network) := network.send (serviceRequest url seconds bundle)
  ({ result := readReply url bundle reply }, network)

end Validation
end PddlAssist
