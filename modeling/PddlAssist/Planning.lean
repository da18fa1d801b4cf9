import PddlAssist.Json.Record
import PddlAssist.Network
import PddlAssist.Plan
import PddlAssist.Program.Template
import PddlAssist.Validation.Choice

namespace PddlAssist

open Text

structure PlanningRequest where
  domain : String
  problem : String
  deriving DecidableEq, Repr, Inhabited

structure PlanningOutcome where
  steps : List PlanStep
  output : String
  deriving Repr, Inhabited

def PlanningOutcome.makespan (o : PlanningOutcome) : Float := Plan.makespan { steps := o.steps }

def PlanningOutcome.render (o : PlanningOutcome) (domainName problemName : String) : String :=
  Plan.render domainName problemName o.steps

inductive PlanningError where
  | notConfigured
  | cancelled
  | notStarted (command : String) (reason : StartError)
  | failed (status : String) (reason : String)
  | noReply (url : String) (reason : String)
  | badReply
  /-- The service handed out this value where an address was expected. -/
  | noAddress (value : Json)
  | timeout (seconds : Nat)
  deriving Repr, Inhabited

def PlanningError.message : PlanningError → String
  | notConfigured => "no planner is configured"
  | cancelled => "planning was cancelled"
  | notStarted command reason => "failed to run planner '" ++ command ++ "': " ++ reason.message
  | failed status reason => "planner exited with " ++ status ++ ": " ++ reason
  | noReply url reason => "planning request to " ++ url ++ " failed: " ++ reason
  | badReply => "unexpected planning service response:"
  | noAddress value =>
    "unexpected planning service response: expected a check URL, got " ++ value.ordered.compact
  | timeout seconds => "planning service did not finish within " ++ toString seconds ++ " seconds"

inductive Planner where
  | program (template : String)
  | service (url : String) (timeoutSecs : Nat)
  | polled (url : String) (timeoutSecs : Nat)
  deriving DecidableEq, Repr, Inhabited

def Planner.choose? (settings : PlannerSettings) : Option Planner :=
  match configured? settings.executable, configured? settings.url with
  | some template, _ => some (.program template)
  | none, some url =>
    some (if settings.asynchronous then .polled url settings.timeoutSecs
      else .service url settings.timeoutSecs)
  | none, none => none

namespace Planning

def serviceUrl (base path : String) : String :=
  if "http://".toList.isPrefixOf path.toList || "https://".toList.isPrefixOf path.toList then path
  else
    String.ofList (base.toList.reverse.dropWhile (· == '/')).reverse ++ "/" ++
      String.ofList (path.toList.dropWhile (· == '/'))

def requestBody (request : PlanningRequest) : Json :=
  .obj [("domain", .str request.domain), ("problem", .str request.problem)]

structure ServiceStep where
  name : String
  time : Option Float
  duration : Option Float
  deriving Repr, Inhabited

structure ServiceResult where
  plan : List ServiceStep := []
  output : Option String := none
  error : Option String := none
  deriving Repr, Inhabited

structure ServiceReply where
  status : String
  result : Json
  deriving Repr, Inhabited

open Json

/-- A field that may be missing from an object, but not from an array. -/
def optionalField? {α : Type} (r : Record) (n : Nat) (read : Json → Option α) : Option (Option α) :=
  if r.positional then r.required n (optional? read) else r.withDefault n none (optional? read)

def ServiceStep.read? (j : Json) : Option ServiceStep := do
  let r ← record? [["name"], ["time"], ["duration"]] j
  return ⟨← r.required 0 str?, ← optionalField? r 1 float?, ← optionalField? r 2 float?⟩

def ServiceResult.read? (j : Json) : Option ServiceResult := do
  let r ← record? [["plan"], ["output"], ["error"]] j
  return {
    plan := ← r.withDefault 0 [] (list? ServiceStep.read?)
    output := ← optionalField? r 1 str?
    error := ← optionalField? r 2 str? }

def ServiceReply.read? (j : Json) : Option ServiceReply := do
  let r ← record? [["status"], ["result"]] j
  return ⟨← r.withDefault 0 "" str?, ← r.withDefault 1 .null some⟩

/-- The steps of a plan. Brackets around a name do not count, a step without name is left out, and a
step without time begins `epsilon` after the end of the one before it. -/
def planSteps (epsilon : Float) (previousEnd : Option Float) (index : Nat) :
    List ServiceStep → List PlanStep
  | [] => []
  | step :: rest =>
    let body := ((trim step.name.toList).dropWhile (· == '(')).reverse.dropWhile (· == ')')
    match (words body.reverse).map String.ofList with
    | [] => planSteps epsilon previousEnd (index + 1) rest
    | actionName :: parameters =>
      let converted : PlanStep :=
        { time := step.time.getD (previousEnd.elim 0 (· + epsilon))
          actionName, parameters
          duration := step.duration
          line := index }
      converted :: planSteps epsilon (some converted.endTime) (index + 1) rest

def outcome (epsilon : Float) (reply : ServiceReply) : Except PlanningError PlanningOutcome := do
  let result ←
    match reply.result with
    | .obj _ =>
      match ServiceResult.read? reply.result with
      | some result => .ok result
      | none => .error .badReply
    | _ => .ok {}
  if sameName reply.status "ok" then
    return ⟨planSteps epsilon none 0 result.plan, result.output.getD ""⟩
  else
    let reason := (result.error.or result.output).or (str? reply.result)
    .error (.failed reply.status (reason.getD ""))

def readReply (url : String) : Except String String → Except PlanningError ServiceReply
  | .error reason => .error (.noReply url reason)
  | .ok body =>
    match (Json.parse? body).bind ServiceReply.read? with
    | some reply => .ok reply
    | none => .error .badReply

def programOutcome (epsilon : Float) (o : Outcome) : Except PlanningError PlanningOutcome :=
  let output := decodeLossy o.output
  if o.status.isSuccess then .ok ⟨(Plan.read ⟨output⟩ epsilon).1.steps, String.ofList output⟩
  else .error (.failed o.status.message (String.ofList (trim (decodeLossy o.errors))))

end Planning
end PddlAssist
