import PddlAssist.Planning

namespace PddlAssist.Planning

inductive Stage where
  | launch (command : Command)
  | program (command : Command)
  | solve (request : Request)
  | submit (request : Request)
  | poll (request : Request)
  | pause (address : String)
  | ended (result : Except PlanningError PlanningOutcome)

structure Run where
  planner : Planner
  epsilon : Float
  stage : Stage
  killed : Bool := false

inductive Signal where
  | cancel
  | launched (refusal : Option StartError)
  | exited (outcome : Outcome)
  | replied (elapsed : Nat) (reply : Except String String)
  | rested (elapsed : Nat)

def pollInterval : Nat := 500

namespace Run

def finish (run : Run) (result : Except PlanningError PlanningOutcome) : Run :=
  { run with stage := .ended result }

def fail (run : Run) (e : PlanningError) : Run := run.finish (.error e)

def result? (run : Run) : Option (Except PlanningError PlanningOutcome) :=
  match run.stage with
  | .ended result => some result
  | _ => none

def start (planner : Planner) (epsilon : Float) (request : PlanningRequest) : Run :=
  let post (url : String) (seconds : Nat) : Request :=
    { method := .post, url, body := some (requestBody request), seconds }
  match planner with
  | .program template =>
    let domain := Template.copyPath "domain" 0
    let problem := Template.copyPath "problem" 0
    let files := [(domain, Text.encode request.domain.toList),
      (problem, Text.encode request.problem.toList)]
    match Template.command? (Template.expand template domain (some problem)) files with
    | some command => { planner, epsilon, stage := .launch command }
    | none => { planner, epsilon, stage := .ended (.error .notConfigured) }
  | .service url timeoutSecs =>
    { planner, epsilon, stage := .solve (post (serviceUrl url "solve") timeoutSecs) }
  | .polled url timeoutSecs =>
    { planner, epsilon, stage := .submit (post (serviceUrl url "request") timeoutSecs) }

def ask (run : Run) (elapsed : Nat) (address : String) : Run :=
  match run.planner with
  | .polled _ timeoutSecs =>
    if run.killed then run.fail .cancelled
    else if timeoutSecs * 1000 ≤ elapsed then run.fail (.timeout timeoutSecs)
    else { run with stage := .poll { method := .get, url := address, seconds := timeoutSecs } }
  | _ => run

/-- A run that was stopped ends as such, whatever it was about to answer. -/
def answer (run : Run) (reply : ServiceReply) : Run :=
  if run.killed then run.fail .cancelled else run.finish (outcome run.epsilon reply)

def submitted (run : Run) (elapsed : Nat) (reply : ServiceReply) : Run :=
  match run.planner, reply.result with
  | .polled base _, .str path => run.ask elapsed (serviceUrl base path)
  | _, value => run.fail (.noAddress value)

/-- A program that runs or a pause ends at once when the run is stopped; all else is awaited. -/
def cancel (run : Run) : Run :=
  let run := { run with killed := true }
  match run.stage with
  | .program _ | .pause _ => run.fail .cancelled
  | _ => run

def step (run : Run) : Signal → Run
  | .cancel => run.cancel
  | .launched refusal =>
    match run.stage, run.planner, refusal with
    | .launch _, .program template, some reason => run.fail (.notStarted template reason)
    | .launch command, .program _, none =>
      if run.killed then run.fail .cancelled
      else { run with stage := .program command }
    | _, _, _ => run
  | .exited outcome =>
    match run.stage with
    | .program _ => run.finish (programOutcome run.epsilon outcome)
    | _ => run
  | .replied elapsed reply =>
    match run.stage with
    | .solve request =>
      match readReply request.url reply with
      | .error e => run.fail e
      | .ok reply => run.answer reply
    | .submit request =>
      match readReply request.url reply with
      | .error e => run.fail e
      | .ok reply => run.submitted elapsed reply
    | .poll request =>
      match readReply request.url reply with
      | .error e => run.fail e
      | .ok reply =>
        if Text.sameName reply.status "pending" then { run with stage := .pause request.url }
        else run.answer reply
    | _ => run
  | .rested elapsed =>
    match run.stage with
    | .pause address => run.ask elapsed address
    | _ => run

end Run

/-- Somebody who stops a run: so many milliseconds after a program's start, or when a service gets the
request with this number, counted from one. -/
structure Stopper where
  afterMilliseconds : Option Nat := none
  atRequest : Option Nat := none
  deriving Repr, Inhabited

structure Execution where
  run : Run
  network : Network
  pauses : Nat := 0

namespace Execution

def runProgram (e : Execution) (host : Host) (stopper : Stopper) (command : Command) : Execution :=
  match host command with
  | .error _ => e
  | .ok outcome =>
    if stopper.afterMilliseconds.any (· < outcome.elapsed) then { e with run := e.run.step .cancel }
    else { e with run := e.run.step (.exited outcome) }

def exchange (e : Execution) (stopper : Stopper) (request : Request) : Execution :=
  let (reply, network) := e.network.send request
  let number := network.received.length
  let arrived := e.network.received.length < number
  let run := if arrived && stopper.atRequest == some number then e.run.step .cancel else e.run
  { e with run := run.step (.replied 0 reply), network }

def next (e : Execution) (host : Host) (stopper : Stopper) : Execution :=
  match e.run.stage with
  | .launch command =>
    let refusal :=
      match host command with
      | .error reason => some reason
      | .ok _ => none
    { e with run := e.run.step (.launched refusal) }
  | .program command => e.runProgram host stopper command
  | .solve request | .submit request | .poll request => e.exchange stopper request
  | .pause _ => { e with run := e.run.step (.rested 0), pauses := e.pauses + 1 }
  | .ended _ => e

def complete (e : Execution) (host : Host) (stopper : Stopper) : Nat → Execution
  | 0 => e
  | fuel + 1 =>
    match e.run.stage with
    | .ended _ => e
    | _ => complete (e.next host stopper) host stopper fuel

end Execution
end PddlAssist.Planning
