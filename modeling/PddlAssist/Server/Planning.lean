import PddlAssist.Server

namespace PddlAssist.Server

open Planning (Run Execution Signal)

structure PlanningTask where
  request : PlanningRequest
  domainName : String
  problemName : String
  problemUri : Uri

/-- A domain and a problem, or a problem whose domain is known. -/
def planningTask? (w : Workspace) (domain problem : Option Uri) : Option PlanningTask := do
  let (domainUri, problemUri) ←
    match domain, problem with
    | some domain, some problem => some (domain, problem)
    | some problem, none => (w.domainFile? problem).map fun file => (file.uri, problem)
    | none, _ => none
  let domainFile ← w.find? domainUri
  let problemFile ← w.find? problemUri
  let domain ← domainFile.domain?
  let problem ← problemFile.problem?
  return {
    request := ⟨domainFile.text, String.ofList (Session.validatedText problemFile)⟩
    domainName := domain.name
    problemName := problem.name
    problemUri }

/-- Starts a planner. It takes the place of an earlier one for the same problem. -/
def startPlanner (s : Server) (planner : Planner) (task : PlanningTask) : Server :=
  let ticket := s.session.nextTicket
  { s with
    session := { s.session with nextTicket := ticket + 1 }
    planners := s.planners.insert task.problemUri.text ticket
    planning := s.planning ++ [{
      ticket
      problemUri := task.problemUri
      domainName := task.domainName
      problemName := task.problemName
      run := .start planner s.settings.epsilon task.request }] }

def findPlanning? (s : Server) (ticket : Nat) : Option PlannerRun :=
  s.planning.find? (·.ticket == ticket)

def signalPlanner (s : Server) (ticket : Nat) (signal : Signal) : Server :=
  { s with planning := s.planning.map fun p =>
      if p.ticket = ticket then { p with run := p.run.step signal } else p }

def stopPlanners (s : Server) (target : Option Uri) : Server :=
  s.planners.toList.foldl (fun s (address, ticket) =>
    if target.all (·.text == address) then s.signalPlanner ticket .cancel else s) s

structure DisplayedPlan where
  plan : String
  makespan : Float
  output : String
  deriving Repr, Inhabited

def finishPlanner (s : Server) (p : PlannerRun) (result : Except PlanningError PlanningOutcome) :
    Option DisplayedPlan × Server :=
  let s := { s with
    planners := s.planners.erase p.problemUri.text
    planning := s.planning.filter (·.ticket != p.ticket) }
  match result with
  | .ok outcome =>
    let plan := outcome.render p.domainName p.problemName
    let found := "Plan for " ++ p.problemName ++ " found: " ++ toString outcome.steps.length ++
      " step(s), makespan " ++ Decimal.fixedText 3 outcome.makespan
    (some ⟨plan, outcome.makespan, outcome.output⟩, (s.tell (.log .info plan)).tell (.show .info found))
  | .error .cancelled => (none, s.tell (.show .info "Planner stopped"))
  | .error e => (none, s.tell (.show .error ("Planning failed: " ++ e.message)))

/-- What the planner waits for happens; a pause takes time, in which other things happen too. -/
def workPlanner (s : Server) (p : PlannerRun) : Server :=
  match p.run.stage with
  | .pause _ => (s.advance Planning.pollInterval).signalPlanner p.ticket (.rested 0)
  | _ =>
    let start : Execution := { run := p.run, network := s.session.network }
    let done := start.next (hostOf s.disk) {}
    let planning := s.planning.map fun (other : PlannerRun) =>
      if other.ticket = p.ticket then { other with run := done.run } else other
    drain { s with session := { s.session with network := done.network }, planning }

def awaitPlanner (s : Server) (ticket : Nat) : Nat → Option DisplayedPlan × Server
  | 0 => (none, s)
  | fuel + 1 =>
    match s.findPlanning? ticket with
    | none => (none, s)
    | some p =>
      match p.run.result? with
      | some result => s.finishPlanner p result
      | none => awaitPlanner (s.workPlanner p) ticket fuel

end PddlAssist.Server
