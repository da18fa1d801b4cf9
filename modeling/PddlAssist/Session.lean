import PddlAssist.Debouncer
import PddlAssist.Validation.Choice

namespace PddlAssist

open Text

inductive Notice where
  | report (report : ValidationReport)
  | failure (domain : Uri) (error : ValidationError)

structure Reparse where
  ticket : Nat
  /-- The generation of the timer that began the work. Without one, somebody asked for it and waits. -/
  generation : Option Nat
  texts : Option (FileReader × List Snapshot) := none

structure ValidationCall where
  domain : Uri
  bundle : ValidationBundle
  result : Except ValidationError ValidationReport
  due : Nat
  ticket : Nat

inductive ValidationStage where
  | started
  | queued (domains : List Uri)
  | collected (validator : Validator) (domain : Uri) (bundle : ValidationBundle) (rest : List Uri)
  | calling (call : ValidationCall) (rest : List Uri)
  | answered (result : Except ValidationError Unit)

structure ValidationRun where
  ticket : Nat
  generation : Option Nat
  stage : ValidationStage

/-- Nobody locks a session for longer than one step, so that between two steps of a call, a re-parse
or a run anything may happen. Each of them has a ticket: of two that are due at one moment the one
that was begun first comes first. -/
structure Session where
  now : Nat := 0
  nextTicket : Nat := 0
  workspace : Workspace
  parsing : Debouncer Nat
  reparses : List Reparse := []
  validator : Option Validator := none
  checking : Debouncer Nat
  pending : List Uri := []
  runs : List ValidationRun := []
  network : Network
  calls : List ValidationBundle := []
  notices : List Notice := []

namespace Session

def validatorOf (settings : Settings) (host : Host) : Option Validator :=
  match Validation.choose settings.validator host with
  | .ok validator => validator
  | .error _ => none

def new (settings : Settings) (host : Host) (network : Network) : Session :=
  { workspace := { reader := .ofSettings settings host }
    parsing := { delay := settings.parserDebounceMs }
    checking := { delay := settings.validationDebounceMs }
    validator := validatorOf settings host
    network }

def applySettings (s : Session) (settings : Settings) : Session :=
  let host := s.workspace.reader.host
  { s with
    workspace := s.workspace.setReader (.ofSettings settings host)
    parsing := s.parsing.setDelay settings.parserDebounceMs
    checking := s.checking.setDelay settings.validationDebounceMs
    validator := validatorOf settings host }

def scheduleReparse (s : Session) : Session :=
  { s with parsing := s.parsing.schedule s.now s.nextTicket, nextTicket := s.nextTicket + 1 }

def addReparse (s : Session) (generation : Option Nat) : Session :=
  { s with
    reparses := s.reparses ++ [{ ticket := s.nextTicket, generation }]
    nextTicket := s.nextTicket + 1 }

def expireParsing (s : Session) (timer : Timer Nat) : Session :=
  match s.parsing.expire timer with
  | (none, parsing) => { s with parsing }
  | (some timer, parsing) => addReparse { s with parsing } (some timer.generation)

def takeTexts (s : Session) (ticket : Nat) : Session :=
  let texts := some (s.workspace.reader, s.workspace.dirtyFiles)
  { s with reparses := s.reparses.map fun task =>
      if task.ticket = ticket then { task with texts } else task }

def installTexts (s : Session) (ticket : Nat) : List Uri × Session :=
  match s.reparses.find? (·.ticket == ticket) with
  | none => ([], s)
  | some task =>
    let read := task.texts.elim [] fun (reader, texts) => texts.map (Workspace.Snapshot.read reader)
    let (updated, workspace) := s.workspace.installAll read
    (updated, { s with
      workspace
      reparses := s.reparses.filter (·.ticket != ticket)
      parsing := task.generation.elim s.parsing s.parsing.finish })

def upsertNow (s : Session) (uri : Uri) (version : Int) (text : List Char) :
    UpsertOutcome × Session :=
  if (s.workspace.find? uri).any fun current => version ≤ current.version then (.unchanged, s)
  else
    let (outcome, workspace) :=
      s.workspace.install (SourceFile.read s.workspace.reader uri version text)
    (outcome, { s with workspace })

def edit (s : Session) (uri : Uri) (version : Int) (text : List Char) : UpsertOutcome × Session :=
  if s.workspace.contains uri then
    let (outcome, workspace) := s.workspace.upsert uri version text
    let s := { s with workspace }
    (outcome, if outcome = .updated then s.scheduleReparse else s)
  else s.upsertNow uri version text

def beginParse (s : Session) : Session := addReparse { s with parsing := s.parsing.cancel } none

def parseNow (s : Session) : List Uri × Session :=
  let ticket := s.nextTicket
  (s.beginParse.takeTexts ticket).installTexts ticket

def remove (s : Session) (uri : Uri) : Bool × Session :=
  let (known, workspace) := s.workspace.remove uri
  (known, { s with workspace })

def takeEvents (s : Session) : List WorkspaceEvent × Session :=
  let (events, workspace) := s.workspace.takeEvents
  (events, { s with workspace })

def bundleDomain? (w : Workspace) (uri : Uri) : Option Uri :=
  (w.find? uri).bind fun file =>
    match file.kind with
    | .domain _ => some uri
    | .problem _ => (w.domainFile? uri).map (·.uri)
    | _ => none

def validatedText (file : SourceFile) : List Char :=
  ((file.problem?.bind (·.preprocessed)).map String.toList).getD file.document.chars

def bundle? (w : Workspace) (domainUri : Uri) : Option ValidationBundle :=
  ((w.find? domainUri).filter (·.isDomain)).map fun domain =>
    { domain := ⟨domain.uri, domain.document.chars⟩
      problems := (w.problemFiles domainUri).map fun file => ⟨file.uri, validatedText file⟩ }

/-- Moves the files of a bundle from one status to another. A file that was edited in between has
another status, and keeps it. -/
def transition (w : Workspace) (b : ValidationBundle) (before after : FileStatus) : Workspace :=
  b.inputs.foldl (fun w input =>
    if (w.find? input.uri).map SourceFile.status = some before then w.setStatus input.uri after
    else w) w

def insertPending (uri : Uri) : List Uri → List Uri
  | [] => [uri]
  | other :: rest =>
    if uri = other then other :: rest
    else if uri.before other then uri :: other :: rest
    else other :: insertPending uri rest

def queueDomain (s : Session) (domain : Uri) : Session :=
  { s with pending := insertPending domain s.pending }

def restartChecking (s : Session) : Session :=
  { s with checking := s.checking.schedule s.now s.nextTicket, nextTicket := s.nextTicket + 1 }

def requestedDomain? (s : Session) (uri : Uri) : Option Uri :=
  if s.validator.isNone then none else bundleDomain? s.workspace uri

def scheduleValidation (s : Session) (uri : Uri) : Session :=
  match s.requestedDomain? uri with
  | none => s
  | some domain => (s.queueDomain domain).restartChecking

def setRun (s : Session) (run : ValidationRun) : Session :=
  { s with runs := s.runs.map fun other => if other.ticket = run.ticket then run else other }

def addRun (s : Session) (generation : Option Nat) (stage : ValidationStage) : Session :=
  { s with runs := s.runs ++ [⟨s.nextTicket, generation, stage⟩], nextTicket := s.nextTicket + 1 }

def expireChecking (s : Session) (timer : Timer Nat) : Session :=
  match s.checking.expire timer with
  | (none, checking) => { s with checking }
  | (some timer, checking) => addRun { s with checking } (some timer.generation) .started

def takePending (s : Session) (run : ValidationRun) : Session :=
  setRun { s with pending := [] } { run with stage := .queued s.pending }

/-- A validator has failed or could not begin. The one who asked is told, and otherwise everybody. -/
def fail (s : Session) (run : ValidationRun) (domain : Uri) (e : ValidationError) (rest : List Uri) :
    Session :=
  match run.generation with
  | some _ =>
    setRun { s with notices := s.notices ++ [.failure domain e] } { run with stage := .queued rest }
  | none => s.setRun { run with stage := .answered (.error e) }

def beginNext (s : Session) (run : ValidationRun) (domains : List Uri) : Session :=
  match domains with
  | [] =>
    match run.generation with
    | some generation =>
      { s with
        runs := s.runs.filter (·.ticket != run.ticket)
        checking := s.checking.finish generation }
    | none => s.setRun { run with stage := .answered (.ok ()) }
  | domain :: rest =>
    match s.validator, bundle? s.workspace domain with
    | none, _ => s.fail run domain .notConfigured rest
    | some _, none => s.setRun { run with stage := .queued rest }
    | some validator, some bundle =>
      s.setRun { run with stage := .collected validator domain bundle rest }

def beginCall (s : Session) (run : ValidationRun) (validator : Validator) (domain : Uri)
    (bundle : ValidationBundle) (rest : List Uri) : Session :=
  let (verdict, network) := validator bundle s.network
  let call : ValidationCall :=
    ⟨domain, bundle, verdict.result, s.now + verdict.elapsed, s.nextTicket⟩
  setRun
    { s with
      workspace := transition s.workspace bundle .parsed .validating
      network
      calls := s.calls ++ [bundle]
      nextTicket := s.nextTicket + 1 }
    { run with stage := .calling call rest }

def endCall (s : Session) (run : ValidationRun) (call : ValidationCall) (rest : List Uri) : Session :=
  match call.result with
  | .ok report =>
    setRun
      { s with
        workspace := transition s.workspace call.bundle .validating .validated
        notices := s.notices ++ [.report report] }
      { run with stage := .queued rest }
  | .error e =>
    fail { s with workspace := transition s.workspace call.bundle .validating .parsed } run
      call.domain e rest

/-- Validates a domain for somebody who waits, so that it need not wait itself. -/
def claimDomain (s : Session) (domain : Uri) : Session :=
  addRun { s with pending := s.pending.filter (· != domain) } none (.queued [domain])

def beginValidation (s : Session) (uri : Uri) : Session :=
  match bundleDomain? s.workspace uri with
  | none => s.addRun none (.answered (.ok ()))
  | some domain => s.claimDomain domain

def takeNotices (s : Session) : List Notice × Session := (s.notices, { s with notices := [] })

def takeCalls (s : Session) : List ValidationBundle × Session := (s.calls, { s with calls := [] })

end Session
end PddlAssist
