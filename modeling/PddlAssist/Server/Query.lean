import PddlAssist.Completion
import PddlAssist.Layout
import PddlAssist.Server.Planning
import PddlAssist.Symbol.Tear

namespace PddlAssist

inductive Query where
  | start (options : Option Json)
  | format (uri : Uri)
  | hover (uri : Uri) (position : Position)
  | definition (uri : Uri) (position : Position)
  | references (uri : Uri) (position : Position) (declaration : Bool)
  | prepareRename (uri : Uri) (position : Position)
  | rename (uri : Uri) (position : Position) (newName : String)
  | complete (uri : Uri) (position : Position)
  | outline (uri : Uri)
  | command (name : String) (arguments : List Json)
  | shutdown

inductive Response where
  | nothing
  | capabilities
  | edits (edits : List TextEdit)
  | hover (text : String) (range : Range)
  | location (location : Location)
  | locations (locations : List Location)
  | range (range : Range)
  | workspaceEdit (edits : List (Uri × List TextEdit))
  | items (items : List CompletionItem)
  | outline (items : List OutlineItem)
  | plan (plan : Server.DisplayedPlan)

inductive QueryError where
  | invalidParams (message : String)
  | invalidRequest
  deriving DecidableEq, Repr, Inhabited

namespace QueryError

def code : QueryError → Int
  | invalidParams _ => -32602
  | invalidRequest => -32600

def message : QueryError → String
  | invalidParams message => message
  | invalidRequest => "Invalid request"

end QueryError

namespace Server

def serverName : String := "pddl-lsp"

def serverVersion : String := "0.1.0"

def triggerCharacters : List Char := ['(', ':', '-', ' ']

def planCommand : String := "pddl.planAndDisplayResult"

def stopCommand : String := "pddl.stopPlanner"

def validateCommand : String := "pddl.validate"

def commands : List String := [planCommand, stopCommand, validateCommand]

def uriArgument? (arguments : List Json) (n : Nat) : Option Uri :=
  (arguments[n]?).bind fun argument => (Json.str? argument).bind Uri.parse?

def onPlan (s : Server) (patience : Nat) (arguments : List Json) :
    Except QueryError Response × Server :=
  match planningTask? s.session.workspace (uriArgument? arguments 0) (uriArgument? arguments 1) with
  | none =>
    (.error (.invalidParams "expected a parsed domain and problem, or a problem bound to a domain"), s)
  | some task =>
    match Planner.choose? s.settings.planner with
    | none => (.ok .nothing, s.tell (.show .error PlanningError.notConfigured.message))
    | some planner =>
      let ticket := s.session.nextTicket
      let (plan, s) := (s.startPlanner planner task).awaitPlanner ticket patience
      (.ok (plan.elim .nothing .plan), s)

def awaitValidation (s : Server) (ticket : Nat) : Nat → Server
  | 0 => s
  | fuel + 1 =>
    match s.session.answer? ticket with
    | some _ => s
    | none =>
      match s.session.tick? s.session.horizon with
      | some session => awaitValidation (s.follow session) ticket fuel
      | none => s

def onValidate (s : Server) (arguments : List Json) : Except QueryError Response × Server :=
  match uriArgument? arguments 0 with
  | none => (.error (.invalidParams "expected a file URI"), s)
  | some uri =>
    let session := s.session.parseNow.2
    let ticket := session.nextTicket
    let s := { s with session := session.beginValidation uri }
    let s := s.awaitValidation ticket s.load
    let (result, session) := s.session.takeAnswer ticket
    let s := { s with session }
    match result with
    | .ok _ => (.ok .nothing, s)
    | .error e => (.ok .nothing, s.tell (.show .error ("Validation failed: " ++ e.message)))

def onCommand (s : Server) (patience : Nat) (name : String) (arguments : List Json) :
    Except QueryError Response × Server :=
  if name = planCommand then s.onPlan patience arguments
  else if name = stopCommand then (.ok .nothing, s.stopPlanners (uriArgument? arguments 0))
  else if name = validateCommand then s.onValidate arguments
  else (.error (.invalidParams ("Unknown command: " ++ name)), s)

def setWorkspace (s : Server) (workspace : Workspace) : Server :=
  { s with session := { s.session with workspace } }

def onFormat (s : Server) (uri : Uri) : Response :=
  match s.session.workspace.find? uri with
  | none => .nothing
  | some file =>
    let formatted := Layout.format file.document.chars
    if formatted = file.document.chars then .edits []
    else .edits [⟨file.document.range, String.ofList formatted⟩]

def answer (s : Server) (patience : Nat) (query : Query) : Except QueryError Response × Server :=
  let w := s.session.workspace
  if s.isShutDown then (.error .invalidRequest, s)
  else
    match query with
    | .start options => (.ok .capabilities, s.applySettings (.ofJson options))
    | .format uri => (.ok (s.onFormat uri), s)
    | .hover uri position =>
      let (symbol, w) := Symbol.at? w uri position
      (.ok (symbol.elim .nothing fun symbol => .hover symbol.hover symbol.range), s.setWorkspace w)
    | .definition uri position =>
      let (symbol, w) := Symbol.at? w uri position
      (.ok ((symbol.bind (·.location)).elim .nothing .location), s.setWorkspace w)
    | .references uri position declaration =>
      let (symbol, w) := Symbol.at? w uri position
      let found := symbol.map fun symbol => Symbol.references w symbol declaration
      (.ok (found.elim .nothing .locations), s.setWorkspace w)
    | .prepareRename uri position =>
      let (range, w) := Symbol.prepareRename w uri position
      (.ok (range.elim .nothing .range), s.setWorkspace w)
    | .rename uri position newName =>
      if Symbol.isValidName newName then
        let (edits, w) := Symbol.rename w uri position newName
        (.ok (edits.elim .nothing .workspaceEdit), s.setWorkspace w)
      else (.error (.invalidParams ("'" ++ newName ++ "' is not a valid PDDL name")), s)
    | .complete uri position =>
      let items := Completion.items w uri position
      (.ok (if items.isEmpty then .nothing else .items items), s)
    | .outline uri =>
      let (items, w) := Outline.at? w uri
      (.ok (items.elim .nothing .outline), s.setWorkspace w)
    | .command name arguments => s.onCommand patience name arguments
    | .shutdown => (.ok .nothing, { s.stopPlanners none with isShutDown := true })

def tear? (s : Server) (query : Query) : Option Text.Span :=
  let w := s.session.workspace
  if s.isShutDown then none
  else
    match query with
    | .hover uri position | .definition uri position | .references uri position _ | .prepareRename uri position =>
      Symbol.tear? w uri position
    | .rename uri position newName => if Symbol.isValidName newName then Symbol.tear? w uri position else none
    | .outline uri => (w.find? uri).bind Outline.tear?
    | .start _ | .format _ | .complete .. | .command .. | .shutdown => none

/-- Asks the server. A query has no answer if a search that it needs breaks off. -/
def ask (s : Server) (patience : Nat) (query : Query) : Except Tear (Except QueryError Response × Server) :=
  match s.tear? query with
  | some scope => .error ⟨scope⟩
  | none => .ok (s.answer patience query)

end Server
end PddlAssist
