import PddlAssist.Disk
import PddlAssist.Planning.Run
import PddlAssist.Program.Shell.Run
import PddlAssist.Session.Clock

namespace PddlAssist

open Std (TreeMap)

inductive MessageKind where
  | error
  | info
  deriving DecidableEq, Repr, Inhabited

inductive ServerMessage where
  | diagnostics (uri : Uri) (diagnostics : List Diagnostic) (version : Option Int)
  | show (kind : MessageKind) (text : String)
  | log (kind : MessageKind) (text : String)
  deriving DecidableEq, Repr, Inhabited

structure PlannerRun where
  ticket : Nat
  problemUri : Uri
  domainName : String
  problemName : String
  run : Planning.Run

/-- The editor owns the files that it has opened; the others are read from disk. -/
structure Server where
  session : Session
  settings : Settings := {}
  disk : Disk
  openDocuments : List Uri := []
  validatorDiagnostics : TreeMap String (List Diagnostic) := ∅
  /-- The planner that can be stopped, by the address of its problem. -/
  planners : TreeMap String Nat := ∅
  planning : List PlannerRun := []
  outbox : List ServerMessage := []
  isShutDown : Bool := false

namespace Server

def diskVersion : Int := -1

def hostOf (disk : Disk) : Host := Shell.host disk.files

def new (disk : Disk) (network : Network) : Server :=
  { session := .new {} (hostOf disk) network, disk }

def setDisk (s : Server) (disk : Disk) : Server :=
  let workspace := s.session.workspace
  let workspace := workspace.setReader { workspace.reader with host := hostOf disk }
  { s with disk, session := { s.session with workspace } }

def isOpen (s : Server) (uri : Uri) : Bool := s.openDocuments.contains uri

def applySettings (s : Server) (settings : Settings) : Server :=
  { s with session := s.session.applySettings settings, settings }

def tell (s : Server) (message : ServerMessage) : Server := { s with outbox := s.outbox ++ [message] }

def takeMessages (s : Server) : List ServerMessage × Server := (s.outbox, { s with outbox := [] })

def diagnosticsOf (s : Server) (uri : Uri) : List Diagnostic :=
  let limit := s.settings.maxNumberOfProblems
  (Diagnostic.collect s.session.workspace uri limit ++
    s.validatorDiagnostics.getD uri.text []).take limit

/-- Tells the diagnostics of a file. Only the versions of open files mean something to the editor. -/
def publishFile (s : Server) (file : SourceFile) : Server :=
  let version := if s.isOpen file.uri then some file.version else none
  s.tell (.diagnostics file.uri (s.diagnosticsOf file.uri) version)

def publish (s : Server) (uri : Uri) : Server :=
  (s.session.workspace.find? uri).elim s s.publishFile

def clear (s : Server) (uri : Uri) : Server :=
  tell { s with validatorDiagnostics := s.validatorDiagnostics.erase uri.text }
    (.diagnostics uri [] none)

/-- An event of the workspace. A file's text changes what is known about all files of its folder. -/
def onEvent (s : Server) : WorkspaceEvent → Server
  | .inserted _ => s
  | .updated uri =>
    let s := { s with validatorDiagnostics := s.validatorDiagnostics.erase uri.text }
    let s := ((s.session.workspace.siblings uri).map (·.uri)).foldl publish s
    { s with session := s.session.scheduleValidation uri }
  | .removing uri => s.clear uri

def drain (s : Server) : Server :=
  let (events, session) := s.session.takeEvents
  events.foldl onEvent { s with session }

def onNotice (s : Server) : Notice → Server
  | .report report =>
    report.toList.foldl (fun s (address, found) =>
      let s := { s with validatorDiagnostics := s.validatorDiagnostics.insert address found }
      (s.session.workspace.files.find? (·.uri.text == address)).elim s s.publishFile) s
  | .failure domain e =>
    s.tell (.show .error ("Validation of " ++ domain.text ++ " failed: " ++ e.message))

def relay (s : Server) : Server :=
  let (notices, session) := s.session.takeNotices
  notices.foldl onNotice { s with session }

def follow (s : Server) (session : Session) : Server := drain (relay { s with session })

def runUntil (s : Server) (limit : Nat) : Nat → Server
  | 0 => s
  | fuel + 1 =>
    match s.session.tick? limit with
    | some session => runUntil (s.follow session) limit fuel
    | none => s

/-- A bound on the number of steps until nothing is left to do. Reading a text again may have the
domains of all files validated. -/
def load (s : Server) : Nat := s.session.load + 4 * s.session.workspace.files.length + 16

def settle (s : Server) : Server :=
  let s := s.drain
  s.runUntil s.session.now s.load

def advance (s : Server) (milliseconds : Nat) : Server :=
  let limit := s.session.now + milliseconds
  let s := s.runUntil limit s.load
  { s with session := { s.session with now := limit } }

def upsertNow (s : Server) (uri : Uri) (version : Int) (text : List Char) : Server :=
  if (s.session.workspace.find? uri).any fun current => version ≤ current.version then s
  else
    let s := s.drain
    { s with session := (s.session.upsertNow uri version text).2 }

def loadFile (s : Server) (path : String) : Server :=
  let uri := Uri.ofPath path
  if s.session.workspace.contains uri then s
  else
    match s.disk.read? path with
    | some text => s.upsertNow uri diskVersion text
    | none => s

def loadFolder (s : Server) (uri : Uri) : Server :=
  match uri.localFolder? with
  | some folder => (s.disk.scan folder).foldl loadFile s
  | none => s

def reload (s : Server) (uri : Uri) : Server :=
  if s.isOpen uri then s
  else
    match uri.localFile?.bind s.disk.read? with
    | none => s
    | some text =>
      let version := (s.session.workspace.find? uri).elim diskVersion fun file =>
        min (file.version + 1) 2147483647
      s.upsertNow uri version text

def removeFile (s : Server) (uri : Uri) : Server := { s with session := (s.session.remove uri).2 }

end Server
end PddlAssist
