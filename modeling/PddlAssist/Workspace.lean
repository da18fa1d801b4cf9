import PddlAssist.SourceFile
import Std.Data.TreeMap

namespace PddlAssist

open Std (TreeMap)

inductive WorkspaceEvent where
  /-- A file is new. The next event is its first update. -/
  | inserted (uri : Uri)
  | updated (uri : Uri)
  | removing (uri : Uri)
  deriving DecidableEq, Repr, Inhabited

def WorkspaceEvent.uri : WorkspaceEvent → Uri
  | inserted uri | updated uri | removing uri => uri

inductive UpsertOutcome where
  | inserted
  | updated
  /-- The text was not newer than the one that is known. -/
  | unchanged
  deriving DecidableEq, Repr, Inhabited

abbrev Folder := TreeMap String SourceFile

structure Snapshot where
  uri : Uri
  version : Int
  text : List Char
  deriving DecidableEq, Repr, Inhabited

/-- All files that are known, by folder, and the events that nobody has taken yet. -/
structure Workspace where
  reader : FileReader
  folders : TreeMap String Folder := ∅
  events : List WorkspaceEvent := []

namespace Workspace

def emit (w : Workspace) (event : WorkspaceEvent) : Workspace :=
  { w with events := w.events ++ [event] }

def filesIn (w : Workspace) (folder : String) : List SourceFile :=
  (w.folders.getD folder ∅).values

def files (w : Workspace) : List SourceFile := w.folders.values.flatMap (·.values)

def find? (w : Workspace) (uri : Uri) : Option SourceFile :=
  (w.folders.getD uri.folder ∅).get? uri.text

def contains (w : Workspace) (uri : Uri) : Bool := (w.find? uri).isSome

def put (w : Workspace) (file : SourceFile) : Workspace :=
  let folder := w.folders.getD file.uri.folder ∅
  { w with folders := w.folders.insert file.uri.folder (folder.insert file.uri.text file) }

def adjust (w : Workspace) (uri : Uri) (f : SourceFile → SourceFile) : Workspace :=
  match w.find? uri with
  | some file => w.put (f file)
  | none => w

/-- A file that was read may take the place of the current one if it is newer, or if it is the
reading of the current text, which nobody has read yet. -/
def isFresh (current read : SourceFile) : Bool :=
  current.version < read.version ||
    (read.version == current.version && current.status == .dirty &&
      current.document == read.document)

def install (w : Workspace) (file : SourceFile) : UpsertOutcome × Workspace :=
  match w.find? file.uri with
  | some current =>
    if isFresh current file then (.updated, (w.put file).emit (.updated file.uri))
    else (.unchanged, w)
  | none => (.inserted, ((w.put file).emit (.inserted file.uri)).emit (.updated file.uri))

/-- Takes a text. A known file changes only if the text is newer, and is not read yet; a new file is
read at once. -/
def upsert (w : Workspace) (uri : Uri) (version : Int) (text : List Char) :
    UpsertOutcome × Workspace :=
  match w.find? uri with
  | some current =>
    match current.update? version text with
    | some file => (.updated, w.put file)
    | none => (.unchanged, w)
  | none => w.install (SourceFile.read w.reader uri version text)

def parseFile (w : Workspace) (uri : Uri) : Bool × Workspace :=
  match w.find? uri with
  | some current =>
    (true, w.put (SourceFile.read w.reader uri current.version current.document.chars))
  | none => (false, w)

def upsertAndParse (w : Workspace) (uri : Uri) (version : Int) (text : List Char) :
    UpsertOutcome × Workspace :=
  match w.upsert uri version text with
  | (.updated, w) => (.updated, (w.parseFile uri).2.emit (.updated uri))
  | other => other

def dirtyFiles (w : Workspace) : List Snapshot :=
  (w.files.filter (·.status == .dirty)).map fun f => ⟨f.uri, f.version, f.document.chars⟩

def Snapshot.read (reader : FileReader) (s : Snapshot) : SourceFile :=
  SourceFile.read reader s.uri s.version s.text

def installAll (w : Workspace) : List SourceFile → List Uri × Workspace
  | [] => ([], w)
  | file :: rest =>
    let (outcome, w) := w.install file
    let (updated, w) := installAll w rest
    (if outcome = .unchanged then updated else file.uri :: updated, w)

def reparseDirty (w : Workspace) : List Uri × Workspace :=
  w.installAll (w.dirtyFiles.map (Snapshot.read w.reader))

def remove (w : Workspace) (uri : Uri) : Bool × Workspace :=
  if w.contains uri then
    let rest := (w.folders.getD uri.folder ∅).erase uri.text
    let w := w.emit (.removing uri)
    (true, { w with folders :=
      if rest.isEmpty then w.folders.erase uri.folder else w.folders.insert uri.folder rest })
  else (false, w)

def setStatus (w : Workspace) (uri : Uri) (status : FileStatus) : Workspace :=
  w.adjust uri fun file => { file with status }

def setReader (w : Workspace) (reader : FileReader) : Workspace := { w with reader }

def takeEvents (w : Workspace) : List WorkspaceEvent × Workspace := (w.events, { w with events := [] })

end Workspace
end PddlAssist
