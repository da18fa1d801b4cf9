import PddlAssist.Server

namespace PddlAssist

inductive FileChange where
  | written
  | deleted
  deriving DecidableEq, Repr, Inhabited

inductive Notification where
  | initialized
  | opened (uri : Uri) (version : Int) (text : List Char)
  | changed (uri : Uri) (version : Int) (texts : List (List Char))
  | saved
  | closed (uri : Uri)
  | configured (value : Json)
  | watched (changes : List (Uri × FileChange))

namespace Server

/-- A copy from disk may have a higher version than the editor's text, and makes way for it. -/
def onOpened (s : Server) (uri : Uri) (version : Int) (text : List Char) : Server :=
  let s :=
    if s.isOpen uri then s
    else
      let s := { s with openDocuments := uri :: s.openDocuments }
      if s.session.workspace.contains uri then s.removeFile uri else s
  (s.upsertNow uri version text).loadFolder uri

def onChanged (s : Server) (uri : Uri) (version : Int) (text : List Char) : Server :=
  if s.session.workspace.contains uri then
    { s with session := (s.session.edit uri version text).2 }
  else s.upsertNow uri version text

/-- Other files may need a file that the editor has closed, so its text on disk counts now. -/
def onClosed (s : Server) (uri : Uri) : Server :=
  (removeFile { s with openDocuments := s.openDocuments.filter (· != uri) } uri).reload uri

def onWatched (s : Server) : Uri × FileChange → Server
  | (uri, .deleted) => if s.isOpen uri then s else s.removeFile uri
  | (uri, .written) => s.reload uri

def notify (s : Server) (notification : Notification) : Server :=
  if s.isShutDown then s
  else
    match notification with
    | .initialized => s.tell (.log .info "PDDL language server initialized")
    | .opened uri version text => s.onOpened uri version text
    | .changed uri version texts =>
      match texts.getLast? with
      | some text => s.onChanged uri version text
      | none => s
    | .saved => { s with session := s.session.parseNow.2 }
    | .closed uri => s.onClosed uri
    | .configured value => s.applySettings (.ofJson (some value))
    | .watched changes => changes.foldl onWatched s

end Server
end PddlAssist
