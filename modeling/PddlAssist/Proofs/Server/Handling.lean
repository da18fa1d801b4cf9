import PddlAssist.Server.Notification

namespace PddlAssist.Server

inductive Input where
  | notify (notification : Notification) (settled : ∀ value, notification ≠ .configured value)
  | advance (milliseconds : Nat)
  | write (disk : Disk)

def Input.handle (s : Server) : Input → Server
  | .notify notification _ => (s.notify notification).settle
  | .advance milliseconds => s.advance milliseconds
  | .write disk => s.setDisk disk

/-- The relation holds between the states before and after each move. -/
structure Handles (R : Server → Server → Prop) : Prop where
  refl (s : Server) : R s s
  trans {s s' s'' : Server} : R s s' → R s' s'' → R s s''
  opens (s : Server) (uri : Uri) : R s { s with openDocuments := uri :: s.openDocuments }
  closes (s : Server) (uri : Uri) : R s { s with openDocuments := s.openDocuments.filter (· != uri) }
  log (s : Server) (kind : MessageKind) (text : String) : R s (s.tell (.log kind text))
  write (s : Server) (disk : Disk) : R s (s.setDisk disk)
  removeFile (s : Server) (uri : Uri) : R s (s.removeFile uri)
  edit (s : Server) (uri : Uri) (version : Int) (text : List Char) :
    R s { s with session := (s.session.edit uri version text).2 }
  upsertNow (s : Server) (uri : Uri) (version : Int) (text : List Char) : R s (s.upsertNow uri version text)
  parseNow (s : Server) : R s { s with session := s.session.parseNow.2 }
  drain (s : Server) : R s s.drain
  tick {s : Server} {limit : Nat} {session : Session} (ticked : s.session.tick? limit = some session) :
    R s (s.follow session)
  await (s : Server) (moment : Nat) : R s { s with session := { s.session with now := moment } }

namespace Handles

variable {R : Server → Server → Prop}

theorem foldl (handles : Handles R) {α : Type} {f : Server → α → Server} (each : ∀ s a, R s (f s a)) (s : Server)
    (list : List α) : R s (list.foldl f s) := by
  induction list generalizing s with
  | nil => exact handles.refl s
  | cons first rest ih => exact handles.trans (each s first) (ih (f s first))

theorem loadFile (handles : Handles R) (s : Server) (path : String) : R s (s.loadFile path) := by
  unfold Server.loadFile
  simp only
  split
  · exact handles.refl s
  · split
    · exact handles.upsertNow s _ _ _
    · exact handles.refl s

theorem loadFolder (handles : Handles R) (s : Server) (uri : Uri) : R s (s.loadFolder uri) := by
  unfold Server.loadFolder
  split
  · exact handles.foldl handles.loadFile s _
  · exact handles.refl s

theorem reload (handles : Handles R) (s : Server) (uri : Uri) : R s (s.reload uri) := by
  unfold Server.reload
  split
  · exact handles.refl s
  · split
    · exact handles.refl s
    · exact handles.upsertNow s _ _ _

theorem onOpened (handles : Handles R) (s : Server) (uri : Uri) (version : Int) (text : List Char) :
    R s (s.onOpened uri version text) := by
  have read (s : Server) : R s ((s.upsertNow uri version text).loadFolder uri) :=
    handles.trans (handles.upsertNow s uri version text) (handles.loadFolder _ uri)
  have opens := handles.opens s uri
  unfold Server.onOpened
  simp only
  split
  · exact read s
  · split
    · exact handles.trans (handles.trans opens (handles.removeFile _ uri)) (read _)
    · exact handles.trans opens (read _)

theorem onChanged (handles : Handles R) (s : Server) (uri : Uri) (version : Int) (text : List Char) :
    R s (s.onChanged uri version text) := by
  unfold Server.onChanged
  split
  · exact handles.edit s uri version text
  · exact handles.upsertNow s uri version text

theorem onClosed (handles : Handles R) (s : Server) (uri : Uri) : R s (s.onClosed uri) :=
  handles.trans (handles.trans (handles.closes s uri) (handles.removeFile _ uri)) (handles.reload _ uri)

theorem onWatched (handles : Handles R) (s : Server) (change : Uri × FileChange) : R s (s.onWatched change) := by
  obtain ⟨uri, change⟩ := change
  cases change with
  | written => exact handles.reload s uri
  | deleted =>
    simp only [Server.onWatched]
    split
    · exact handles.refl s
    · exact handles.removeFile s uri

theorem notify (handles : Handles R) (s : Server) {notification : Notification}
    (settled : ∀ value, notification ≠ .configured value) : R s (s.notify notification) := by
  unfold Server.notify
  split
  · exact handles.refl s
  · cases notification with
    | initialized => exact handles.log s _ _
    | opened uri version text => exact handles.onOpened s uri version text
    | changed uri version texts =>
      simp only
      split
      · exact handles.onChanged s uri version _
      · exact handles.refl s
    | saved => exact handles.parseNow s
    | closed uri => exact handles.onClosed s uri
    | configured value => exact absurd rfl (settled value)
    | watched changes => exact handles.foldl handles.onWatched s changes

theorem runUntil (handles : Handles R) (s : Server) (limit fuel : Nat) : R s (s.runUntil limit fuel) := by
  induction fuel generalizing s with
  | zero => exact handles.refl s
  | succ fuel ih =>
    rw [Server.runUntil]
    split
    · rename_i ticked
      exact handles.trans (handles.tick ticked) (ih _)
    · exact handles.refl s

theorem settle (handles : Handles R) (s : Server) : R s s.settle :=
  handles.trans (handles.drain s) (handles.runUntil _ _ _)

theorem advance (handles : Handles R) (s : Server) (milliseconds : Nat) : R s (s.advance milliseconds) :=
  handles.trans (handles.runUntil s _ _) (handles.await _ _)

theorem handle (handles : Handles R) (s : Server) (input : Input) : R s (input.handle s) := by
  cases input with
  | notify notification settled => exact handles.trans (handles.notify s settled) (handles.settle _)
  | advance milliseconds => exact handles.advance s milliseconds
  | write disk => exact handles.write s disk

end Handles
end PddlAssist.Server
