import PddlAssist.Proofs.Session.Flight
import PddlAssist.Proofs.Workspace.Change
import PddlAssist.Server.Notification

namespace PddlAssist

open Workspace (Revision)

namespace Server

def revisionOf? (s : Server) (uri : Uri) : Option Revision := s.session.workspace.revision? uri.key

structure Alike (s s' : Server) : Prop where
  folders : s'.session.workspace.folders = s.session.workspace.folders
  reparses : s'.session.reparses = s.session.reparses
  documents : s'.openDocuments = s.openDocuments
  disk : s'.disk = s.disk
  shutDown : s'.isShutDown = s.isShutDown

namespace Alike

theorem refl (s : Server) : Alike s s := ⟨rfl, rfl, rfl, rfl, rfl⟩

theorem trans {s s' s'' : Server} (first : Alike s s') (second : Alike s' s'') : Alike s s'' :=
  ⟨second.folders.trans first.folders, second.reparses.trans first.reparses, second.documents.trans first.documents,
    second.disk.trans first.disk, second.shutDown.trans first.shutDown⟩

theorem foldl {α : Type} {f : Server → α → Server} (each : ∀ s a, Alike s (f s a)) (s : Server) (list : List α) :
    Alike s (list.foldl f s) := by
  induction list generalizing s with
  | nil => exact refl s
  | cons first rest ih => exact (each s first).trans (ih (f s first))

theorem publish (s : Server) (uri : Uri) : Alike s (s.publish uri) := by
  unfold Server.publish
  cases s.session.workspace.find? uri <;> exact ⟨rfl, rfl, rfl, rfl, rfl⟩

theorem scheduleValidation (s : Server) (uri : Uri) :
    Alike s { s with session := s.session.scheduleValidation uri } := by
  unfold Session.scheduleValidation
  split <;> exact ⟨rfl, rfl, rfl, rfl, rfl⟩

theorem onEvent (s : Server) (event : WorkspaceEvent) : Alike s (s.onEvent event) := by
  cases event with
  | inserted | removing => exact ⟨rfl, rfl, rfl, rfl, rfl⟩
  | updated uri =>
    have erased : Alike s { s with validatorDiagnostics := s.validatorDiagnostics.erase uri.text } :=
      ⟨rfl, rfl, rfl, rfl, rfl⟩
    exact (erased.trans (foldl publish _ _)).trans (scheduleValidation _ uri)

theorem onNotice (s : Server) (notice : Notice) : Alike s (s.onNotice notice) := by
  cases notice with
  | failure => exact ⟨rfl, rfl, rfl, rfl, rfl⟩
  | report report =>
    refine foldl (fun s found => ?_) s report.toList
    simp only
    cases List.find? _ _ <;> exact ⟨rfl, rfl, rfl, rfl, rfl⟩

theorem drain (s : Server) : Alike s s.drain := by
  have taken : Alike s { s with session := s.session.takeEvents.2 } := ⟨rfl, rfl, rfl, rfl, rfl⟩
  exact taken.trans (foldl onEvent _ _)

theorem relay (s : Server) : Alike s s.relay := by
  have taken : Alike s { s with session := s.session.takeNotices.2 } := ⟨rfl, rfl, rfl, rfl, rfl⟩
  exact taken.trans (foldl onNotice _ _)

theorem follow (s : Server) (session : Session) : Alike { s with session } (s.follow session) :=
  (relay _).trans (drain _)

variable {s s' : Server}

theorem stored? (alike : Alike s s') (key : String × String) :
    s'.session.workspace.stored? key = s.session.workspace.stored? key := by
  simp only [Workspace.stored?, alike.folders]

theorem revision? (alike : Alike s s') (key : String × String) :
    s'.session.workspace.revision? key = s.session.workspace.revision? key :=
  Workspace.revision?_of_folders alike.folders key

theorem orderly (alike : Alike s s') (orderly : s.session.workspace.Orderly) : s'.session.workspace.Orderly :=
  orderly.of_folders alike.folders

theorem inFlight (alike : Alike s s') : s'.session.inFlight = s.session.inFlight := by
  simp only [Session.inFlight, alike.reparses]

end Alike

/-- A text stays, or a late one that is newer takes its place. -/
def Becomes (late : Snapshot → Prop) (r r' : Revision) : Prop :=
  r' = r ∨ ∃ snapshot, late snapshot ∧ r.version < snapshot.version ∧ r' = ⟨snapshot.version, snapshot.text⟩

theorem Becomes.version_le {late : Snapshot → Prop} {r r' : Revision} (becomes : Becomes late r r') :
    r.version ≤ r'.version := by
  rcases becomes with rfl | ⟨snapshot, _, newer, rfl⟩
  · exact Int.le_refl _
  · exact Int.le_of_lt newer

theorem Becomes.trans {late : Snapshot → Prop} {r r' r'' : Revision} (first : Becomes late r r')
    (second : Becomes late r' r'') : Becomes late r r'' := by
  rcases second with rfl | ⟨snapshot, isLate, newer, rfl⟩
  · exact first
  · exact .inr ⟨snapshot, isLate, Int.lt_of_le_of_lt first.version_le newer, rfl⟩

/-- Texts that may come back to a file although the editor has opened it. -/
abbrev Late : Type := Uri → Snapshot → Prop

/-- Every file that the editor has opened is held, and a text of it that is on its way is not newer or counts as
late. -/
structure Owning (late : Late) (s : Server) : Prop where
  orderly : s.session.workspace.Orderly
  working : s.isShutDown = false
  held : ∀ uri ∈ s.openDocuments, ∃ r, s.revisionOf? uri = some r ∧
    ∀ snapshot ∈ s.session.inFlight, snapshot.uri.key = uri.key → snapshot.version ≤ r.version ∨ late uri snapshot

structure Spared (late : Late) (s s' : Server) : Prop where
  owning : Owning late s'
  documents : s'.openDocuments = s.openDocuments
  disk : s'.disk = s.disk
  revisions : ∀ uri ∈ s.openDocuments, ∃ r r', s.revisionOf? uri = some r ∧ s'.revisionOf? uri = some r' ∧
    Becomes (late uri) r r'

def Spares (late : Late) (s s' : Server) : Prop := Owning late s → Spared late s s'

variable {late : Late}

theorem Spared.of_revisions {s s' : Server} (owning : Owning late s) (owning' : Owning late s')
    (documents : s'.openDocuments = s.openDocuments) (disk : s'.disk = s.disk)
    (same : ∀ uri ∈ s.openDocuments, s'.revisionOf? uri = s.revisionOf? uri) : Spared late s s' := by
  refine ⟨owning', documents, disk, fun uri isOpen => ?_⟩
  obtain ⟨r, isHeld, _⟩ := owning.held uri isOpen
  exact ⟨r, r, isHeld, (same uri isOpen).trans isHeld, .inl rfl⟩

namespace Spares

theorem refl (s : Server) : Spares late s s := fun owning => .of_revisions owning owning rfl rfl fun _ _ => rfl

theorem trans {s s' s'' : Server} (first : Spares late s s') (second : Spares late s' s'') : Spares late s s'' := by
  intro owning
  have first := first owning
  have second := second first.owning
  refine ⟨second.owning, second.documents.trans first.documents, second.disk.trans first.disk, fun uri isOpen => ?_⟩
  obtain ⟨r, r', isHeld, isNext, becomes⟩ := first.revisions uri isOpen
  obtain ⟨_, r'', isStill, isLast, later⟩ := second.revisions uri (first.documents ▸ isOpen)
  rw [isNext, Option.some.injEq] at isStill
  subst isStill
  exact ⟨r, r'', isHeld, isLast, becomes.trans later⟩

theorem foldl {α : Type} {f : Server → α → Server} (each : ∀ s a, Spares late s (f s a)) (s : Server)
    (list : List α) : Spares late s (list.foldl f s) := by
  induction list generalizing s with
  | nil => exact refl s
  | cons first rest ih => exact (each s first).trans (ih (f s first))

theorem alike {s s' : Server} (alike : Alike s s') : Spares late s s' := by
  intro owning
  refine .of_revisions owning ⟨alike.orderly owning.orderly, alike.shutDown.trans owning.working, fun uri isOpen => ?_⟩
    alike.documents alike.disk fun uri _ => alike.revision? uri.key
  rw [alike.documents] at isOpen
  rw [revisionOf?, alike.revision?, alike.inFlight]
  exact owning.held uri isOpen

theorem proceeds {s : Server} {session : Session} (proceeds : s.session.Proceeds session) :
    Spares late s { s with session } := by
  intro owning
  have revisions : ∀ uri ∈ s.openDocuments, ∃ r r', s.revisionOf? uri = some r ∧
      session.workspace.revision? uri.key = some r' ∧ Becomes (late uri) r r' := by
    intro uri isOpen
    obtain ⟨r, isHeld, covered⟩ := owning.held uri isOpen
    rcases proceeds.revision? owning.orderly isHeld with stays | ⟨snapshot, isFlying, sameKey, newer, comes⟩
    · exact ⟨r, r, isHeld, stays, .inl rfl⟩
    · have isLate := (covered snapshot isFlying sameKey).resolve_left (Int.not_le.mpr newer)
      exact ⟨r, _, isHeld, comes, .inr ⟨snapshot, isLate, newer, rfl⟩⟩
  obtain ⟨operations, _, isRun⟩ := proceeds.workspace
  refine ⟨⟨isRun ▸ owning.orderly.run operations, owning.working, fun uri isOpen => ?_⟩, rfl, rfl, revisions⟩
  obtain ⟨r, isHeld, covered⟩ := owning.held uri isOpen
  obtain ⟨_, r', isStill, isNext, becomes⟩ := revisions uri isOpen
  rw [isHeld, Option.some.injEq] at isStill
  subst isStill
  have grows := becomes.version_le
  refine ⟨r', isNext, fun snapshot isFlying sameKey => ?_⟩
  rcases proceeds.flight snapshot isFlying with old | isDirty
  · exact (covered snapshot old sameKey).imp_left fun older => Int.le_trans older grows
  · -- a text that was just taken is the one that the workspace holds
    have isTaken := owning.orderly.revision?_of_mem_dirtyFiles isDirty
    rw [sameKey] at isTaken
    rw [revisionOf?, isTaken, Option.some.injEq] at isHeld
    subst isHeld
    exact .inl grows

theorem follow {s : Server} {session : Session} (proceeds : s.session.Proceeds session) :
    Spares late s (s.follow session) :=
  (Spares.proceeds proceeds).trans (.alike (.follow s session))

end Spares

/-- An address gets a text, and keeps its own if that is as new. -/
structure Arrives (s s' : Server) (uri : Uri) (r : Revision) : Prop where
  orderly : s'.session.workspace.Orderly
  documents : s'.openDocuments = s.openDocuments
  disk : s'.disk = s.disk
  shutDown : s'.isShutDown = s.isShutDown
  inFlight : s'.session.inFlight = s.session.inFlight
  revisions : ∀ key, s'.session.workspace.revision? key =
    if uri.key = key then Revision.supersede (s.session.workspace.revision? key) r
    else s.session.workspace.revision? key

theorem revision?_install_read (w : Workspace) (reader : FileReader) (uri : Uri) (version : Int) (text : List Char)
    (key : String × String) : (w.install (.read reader uri version text)).2.revision? key =
      if uri.key = key then Revision.supersede (w.revision? key) ⟨version, text⟩ else w.revision? key := by
  rw [Workspace.revision?_install, SourceFile.read_uri, Revision.ofFile, SourceFile.read_version,
    SourceFile.read_document]

theorem supersede_stale {w : Workspace} {uri : Uri} {version : Int} (text : List Char)
    (stale : (w.find? uri).any fun current => version ≤ current.version) :
    Revision.supersede (w.revision? uri.key) ⟨version, text⟩ = w.revision? uri.key := by
  cases found : w.find? uri with
  | none =>
    rw [found] at stale
    cases stale
  | some current =>
    have older : version ≤ current.version := by simpa [found] using stale
    have isHeld : w.revision? uri.key = some (.ofFile current) := by
      rw [Workspace.revision?, ← Workspace.find?_eq_stored?, found, Option.map_some]
    have stays : ¬ (Revision.ofFile current).version < version := Int.not_lt.mpr older
    rw [isHeld, Revision.supersede, if_neg stays]

theorem upsertNow_arrives {s : Server} (orderly : s.session.workspace.Orderly) (uri : Uri) (version : Int)
    (text : List Char) : Arrives s (s.upsertNow uri version text) uri ⟨version, text⟩ := by
  unfold upsertNow
  split
  · rename_i stale
    refine ⟨orderly, rfl, rfl, rfl, rfl, fun key => ?_⟩
    split
    · rename_i isKey
      rw [← isKey, supersede_stale text stale]
    · rfl
  · rename_i fresh
    have drained := Alike.drain s
    have same : s.drain.session.workspace.find? uri = s.session.workspace.find? uri := drained.stored? uri.key
    have isRead : (s.drain.session.upsertNow uri version text).2 = { s.drain.session with
        workspace := (s.drain.session.workspace.install
          (.read s.drain.session.workspace.reader uri version text)).2 } :=
      congrArg Prod.snd (if_neg (by rw [same]; exact fresh))
    simp only [isRead]
    have stays := (drained.orderly orderly).apply (.install s.drain.session.workspace.reader uri version text)
    refine ⟨stays, drained.documents, drained.disk, drained.shutDown, drained.inFlight, fun key => ?_⟩
    rw [revision?_install_read, drained.revision?]

theorem edit_arrives {s : Server} (orderly : s.session.workspace.Orderly) {uri : Uri} (version : Int)
    (text : List Char) (known : s.session.workspace.contains uri = true) :
    Arrives s { s with session := (s.session.edit uri version text).2 } uri ⟨version, text⟩ := by
  have taken : (s.session.edit uri version text).2.workspace = (s.session.workspace.upsert uri version text).2 ∧
      (s.session.edit uri version text).2.inFlight = s.session.inFlight := by
    simp only [Session.edit, known, if_true]
    split <;> exact ⟨rfl, rfl⟩
  refine ⟨?_, rfl, rfl, rfl, taken.2, fun key => ?_⟩
  · rw [taken.1]
    exact orderly.apply (.upsert uri version text)
  · rw [taken.1, orderly.revision?_upsert]

namespace Arrives

variable {s s' : Server} {uri : Uri} {r : Revision}

theorem revisionOf? (arrives : Arrives s s' uri r) :
    s'.revisionOf? uri = Revision.supersede (s.revisionOf? uri) r := by
  rw [Server.revisionOf?, arrives.revisions, if_pos rfl, Server.revisionOf?]

theorem other (arrives : Arrives s s' uri r) {other : Uri} (apart : uri.key ≠ other.key) :
    s'.revisionOf? other = s.revisionOf? other := by
  rw [Server.revisionOf?, arrives.revisions, if_neg apart, Server.revisionOf?]

theorem owning (arrives : Arrives s s' uri r) (owning : Owning late s) : Owning late s' := by
  refine ⟨arrives.orderly, arrives.shutDown.trans owning.working, fun other isOpen => ?_⟩
  rw [arrives.documents] at isOpen
  obtain ⟨held, isHeld, covered⟩ := owning.held other isOpen
  rw [arrives.inFlight, Server.revisionOf?, arrives.revisions]
  split
  · rw [← Server.revisionOf?, isHeld, Revision.supersede]
    split
    · rename_i newer
      refine ⟨r, rfl, fun snapshot isFlying sameKey => (covered snapshot isFlying sameKey).imp_left fun older => ?_⟩
      exact Int.le_trans older (Int.le_of_lt newer)
    · exact ⟨held, rfl, covered⟩
  · exact ⟨held, isHeld, covered⟩

theorem spares (arrives : Arrives s s' uri r) (free : ∀ other ∈ s.openDocuments, uri.key ≠ other.key) :
    Spares late s s' := fun owning =>
  .of_revisions owning (arrives.owning owning) arrives.documents arrives.disk fun _ isOpen =>
    arrives.other (free _ isOpen)

end Arrives

theorem loadFile_spares (s : Server) (path : String) : Spares late s (s.loadFile path) := by
  unfold loadFile
  simp only
  split
  · exact .refl s
  · rename_i unknown
    split
    · intro owning
      refine (upsertNow_arrives owning.orderly _ _ _).spares (fun other isOpen sameKey => ?_) owning
      -- an open file is known
      obtain ⟨r, isHeld, _⟩ := owning.held other isOpen
      rw [revisionOf?, ← sameKey, Workspace.revision?, ← Workspace.find?_eq_stored?] at isHeld
      rw [Workspace.contains, Bool.not_eq_true, Option.isSome_eq_false_iff, Option.isNone_iff_eq_none] at unknown
      simp [unknown] at isHeld
    · exact .refl s

theorem loadFolder_spares (s : Server) (uri : Uri) : Spares late s (s.loadFolder uri) := by
  unfold loadFolder
  split
  · exact .foldl loadFile_spares s _
  · exact .refl s

theorem removeFile_revision? (s : Server) (uri : Uri) (key : String × String) :
    (s.removeFile uri).session.workspace.revision? key =
      if uri.key = key then none else s.session.workspace.revision? key := by
  simp only [removeFile, Session.remove, Workspace.revision?, Workspace.stored?_remove]
  split <;> rfl

theorem removeFile_owning {s : Server} (orderly : s.session.workspace.Orderly) (working : s.isShutDown = false)
    {uri : Uri} (held : ∀ other ∈ s.openDocuments, uri.key ≠ other.key ∧ ∃ r, s.revisionOf? other = some r ∧
      ∀ snapshot ∈ s.session.inFlight, snapshot.uri.key = other.key →
        snapshot.version ≤ r.version ∨ late other snapshot) : Owning late (s.removeFile uri) := by
  refine ⟨orderly.remove uri, working, fun other isOpen => ?_⟩
  obtain ⟨apart, r, isHeld, covered⟩ := held other isOpen
  refine ⟨r, ?_, covered⟩
  rw [revisionOf?, removeFile_revision?, if_neg apart]
  exact isHeld

theorem removeFile_spares {s : Server} {uri : Uri} (free : ∀ other ∈ s.openDocuments, uri.key ≠ other.key) :
    Spares late s (s.removeFile uri) := by
  intro owning
  refine .of_revisions owning (removeFile_owning owning.orderly owning.working fun other isOpen =>
    ⟨free other isOpen, owning.held other isOpen⟩) rfl rfl fun other isOpen => ?_
  rw [revisionOf?, removeFile_revision?, if_neg (free other isOpen), revisionOf?]

theorem reload_spares {s : Server} {uri : Uri} (free : ∀ other ∈ s.openDocuments, uri.key = other.key → uri = other) :
    Spares late s (s.reload uri) := by
  unfold reload
  split
  · exact .refl s
  · rename_i closed
    split
    · exact .refl s
    · intro owning
      refine (upsertNow_arrives owning.orderly _ _ _).spares (fun other isOpen sameKey => closed ?_) owning
      rw [free other isOpen sameKey]
      exact List.contains_iff_mem.mpr isOpen

theorem reload_unknown {s : Server} (orderly : s.session.workspace.Orderly) {uri : Uri} (closed : uri ∉ s.openDocuments)
    (unknown : s.revisionOf? uri = none) : (s.reload uri).revisionOf? uri =
      (uri.localFile?.bind s.disk.read?).map (⟨diskVersion, ·⟩) := by
  have notOpen : s.isOpen uri = false := by
    rw [isOpen, List.contains_eq_mem, decide_eq_false_iff_not]
    exact closed
  have notFound : s.session.workspace.find? uri = none := by
    rw [revisionOf?, Workspace.revision?, ← Workspace.find?_eq_stored?] at unknown
    exact Option.map_eq_none_iff.mp unknown
  unfold reload
  simp only [notOpen, Bool.false_eq_true, if_false]
  cases uri.localFile?.bind s.disk.read? with
  | none => exact unknown
  | some text =>
    simp only [notFound, Option.elim_none]
    rw [(upsertNow_arrives orderly uri diskVersion text).revisionOf?, unknown]
    rfl

end Server

/-- What comes to a server: a notification, which is handled to its end, the next step of what has begun or is due up to
a moment, time that passes, the watcher's turn, or a change of the files on disk. -/
inductive Turn where
  | notify (notification : Notification)
  | tick (limit : Nat)
  | await (moment : Nat)
  | drain
  | write (disk : Disk)

namespace Turn

def apply (s : Server) : Turn → Server
  | .notify notification => s.notify notification
  | .tick limit => (s.session.tick? limit).elim s s.follow
  | .await moment => { s with session := { s.session with now := moment } }
  | .drain => s.drain
  | .write disk => s.setDisk disk

def hear (uri : Uri) (log : Option (List Revision)) : Turn → Option (List Revision)
  | .notify (.opened other version text) => if other = uri then some (log.getD [] ++ [⟨version, text⟩]) else log
  | .notify (.changed other version texts) =>
    if other = uri then log.map (· ++ (texts.getLast?.map fun text => ⟨version, text⟩).toList) else log
  | .notify (.closed other) => if other = uri then none else log
  | _ => log

def uris : Turn → List Uri
  | .notify (.opened uri ..) | .notify (.changed uri ..) | .notify (.closed uri) => [uri]
  | .notify (.watched changes) => changes.map (·.1)
  | _ => []

end Turn

/-- What the editor has sent of a file since it opened the file, unless it has closed it. -/
def heard (uri : Uri) (turns : List Turn) : Option (List Revision) := turns.foldl (Turn.hear uri) none

namespace Server

def serve (settings : Settings) (disk : Disk) (network : Network) (turns : List Turn) : Server :=
  turns.foldl Turn.apply ((Server.new disk network).applySettings settings)

def makeRoom (s : Server) (uri : Uri) : Server := removeFile { s with openDocuments := uri :: s.openDocuments } uri

theorem onOpened_of_open {s : Server} {uri : Uri} (isOpen : s.isOpen uri = true) (version : Int) (text : List Char) :
    s.onOpened uri version text = (s.upsertNow uri version text).loadFolder uri := by
  rw [onOpened, if_pos isOpen]

theorem onOpened_of_closed {s : Server} {uri : Uri} (closed : s.isOpen uri = false) (version : Int)
    (text : List Char) :
    s.onOpened uri version text = ((s.makeRoom uri).upsertNow uri version text).loadFolder uri := by
  rw [onOpened, if_neg (Bool.eq_false_iff.mp closed)]
  simp only
  split
  · rfl
  · rename_i unknown
    have unknown : s.session.workspace.contains uri = false := Bool.not_eq_true _ ▸ unknown
    simp only [makeRoom, removeFile, Session.remove, Workspace.remove_of_unknown unknown]

/-- Of what the editor has sent since it opened a file the newest text stands, or a late one in its place. -/
inductive Stands (late : Snapshot → Prop) (log : List Revision) (r : Revision) : Prop where
  | newest (isNewest : Revision.IsNewest log (some r))
  /-- The late text is newer than the one with which the file was opened, and none that was sent is newer than it. -/
  | overtaken {snapshot : Snapshot} (isLate : late snapshot) (isHeld : r = ⟨snapshot.version, snapshot.text⟩)
    (newer : ∃ opened rest, log = opened :: rest ∧ opened.version < snapshot.version)
    (greatest : ∀ sent ∈ log, sent.version ≤ snapshot.version)

namespace Stands

variable {late : Snapshot → Prop} {log : List Revision} {r r' : Revision}

theorem opened (r : Revision) : Stands late [r] r := .newest (Revision.isNewest_supersede (.none rfl) r)

theorem greatest (stands : Stands late log r) : ∀ sent ∈ log, sent.version ≤ r.version := by
  cases stands with
  | newest isNewest =>
    cases isNewest with
    | some greatest first => exact greatest
  | overtaken isLate isHeld newer greatest => exact isHeld ▸ greatest

theorem ne_nil (stands : Stands late log r) : log ≠ [] := by
  cases stands with
  | newest isNewest =>
    cases isNewest with
    | some greatest first => exact List.ne_nil_of_mem (List.mem_of_find?_eq_some first)
  | overtaken isLate isHeld newer greatest =>
    obtain ⟨opened, rest, rfl, _⟩ := newer
    exact List.cons_ne_nil _ _

theorem becomes (stands : Stands late log r) (becomes : Becomes late r r') : Stands late log r' := by
  rcases becomes with rfl | ⟨snapshot, isLate, newer, rfl⟩
  · exact stands
  · have older : ∀ sent ∈ log, sent.version < snapshot.version := fun sent isSent =>
      Int.lt_of_le_of_lt (stands.greatest sent isSent) newer
    obtain ⟨opened, rest, rfl⟩ := List.exists_cons_of_ne_nil stands.ne_nil
    exact .overtaken isLate rfl ⟨opened, rest, rfl, older opened List.mem_cons_self⟩ fun sent isSent =>
      Int.le_of_lt (older sent isSent)

theorem sent (stands : Stands late log r) (last : Revision) :
    ∃ r', Revision.supersede (some r) last = some r' ∧ Stands late (log ++ [last]) r' := by
  by_cases newer : r.version < last.version
  · refine ⟨last, if_pos newer, .newest (.some ?_ ?_)⟩
    · intro sent isSent
      rcases List.mem_append.mp isSent with old | isLast
      · exact Int.le_trans (stands.greatest sent old) (Int.le_of_lt newer)
      · rw [List.mem_singleton.mp isLast]
    · have older : log.find? (·.version == last.version) = none := List.find?_eq_none.mpr fun sent isSent => by
        have := stands.greatest sent isSent
        simp only [beq_iff_eq]
        omega
      simp [older]
  · have stays : Revision.supersede (some r) last = some r := if_neg newer
    refine ⟨r, stays, ?_⟩
    cases stands with
    | newest isNewest => exact .newest (stays ▸ Revision.isNewest_supersede isNewest last)
    | @overtaken snapshot isLate isHeld newest greatest =>
      obtain ⟨opened, rest, rfl, isOlder⟩ := newest
      subst isHeld
      refine .overtaken isLate rfl ⟨opened, rest ++ [last], rfl, isOlder⟩ fun sent isSent => ?_
      rcases List.mem_append.mp isSent with old | isLast
      · exact greatest sent old
      · rw [List.mem_singleton.mp isLast]
        exact Int.not_lt.mp newer

theorem mono {late' : Snapshot → Prop} (more : ∀ snapshot, late snapshot → late' snapshot)
    (stands : Stands late log r) : Stands late' log r := by
  cases stands with
  | newest isNewest => exact .newest isNewest
  | overtaken isLate isHeld newer greatest => exact .overtaken (more _ isLate) isHeld newer greatest

end Stands

structure Abides (known : Uri → Prop) (heard : Uri → Option (List Revision)) (late : Late) (s : Server) : Prop where
  owning : Owning late s
  documents : ∀ uri, uri ∈ s.openDocuments ↔ (heard uri).isSome = true
  known : ∀ uri ∈ s.openDocuments, known uri
  stands : ∀ uri log, heard uri = some log → ∃ r, s.revisionOf? uri = some r ∧ Stands (late uri) log r

def Distinct (known : Uri → Prop) : Prop := ∀ a b, known a → known b → a.text = b.text → a = b

theorem Distinct.key {known : Uri → Prop} (distinct : Distinct known) {a b : Uri} (isKnown : known a)
    (isOther : known b) (sameKey : a.key = b.key) : a = b :=
  distinct a b isKnown isOther (Prod.ext_iff.mp sameKey).2

namespace Abides

variable {known : Uri → Prop} {heard : Uri → Option (List Revision)} {s s' : Server}

theorem spares (abides : Abides known heard late s) (spares : Spares late s s') : Abides known heard late s' := by
  have spared := spares abides.owning
  refine ⟨spared.owning, fun uri => ?_, fun uri isOpen => ?_, fun uri log isHeard => ?_⟩
  · rw [spared.documents]
    exact abides.documents uri
  · exact abides.known uri (spared.documents ▸ isOpen)
  · obtain ⟨r, isHeld, stands⟩ := abides.stands uri log isHeard
    obtain ⟨_, r', isStill, isNext, becomes⟩ :=
      spared.revisions uri ((abides.documents uri).mpr (by rw [isHeard]; rfl))
    rw [isHeld, Option.some.injEq] at isStill
    subst isStill
    exact ⟨r', isNext, stands.becomes becomes⟩

theorem mono {late' : Late} (abides : Abides known heard late s)
    (more : ∀ uri, (heard uri).isSome = true → ∀ snapshot, late uri snapshot → late' uri snapshot) :
    Abides known heard late' s := by
  refine ⟨⟨abides.owning.orderly, abides.owning.working, fun uri isOpen => ?_⟩, abides.documents, abides.known,
    fun uri log isHeard => ?_⟩
  · obtain ⟨r, isHeld, covered⟩ := abides.owning.held uri isOpen
    exact ⟨r, isHeld, fun snapshot isFlying sameKey => (covered snapshot isFlying sameKey).imp_right
      (more uri ((abides.documents uri).mp isOpen) snapshot)⟩
  · obtain ⟨r, isHeld, stands⟩ := abides.stands uri log isHeard
    exact ⟨r, isHeld, stands.mono (more uri (by rw [isHeard]; rfl))⟩

theorem weaken {late' : Late} (abides : Abides known heard late s) :
    Abides known heard (fun uri snapshot => late uri snapshot ∨ late' uri snapshot) s :=
  abides.mono fun _ _ _ => Or.inl

theorem isOpen_iff (abides : Abides known heard late s) (uri : Uri) : s.isOpen uri = (heard uri).isSome := by
  rw [Bool.eq_iff_iff, ← abides.documents uri]
  exact List.contains_iff_mem

theorem apart (abides : Abides known heard late s) (distinct : Distinct known) {uri other : Uri} (isKnown : known uri)
    (isOpen : other ∈ s.openDocuments) (sameKey : uri.key = other.key) : uri = other :=
  distinct.key isKnown (abides.known other isOpen) sameKey

theorem arrives (abides : Abides known heard late s) (distinct : Distinct known) {uri : Uri} (isKnown : known uri)
    {r : Revision} (arrives : Arrives s s' uri r) :
    Abides known (fun other => if uri = other then (heard other).map (· ++ [r]) else heard other) late s' := by
  refine ⟨arrives.owning abides.owning, fun other => ?_, fun other isOpen => ?_, fun other log isHeard => ?_⟩
  · rw [arrives.documents, abides.documents]
    split <;> simp
  · exact abides.known other (arrives.documents ▸ isOpen)
  · split at isHeard
    · rename_i same
      subst same
      obtain ⟨earlier, wasHeard, rfl⟩ := Option.map_eq_some_iff.mp isHeard
      obtain ⟨held, isHeld, stands⟩ := abides.stands uri earlier wasHeard
      rw [arrives.revisionOf?, isHeld]
      exact stands.sent r
    · rename_i differs
      have isOpen := (abides.documents other).mpr (by rw [isHeard]; rfl)
      rw [arrives.other fun sameKey => differs (abides.apart distinct isKnown isOpen sameKey)]
      exact abides.stands other log isHeard

theorem upsertNow_makeRoom (abides : Abides known heard late s) (distinct : Distinct known) {uri : Uri}
    (isKnown : known uri) (version : Int) (text : List Char) :
    Abides known (fun other => if uri = other then some [⟨version, text⟩] else heard other)
      (fun other snapshot => late other snapshot ∨
        uri = other ∧ snapshot ∈ s.session.inFlight ∧ snapshot.uri.key = other.key)
      ((s.makeRoom uri).upsertNow uri version text) := by
  have arrives := upsertNow_arrives (s := s.makeRoom uri) (abides.owning.orderly.remove uri) uri version text
  have isFirst : ((s.makeRoom uri).upsertNow uri version text).revisionOf? uri = some ⟨version, text⟩ := by
    rw [arrives.revisionOf?, revisionOf?, makeRoom, removeFile_revision?, if_pos rfl]
    rfl
  have documents (other : Uri) : other ∈ ((s.makeRoom uri).upsertNow uri version text).openDocuments ↔
      other = uri ∨ other ∈ s.openDocuments := by
    rw [arrives.documents]
    exact List.mem_cons
  have others {other : Uri} (isOpen : other ∈ s.openDocuments) (differs : uri ≠ other) :
      ((s.makeRoom uri).upsertNow uri version text).revisionOf? other = s.revisionOf? other := by
    have apart : uri.key ≠ other.key := fun sameKey => differs (abides.apart distinct isKnown isOpen sameKey)
    rw [arrives.other apart, revisionOf?, makeRoom, removeFile_revision?, if_neg apart]
    rfl
  refine ⟨⟨arrives.orderly, arrives.shutDown.trans abides.owning.working, fun other isOpen => ?_⟩, fun other => ?_,
    fun other isOpen => ?_, fun other log isHeard => ?_⟩
  · have sameTexts : ((s.makeRoom uri).upsertNow uri version text).session.inFlight = s.session.inFlight :=
      arrives.inFlight
    rw [sameTexts]
    by_cases same : uri = other
    · subst same
      exact ⟨_, isFirst, fun snapshot isFlying sameKey => .inr (.inr ⟨rfl, isFlying, sameKey⟩)⟩
    · have wasOpen := ((documents other).mp isOpen).resolve_left (Ne.symm same)
      obtain ⟨r, isHeld, covered⟩ := abides.owning.held other wasOpen
      exact ⟨r, (others wasOpen same).trans isHeld, fun snapshot isFlying sameKey =>
        (covered snapshot isFlying sameKey).imp_right .inl⟩
  · rw [documents, abides.documents]
    by_cases same : uri = other
    · simp [same]
    · simp [same, Ne.symm same]
  · rcases (documents other).mp isOpen with same | wasOpen
    · exact same ▸ isKnown
    · exact abides.known other wasOpen
  · split at isHeard
    · rename_i same
      subst same
      cases isHeard
      exact ⟨_, isFirst, .opened _⟩
    · rename_i differs
      obtain ⟨r, isHeld, stands⟩ := abides.stands other log isHeard
      have wasOpen := (abides.documents other).mpr (by rw [isHeard]; rfl)
      exact ⟨r, (others wasOpen differs).trans isHeld, stands.mono fun _ => .inl⟩

theorem opened (abides : Abides known heard late s) (distinct : Distinct known) {uri : Uri} (isKnown : known uri)
    (version : Int) (text : List Char) :
    Abides known (fun other => if uri = other then some ((heard other).getD [] ++ [⟨version, text⟩]) else heard other)
      (fun other snapshot => late other snapshot ∨
        uri = other ∧ heard other = none ∧ snapshot ∈ s.session.inFlight ∧ snapshot.uri.key = other.key)
      (s.onOpened uri version text) := by
  have isOpen := abides.isOpen_iff uri
  cases isHeard : heard uri with
  | none =>
    rw [isHeard] at isOpen
    rw [onOpened_of_closed isOpen]
    have taken := (abides.upsertNow_makeRoom distinct isKnown version text).spares (loadFolder_spares _ uri)
    have logs : (fun other => if uri = other then some ((heard other).getD [] ++ [⟨version, text⟩]) else heard other) =
        fun other => if uri = other then some [⟨version, text⟩] else heard other := by
      funext other
      split
      · rename_i same
        rw [← same, isHeard]
        rfl
      · rfl
    rw [logs]
    refine taken.mono fun other _ snapshot => .imp_right ?_
    rintro ⟨rfl, isFlying, sameKey⟩
    exact ⟨rfl, isHeard, isFlying, sameKey⟩
  | some log =>
    rw [isHeard] at isOpen
    rw [onOpened_of_open isOpen]
    have taken := (abides.arrives distinct isKnown (upsertNow_arrives abides.owning.orderly uri version text)).spares
      (loadFolder_spares _ uri)
    have logs : (fun other => if uri = other then some ((heard other).getD [] ++ [⟨version, text⟩]) else heard other) =
        fun other => if uri = other then (heard other).map (· ++ [⟨version, text⟩]) else heard other := by
      funext other
      split
      · rename_i same
        rw [← same, isHeard]
        rfl
      · rfl
    rw [logs]
    exact taken.weaken

theorem changed (abides : Abides known heard late s) (distinct : Distinct known) {uri : Uri} (isKnown : known uri)
    (version : Int) (text : List Char) :
    Abides known (fun other => if uri = other then (heard other).map (· ++ [⟨version, text⟩]) else heard other) late
      (s.onChanged uri version text) := by
  refine abides.arrives distinct isKnown ?_
  unfold onChanged
  split
  · rename_i known
    exact edit_arrives abides.owning.orderly version text known
  · exact upsertNow_arrives abides.owning.orderly uri version text

theorem removed (abides : Abides known heard late s) (distinct : Distinct known) {uri : Uri} (isKnown : known uri) :
    Abides known (fun other => if uri = other then none else heard other) late
      (removeFile { s with openDocuments := s.openDocuments.filter (· != uri) } uri) := by
  have still {other : Uri} (isOpen : other ∈ s.openDocuments.filter (· != uri)) :
      other ∈ s.openDocuments ∧ uri ≠ other := by
    obtain ⟨wasOpen, differs⟩ := List.mem_filter.mp isOpen
    exact ⟨wasOpen, (bne_iff_ne.mp differs).symm⟩
  have free {other : Uri} (isOpen : other ∈ s.openDocuments) (differs : uri ≠ other) : uri.key ≠ other.key :=
    fun sameKey => differs (abides.apart distinct isKnown isOpen sameKey)
  have owning : Owning late (removeFile { s with openDocuments := s.openDocuments.filter (· != uri) } uri) :=
    removeFile_owning (s := { s with openDocuments := s.openDocuments.filter (· != uri) }) abides.owning.orderly
      abides.owning.working fun other isOpen =>
        ⟨free (still isOpen).1 (still isOpen).2, abides.owning.held other (still isOpen).1⟩
  refine ⟨owning, fun other => ?_, fun other isOpen => abides.known other (still isOpen).1,
    fun other log isHeard => ?_⟩
  · show other ∈ s.openDocuments.filter (· != uri) ↔ _
    rw [List.mem_filter, abides.documents]
    by_cases same : uri = other
    · simp [same]
    · simp [same, Ne.symm same]
  · split at isHeard
    · cases isHeard
    · rename_i differs
      have isOpen := (abides.documents other).mpr (by rw [isHeard]; rfl)
      rw [revisionOf?, removeFile_revision?, if_neg (free isOpen differs)]
      exact abides.stands other log isHeard

theorem closed (abides : Abides known heard late s) (distinct : Distinct known) {uri : Uri} (isKnown : known uri) :
    Abides known (fun other => if uri = other then none else heard other) late (s.onClosed uri) ∧
      (s.onClosed uri).revisionOf? uri = (uri.localFile?.bind s.disk.read?).map (⟨diskVersion, ·⟩) := by
  have removed := abides.removed distinct isKnown
  constructor
  · exact removed.spares (reload_spares fun other isOpen sameKey => removed.apart distinct isKnown isOpen sameKey)
  · refine reload_unknown removed.owning.orderly (fun isOpen => ?_) ?_
    · simpa using (removed.documents uri).mp isOpen
    · rw [revisionOf?, removeFile_revision?, if_pos rfl]

theorem watched (abides : Abides known heard late s) (distinct : Distinct known) (changes : List (Uri × FileChange))
    (isKnown : ∀ change ∈ changes, known change.1) : Abides known heard late (changes.foldl onWatched s) := by
  induction changes generalizing s with
  | nil => exact abides
  | cons change rest ih =>
    rw [List.forall_mem_cons] at isKnown
    refine ih (abides.spares ?_) isKnown.2
    have free : ∀ other ∈ s.openDocuments, change.1.key = other.key → change.1 = other :=
      fun other isOpen sameKey => abides.apart distinct isKnown.1 isOpen sameKey
    obtain ⟨uri, kind⟩ := change
    cases kind with
    | written => exact reload_spares free
    | deleted =>
      simp only [onWatched]
      split
      · exact .refl s
      · rename_i closed
        refine removeFile_spares fun other isOpen sameKey => closed ?_
        obtain rfl : uri = other := free other isOpen sameKey
        exact List.contains_iff_mem.mpr isOpen

end Abides

theorem parseNow_spares (s : Server) : Spares late s { s with session := s.session.parseNow.2 } := by
  have begins : Spares late s { s with session := s.session.beginParse } := .proceeds (.beginParse s.session)
  have takes : Spares late { s with session := s.session.beginParse }
      { s with session := s.session.beginParse.takeTexts s.session.nextTicket } := .proceeds (.takeTexts _ _)
  have installs : Spares late { s with session := s.session.beginParse.takeTexts s.session.nextTicket }
      { s with session := s.session.parseNow.2 } := .proceeds (.installTexts _ _)
  exact (begins.trans takes).trans installs

theorem Abides.notify {known : Uri → Prop} {heard : Uri → Option (List Revision)} {s : Server}
    (abides : Abides known heard late s) (distinct : Distinct known) {notification : Notification}
    (isKnown : ∀ uri ∈ Turn.uris (.notify notification), known uri) :
    Abides known (fun uri => Turn.hear uri (heard uri) (.notify notification))
      (fun uri snapshot => late uri snapshot ∨ (∃ version text, notification = .opened uri version text) ∧
        heard uri = none ∧ snapshot ∈ s.session.inFlight ∧ snapshot.uri.key = uri.key)
      (s.notify notification) := by
  unfold Server.notify
  rw [if_neg (Bool.eq_false_iff.mp abides.owning.working)]
  cases notification with
  | opened uri version text =>
    refine (abides.opened distinct (isKnown uri (List.mem_singleton_self uri)) version text).mono
      fun other _ snapshot => .imp_right ?_
    rintro ⟨rfl, fresh⟩
    exact ⟨⟨version, text, rfl⟩, fresh⟩
  | closed uri =>
    exact (abides.closed distinct (isKnown uri (List.mem_singleton_self uri))).1.weaken
  | changed uri version texts =>
    simp only [Turn.hear]
    cases texts.getLast? with
    | none =>
      refine .weaken ?_
      simpa using abides
    | some text => exact (abides.changed distinct (isKnown uri (List.mem_singleton_self uri)) version text).weaken
  | watched changes =>
    exact (abides.watched distinct changes fun change member => isKnown change.1 (List.mem_map_of_mem member)).weaken
  | initialized => exact .weaken (abides.spares (.alike ⟨rfl, rfl, rfl, rfl, rfl⟩))
  | saved => exact .weaken (abides.spares (parseNow_spares s))
  | configured value => exact .weaken (abides.spares (.alike ⟨rfl, rfl, rfl, rfl, rfl⟩))

theorem Abides.write {known : Uri → Prop} {heard : Uri → Option (List Revision)} {s : Server}
    (abides : Abides known heard late s) (disk : Disk) : Abides known heard late (s.setDisk disk) :=
  ⟨⟨⟨abides.owning.orderly.keyed, abides.owning.orderly.inhabited⟩, abides.owning.working, abides.owning.held⟩,
    abides.documents, abides.known, abides.stands⟩

theorem Abides.turn {known : Uri → Prop} {heard : Uri → Option (List Revision)} {s : Server}
    (abides : Abides known heard late s) (distinct : Distinct known) (turn : Turn)
    (isKnown : ∀ uri ∈ turn.uris, known uri) :
    Abides known (fun uri => Turn.hear uri (heard uri) turn)
      (fun uri snapshot => late uri snapshot ∨ (∃ version text, turn = .notify (.opened uri version text)) ∧
        heard uri = none ∧ snapshot ∈ s.session.inFlight ∧ snapshot.uri.key = uri.key)
      (turn.apply s) := by
  cases turn with
  | notify notification =>
    simpa only [Turn.notify.injEq, Turn.apply] using abides.notify distinct isKnown
  | write disk => exact (abides.write disk).weaken
  | drain => exact .weaken (abides.spares (.alike (.drain s)))
  | await moment => exact .weaken (abides.spares (.alike ⟨rfl, rfl, rfl, rfl, rfl⟩))
  | tick limit =>
    simp only [Turn.apply]
    cases ticked : s.session.tick? limit with
    | none => exact abides.weaken
    | some session => exact .weaken (abides.spares (.follow (.tick? ticked)))

/-- A text of the file was on its way through the reader when the editor opened the file, and the editor has not closed
the file since. -/
def IsLate (settings : Settings) (disk : Disk) (network : Network) (turns : List Turn) : Late := fun uri snapshot =>
  ∃ earlier version text later, turns = earlier ++ .notify (.opened uri version text) :: later ∧
    heard uri earlier = none ∧ Turn.notify (.closed uri) ∉ later ∧
    snapshot ∈ (serve settings disk network earlier).session.inFlight ∧ snapshot.uri.key = uri.key

theorem IsLate.snoc {settings : Settings} {disk : Disk} {network : Network} {turns : List Turn} {turn : Turn}
    {uri : Uri} {snapshot : Snapshot} (isLate : IsLate settings disk network turns uri snapshot)
    (isOpen : turn ≠ .notify (.closed uri)) : IsLate settings disk network (turns ++ [turn]) uri snapshot := by
  obtain ⟨earlier, version, text, later, rfl, notHeard, notClosed, isFlying⟩ := isLate
  refine ⟨earlier, version, text, later ++ [turn], by simp, notHeard, ?_, isFlying⟩
  simpa [not_or] using ⟨notClosed, isOpen.symm⟩

/-- Turns in which the editor says nothing lead from one state to the other. -/
def Passes (s s' : Server) : Prop :=
  ∃ turns : List Turn, (∀ turn ∈ turns, ∀ notification, turn ≠ .notify notification) ∧ turns.foldl Turn.apply s = s'

namespace Passes

theorem refl (s : Server) : Passes s s := ⟨[], by simp, rfl⟩

theorem turn (s : Server) {turn : Turn} (silent : ∀ notification, turn ≠ .notify notification) :
    Passes s (turn.apply s) := ⟨[turn], by simpa using silent, rfl⟩

theorem trans {s s' s'' : Server} (first : Passes s s') (second : Passes s' s'') : Passes s s'' := by
  obtain ⟨earlier, silent, rfl⟩ := first
  obtain ⟨later, stillSilent, rfl⟩ := second
  refine ⟨earlier ++ later, ?_, List.foldl_append⟩
  simpa [or_imp, forall_and] using ⟨silent, stillSilent⟩

theorem ticks {s : Server} {session : Session} {limit : Nat} (ticked : s.session.tick? limit = some session) :
    Passes s (s.follow session) := by
  have passes : Passes s ((Turn.tick limit).apply s) := turn s (by simp)
  rwa [Turn.apply, ticked] at passes

theorem runUntil (s : Server) (limit fuel : Nat) : Passes s (s.runUntil limit fuel) := by
  induction fuel generalizing s with
  | zero => exact refl s
  | succ fuel ih =>
    rw [Server.runUntil]
    cases ticked : s.session.tick? limit with
    | none => exact refl s
    | some session => exact (ticks ticked).trans (ih _)

theorem settle (s : Server) : Passes s s.settle := by
  have drains : Passes s (Turn.drain.apply s) := turn s (by simp)
  exact drains.trans (runUntil _ _ _)

theorem advance (s : Server) (milliseconds : Nat) : Passes s (s.advance milliseconds) := by
  have awaits (s : Server) (moment : Nat) : Passes s ((Turn.await moment).apply s) := turn s (by simp)
  exact (runUntil s _ s.load).trans (awaits _ (s.session.now + milliseconds))

end Passes

end Server
end PddlAssist
