import PddlAssist.Proofs.Workspace.Memory
import PddlAssist.Session

namespace PddlAssist

namespace SourceFile

theorem read_uri (reader : FileReader) (uri : Uri) (version : Int) (text : List Char) :
    (read reader uri version text).uri = uri := by simp only [read]

theorem read_version (reader : FileReader) (uri : Uri) (version : Int) (text : List Char) :
    (read reader uri version text).version = version := by simp only [read]

theorem read_document (reader : FileReader) (uri : Uri) (version : Int) (text : List Char) :
    (read reader uri version text).document = ⟨text⟩ := by simp only [read]

theorem read_tree (reader : FileReader) (uri : Uri) (version : Int) (text : List Char) :
    (read reader uri version text).tree = Tree.build text := by simp only [read]

theorem forget_classify (document : Document) (tree : Tree) :
    (classify document tree).1.forget = (classify document tree).1 := by
  simp only [classify]
  split
  case h_1 d issues isDomain => exact congrArg FileKind.domain (Domain.forget_ofTree? isDomain)
  case h_2 => split <;> rfl

theorem forget_readPddl (reader : FileReader) (uri : Uri) (document : Document) (tree : Tree) :
    (readPddl reader uri document tree).1.forget = (readPddl reader uri document tree).1 := by
  simp only [readPddl]
  split
  · exact forget_classify document tree
  · split
    · rename_i generated _
      have same := forget_classify ⟨generated⟩ (Tree.build generated)
      simp only [classifyGenerated]
      split
      · rfl
      · exact same
    · rfl

theorem forget_read (reader : FileReader) (uri : Uri) (version : Int) (text : List Char) :
    (read reader uri version text).kind.forget = (read reader uri version text).kind := by
  simp only [read]
  split
  · rfl
  · rfl
  · exact forget_readPddl reader uri _ _

theorem update?_eq_some {f g : SourceFile} {version : Int} {text : List Char}
    (updated : f.update? version text = some g) :
    g = { f with version, document := ⟨text⟩, status := .dirty } := by
  rw [update?] at updated
  split at updated
  · cases updated
  · exact (Option.some.inj updated).symm

theorem status_of_forget {f g : SourceFile} (same : g.forget = f.forget) : g.status = f.status := by
  simp only [forget, mk.injEq] at same
  exact same.2.2.2.2.1

/-- The file has the tree of its text and is, apart from what it remembers, what some reader made of
the text. -/
structure IsReading (f : SourceFile) : Prop where
  tree : f.tree = Tree.build f.document.chars
  kind : ∃ reader, f.kind.forget = (read reader f.uri f.version f.document.chars).kind ∧
    f.issues = (read reader f.uri f.version f.document.chars).issues

theorem IsReading.read (reader : FileReader) (uri : Uri) (version : Int) (text : List Char) :
    (read reader uri version text).IsReading where
  tree := by rw [read_tree, read_document]
  kind := ⟨reader, by rw [read_uri, read_version, read_document, forget_read],
    by rw [read_uri, read_version, read_document]⟩

theorem IsReading.setStatus {f : SourceFile} (reading : f.IsReading) (status : FileStatus) :
    { f with status }.IsReading := ⟨reading.tree, reading.kind⟩

theorem IsReading.of_forget {f g : SourceFile} (reading : f.IsReading) (same : g.forget = f.forget) :
    g.IsReading := by
  simp only [forget, mk.injEq] at same
  obtain ⟨uri, version, document, tree, _, issues, kind⟩ := same
  exact ⟨by rw [tree, document, reading.tree], by rw [kind, issues, uri, version, document]; exact reading.kind⟩

end SourceFile

namespace Workspace

/-- A property that files have when they are read or when their text is newer, and that they keep when
validation changes their status or when they are asked for declarations. -/
structure Lasting (P : SourceFile → Prop) : Prop where
  read : ∀ reader uri version text, P (SourceFile.read reader uri version text)
  dirty : ∀ file : SourceFile, file.status = .dirty → P file
  status : ∀ (file : SourceFile) status, P file → file.status ≠ .dirty → P { file with status }
  asked : ∀ file file' : SourceFile, P file → file.Asked file' → P file'

theorem Lasting.allAsked {P : SourceFile → Prop} (lasting : Lasting P) {file file' : SourceFile}
    (holds : P file) (asked : Relation.ReflTransGen SourceFile.Asked file file') : P file' := by
  induction asked with
  | refl => exact holds
  | tail _ last ih => exact lasting.asked _ _ ih last

theorem lasting_true : Lasting fun _ => True :=
  ⟨fun _ _ _ _ => trivial, fun _ _ => trivial, fun _ _ _ _ => trivial, fun _ _ _ _ => trivial⟩

theorem lasting_isReading : Lasting fun file => file.status ≠ .dirty → file.IsReading where
  read reader uri version text _ := .read reader uri version text
  dirty _ dirty clean := absurd dirty clean
  status _ status reading clean _ := (reading clean).setStatus status
  asked _ _ reading asked clean :=
    (reading (SourceFile.status_of_forget asked.forget ▸ clean)).of_forget asked.forget

theorem transition_induction {motive : Workspace → Prop} {w : Workspace} (bundle : ValidationBundle)
    {before after : FileStatus} (start : motive w)
    (move : ∀ (w : Workspace) (uri : Uri), motive w → (w.find? uri).map SourceFile.status = some before →
      motive (w.setStatus uri after)) : motive (Session.transition w bundle before after) := by
  unfold Session.transition
  generalize bundle.inputs = inputs
  induction inputs generalizing w with
  | nil => exact start
  | cons input rest ih =>
    rw [List.foldl_cons]
    split
    · rename_i expected
      exact ih (move w input.uri start expected)
    · exact ih start

/-- All files lie under their own addresses and have a property. -/
structure Keeps (P : SourceFile → Prop) (w : Workspace) : Prop extends Orderly w where
  holds : ∀ {key : String × String} {file : SourceFile}, w.stored? key = some file → P file

namespace Keeps

variable {P : SourceFile → Prop} {w : Workspace}

theorem fresh (reader : FileReader) : Keeps P { reader } where
  toOrderly := .fresh reader
  holds {key file} found := by simp [stored?, Std.TreeMap.get?_eq_getElem?] at found

theorem find? (keeps : Keeps P w) {uri : Uri} {file : SourceFile} (found : w.find? uri = some file) :
    P file := keeps.holds (by rwa [find?_eq_stored?] at found)

theorem emit (keeps : Keeps P w) (event : WorkspaceEvent) : Keeps P (w.emit event) :=
  ⟨keeps.toOrderly.emit event, keeps.holds⟩

theorem put (keeps : Keeps P w) {file : SourceFile} (holds : P file) : Keeps P (w.put file) where
  toOrderly := keeps.toOrderly.put file
  holds {key other} found := by
    rw [stored?_put] at found
    split at found
    · cases found
      exact holds
    · exact keeps.holds found

theorem remove (keeps : Keeps P w) (uri : Uri) : Keeps P (w.remove uri).2 where
  toOrderly := keeps.toOrderly.remove uri
  holds {key file} found := by
    rw [stored?_remove] at found
    split at found
    · cases found
    · exact keeps.holds found

theorem install (keeps : Keeps P w) {file : SourceFile} (holds : P file) : Keeps P (w.install file).2 := by
  simp only [Workspace.install]
  split
  · split
    · exact (keeps.put holds).emit _
    · exact keeps
  · exact ((keeps.put holds).emit _).emit _

theorem installAll (keeps : Keeps P w) {files : List SourceFile} (holds : ∀ file ∈ files, P file) :
    Keeps P (w.installAll files).2 := by
  induction files generalizing w with
  | nil => exact keeps
  | cons file rest ih =>
    rw [List.forall_mem_cons] at holds
    exact ih (keeps.install holds.1) holds.2

theorem reparseDirty (keeps : Keeps P w) (lasting : Lasting P) : Keeps P w.reparseDirty.2 := by
  apply keeps.installAll
  intro file member
  obtain ⟨snapshot, _, rfl⟩ := List.mem_map.mp member
  exact lasting.read w.reader snapshot.uri snapshot.version snapshot.text

theorem upsert (keeps : Keeps P w) (lasting : Lasting P) (uri : Uri) (version : Int) (text : List Char) :
    Keeps P (w.upsert uri version text).2 := by
  simp only [Workspace.upsert]
  split
  · split
    · rename_i current _ _ file updated
      have dirty : file.status = .dirty := by rw [SourceFile.update?_eq_some updated]
      exact keeps.put (lasting.dirty file dirty)
    · exact keeps
  · exact keeps.install (lasting.read w.reader uri version text)

theorem parseFile (keeps : Keeps P w) (lasting : Lasting P) (uri : Uri) : Keeps P (w.parseFile uri).2 := by
  simp only [Workspace.parseFile]
  split
  · exact keeps.put (lasting.read w.reader uri _ _)
  · exact keeps

theorem upsertAndParse (keeps : Keeps P w) (lasting : Lasting P) (uri : Uri) (version : Int)
    (text : List Char) : Keeps P (w.upsertAndParse uri version text).2 := by
  have taken := keeps.upsert lasting uri version text
  simp only [Workspace.upsertAndParse]
  split
  · rename_i w' same
    rw [same] at taken
    exact (taken.parseFile lasting uri).emit _
  · exact taken

theorem setStatus (keeps : Keeps P w) (lasting : Lasting P) (uri : Uri) (status : FileStatus)
    (clean : ∀ file, w.find? uri = some file → file.status ≠ .dirty) :
    Keeps P (w.setStatus uri status) := by
  simp only [Workspace.setStatus, Workspace.adjust]
  split
  · rename_i file found
    exact keeps.put (lasting.status file status (keeps.find? found) (clean file found))
  · exact keeps

theorem transition (keeps : Keeps P w) (lasting : Lasting P) (bundle : ValidationBundle)
    {before : FileStatus} (clean : before ≠ .dirty) (after : FileStatus) :
    Keeps P (Session.transition w bundle before after) := by
  refine transition_induction bundle keeps fun w uri keeps guard => ?_
  refine keeps.setStatus lasting uri after ?_
  intro file found
  rw [found, Option.map_some, Option.some.injEq] at guard
  rwa [guard]

theorem lookUp (keeps : Keeps P w) (lasting : Lasting P) (uri : Uri) (position : Position) :
    Keeps P (Symbol.at? w uri position).2 := by
  rcases Symbol.at?_asked w uri position with same | ⟨key, file, file', found, asked, same⟩
  · rwa [same]
  · rw [same]
    exact keeps.put (lasting.allAsked (keeps.holds found) asked)

theorem outline (keeps : Keeps P w) (lasting : Lasting P) (uri : Uri) : Keeps P (Outline.at? w uri).2 := by
  simp only [Outline.at?]
  split
  · rename_i file found
    exact keeps.put (lasting.allAsked (keeps.find? found) (Outline.asked_ofFile file))
  · exact keeps

end Keeps

inductive Progress where
  | begun
  | succeeded
  | failed
  deriving DecidableEq, Repr, Inhabited

namespace Progress

def before : Progress → FileStatus
  | begun => .parsed
  | succeeded | failed => .validating

def after : Progress → FileStatus
  | begun => .validating
  | succeeded => .validated
  | failed => .parsed

theorem before_clean (progress : Progress) : progress.before ≠ .dirty := by cases progress <;> decide

end Progress

/-- What can happen to a workspace. -/
inductive Operation where
  | upsert (uri : Uri) (version : Int) (text : List Char)
  | upsertAndParse (uri : Uri) (version : Int) (text : List Char)
  | parseFile (uri : Uri)
  | install (reader : FileReader) (uri : Uri) (version : Int) (text : List Char)
  | reparseDirty
  | remove (uri : Uri)
  | setReader (reader : FileReader)
  | setStatus (uri : Uri) (status : FileStatus)
  | validate (bundle : ValidationBundle) (progress : Progress)
  | lookUp (uri : Uri) (position : Position)
  | outline (uri : Uri)
  | takeEvents

namespace Operation

def apply (w : Workspace) : Operation → Workspace
  | upsert uri version text => (w.upsert uri version text).2
  | upsertAndParse uri version text => (w.upsertAndParse uri version text).2
  | parseFile uri => (w.parseFile uri).2
  | install reader uri version text => (w.install (SourceFile.read reader uri version text)).2
  | reparseDirty => w.reparseDirty.2
  | remove uri => (w.remove uri).2
  | setReader reader => w.setReader reader
  | setStatus uri status => w.setStatus uri status
  | validate bundle progress => Session.transition w bundle progress.before progress.after
  | lookUp uri position => (Symbol.at? w uri position).2
  | outline uri => (Outline.at? w uri).2
  | takeEvents => w.takeEvents.2

/-- The status of files changes by validation only. -/
def isGuarded : Operation → Bool
  | setStatus .. => false
  | _ => true

end Operation

def run (w : Workspace) (operations : List Operation) : Workspace := operations.foldl Operation.apply w

theorem Keeps.apply {P : SourceFile → Prop} {w : Workspace} (keeps : Keeps P w) (lasting : Lasting P)
    {operation : Operation} (guarded : operation.isGuarded = true) : Keeps P (operation.apply w) := by
  cases operation with
  | upsert uri version text => exact keeps.upsert lasting uri version text
  | upsertAndParse uri version text => exact keeps.upsertAndParse lasting uri version text
  | parseFile uri => exact keeps.parseFile lasting uri
  | install reader uri version text => exact keeps.install (lasting.read reader uri version text)
  | reparseDirty => exact keeps.reparseDirty lasting
  | remove uri => exact keeps.remove uri
  | setReader reader => exact ⟨⟨keeps.keyed, keeps.inhabited⟩, keeps.holds⟩
  | setStatus uri status => cases guarded
  | validate bundle progress => exact keeps.transition lasting bundle progress.before_clean progress.after
  | lookUp uri position => exact keeps.lookUp lasting uri position
  | outline uri => exact keeps.outline lasting uri
  | takeEvents => exact ⟨⟨keeps.keyed, keeps.inhabited⟩, keeps.holds⟩

theorem Keeps.run {P : SourceFile → Prop} {w : Workspace} (keeps : Keeps P w) (lasting : Lasting P)
    {operations : List Operation} (guarded : ∀ operation ∈ operations, operation.isGuarded = true) :
    Keeps P (w.run operations) := by
  induction operations generalizing w with
  | nil => exact keeps
  | cons operation rest ih =>
    rw [List.forall_mem_cons] at guarded
    exact ih (keeps.apply lasting guarded.1) guarded.2

/-- A workspace that some run leads to in which validation alone changes the status of files. -/
def Reachable (w : Workspace) : Prop :=
  ∃ (reader : FileReader) (operations : List Operation),
    (∀ operation ∈ operations, operation.isGuarded = true) ∧ w = run { reader } operations

theorem Reachable.keeps {P : SourceFile → Prop} {w : Workspace} (reachable : Reachable w) (lasting : Lasting P) :
    Keeps P w := by
  obtain ⟨reader, operations, guarded, rfl⟩ := reachable
  exact (Keeps.fresh reader).run lasting guarded

/-- Every operation leaves the files where they belong, also a change of status that nothing guards. -/
theorem Orderly.apply {w : Workspace} (orderly : Orderly w) (operation : Operation) :
    Orderly (operation.apply w) := by
  cases guarded : operation.isGuarded with
  | true =>
    have keeps : Keeps (fun _ => True) w := ⟨orderly, fun _ => trivial⟩
    exact (keeps.apply lasting_true guarded).toOrderly
  | false =>
    cases operation <;> cases guarded
    simp only [Operation.apply, setStatus, adjust]
    split
    · exact orderly.put _
    · exact orderly

/-- After any run, each file is stored under its own address in its own folder, no folder is empty, and a
file whose text was read has the tree of that text. -/
theorem run_keeps_files_sound (reader : FileReader) (operations : List Operation)
    (guarded : ∀ operation ∈ operations, operation.isGuarded = true) :
    (∀ (name : String) (folder : Folder),
        (run { reader } operations).folders[name]? = some folder → folder.isEmpty = false ∧
          ∀ (address : String) (file : SourceFile), folder[address]? = some file →
            file.uri.folder = name ∧ file.uri.text = address) ∧
      ∀ file ∈ (run { reader } operations).files, file.status ≠ .dirty →
        file.tree = Tree.build file.document.chars := by
  have keeps := (Keeps.fresh reader).run lasting_isReading guarded
  constructor
  · intro name folder isFolder
    refine ⟨keeps.inhabited isFolder, ?_⟩
    intro address file isFile
    have found : (run { reader } operations).stored? (name, address) = some file :=
      stored?_eq_some_iff.mpr ⟨folder, isFolder, isFile⟩
    exact Prod.mk.inj (keeps.keyed found)
  · intro file member clean
    obtain ⟨key, found⟩ := mem_files_iff.mp member
    exact (keeps.holds found clean).tree

theorem run_keeps_files_sound_validating :
    let reader : FileReader := ⟨0, {}, fun _ => .error (.path .missing)⟩
    let uri : Uri := { scheme := "file", authority := some {}, path := "/w/d.pddl" }
    let operations : List Operation :=
      [.upsert uri 1 "(define (domain d))".toList, .upsert uri 2 "(define (domain e".toList,
       .install reader uri 1 "(define (domain d))".toList, .reparseDirty,
       .validate ⟨⟨uri, "(define (domain e".toList⟩, []⟩ .begun]
    (∀ operation ∈ operations, operation.isGuarded = true) ∧
      (run { reader } operations).files.map (·.status) = [.validating] ∧
      ∀ file ∈ (run { reader } operations).files, file.status ≠ .dirty →
        file.tree = Tree.build file.document.chars :=
  ⟨by decide, by decide +kernel, (run_keeps_files_sound _ _ (by decide)).2⟩

end Workspace
end PddlAssist
