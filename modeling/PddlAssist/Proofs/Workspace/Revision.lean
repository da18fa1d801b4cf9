import Mathlib.Data.List.Induction
import PddlAssist.Proofs.Workspace.Run

namespace PddlAssist.Workspace

structure Revision where
  version : Int
  text : List Char
  deriving DecidableEq, Repr, Inhabited

namespace Revision

def ofFile (file : SourceFile) : Revision := ⟨file.version, file.document.chars⟩

/-- A text takes the place of another only if it is newer. -/
def supersede (current : Option Revision) (arrived : Revision) : Option Revision :=
  match current with
  | none => some arrived
  | some current => if current.version < arrived.version then some arrived else some current

theorem supersede_self (arrived : Revision) : supersede (some arrived) arrived = some arrived := by
  simp [supersede]

/-- The first revision of the greatest version, if anything arrived. -/
inductive IsNewest (arrived : List Revision) : Option Revision → Prop where
  | none (nothing : arrived = []) : IsNewest arrived none
  | some {newest : Revision} (greatest : ∀ r ∈ arrived, r.version ≤ newest.version)
      (first : arrived.find? (·.version == newest.version) = some newest) : IsNewest arrived (some newest)

theorem isNewest_supersede {arrived : List Revision} {held : Option Revision} (isNewest : IsNewest arrived held)
    (last : Revision) : IsNewest (arrived ++ [last]) (supersede held last) := by
  cases isNewest with
  | none nothing =>
    subst nothing
    exact .some (by simp) (by simp)
  | @some current greatest first =>
    by_cases newer : current.version < last.version
    · simp only [Revision.supersede, newer, if_true]
      have older : arrived.find? (·.version == last.version) = none := by
        rw [List.find?_eq_none]
        intro r member
        have := greatest r member
        simp only [beq_iff_eq]
        omega
      refine .some ?_ (by simp [older])
      simp only [List.mem_append, List.mem_singleton]
      rintro r (member | rfl)
      · have := greatest r member
        omega
      · exact Int.le_refl _
    · simp only [Revision.supersede, newer, if_false]
      refine .some ?_ (by simp [first])
      simp only [List.mem_append, List.mem_singleton]
      rintro r (member | rfl)
      · exact greatest r member
      · omega

theorem foldl_supersede (arrived : List Revision) : IsNewest arrived (arrived.foldl supersede none) := by
  induction arrived using List.reverseRecOn with
  | nil => exact .none rfl
  | append_singleton earlier last ih =>
    rw [List.foldl_append, List.foldl_cons, List.foldl_nil]
    exact isNewest_supersede ih last

theorem foldl_supersede_cases (held : Revision) (arrived : List Revision) :
    arrived.foldl supersede (some held) = some held ∨
      ∃ r ∈ arrived, held.version < r.version ∧ arrived.foldl supersede (some held) = some r := by
  induction arrived generalizing held with
  | nil => exact .inl rfl
  | cons first rest ih =>
    simp only [List.foldl_cons, supersede]
    split
    · rename_i newer
      rcases ih first with stays | ⟨r, isLater, newest, isHeld⟩
      · exact .inr ⟨first, List.mem_cons_self, newer, stays⟩
      · exact .inr ⟨r, List.mem_cons_of_mem _ isLater, Int.lt_trans newer newest, isHeld⟩
    · refine (ih held).imp_right ?_
      rintro ⟨r, isLater, newest, isHeld⟩
      exact ⟨r, List.mem_cons_of_mem _ isLater, newest, isHeld⟩

end Revision

def revision? (w : Workspace) (key : String × String) : Option Revision := (w.stored? key).map .ofFile

theorem revision?_put (w : Workspace) (file : SourceFile) (key : String × String) :
    (w.put file).revision? key = if file.uri.key = key then some (.ofFile file) else w.revision? key := by
  rw [revision?, stored?_put]
  split <;> rfl

theorem revision?_put_same {w : Workspace} {file : SourceFile}
    (same : w.revision? file.uri.key = some (.ofFile file)) (key : String × String) :
    (w.put file).revision? key = w.revision? key := by
  rw [revision?_put]
  split
  case isTrue isKey => rw [← isKey, same]
  case isFalse => rfl

theorem revision?_of_folders {w w' : Workspace} (same : w'.folders = w.folders) (key : String × String) :
    w'.revision? key = w.revision? key := by
  simp only [revision?, stored?, same]

theorem Orderly.of_folders {w w' : Workspace} (orderly : Orderly w) (same : w'.folders = w.folders) : Orderly w' where
  keyed {key file} found := orderly.keyed (show w.stored? key = some file by simpa only [stored?, same] using found)
  inhabited found := orderly.inhabited (same ▸ found)

theorem supersede_of_isFresh (current read : SourceFile) :
    Revision.supersede (some (.ofFile current)) (.ofFile read) =
      some (.ofFile (if isFresh current read then read else current)) := by
  cases fresh : isFresh current read with
  | false =>
    simp only [isFresh, Bool.or_eq_false_iff, decide_eq_false_iff_not] at fresh
    simp [Revision.supersede, Revision.ofFile, fresh.1]
  | true =>
    simp only [isFresh, Bool.or_eq_true, Bool.and_eq_true, decide_eq_true_eq, beq_iff_eq] at fresh
    rcases fresh with newer | ⟨⟨version, _⟩, document⟩
    · simp [Revision.supersede, Revision.ofFile, newer]
    · have same : Revision.ofFile current = .ofFile read := by
        simp only [Revision.ofFile, version, document]
      rw [same, Revision.supersede_self, if_pos rfl]

theorem stored?_install (w : Workspace) (file : SourceFile) (key : String × String) :
    (w.install file).2.stored? key =
      if file.uri.key = key then
        some ((w.stored? key).elim file fun current => if isFresh current file then file else current)
      else w.stored? key := by
  have put := stored?_put w file key
  unfold install
  cases found : w.find? file.uri with
  | none =>
    rw [find?_eq_stored?] at found
    simp only [stored?_emit, put]
    split
    · rename_i isKey
      rw [← isKey, found, Option.elim_none]
    · rfl
  | some current =>
    rw [find?_eq_stored?] at found
    by_cases fresh : isFresh current file = true
    · simp only [fresh, if_true, stored?_emit, put]
      split
      · rename_i isKey
        rw [← isKey, found, Option.elim_some, if_pos fresh]
      · rfl
    · simp only [fresh, Bool.false_eq_true, if_false]
      split
      · rename_i isKey
        rw [← isKey, found, Option.elim_some, if_neg fresh]
      · rfl

theorem revision?_install (w : Workspace) (file : SourceFile) (key : String × String) :
    (w.install file).2.revision? key =
      if file.uri.key = key then Revision.supersede (w.revision? key) (.ofFile file)
      else w.revision? key := by
  unfold revision?
  rw [stored?_install]
  split
  · cases w.stored? key with
    | none => rfl
    | some current => exact (supersede_of_isFresh current file).symm
  · rfl

theorem revision?_installAll {w : Workspace} {files : List SourceFile}
    (same : ∀ file ∈ files, w.revision? file.uri.key = some (.ofFile file)) (key : String × String) :
    (w.installAll files).2.revision? key = w.revision? key := by
  induction files generalizing w with
  | nil => rfl
  | cons file rest ih =>
    rw [List.forall_mem_cons] at same
    have unchanged (key : String × String) : (w.install file).2.revision? key = w.revision? key := by
      rw [revision?_install]
      split
      case isTrue isKey => rw [← isKey, same.1, Revision.supersede_self]
      case isFalse => rfl
    have installed : ∀ file' ∈ rest, (w.install file).2.revision? file'.uri.key = some (.ofFile file') := by
      intro file' member
      rw [unchanged, same.2 file' member]
    exact (ih installed).trans (unchanged key)

namespace Orderly

variable {w : Workspace}

theorem revision?_find? (orderly : Orderly w) {uri : Uri} {file : SourceFile} (found : w.find? uri = some file) :
    w.revision? file.uri.key = some (.ofFile file) := by
  rw [orderly.find?_key found, revision?, ← find?_eq_stored?, found, Option.map_some]

theorem revision?_setStatus (orderly : Orderly w) (uri : Uri) (status : FileStatus) (key : String × String) :
    (w.setStatus uri status).revision? key = w.revision? key := by
  simp only [setStatus, adjust]
  split
  · rename_i file found
    have isCurrent := orderly.revision?_find? found
    apply revision?_put_same
    exact isCurrent
  · rfl

theorem stored?_upsert (orderly : Orderly w) (uri : Uri) (version : Int) (text : List Char)
    (key : String × String) :
    (w.upsert uri version text).2.stored? key =
      if uri.key = key then
        some ((w.stored? key).elim (SourceFile.read w.reader uri version text) fun current =>
          (current.update? version text).getD current)
      else w.stored? key := by
  unfold upsert
  cases found : w.find? uri with
  | none =>
    rw [find?_eq_stored?] at found
    simp only [stored?_install, SourceFile.read_uri]
    split
    · rename_i isKey
      rw [← isKey, found, Option.elim_none, Option.elim_none]
    · rfl
  | some current =>
    have isUri := orderly.find?_key found
    rw [find?_eq_stored?] at found
    unfold SourceFile.update?
    by_cases older : version ≤ current.version
    · simp only [older, if_true]
      split
      · rename_i isKey
        rw [← isKey, found, Option.elim_some, if_pos older, Option.getD_none]
      · rfl
    · simp only [older, if_false, stored?_put, isUri]
      split
      · rename_i isKey
        rw [← isKey, found, Option.elim_some, if_neg older, Option.getD_some]
      · rfl

theorem revision?_upsert (orderly : Orderly w) (uri : Uri) (version : Int) (text : List Char)
    (key : String × String) :
    (w.upsert uri version text).2.revision? key =
      if uri.key = key then Revision.supersede (w.revision? key) ⟨version, text⟩ else w.revision? key := by
  unfold revision?
  rw [orderly.stored?_upsert]
  split
  · cases w.stored? key with
    | none =>
      rw [Option.elim_none, Option.map_some, Revision.ofFile, SourceFile.read_version, SourceFile.read_document]
      rfl
    | some current =>
      rw [Option.elim_some, Option.map_some, Option.map_some, Revision.supersede, SourceFile.update?]
      by_cases older : version ≤ current.version
      · have stays : ¬current.version < version := by omega
        rw [if_pos older, Option.getD_none, Revision.ofFile, if_neg stays]
      · have newer : current.version < version := by omega
        rw [if_neg older, Option.getD_some, Revision.ofFile, Revision.ofFile, if_pos newer]
  · rfl

theorem revision?_parseFile (orderly : Orderly w) (uri : Uri) (key : String × String) :
    (w.parseFile uri).2.revision? key = w.revision? key := by
  simp only [parseFile]
  split
  · rename_i current found
    apply revision?_put_same
    have isCurrent := orderly.revision?_find? found
    rw [orderly.find?_key found] at isCurrent
    rw [SourceFile.read_uri, isCurrent, Revision.ofFile, Revision.ofFile, SourceFile.read_version,
      SourceFile.read_document]
  · rfl

theorem revision?_upsertAndParse (orderly : Orderly w) (uri : Uri) (version : Int) (text : List Char)
    (key : String × String) :
    (w.upsertAndParse uri version text).2.revision? key =
      if uri.key = key then Revision.supersede (w.revision? key) ⟨version, text⟩ else w.revision? key := by
  have taken := orderly.revision?_upsert uri version text key
  have stays := orderly.apply (.upsert uri version text)
  simp only [upsertAndParse]
  split
  · rename_i w' same
    rw [Operation.apply, same] at stays
    rw [same] at taken
    exact (stays.revision?_parseFile uri key).trans taken
  · exact taken

theorem revision?_of_mem_dirtyFiles (orderly : Orderly w) {snapshot : Snapshot}
    (taken : snapshot ∈ w.dirtyFiles) :
    w.revision? snapshot.uri.key = some ⟨snapshot.version, snapshot.text⟩ := by
  obtain ⟨file, isDirty, rfl⟩ := List.mem_map.mp taken
  obtain ⟨key, found⟩ := mem_files_iff.mp (List.mem_filter.mp isDirty).1
  rw [orderly.keyed found, revision?, found]
  rfl

theorem revision?_reparseDirty (orderly : Orderly w) (key : String × String) :
    w.reparseDirty.2.revision? key = w.revision? key := by
  apply revision?_installAll
  intro file member
  obtain ⟨snapshot, taken, rfl⟩ := List.mem_map.mp member
  rw [Snapshot.read, SourceFile.read_uri, orderly.revision?_of_mem_dirtyFiles taken, Revision.ofFile,
    SourceFile.read_version, SourceFile.read_document]

theorem revision?_transition (orderly : Orderly w) (bundle : ValidationBundle) (before after : FileStatus)
    (key : String × String) : (Session.transition w bundle before after).revision? key = w.revision? key := by
  refine (transition_induction bundle (motive := fun w' => Orderly w' ∧ w'.revision? key = w.revision? key)
    ⟨orderly, rfl⟩ fun w' uri ⟨orderly', same⟩ _ => ?_).2
  exact ⟨orderly'.apply (.setStatus uri after), (orderly'.revision?_setStatus uri after key).trans same⟩

theorem revision?_put_forget (orderly : Orderly w) {place : String × String} {file file' : SourceFile}
    (found : w.stored? place = some file) (same : file'.forget = file.forget) (key : String × String) :
    (w.put file').revision? key = w.revision? key := by
  simp only [SourceFile.forget, SourceFile.mk.injEq] at same
  obtain ⟨uri, version, document, _⟩ := same
  apply revision?_put_same
  rw [uri, orderly.keyed found, revision?, found, Option.map_some, Revision.ofFile, Revision.ofFile, version,
    document]

end Orderly

namespace Operation

def submission? (uri : Uri) : Operation → Option Revision
  | upsert target version text | upsertAndParse target version text | install _ target version text =>
    if target.key = uri.key then some ⟨version, text⟩ else none
  | _ => none

def removes (uri : Uri) : Operation → Bool
  | remove target => target.key = uri.key
  | _ => false

end Operation

/-- An operation that does not remove an address changes its revision only by submitting a newer one. -/
theorem Orderly.revision?_apply {w : Workspace} (orderly : Orderly w) {uri : Uri} {operation : Operation}
    (kept : operation.removes uri = false) :
    (operation.apply w).revision? uri.key =
      (operation.submission? uri).toList.foldl Revision.supersede (w.revision? uri.key) := by
  cases operation with
  | upsert target version text =>
    rw [Operation.apply, orderly.revision?_upsert, Operation.submission?]
    split <;> rfl
  | upsertAndParse target version text =>
    rw [Operation.apply, orderly.revision?_upsertAndParse, Operation.submission?]
    split <;> rfl
  | parseFile target => exact orderly.revision?_parseFile target uri.key
  | install reader target version text =>
    rw [Operation.apply, revision?_install, Operation.submission?, SourceFile.read_uri, Revision.ofFile,
      SourceFile.read_version, SourceFile.read_document]
    split <;> rfl
  | reparseDirty => exact orderly.revision?_reparseDirty uri.key
  | remove target =>
    have other : target.key ≠ uri.key := by simpa [Operation.removes] using kept
    rw [Operation.apply, revision?, stored?_remove, if_neg other]
    rfl
  | setReader reader => rfl
  | setStatus target status => exact orderly.revision?_setStatus target status uri.key
  | validate bundle progress => exact orderly.revision?_transition bundle _ _ uri.key
  | lookUp target position =>
    rcases Symbol.at?_cases w target position with same | ⟨key, file, file', found, forgotten, same⟩
    · rw [Operation.apply, same]
      rfl
    · rw [Operation.apply, same]
      exact orderly.revision?_put_forget found forgotten uri.key
  | outline target =>
    simp only [Operation.apply, Outline.at?]
    split
    · rename_i file found
      rw [find?_eq_stored?] at found
      exact orderly.revision?_put_forget found (Outline.forget_ofFile file) uri.key
    · rfl
  | takeEvents => rfl

/-- What was submitted for an address, in order. -/
def submissions (uri : Uri) (operations : List Operation) : List Revision :=
  operations.filterMap (Operation.submission? uri)

theorem run_append (w : Workspace) (earlier later : List Operation) :
    w.run (earlier ++ later) = (w.run earlier).run later := List.foldl_append

theorem Orderly.run {w : Workspace} (orderly : Orderly w) (operations : List Operation) :
    Orderly (w.run operations) := by
  induction operations generalizing w with
  | nil => exact orderly
  | cons operation rest ih => exact ih (orderly.apply operation)

theorem Orderly.revision?_run {w : Workspace} (orderly : Orderly w) {uri : Uri} {operations : List Operation}
    (kept : ∀ operation ∈ operations, operation.removes uri = false) :
    (w.run operations).revision? uri.key =
      (submissions uri operations).foldl Revision.supersede (w.revision? uri.key) := by
  induction operations generalizing w with
  | nil => rfl
  | cons operation rest ih =>
    rw [List.forall_mem_cons] at kept
    rw [Workspace.run, List.foldl_cons, ← Workspace.run, ih (orderly.apply operation) kept.2,
      orderly.revision?_apply kept.1, submissions, submissions, List.filterMap_cons]
    cases operation.submission? uri <;> rfl

/-- While an address stays in the workspace, it holds the greatest version that was submitted for it, with
the text of the first submission of that version, whatever else happens and in whatever order. -/
theorem newest_submission_is_held (reader : FileReader) (earlier operations : List Operation) (uri : Uri)
    (absent : (run { reader } earlier).find? uri = none)
    (kept : ∀ operation ∈ operations, operation.removes uri = false) :
    Revision.IsNewest (submissions uri operations)
      (((run { reader } (earlier ++ operations)).find? uri).map .ofFile) := by
  have orderly := (Orderly.fresh reader).run earlier
  have held := orderly.revision?_run kept
  rw [find?_eq_stored?] at absent
  rw [← run_append, revision?, revision?, absent, Option.map_none] at held
  rw [find?_eq_stored?, held]
  exact Revision.foldl_supersede (submissions uri operations)

theorem newest_submission_is_held_late :
    let reader : FileReader := ⟨0, {}, fun _ => .error (.path .missing)⟩
    let uri : Uri := { scheme := "file", authority := some {}, path := "/w/d.pddl" }
    let earlier : List Operation := [.upsert uri 7 "old".toList, .remove uri]
    let operations : List Operation :=
      [.upsert uri 1 "a".toList, .upsertAndParse uri 3 "b".toList, .install reader uri 2 "c".toList,
       .setStatus uri .dirty, .upsert uri 3 "d".toList, .reparseDirty]
    ((run { reader } earlier).find? uri).isNone = true ∧
      (∀ operation ∈ operations, operation.removes uri = false) ∧
      Revision.IsNewest (submissions uri operations)
        (((run { reader } (earlier ++ operations)).find? uri).map .ofFile) := by
  intro reader uri earlier operations
  have absent : ((run { reader } earlier).find? uri).isNone = true := by decide +kernel
  have kept : ∀ operation ∈ operations, operation.removes uri = false := by decide +kernel
  exact ⟨absent, kept,
    newest_submission_is_held reader earlier operations uri (Option.isNone_iff_eq_none.mp absent) kept⟩

end PddlAssist.Workspace
