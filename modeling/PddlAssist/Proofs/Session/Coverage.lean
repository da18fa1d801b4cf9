import PddlAssist.Proofs.Session.Traffic

namespace PddlAssist

def Snapshot.IsOf (snapshot : Snapshot) (file : SourceFile) : Prop :=
  snapshot.uri.key = file.uri.key ∧ snapshot.version = file.version ∧ snapshot.text = file.document.chars

namespace Workspace

theorem Snapshot.read_clean (reader : FileReader) (snapshot : Snapshot) :
    (Snapshot.read reader snapshot).status ≠ .dirty := by
  rw [Snapshot.read, SourceFile.read_status]
  decide

def KeepsDirty (w w' : Workspace) : Prop :=
  ∀ key file, w'.stored? key = some file → file.status = .dirty → w.stored? key = some file

namespace KeepsDirty

theorem refl (w : Workspace) : KeepsDirty w w := fun _ _ found _ => found

theorem trans {w w' w'' : Workspace} (first : KeepsDirty w w') (second : KeepsDirty w' w'') : KeepsDirty w w'' :=
  fun key file found dirty => first key file (second key file found dirty) dirty

theorem install (w : Workspace) {read : SourceFile} (clean : read.status ≠ .dirty) :
    KeepsDirty w (w.install read).2 := by
  intro key file found dirty
  rw [stored?_install] at found
  split at found
  · cases current : w.stored? key with
    | none =>
      rw [current, Option.elim_none, Option.some.injEq] at found
      exact absurd (found ▸ dirty) clean
    | some old =>
      rw [current, Option.elim_some, Option.some.injEq] at found
      split at found
      · exact absurd (found ▸ dirty) clean
      · rw [found]
  · exact found

theorem installAll (w : Workspace) {reads : List SourceFile} (clean : ∀ read ∈ reads, read.status ≠ .dirty) :
    KeepsDirty w (w.installAll reads).2 := by
  induction reads generalizing w with
  | nil => exact refl w
  | cons read rest ih =>
    rw [List.forall_mem_cons] at clean
    exact (install w clean.1).trans (ih _ clean.2)

theorem remove (w : Workspace) (uri : Uri) : KeepsDirty w (w.remove uri).2 := by
  intro key file found _
  rw [stored?_remove] at found
  split at found
  · cases found
  · exact found

theorem validate {w : Workspace} (orderly : Orderly w) (bundle : ValidationBundle) (progress : Progress) :
    KeepsDirty w ((Operation.validate bundle progress).apply w) := by
  intro key file found dirty
  rw [Operation.apply, orderly.stored?_transition bundle progress.before_ne_after, Option.map_eq_some_iff] at found
  obtain ⟨old, isOld, rfl⟩ := found
  unfold moved at dirty ⊢
  split at dirty
  · exact absurd dirty progress.after_clean
  · rename_i stays
    rw [if_neg stays, isOld]

theorem run {w : Workspace} (orderly : Orderly w) {operations : List Operation}
    (settling : ∀ operation ∈ operations, operation.isSettling = true) : KeepsDirty w (w.run operations) := by
  induction operations generalizing w with
  | nil => exact refl w
  | cons operation rest ih =>
    rw [List.forall_mem_cons] at settling
    refine trans ?_ (ih (orderly.apply operation) settling.2)
    cases operation with
    | install reader uri version text => exact install w (Snapshot.read_clean reader ⟨uri, version, text⟩)
    | validate bundle progress => exact validate orderly bundle progress
    | upsert | remove | upsertAndParse | parseFile | reparseDirty | setReader | setStatus | lookUp | outline | takeEvents =>
      cases settling.1

end KeepsDirty

theorem clean_of_installAll {w : Workspace} {reader : FileReader} {texts : List Snapshot} {snapshot : Snapshot}
    (taken : snapshot ∈ texts) {file : SourceFile} (isOf : snapshot.IsOf file)
    (found : (w.installAll (texts.map (Snapshot.read reader))).2.stored? file.uri.key = some file) :
    file.status ≠ .dirty := by
  intro dirty
  induction texts generalizing w with
  | nil => cases taken
  | cons first rest ih =>
    rcases List.mem_cons.mp taken with rfl | later
    · -- the reading of the current text has taken the place of the file, and nothing makes it dirty again
      have others : ∀ read ∈ rest.map (Snapshot.read reader), read.status ≠ .dirty := by
        intro read member
        obtain ⟨other, _, rfl⟩ := List.mem_map.mp member
        exact Snapshot.read_clean reader other
      have still := KeepsDirty.installAll (w.install (Snapshot.read reader snapshot)).2 others _ file found dirty
      have was := KeepsDirty.install w (Snapshot.read_clean reader snapshot) _ file still dirty
      have isUri : (Snapshot.read reader snapshot).uri = snapshot.uri := SourceFile.read_uri _ _ _ _
      have fresh : isFresh file (Snapshot.read reader snapshot) = true :=
        (isFresh_read_iff file reader snapshot).mpr (.inr ⟨dirty, isOf.2.1.symm, isOf.2.2.symm⟩)
      rw [stored?_install, isUri, if_pos isOf.1, was, Option.elim_some, if_pos fresh, Option.some.injEq] at still
      exact Snapshot.read_clean reader snapshot (still ▸ dirty)
    · exact ih later found

theorem Orderly.dirty_upsert {w : Workspace} (orderly : Orderly w) {snapshot : Snapshot} {key : String × String}
    {file : SourceFile}
    (found : (w.upsert snapshot.uri snapshot.version snapshot.text).2.stored? key = some file)
    (dirty : file.status = .dirty) :
    w.stored? key = some file ∨
      (w.upsert snapshot.uri snapshot.version snapshot.text).1 = .updated ∧ snapshot.IsOf file := by
  rw [orderly.stored?_upsert] at found
  split at found
  case isFalse => exact .inl found
  case isTrue same =>
    subst same
    cases current : w.stored? snapshot.uri.key with
    | none =>
      rw [current, Option.elim_none, Option.some.injEq] at found
      subst found
      exact absurd dirty (Snapshot.read_clean w.reader snapshot)
    | some old =>
      rw [current, Option.elim_some, Option.some.injEq] at found
      cases updated : old.update? snapshot.version snapshot.text with
      | none =>
        rw [updated, Option.getD_none] at found
        exact .inl (by rw [found])
      | some new =>
        rw [updated, Option.getD_some] at found
        subst found
        refine .inr ⟨by rw [upsert, find?_eq_stored?, current]; simp only [updated], ?_⟩
        rw [SourceFile.update?_eq_some updated]
        exact ⟨(orderly.keyed current).symm, rfl, rfl⟩

theorem mem_dirtyFiles {w : Workspace} {key : String × String} {file : SourceFile}
    (found : w.stored? key = some file) (dirty : file.status = .dirty) :
    ∃ snapshot ∈ w.dirtyFiles, snapshot.IsOf file := by
  refine ⟨⟨file.uri, file.version, file.document.chars⟩, ?_, rfl, rfl, rfl⟩
  refine List.mem_map_of_mem (List.mem_filter.mpr ⟨mem_files_iff.mpr ⟨key, found⟩, ?_⟩)
  rw [dirty]
  rfl

end Workspace

namespace Traffic

/-- Somebody is going to read the current text of a file: the timer waits; or a re-parse has begun and takes its
texts later; or the text is among those that a re-parse has taken; or it was just put in by a call that is going to
set the timer. -/
inductive Covered (t : Traffic) (file : SourceFile) : Prop where
  | waiting (pending : t.session.parsing.IsPending)
  | begun (task : Reparse) (goesOn : task ∈ t.session.reparses) (empty : task.texts = none)
  | taken (task : Reparse) (goesOn : task ∈ t.session.reparses) (reader : FileReader) (texts : List Snapshot)
    (taken : task.texts = some (reader, texts)) (snapshot : Snapshot) (member : snapshot ∈ texts)
    (isOf : snapshot.IsOf file)
  | edited (snapshot : Snapshot) (goesOn : .edited snapshot ∈ t.calls) (isOf : snapshot.IsOf file)

namespace Covered

variable {t t' : Traffic} {file : SourceFile}

theorem mono (covered : Covered t file) (pending : t.session.parsing.IsPending → t'.session.parsing.IsPending)
    (reparses : ∀ task ∈ t.session.reparses, task ∈ t'.session.reparses)
    (calls : ∀ snapshot, .edited snapshot ∈ t.calls → .edited snapshot ∈ t'.calls) : Covered t' file := by
  cases covered with
  | waiting isPending => exact .waiting (pending isPending)
  | begun task goesOn empty => exact .begun task (reparses task goesOn) empty
  | taken task goesOn reader texts taken snapshot member isOf =>
    exact .taken task (reparses task goesOn) reader texts taken snapshot member isOf
  | edited snapshot goesOn isOf => exact .edited snapshot (calls snapshot goesOn) isOf

theorem readsAs (covered : Covered t file) {s : Session} (reads : t.session.ReadsAs s) :
    Covered { t with session := s } file :=
  covered.mono (reads.parsing ▸ id) (fun _ => reads.reparses ▸ id) fun _ => id

/-- A re-parse that ends was not needed for what is still dirty: it has taken no text of such a file. -/
theorem install (covered : Covered t file) (ticketed : t.session.Ticketed) {task : Reparse}
    (isTask : task ∈ t.session.reparses) {reader : FileReader} {texts : List Snapshot}
    (taken : task.texts = some (reader, texts))
    (found : (t.session.workspace.installAll (texts.map (Workspace.Snapshot.read reader))).2.stored? file.uri.key =
      some file)
    (dirty : file.status = .dirty)
    (pending : t.session.parsing.IsPending → t'.session.parsing.IsPending)
    (reparses : t'.session.reparses = t.session.reparses.filter (·.ticket != task.ticket))
    (calls : t'.calls = t.calls) : Covered t' file := by
  have goesOn {other : Reparse} (isOther : other ∈ t.session.reparses) (differs : other ≠ task) :
      other ∈ t'.session.reparses := by
    rw [reparses]
    refine List.mem_filter.mpr ⟨isOther, ?_⟩
    simpa using mt (List.inj_on_of_nodup_map ticketed.reparses.1 isOther isTask) differs
  cases covered with
  | waiting isPending => exact .waiting (pending isPending)
  | begun other isOther empty =>
    refine .begun other (goesOn isOther ?_) empty
    rintro rfl
    rw [taken] at empty
    cases empty
  | taken other isOther otherReader otherTexts otherTaken snapshot member isOf =>
    refine .taken other (goesOn isOther ?_) otherReader otherTexts otherTaken snapshot member isOf
    rintro rfl
    rw [taken, Option.some.injEq, Prod.mk.injEq] at otherTaken
    obtain ⟨rfl, rfl⟩ := otherTaken
    exact Workspace.clean_of_installAll member isOf found dirty
  | edited snapshot goesOn isOf => exact .edited snapshot (calls ▸ goesOn) isOf

theorem apply (covered : Covered t file) (sound : Sound t) (step : Step)
    (found : (t.apply step).session.workspace.stored? file.uri.key = some file) (dirty : file.status = .dirty) :
    Covered (t.apply step) file := by
  have outcome := t.outcome_apply step
  generalize t.apply step = t' at outcome found
  cases outcome with
  | idle => exact covered
  | puts | removes | awaits => exact covered.mono id (fun _ => id) fun _ => id
  | edits | asks => exact covered.mono id (fun _ => id) fun _ => List.mem_append_left _
  | resumes n call isCall =>
    cases call with
    | edited => exact .waiting (Debouncer.isPending_schedule _ _ _)
    | reading | requesting | requested | claiming =>
      exact covered.mono id (fun _ => id) fun _ member => mem_calls_resume isCall member (by simp)
  | parses | begins => exact .begun _ (List.mem_append_right _ (List.mem_singleton_self _)) rfl
  | lapses timer stale => exact covered.mono (fun pending => pending.expire stale) (fun _ => id) fun _ => id
  | takes ticket task isTask =>
    -- whatever covered the file so far, its text is taken now
    obtain ⟨snapshot, taken, isOf⟩ := Workspace.mem_dirtyFiles found dirty
    refine .taken { task with texts := some (t.session.workspace.reader, t.session.workspace.dirtyFiles) } ?_
      _ _ rfl snapshot taken isOf
    exact List.mem_map.mpr ⟨task, isTask, if_pos rfl⟩
  | installs ticket task isTask isTicket reader texts taken =>
    subst isTicket
    refine covered.install sound.ticketed isTask taken found dirty ?_ rfl rfl
    cases task.generation with
    | none => exact id
    | some generation => exact (Debouncer.isPending_finish _ _).mpr
  | starts | passes => exact covered.mono id (fun _ => id) fun _ => id
  | validates ticket run isRun s stepped => exact covered.readsAs (.stepRun? stepped)
  | answers => exact covered.readsAs (.endCall _ _ _ _)

end Covered

theorem covered_apply {t : Traffic} (sound : Sound t)
    (covered : ∀ file ∈ t.session.workspace.files, file.status = .dirty → Covered t file) (step : Step) :
    ∀ file ∈ (t.apply step).session.workspace.files, file.status = .dirty → Covered (t.apply step) file := by
  intro file isFile dirty
  obtain ⟨key, found⟩ := Workspace.mem_files_iff.mp isFile
  obtain rfl := (sound.apply step).orderly.keyed found
  have still (was : t.session.workspace.stored? file.uri.key = some file) : Covered (t.apply step) file :=
    (covered file (Workspace.mem_files_iff.mpr ⟨_, was⟩) dirty).apply sound step found dirty
  rcases t.workspace_apply step with ⟨snapshot, rfl, isSame⟩ | ⟨uri, _, isSame⟩ | ⟨operations, settling, isSame⟩
  · rw [isSame] at found
    rcases sound.orderly.dirty_upsert found dirty with was | ⟨updated, isOf⟩
    · exact still was
    · refine .edited snapshot ?_ isOf
      simp only [apply, edit, updated, if_true, addCall]
      exact List.mem_append_right _ (List.mem_singleton_self _)
  · rw [isSame] at found
    exact still (Workspace.KeepsDirty.remove _ uri _ file found dirty)
  · rw [isSame] at found
    exact still (Workspace.KeepsDirty.run sound.orderly settling _ file found dirty)

/-- However edits, readings, timers, validations and calls for a reading at once follow one another, somebody is
going to read the current text of every file that is dirty. -/
theorem dirty_file_is_covered (settings : Settings) (host : Host) (network : Network) (validator : Option Validator)
    (steps : List Step) (file : SourceFile)
    (isFile : file ∈ (run settings host network validator steps).session.workspace.files)
    (dirty : file.status = .dirty) :
    (run settings host network validator steps).Covered file := by
  induction steps using List.reverseRecOn generalizing file with
  | nil => cases isFile
  | append_singleton earlier step ih =>
    rw [run_append] at isFile ⊢
    exact covered_apply (.run settings host network validator earlier) ih step file isFile dirty

theorem dirty_file_is_covered_behind_reparse :
    let host : Host := fun _ => .error (.path .missing)
    let uri : Uri := { scheme := "file", authority := some {}, path := "/w/d.pddl" }
    let steps : List Step := [.read ⟨uri, 1, "(a)".toList⟩, .resume 0, .edit ⟨uri, 2, "(b)".toList⟩, .resume 0,
      .parse, .edit ⟨uri, 3, "(c)".toList⟩, .reparse 1, .edit ⟨uri, 4, "(d)".toList⟩]
    (run {} host .offline none steps).session.parsing.waiting = [] ∧
      ∃ file ∈ (run {} host .offline none steps).session.workspace.files, file.version = 4 ∧
        (run {} host .offline none steps).Covered file := by
  intro host uri steps
  refine ⟨by decide +kernel, ?_⟩
  have stored : (run {} host .offline none steps).session.workspace.files.map
      (fun file => (file.version, file.status)) = [(4, .dirty)] := by decide +kernel
  obtain ⟨file, isFile, same⟩ := List.mem_map.mp (stored ▸ List.mem_singleton_self (4, FileStatus.dirty))
  rw [Prod.mk.injEq] at same
  exact ⟨file, isFile, same.1, dirty_file_is_covered {} host .offline none steps file isFile same.2⟩

end Traffic
end PddlAssist
