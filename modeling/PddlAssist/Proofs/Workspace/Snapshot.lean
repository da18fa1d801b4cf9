import PddlAssist.Proofs.Workspace.Revision

namespace PddlAssist.Workspace

/-- The text is still that of its file, and nobody has read it. -/
def Awaits (w : Workspace) (snapshot : Snapshot) : Prop :=
  ∃ file, w.find? snapshot.uri = some file ∧ file.status = .dirty ∧ file.version = snapshot.version ∧
    file.document.chars = snapshot.text

/-- The file is missing or has an older version than the text. -/
def IsBehind (w : Workspace) (snapshot : Snapshot) : Prop :=
  ∀ file, w.find? snapshot.uri = some file → file.version < snapshot.version

theorem install_ne_self_iff (w : Workspace) (file : SourceFile) :
    (w.install file).2 ≠ w ↔ ∀ current, w.find? file.uri = some current → isFresh current file = true := by
  -- what is stored is told to others, so that the list of events grows
  have told {w' : Workspace} (events : List WorkspaceEvent) (longer : w'.events = w.events ++ events)
      (nonempty : events ≠ []) : w' ≠ w := by
    rintro rfl
    exact nonempty (List.append_right_eq_self.mp longer.symm)
  unfold install
  cases found : w.find? file.uri with
  | none =>
    refine ⟨fun _ current isCurrent => ?_, fun _ => ?_⟩
    · cases isCurrent
    · exact told [.inserted file.uri, .updated file.uri] (by simp [emit, put]) (by simp)
  | some current =>
    dsimp only
    by_cases fresh : isFresh current file = true
    · rw [if_pos fresh]
      refine ⟨fun _ other same => ?_, fun _ => ?_⟩
      · cases same
        exact fresh
      · exact told [.updated file.uri] (by simp [emit, put]) (by simp)
    · rw [if_neg fresh]
      refine ⟨fun changed => ?_, fun all => ?_⟩
      · exact absurd rfl changed
      · exact absurd (all current rfl) fresh

theorem isFresh_read_iff (current : SourceFile) (reader : FileReader) (snapshot : Snapshot) :
    isFresh current (Snapshot.read reader snapshot) = true ↔ current.version < snapshot.version ∨
      current.status = .dirty ∧ current.version = snapshot.version ∧ current.document.chars = snapshot.text := by
  have sameText : current.document = ⟨snapshot.text⟩ ↔ current.document.chars = snapshot.text := by
    cases current.document
    simp
  simp only [isFresh, Snapshot.read, SourceFile.read_version, SourceFile.read_document, Bool.or_eq_true,
    Bool.and_eq_true, decide_eq_true_eq, beq_iff_eq, sameText]
  constructor
  · rintro (newer | ⟨⟨version, dirty⟩, text⟩)
    · exact .inl newer
    · exact .inr ⟨dirty, version.symm, text⟩
  · rintro (newer | ⟨dirty, version, text⟩)
    · exact .inl newer
    · exact .inr ⟨⟨version.symm, dirty⟩, text⟩

theorem install_read_ne_self_iff (w : Workspace) (reader : FileReader) (snapshot : Snapshot) :
    (w.install (Snapshot.read reader snapshot)).2 ≠ w ↔ w.Awaits snapshot ∨ w.IsBehind snapshot := by
  have isUri : (Snapshot.read reader snapshot).uri = snapshot.uri := SourceFile.read_uri _ _ _ _
  simp only [install_ne_self_iff, isUri, isFresh_read_iff]
  constructor
  · intro fresh
    cases found : w.find? snapshot.uri with
    | none =>
      refine .inr fun file isFile => ?_
      rw [found] at isFile
      cases isFile
    | some current =>
      rcases fresh current found with newer | ⟨dirty, version, text⟩
      · refine .inr fun file isFile => ?_
        rw [found] at isFile
        cases isFile
        exact newer
      · exact .inl ⟨current, found, dirty, version, text⟩
  · rintro (⟨file, isFile, dirty, version, text⟩ | behind) current found
    · rw [isFile] at found
      cases found
      exact .inr ⟨dirty, version, text⟩
    · exact .inl (behind current found)

theorem Revision.foldl_supersede_some (held : Revision) (arrived : List Revision) :
    ∃ newest, arrived.foldl supersede (some held) = some newest ∧ held.version ≤ newest.version := by
  rcases foldl_supersede_cases held arrived with stays | ⟨newest, _, newer, isNewest⟩
  · exact ⟨held, stays, Int.le_refl _⟩
  · exact ⟨newest, isNewest, Int.le_of_lt newer⟩

/-- As long as nobody removes its file, the workspace is not behind a text that was taken from it. -/
theorem Orderly.not_isBehind_run {w : Workspace} (orderly : Orderly w) {snapshot : Snapshot}
    (taken : snapshot ∈ w.dirtyFiles) {operations : List Operation}
    (kept : ∀ operation ∈ operations, operation.removes snapshot.uri = false) :
    ¬(w.run operations).IsBehind snapshot := by
  intro behind
  have held := orderly.revision?_run kept
  obtain ⟨newest, isNewest, later⟩ := Revision.foldl_supersede_some ⟨snapshot.version, snapshot.text⟩
    (submissions snapshot.uri operations)
  rw [orderly.revision?_of_mem_dirtyFiles taken, isNewest, revision?, ← find?_eq_stored?,
    Option.map_eq_some_iff] at held
  obtain ⟨file, found, rfl⟩ := held
  have older := behind file found
  simp only [Revision.ofFile] at later
  omega

/-- What becomes of a file when all texts are read that nobody has read yet. -/
def reread (reader : FileReader) (file : SourceFile) : SourceFile :=
  if file.status = .dirty then SourceFile.read reader file.uri file.version file.document.chars else file

theorem reread_uri (reader : FileReader) (file : SourceFile) : (reread reader file).uri = file.uri := by
  unfold reread
  split
  · rw [SourceFile.read_uri]
  · rfl

theorem reread_document (reader : FileReader) (file : SourceFile) :
    (reread reader file).document = file.document := by
  unfold reread
  split
  · rw [SourceFile.read_document]
  · rfl

theorem stored?_install_reread {w : Workspace} {reader : FileReader} {file : SourceFile}
    (isDirty : file.status = .dirty)
    (held : w.stored? file.uri.key = some file ∨ w.stored? file.uri.key = some (reread reader file))
    (key : String × String) : (w.install (reread reader file)).2.stored? key =
      if file.uri.key = key then some (reread reader file) else w.stored? key := by
  have isRead : reread reader file = SourceFile.read reader file.uri file.version file.document.chars := if_pos isDirty
  rw [stored?_install, reread_uri]
  split
  · rename_i isKey
    subst isKey
    rcases held with held | held
    · have fresh : isFresh file (reread reader file) = true := by
        rw [isRead]
        simp [isFresh, SourceFile.read_version, SourceFile.read_document, isDirty]
      rw [held, Option.elim_some, if_pos fresh]
    · rw [held, Option.elim_some, ite_self]
  · rfl

theorem stored?_installAll_reread {w now : Workspace} {reader : FileReader} {files : List SourceFile}
    (stored : ∀ file ∈ files, file.status = .dirty ∧ w.stored? file.uri.key = some file)
    (held : ∀ key, now.stored? key = w.stored? key ∨ now.stored? key = (w.stored? key).map (reread reader))
    (key : String × String) : (now.installAll (files.map (reread reader))).2.stored? key =
      if key ∈ files.map (·.uri.key) then (w.stored? key).map (reread reader) else now.stored? key := by
  induction files generalizing now with
  | nil => rfl
  | cons file rest ih =>
    rw [List.forall_mem_cons] at stored
    obtain ⟨⟨isDirty, isStored⟩, others⟩ := stored
    have here := held file.uri.key
    rw [isStored, Option.map_some] at here
    have first := stored?_install_reread isDirty here
    have heldNow : ∀ key, (now.install (reread reader file)).2.stored? key = w.stored? key ∨
        (now.install (reread reader file)).2.stored? key = (w.stored? key).map (reread reader) := by
      intro key
      rw [first]
      split
      · rename_i isKey
        rw [← isKey, isStored]
        exact .inr rfl
      · exact held key
    refine (ih others heldNow).trans ?_
    rw [first, List.map_cons]
    by_cases isLater : key ∈ rest.map (·.uri.key)
    · rw [if_pos isLater, if_pos (List.mem_cons_of_mem _ isLater)]
    · rw [if_neg isLater]
      by_cases isKey : file.uri.key = key
      · rw [if_pos isKey, if_pos (isKey ▸ List.mem_cons_self), ← isKey, isStored, Option.map_some]
      · have other : key ∉ file.uri.key :: rest.map (·.uri.key) := by
          simp only [List.mem_cons, not_or]
          exact ⟨Ne.symm isKey, isLater⟩
        rw [if_neg isKey, if_neg other]

theorem Orderly.stored?_reparseDirty {w : Workspace} (orderly : Orderly w) (key : String × String) :
    w.reparseDirty.2.stored? key = (w.stored? key).map (reread w.reader) := by
  have dirty : ∀ file ∈ w.files.filter (·.status == .dirty),
      file.status = .dirty ∧ w.stored? file.uri.key = some file := by
    intro file member
    obtain ⟨isFile, isDirty⟩ := List.mem_filter.mp member
    obtain ⟨place, found⟩ := mem_files_iff.mp isFile
    rw [orderly.keyed found]
    exact ⟨by simpa using isDirty, found⟩
  have readings : w.dirtyFiles.map (Snapshot.read w.reader) =
      (w.files.filter (·.status == .dirty)).map (reread w.reader) := by
    rw [dirtyFiles, List.map_map]
    apply List.map_congr_left
    intro file member
    rw [reread, if_pos (dirty file member).1]
    rfl
  rw [reparseDirty, readings, stored?_installAll_reread dirty fun _ => .inl rfl]
  split
  · rfl
  · rename_i unlisted
    cases found : w.stored? key with
    | none => rfl
    | some file =>
      have clean : file.status ≠ .dirty := by
        intro isDirty
        apply unlisted
        refine List.mem_map.mpr ⟨file, List.mem_filter.mpr ⟨mem_files_iff.mpr ⟨key, found⟩, ?_⟩, orderly.keyed found⟩
        simpa using isDirty
      rw [Option.map_some, reread, if_neg clean]

/-- A text is taken from a workspace, anything happens, and then what was read from the text is stored. This
changes the workspace if the text still awaits its reading, and otherwise only if the file was removed in
between and the workspace has fallen behind the text. -/
theorem late_reading_changes_iff (reader other : FileReader) (earlier later : List Operation) (snapshot : Snapshot)
    (taken : snapshot ∈ (run { reader } earlier).dirtyFiles) :
    ((run { reader } (earlier ++ later)).install (Snapshot.read other snapshot)).2 ≠ run { reader } (earlier ++ later) ↔
      (run { reader } (earlier ++ later)).Awaits snapshot ∨
        (∃ operation ∈ later, operation.removes snapshot.uri = true) ∧
          (run { reader } (earlier ++ later)).IsBehind snapshot := by
  rw [install_read_ne_self_iff]
  refine or_congr_right ⟨fun behind => ⟨?_, behind⟩, And.right⟩
  by_contra kept
  push Not at kept
  have orderly := (Orderly.fresh reader).run earlier
  rw [run_append] at behind
  exact orderly.not_isBehind_run taken (fun operation member => by simpa using kept operation member) behind

theorem late_reading_changes_iff_edited :
    let reader : FileReader := ⟨0, {}, fun _ => .error (.path .missing)⟩
    let uri : Uri := { scheme := "file", authority := some {}, path := "/w/d.pddl" }
    let earlier : List Operation := [.upsert uri 1 "(a)".toList, .upsert uri 2 "(b)".toList]
    let later : List Operation := [.upsert uri 3 "(c)".toList]
    let snapshot : Snapshot := ⟨uri, 2, "(b)".toList⟩
    snapshot ∈ (run { reader } earlier).dirtyFiles ∧
      ((run { reader } (earlier ++ later)).install (Snapshot.read reader snapshot)).2 = run { reader } (earlier ++ later) := by
  intro reader uri earlier later snapshot
  have taken : snapshot ∈ (run { reader } earlier).dirtyFiles := by decide +kernel
  refine ⟨taken, ?_⟩
  have changes := late_reading_changes_iff reader reader earlier later snapshot taken
  have version : ((run { reader } (earlier ++ later)).find? uri).map (·.version) = some 3 := by decide +kernel
  obtain ⟨file, found, isNewer⟩ := Option.map_eq_some_iff.mp version
  by_contra changed
  rcases changes.mp changed with ⟨other, isOther, _, isOlder, _⟩ | ⟨_, behind⟩
  · rw [found] at isOther
    cases isOther
    rw [isNewer] at isOlder
    exact absurd isOlder (by decide)
  · have older := behind file found
    rw [isNewer] at older
    exact absurd older (by decide)

/-- A reading that comes back after its file was removed puts the file back, and one that comes back after
the file was also added again takes the place of the new text. -/
theorem late_reading_outlives_removal :
    let reader : FileReader := ⟨0, {}, fun _ => .error (.path .missing)⟩
    let uri : Uri := { scheme := "file", authority := some {}, path := "/w/d.pddl" }
    let earlier : List Operation := [.upsert uri 1 "(a)".toList, .upsert uri 2 "(b)".toList]
    let snapshot : Snapshot := ⟨uri, 2, "(b)".toList⟩
    let removed := run { reader } (earlier ++ [.remove uri])
    let reopened := run { reader } (earlier ++ [.remove uri, .upsert uri 1 "(c)".toList])
    snapshot ∈ (run { reader } earlier).dirtyFiles ∧
      (removed.contains uri = false ∧ (removed.install (Snapshot.read reader snapshot)).2.contains uri = true) ∧
      (reopened.find? uri).map (·.text) = some "(c)" ∧
      ((reopened.install (Snapshot.read reader snapshot)).2.find? uri).map (·.text) = some "(b)" := by
  intro reader uri earlier snapshot removed reopened
  refine ⟨?_, ⟨?_, ?_⟩, ?_, ?_⟩
  · decide +kernel
  · decide +kernel
  · decide +kernel
  · decide +kernel
  · decide +kernel

end PddlAssist.Workspace
