import PddlAssist.Diagnostic
import PddlAssist.Proofs.Session.Traffic
import PddlAssist.Proofs.Workspace.Kinship

namespace PddlAssist

/-- Files that differ at most in how far validation has come. -/
structure SourceFile.SameReading (f f' : SourceFile) : Prop where
  uri : f'.uri = f.uri
  document : f'.document = f.document
  issues : f'.issues = f.issues
  kind : f'.kind = f.kind
  dirty : f.status = .dirty → f'.status = .dirty

namespace SourceFile.SameReading

theorem refl (f : SourceFile) : SameReading f f := ⟨rfl, rfl, rfl, rfl, id⟩

theorem kin {f f' : SourceFile} (same : SameReading f f') : Kin f f' := ⟨same.uri, same.kind ▸ .refl f.kind⟩

end SourceFile.SameReading

namespace Diagnostic

open SourceFile

theorem collect_congr {w w' : Workspace} (orderly : w.Orderly) {uri : Uri}
    (same : Workspace.RelatedIn SameReading uri.folder w w') (limit : Nat) :
    collect w' uri limit = collect w uri limit := by
  have domains := same.domainFile? orderly fun _ _ alike => alike.kin
  have found := same.find?
  unfold collect
  generalize isFile : w.find? uri = left, w'.find? uri = right at found ⊢
  cases found with
  | none => rfl
  | @some f f' alike =>
    have bound : w'.domainBinding f.uri = w.domainBinding f.uri := by
      have inFolder : f.uri.folder = uri.folder := congrArg Prod.fst (orderly.find?_key isFile)
      rw [← inFolder] at same
      exact (same.imp fun _ _ alike => alike.kin).domainBinding
    have hints : bindingHint? w' f' = bindingHint? w f := by
      simp only [bindingHint?, wanted?, alike.kind, alike.document, alike.uri, bound]
    have declared : (w'.domainFile? uri).bind (·.domain?) = (w.domainFile? uri).bind (·.domain?) := by
      generalize w.domainFile? uri = left, w'.domainFile? uri = right at domains
      cases domains with
      | none => rfl
      | some alike => simp only [Option.bind_some, domain?, alike.kind]
    have inProblem : undeclaredInProblem f' = undeclaredInProblem f := by
      funext problem domain
      simp only [undeclaredInProblem, alike.document]
    have inDomain : undeclaredTypes f' = undeclaredTypes f := by
      funext domain
      simp only [undeclaredTypes, alike.document]
    simp only [alike.kind, alike.issues, hints, declared, inProblem, inDomain]

end Diagnostic

namespace Workspace

open SourceFile

theorem exists_after {R : SourceFile → SourceFile → Prop} {before after : Option SourceFile}
    (related : Option.Rel R before after) {file : SourceFile} (found : before = some file) :
    ∃ file', after = some file' ∧ R file file' := by
  subst found
  cases related with
  | some alike => exact ⟨_, rfl, alike⟩

theorem exists_before {R : SourceFile → SourceFile → Prop} {before after : Option SourceFile}
    (related : Option.Rel R before after) {file' : SourceFile} (found : after = some file') :
    ∃ file, before = some file ∧ R file file' := by
  subst found
  cases related with
  | some alike => exact ⟨_, rfl, alike⟩

/-- What becomes of the files as long as none leaves, and what is said about it. -/
inductive Change (w w' : Workspace) : Prop where
  | still (same : Related SameReading w w') (events : w'.events = w.events)
  | stores (file : SourceFile)
    (stored : ∀ key, w'.stored? key = if file.uri.key = key then some file else w.stored? key)
    (news : List WorkspaceEvent) (quiet : ∀ uri, .removing uri ∉ news)
    (events : w'.events = w.events ++ (news ++ [.updated file.uri]))
  | dirties (old file : SourceFile) (found : w.stored? file.uri.key = some old) (uri : old.uri = file.uri)
    (stored : ∀ key, w'.stored? key = if file.uri.key = key then some file else w.stored? key)
    (dirty : file.status = .dirty) (events : w'.events = w.events)

namespace Change

theorem refl (w : Workspace) : Change w w := .still (.refl SameReading.refl w) rfl

theorem install (w : Workspace) (file : SourceFile) : Change w (w.install file).2 := by
  unfold Workspace.install
  split
  · split
    · exact .stores file (fun key => by rw [stored?_emit, stored?_put]) [] (by simp) rfl
    · exact refl w
  · refine .stores file (fun key => by rw [stored?_emit, stored?_emit, stored?_put]) [.inserted file.uri] (by simp) ?_
    simp only [emit, put, List.append_assoc]

theorem upsert {w : Workspace} (orderly : Orderly w) (uri : Uri) (version : Int) (text : List Char) :
    Change w (w.upsert uri version text).2 := by
  unfold Workspace.upsert
  cases found : w.find? uri with
  | none => exact install w _
  | some current =>
    have isKey := orderly.find?_key found
    simp only
    cases updated : current.update? version text with
    | none => exact refl w
    | some file =>
      have isFile := update?_eq_some updated
      refine .dirties current file ?_ (by rw [isFile]) (stored?_put w file) (by rw [isFile]) rfl
      rw [isFile, isKey, ← find?_eq_stored?, found]

theorem events_setStatus (w : Workspace) (uri : Uri) (status : FileStatus) :
    (w.setStatus uri status).events = w.events := by
  rw [setStatus, adjust]
  split <;> rfl

theorem events_transition (w : Workspace) (bundle : ValidationBundle) (before after : FileStatus) :
    (Session.transition w bundle before after).events = w.events :=
  transition_induction bundle (motive := fun w' => w'.events = w.events) rfl fun w' uri same _ =>
    (events_setStatus w' uri after).trans same

theorem validate {w : Workspace} (orderly : Orderly w) (bundle : ValidationBundle) (progress : Progress) :
    Change w (Session.transition w bundle progress.before progress.after) := by
  refine .still ?_ (events_transition w bundle _ _)
  intro key
  rw [orderly.stored?_transition bundle progress.before_ne_after]
  cases w.stored? key with
  | none => exact .none
  | some file =>
    refine .some ?_
    unfold moved
    split
    · rename_i isMoved
      exact ⟨rfl, rfl, rfl, rfl, fun dirty => absurd (isMoved.1 ▸ dirty) progress.before_clean⟩
    · exact .refl file

theorem settling {w : Workspace} (orderly : Orderly w) {operation : Operation}
    (settles : operation.isSettling = true) : Change w (operation.apply w) := by
  cases operation with
  | install reader uri version text => exact install w _
  | validate bundle progress => exact validate orderly bundle progress
  | upsert | remove | upsertAndParse | parseFile | reparseDirty | setReader | setStatus | lookUp | outline
  | takeEvents => cases settles

end Change

/-- What every change preserves holds after any number of readings and validations. -/
theorem SettlesTo.preserves {P : Workspace → Prop} {w w' : Workspace} (settles : SettlesTo w w') (orderly : Orderly w)
    (change : ∀ {w w' : Workspace}, Orderly w → Change w w' → P w → P w') (start : P w) : P w' := by
  obtain ⟨operations, settling, rfl⟩ := settles
  induction operations generalizing w with
  | nil => exact start
  | cons operation rest ih =>
    rw [List.forall_mem_cons] at settling
    have next := change orderly (.settling orderly settling.1) start
    exact ih (orderly.apply operation) next settling.2

theorem events_remove {w : Workspace} {uri : Uri} (known : w.contains uri = true) :
    (w.remove uri).2.events = w.events ++ [.removing uri] := by
  simp only [remove, known, if_true, emit]

theorem remove_of_unknown {w : Workspace} {uri : Uri} (unknown : w.contains uri = false) : (w.remove uri).2 = w := by
  simp only [remove, unknown, Bool.false_eq_true, if_false]

end Workspace
end PddlAssist
