import PddlAssist.Proofs.Symbol.Lookup
import PddlAssist.Proofs.Workspace.Change
import PddlAssist.Symbol.Tear

namespace PddlAssist.Workspace

open SourceFile

namespace Operation

/-- The address that an operation works on, if it works on one. -/
def uri? : Operation → Option Uri
  | upsert uri _ _ | upsertAndParse uri _ _ | parseFile uri | install _ uri _ _ | remove uri | setStatus uri _
  | lookUp uri _ | outline uri => some uri
  | reparseDirty | setReader _ | validate _ _ | takeEvents => none

end Operation

theorem stored?_put_of_folder_ne {w : Workspace} {file : SourceFile} {key : String × String}
    (apart : file.uri.folder ≠ key.1) : (w.put file).stored? key = w.stored? key := by
  rw [stored?_put, if_neg]
  rintro rfl
  exact apart rfl

theorem stored?_parseFile_of_folder_ne {w : Workspace} {uri : Uri} {key : String × String}
    (apart : uri.folder ≠ key.1) : (w.parseFile uri).2.stored? key = w.stored? key := by
  unfold parseFile
  split
  · exact stored?_put_of_folder_ne (by rwa [read_uri])
  · rfl

theorem Orderly.stored?_apply_of_folder_ne {w : Workspace} (orderly : Orderly w) {operation : Operation} {uri : Uri}
    (target : operation.uri? = some uri) {key : String × String} (apart : uri.folder ≠ key.1) :
    (operation.apply w).stored? key = w.stored? key := by
  have notKey : uri.key ≠ key := by
    rintro rfl
    exact apart rfl
  have sameFolder {file : SourceFile} (found : w.find? uri = some file) : file.uri.folder = uri.folder :=
    congrArg Prod.fst (orderly.find?_key found)
  cases operation with
  | upsert target' version text =>
    cases target
    rw [Operation.apply, orderly.stored?_upsert, if_neg notKey]
  | upsertAndParse target' version text =>
    cases target
    have taken := orderly.stored?_upsert uri version text key
    rw [if_neg notKey] at taken
    rw [Operation.apply, upsertAndParse]
    split
    · rename_i w' same
      rw [same] at taken
      rw [stored?_emit, stored?_parseFile_of_folder_ne apart, taken]
    · exact taken
  | parseFile target' =>
    cases target
    exact stored?_parseFile_of_folder_ne apart
  | install reader target' version text =>
    cases target
    rw [Operation.apply, stored?_install, read_uri, if_neg notKey]
  | remove target' =>
    cases target
    rw [Operation.apply, stored?_remove, if_neg notKey]
  | setStatus target' status =>
    cases target
    rw [Operation.apply, setStatus, adjust]
    split
    · rename_i file found
      exact stored?_put_of_folder_ne (by rwa [sameFolder found])
    · rfl
  | lookUp target' position =>
    cases target
    rw [Operation.apply]
    cases answer : Symbol.at? w uri position with
    | mk symbol w' =>
    cases symbol with
    | none => rw [Symbol.at?_none answer]
    | some symbol =>
      obtain ⟨_, _, _, domainFile, _, _, _, _, _, isDomainFile, _, _, _, rfl⟩ := Symbol.at?_some answer
      obtain ⟨domainUri, isBound, found⟩ := Option.bind_eq_some_iff.mp isDomainFile
      have inFolder : domainFile.uri.folder = uri.folder :=
        (congrArg Prod.fst (orderly.find?_key found)).trans (orderly.folder_of_domainBinding isBound)
      exact stored?_put_of_folder_ne (by rwa [inFolder])
  | outline target' =>
    cases target
    rw [Operation.apply, Outline.at?]
    split
    · rename_i file found
      have sameUri : (Outline.ofFile file).2.uri = file.uri := (congrArg SourceFile.uri (Outline.forget_ofFile file) :)
      exact stored?_put_of_folder_ne (by rwa [sameUri, sameFolder found])
    · rfl
  | reparseDirty | setReader | validate | takeEvents => cases target

theorem eq_of_forall₂_eq {files files' : List SourceFile} (same : List.Forall₂ Eq files files') : files' = files :=
  (List.forall₂_eq_eq_eq ▸ same : files = files').symm

theorem eq_of_rel_eq {α : Type} {before after : Option α} (same : Option.Rel Eq before after) : after = before := by
  cases same with
  | none => rfl
  | some same => rw [same]

theorem tear?_congr {w w' : Workspace} {uri : Uri} (sameFile : w'.find? uri = w.find? uri)
    (sameDomain : w'.domainFile? uri = w.domainFile? uri) : Symbol.tear? w' uri = Symbol.tear? w uri := by
  funext position
  unfold Symbol.tear?
  rw [sameFile, sameDomain]

/-- Everything that two workspaces say about an address is the same. -/
structure SaysAlike (w w' : Workspace) (uri : Uri) : Prop where
  file : w'.find? uri = w.find? uri
  domainBinding : w'.domainBinding uri = w.domainBinding uri
  problemBinding : w'.problemBinding uri = w.problemBinding uri
  problemFiles : w'.problemFiles uri = w.problemFiles uri
  planFiles : w'.planFiles uri = w.planFiles uri
  symbol : ∀ position, (Symbol.at? w' uri position).1 = (Symbol.at? w uri position).1
  tear : ∀ position, Symbol.tear? w' uri position = Symbol.tear? w uri position
  references : ∀ position declaration,
    Symbol.referencesAt w' uri position declaration = Symbol.referencesAt w uri position declaration
  diagnostics : ∀ limit, Diagnostic.collect w' uri limit = Diagnostic.collect w uri limit

theorem Orderly.saysAlike {w w' : Workspace} (orderly : Orderly w) (orderly' : Orderly w') {uri : Uri}
    (same : ∀ name, w'.stored? (uri.folder, name) = w.stored? (uri.folder, name)) : SaysAlike w w' uri := by
  have equal : w.RelatedIn Eq uri.folder w' := .of_eq (fun _ => rfl) same
  have kin : ∀ f f', f = f' → SourceFile.Kin f f' := by
    rintro f _ rfl
    exact .refl f
  have exactly := equal.imp (S := fun f f' => SameSymbols f f' ∧ (True → f'.domain? = f.domain?)) (by
    rintro f _ rfl
    exact ⟨.refl f, fun _ => rfl⟩)
  have symbols (position : Position) : (Symbol.at? w' uri position).1 = (Symbol.at? w uri position).1 := by
    have alike := Symbol.at?_alike orderly exactly position
    refine eq_of_rel_eq ?_
    generalize (Symbol.at? w uri position).1 = left, (Symbol.at? w' uri position).1 = right at alike
    cases alike with
    | none => exact .none
    | some alike => exact .some (alike.2 trivial).symm
  have sameFile : w'.find? uri = w.find? uri := same uri.text
  refine ⟨sameFile, (equal.imp kin).domainBinding, (equal.imp kin).problemBinding orderly, ?_, ?_, symbols, ?_, ?_, ?_⟩
  · exact eq_of_forall₂_eq (equal.problemFiles kin)
  · exact eq_of_forall₂_eq (equal.planFiles orderly kin)
  · exact congrFun (tear?_congr sameFile (eq_of_rel_eq (equal.domainFile? orderly kin)))
  · intro position declaration
    rw [Symbol.referencesAt_eq orderly, Symbol.referencesAt_eq orderly', symbols]
    cases found : (Symbol.at? w uri position).1 with
    | none => rfl
    | some symbol =>
      have inFolder := exactly.imp fun _ _ alike => alike.1
      rw [← Symbol.folder_of_at? orderly found] at inFolder
      rw [Option.map_some, Option.map_some, Symbol.references_sameSymbols orderly inFolder]
  · refine Diagnostic.collect_congr orderly (equal.imp ?_)
    rintro f _ rfl
    exact .refl f

/-- In any workspace that a run leads to, an operation on one file changes nothing that is said about an address in
another folder. -/
theorem folders_are_isolated (reader : FileReader) (operations : List Operation) {operation : Operation} {uri : Uri}
    (target : operation.uri? = some uri) {other : Uri} (apart : other.folder ≠ uri.folder) :
    SaysAlike (run { reader } operations) (operation.apply (run { reader } operations)) other := by
  have orderly := (Orderly.fresh reader).run operations
  refine orderly.saysAlike (orderly.apply operation) fun name => ?_
  exact orderly.stored?_apply_of_folder_ne target apart.symm

theorem folders_are_isolated_removal :
    let reader : FileReader := ⟨0, {}, fun _ => .error (.path .missing)⟩
    let uri (path : String) : Uri := { scheme := "file", authority := some {}, path }
    let operations : List Operation :=
      [.upsert (uri "/v/d.pddl") 1 "(define (domain rover))".toList,
       .upsert (uri "/w/d.pddl") 1 "(define (domain rover))".toList,
       .upsert (uri "/w/p.pddl") 1 "(define (problem p) (:domain rover))".toList]
    (Operation.remove (uri "/v/d.pddl")).uri? = some (uri "/v/d.pddl") ∧
      (uri "/w/p.pddl").folder ≠ (uri "/v/d.pddl").folder ∧
      (run { reader } operations).domainBinding (uri "/w/p.pddl") = .unique (uri "/w/d.pddl") ∧
      SaysAlike (run { reader } operations)
        ((Operation.remove (uri "/v/d.pddl")).apply (run { reader } operations)) (uri "/w/p.pddl") := by
  intro reader uri operations
  have apart : (uri "/w/p.pddl").folder ≠ (uri "/v/d.pddl").folder := by decide +kernel
  exact ⟨rfl, apart, by decide +kernel, folders_are_isolated reader operations rfl apart⟩

end PddlAssist.Workspace
