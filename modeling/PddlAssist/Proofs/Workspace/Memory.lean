import Mathlib.Logic.Relation
import PddlAssist.Proofs.Reading.Layout
import PddlAssist.Proofs.Workspace.Storage
import PddlAssist.Symbol.Outline

namespace PddlAssist

open Text

def Variable.forget (v : Variable) : Variable := { v with location := none }

/-- The domain before anyone asked where something is declared. -/
def Domain.forget (d : Domain) : Domain :=
  { d with
    predicates := d.predicates.map Variable.forget
    functions := d.functions.map Variable.forget
    derived := d.derived.map Variable.forget
    typeLocations := [] }

def FileKind.forget : FileKind → FileKind
  | domain d => domain d.forget
  | other => other

def SourceFile.forget (f : SourceFile) : SourceFile := { f with kind := f.kind.forget }

theorem SourceFile.kind_of_domain? {f : SourceFile} {d : Domain} (isDomain : f.domain? = some d) :
    f.kind = .domain d := by
  simp only [domain?] at isDomain
  cases isKind : f.kind with
  | domain => simpa [isKind] using isDomain
  | problem | plan | happenings | unknown => simp [isKind] at isDomain

namespace Domain

theorem allVariables_forget (d : Domain) : d.forget.allVariables = d.allVariables.map Variable.forget := by
  simp only [allVariables, forget, List.map_append]

theorem forget_modifyVariable {f : Variable → Variable} (same : ∀ v, (f v).forget = v.forget) (n : Nat)
    (vs : List Variable) :
    (modifyVariable f n vs).map Variable.forget = vs.map Variable.forget := by
  fun_induction modifyVariable f n vs with
  | case1 => rfl
  | case2 v rest => simp [same]
  | case3 n v rest ih => simp [ih]

theorem forget_modify {f : Variable → Variable} (same : ∀ v, (f v).forget = v.forget) (d : Domain)
    (n : Nat) : (d.modify n f).forget = d.forget := by
  simp only [modify, forget, forget_modifyVariable same, apply_ite (List.map Variable.forget), ite_self]

theorem forget_locate (d : Domain) (n : Nat) (document : Document) :
    (d.locate n document).2.forget = d.forget := by
  simp only [locate]
  split
  · rfl
  · split
    · rfl
    · exact forget_modify (fun v => by rfl) d n

theorem forget_locateType (d : Domain) (name : String) (document : Document) :
    (d.locateType name document).2.forget = d.forget := by
  simp only [locateType]
  split <;> rfl

theorem forget_ofTree? {document : Document} {tree : Tree} {d : Domain} {issues : List Issue}
    (read : ofTree? document tree = some (d, issues)) : d.forget = d := by
  have alike := (bare_similarity tree tree).domain rfl document document
  rw [read] at alike
  cases alike with
  | some alike =>
    have new {vs : List Variable} (same : List.Forall₂ (Variable.Alike id fun _ _ => True) vs vs) :
        vs.map Variable.forget = vs := by
      rw [List.forall₂_same] at same
      have each : ∀ v ∈ vs, v.forget = id v := by
        intro v member
        simp only [Variable.forget, ← (same v member).location.1, id]
      rw [List.map_congr_left each, List.map_id]
    simp only [forget, new alike.1.predicates, new alike.1.functions, new alike.1.derived,
      ← alike.1.typeLocations.1]

end Domain

namespace SourceFile

inductive Asked : SourceFile → SourceFile → Prop where
  | locate {file : SourceFile} {d : Domain} (isDomain : file.domain? = some d) (n : Nat) :
      Asked file { file with kind := .domain (d.locate n file.document).2 }
  | locateType {file : SourceFile} {d : Domain} (isDomain : file.domain? = some d) (name : String) :
      Asked file { file with kind := .domain (d.locateType name file.document).2 }

theorem Asked.forget {file file' : SourceFile} (asked : Asked file file') : file'.forget = file.forget := by
  cases asked with
  | locate isDomain =>
    simp only [SourceFile.forget, kind_of_domain? isDomain, FileKind.forget, Domain.forget_locate]
  | locateType isDomain =>
    simp only [SourceFile.forget, kind_of_domain? isDomain, FileKind.forget, Domain.forget_locateType]

theorem forget_of_asked {file file' : SourceFile} (asked : Relation.ReflTransGen Asked file file') :
    file'.forget = file.forget := by
  induction asked with
  | refl => rfl
  | tail _ last ih => exact last.forget.trans ih

end SourceFile

namespace Symbol

theorem forget_resolve (file : SourceFile) (d : Domain) (range : Range) (meaning : Meaning) :
    (resolve file d range meaning).2.forget = d.forget := by
  rcases meaning with ⟨n, var⟩ | name | action
  · exact d.forget_locate n file.document
  · exact d.forget_locateType name file.document
  · rfl

theorem asked_resolve {file : SourceFile} {d : Domain} (isDomain : file.domain? = some d) (range : Range)
    (meaning : Meaning) :
    Relation.ReflTransGen SourceFile.Asked file { file with kind := .domain (resolve file d range meaning).2 } := by
  rcases meaning with ⟨n, var⟩ | name | action
  · exact .single (.locate isDomain n)
  · exact .single (.locateType isDomain name)
  · show Relation.ReflTransGen SourceFile.Asked file { file with kind := .domain d }
    rw [← SourceFile.kind_of_domain? isDomain]

theorem at?_some {w w' : Workspace} {uri : Uri} {position : Position} {symbol : Symbol}
    (found : at? w uri position = (some symbol, w')) :
    ∃ file offset span domainFile d meaning, w.find? uri = some file ∧
      file.document.offset? position = some offset ∧ wordAt? file.document.chars offset = some span ∧
      w.domainFile? uri = some domainFile ∧ domainFile.domain? = some d ∧
      meaning? file d span = some meaning ∧
      symbol = (resolve domainFile d (file.document.rangeOf span) meaning).1 ∧
      w' = w.put { domainFile with
        kind := .domain (resolve domainFile d (file.document.rangeOf span) meaning).2 } := by
  simp only [at?] at found
  split at found
  case h_2 => cases found
  case h_1 answer =>
    cases found
    simp only [Option.bind_eq_bind, Option.bind_eq_some_iff] at answer
    obtain ⟨file, known, offset, isOffset, answer⟩ := answer
    split at answer
    · cases answer
    · simp only [Option.bind_eq_some_iff] at answer
      obtain ⟨span, isSpan, domainFile, isDomainFile, d, isDomain, meaning, isMeaning, answer⟩ := answer
      cases answer
      exact ⟨file, offset, span, domainFile, d, meaning, known, isOffset, isSpan, isDomainFile, isDomain,
        isMeaning, rfl, rfl⟩

theorem at?_none {w w' : Workspace} {uri : Uri} {position : Position}
    (missing : at? w uri position = (none, w')) : w' = w := by
  simp only [at?] at missing
  split at missing
  · cases missing
  · cases missing
    rfl

theorem at?_asked (w : Workspace) (uri : Uri) (position : Position) :
    (at? w uri position).2 = w ∨
      ∃ key file file', w.stored? key = some file ∧ Relation.ReflTransGen SourceFile.Asked file file' ∧
        (at? w uri position).2 = w.put file' := by
  cases answer : at? w uri position with
  | mk symbol w' =>
  cases symbol with
  | none => exact .inl (at?_none answer)
  | some symbol =>
    obtain ⟨file, _, span, domainFile, d, meaning, _, _, _, isDomainFile, isDomain, _, _, same⟩ :=
      at?_some answer
    simp only [Workspace.domainFile?, Option.bind_eq_some_iff] at isDomainFile
    obtain ⟨domainUri, _, stored⟩ := isDomainFile
    exact .inr ⟨domainUri.key, domainFile, _, stored, asked_resolve isDomain _ meaning, same⟩

theorem at?_cases (w : Workspace) (uri : Uri) (position : Position) :
    (at? w uri position).2 = w ∨
      ∃ key file file', w.stored? key = some file ∧ file'.forget = file.forget ∧
        (at? w uri position).2 = w.put file' :=
  (at?_asked w uri position).imp_right fun ⟨key, file, file', stored, asked, same⟩ =>
    ⟨key, file, file', stored, SourceFile.forget_of_asked asked, same⟩

end Symbol

namespace Outline

theorem asked_typeItems (file : SourceFile) (names : List String) (d : Domain) :
    Relation.ReflTransGen SourceFile.Asked { file with kind := .domain d }
      { file with kind := .domain (typeItems file.document d names).2 } := by
  induction names generalizing d with
  | nil => exact .refl
  | cons name rest ih => exact .head (.locateType rfl name) (ih _)

theorem asked_variableItems (file : SourceFile) (vs : List Variable) (d : Domain) (n : Nat) :
    Relation.ReflTransGen SourceFile.Asked { file with kind := .domain d }
      { file with kind := .domain (variableItems file.document d n vs).2 } := by
  induction vs generalizing d n with
  | nil => exact .refl
  | cons v rest ih => exact .head (.locate rfl n) (ih _ _)

theorem asked_ofFile (file : SourceFile) : Relation.ReflTransGen SourceFile.Asked file (ofFile file).2 := by
  simp only [ofFile]
  split
  · rename_i d isDomain
    have types := asked_typeItems file d.types d
    rw [← isDomain] at types
    exact types.trans (asked_variableItems file _ _ 0)
  · exact .refl
  · exact .refl

theorem forget_ofFile (file : SourceFile) : (ofFile file).2.forget = file.forget :=
  SourceFile.forget_of_asked (asked_ofFile file)

end Outline
end PddlAssist
