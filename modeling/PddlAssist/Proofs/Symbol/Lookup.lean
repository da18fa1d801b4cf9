import PddlAssist.Proofs.Symbol.References

namespace PddlAssist

open Text

namespace Symbol

def unplaced (symbol : Symbol) : Symbol := { symbol with location := none }

def Meaning.forget : Meaning → Meaning
  | .variable n var => .variable n var.forget
  | other => other

theorem meaning?_forget (file : SourceFile) (d : Domain) (span : Span) :
    meaning? file d.forget span = (meaning? file d span).map Meaning.forget := by
  have asVariable (word : String) :
      ((d.forget.allVariables.findIdx? (sameName ·.name word)).bind fun n =>
          (d.forget.allVariables[n]?).map (Meaning.variable n)) =
        ((d.allVariables.findIdx? (sameName ·.name word)).bind fun n =>
          (d.allVariables[n]?).map (Meaning.variable n)).map Meaning.forget := by
    have sameNames : (fun v : Variable => sameName v.name word) ∘ Variable.forget = fun v => sameName v.name word := rfl
    rw [d.allVariables_forget, List.findIdx?_map, sameNames, Option.map_bind]
    congr 1
    funext n
    rw [List.getElem?_map, Function.comp_apply, Option.map_map, Option.map_map]
    rfl
  have asAction (word : String) : (d.forget.findAction? word).map Meaning.action =
      ((d.findAction? word).map Meaning.action).map Meaning.forget := by
    rw [Option.map_map]
    rfl
  unfold meaning?
  have guarded (condition : Bool) (meaning : Option Meaning) :
      (if condition = true then meaning.map Meaning.forget else none) =
        (if condition = true then meaning else none).map Meaning.forget := by
    cases condition <;> rfl
  have hasType : d.forget.hasType = d.hasType := rfl
  have inTypes : inTypesSection d.forget = inTypesSection d := rfl
  have types : d.forget.types = d.types := rfl
  simp only [asVariable, asAction, guarded, ← Option.map_or, hasType, inTypes, types]
  generalize Option.or _ _ = first
  cases first with
  | some found => rfl
  | none =>
    simp only [Option.map_none]
    split
    · rfl
    · split <;> rfl

theorem unplaced_resolve (domainFile : SourceFile) (d : Domain) (range : Range) (meaning : Meaning) :
    (resolve domainFile.forget d.forget range meaning.forget).1.unplaced =
      (resolve domainFile d range meaning).1.unplaced := by
  cases meaning <;> rfl

def wordIn? (document : Document) (position : Position) : Option Span :=
  (document.offset? position).bind fun offset =>
    if isCommented document.chars offset then none else wordAt? document.chars offset

def symbolIn? (position : Position) (file domainFile : SourceFile) : Option Symbol :=
  (wordIn? file.document position).bind fun span =>
    domainFile.domain?.bind fun d =>
      (meaning? file d span).map fun meaning => (resolve domainFile d (file.document.rangeOf span) meaning).1

theorem at?_fst (w : Workspace) (uri : Uri) (position : Position) :
    (at? w uri position).1 =
      (w.find? uri).bind fun file => (w.domainFile? uri).bind (symbolIn? position file) := by
  unfold at? symbolIn? wordIn?
  cases w.find? uri with
  | none => rfl
  | some file =>
  cases isOffset : file.document.offset? position with
  | none => cases w.domainFile? uri <;> simp [isOffset]
  | some offset =>
  by_cases commented : isCommented file.document.chars offset = true
  · cases w.domainFile? uri <;> simp [isOffset, commented]
  · cases isWord : wordAt? file.document.chars offset with
    | none => cases w.domainFile? uri <;> simp [isOffset, commented, isWord]
    | some span =>
    cases w.domainFile? uri with
    | none => simp
    | some domainFile =>
    cases isDomain : domainFile.domain? with
    | none => simp [isDomain]
    | some d => cases isMeaning : meaning? file d span <;> simp [isOffset, commented, isWord, isDomain, isMeaning]

theorem unplaced_symbolIn? (position : Position) (file domainFile : SourceFile) :
    (symbolIn? position file domainFile.forget).map unplaced = (symbolIn? position file domainFile).map unplaced := by
  unfold symbolIn?
  rw [SourceFile.domain?_forget]
  cases wordIn? file.document position with
  | none => rfl
  | some span =>
  cases domainFile.domain? with
  | none => rfl
  | some d =>
    simp only [Option.map_some, Option.bind_some, meaning?_forget, Option.map_map]
    congr 1
    funext meaning
    exact unplaced_resolve domainFile d _ meaning

end Symbol

namespace SourceFile.SameSymbols

variable {f f' : SourceFile}

theorem listsActions (same : SameSymbols f f') : Symbol.listsActions f' = Symbol.listsActions f := by
  have kind := same.kind
  unfold Symbol.listsActions
  generalize f.kind = left, f'.kind = right at kind
  cases kind <;> rfl

theorem meaning? (same : SameSymbols f f') (d : Domain) (span : Span) :
    Symbol.meaning? f' d span = Symbol.meaning? f d span := by
  unfold Symbol.meaning?
  rw [same.document, same.listsActions, same.namesVariable, same.insideEither, same.kin.isDomain]

variable {domainFile domainFile' : SourceFile}

theorem symbolIn? (same : SameSymbols f f') (sameUri : domainFile'.uri = domainFile.uri)
    (sameDocument : domainFile'.document = domainFile.document)
    (sameDomain : domainFile'.domain? = domainFile.domain?) (position : Position) :
    Symbol.symbolIn? position f' domainFile' = Symbol.symbolIn? position f domainFile := by
  have resolves : Symbol.resolve domainFile' = Symbol.resolve domainFile := by
    funext d range meaning
    unfold Symbol.resolve
    rw [sameUri, sameDocument]
  unfold Symbol.symbolIn?
  simp only [same.document, sameDomain, same.meaning?, resolves]

theorem unplaced_symbolIn? (same : SameSymbols f f') (sameDomain : SameSymbols domainFile domainFile')
    (position : Position) : (Symbol.symbolIn? position f' domainFile').map Symbol.unplaced =
      (Symbol.symbolIn? position f domainFile).map Symbol.unplaced := by
  have sameUri : domainFile'.forget.uri = domainFile.forget.uri := sameDomain.uri
  have sameDocument : domainFile'.forget.document = domainFile.forget.document := sameDomain.document
  have forgotten : domainFile'.forget.domain? = domainFile.forget.domain? := by
    rw [domain?_forget, domain?_forget, sameDomain.domain]
  rw [← Symbol.unplaced_symbolIn?, same.symbolIn? sameUri sameDocument forgotten, Symbol.unplaced_symbolIn?]

end SourceFile.SameSymbols

namespace Symbol

open Workspace

variable {w w' : Workspace} {uri : Uri}

/-- The references of the symbol at a position. -/
def referencesAt (w : Workspace) (uri : Uri) (position : Position) (declaration : Bool) : Option (List Location) :=
  (at? w uri position).1.map (references (at? w uri position).2 · declaration)

theorem at?_sameSymbols (orderly : w.Orderly) (uri : Uri) (position : Position) (folder : String) :
    w.RelatedIn SourceFile.SameSymbols folder (at? w uri position).2 :=
  ((at?_sameText orderly uri position).inFolder folder).imp fun _ _ same => same.sameSymbols

theorem referencesAt_eq (orderly : w.Orderly) (position : Position) (declaration : Bool) :
    referencesAt w uri position declaration = (at? w uri position).1.map (references w · declaration) := by
  unfold referencesAt
  congr 1
  funext symbol
  exact references_sameSymbols orderly (at?_sameSymbols orderly uri position _) declaration

theorem rename_eq (orderly : w.Orderly) (position : Position) (newName : String) :
    (rename w uri position newName).1 =
      if isValidName newName then
        ((at? w uri position).1.filter (·.kind.isRenameable)).map fun symbol =>
          editsFor (references w symbol true) newName
      else none := by
  unfold rename
  split
  · simp only
    congr 1
    funext symbol
    rw [references_sameSymbols orderly (at?_sameSymbols orderly uri position _)]
  · rfl

theorem folder_of_at? (orderly : w.Orderly) {position : Position} {symbol : Symbol}
    (found : (at? w uri position).1 = some symbol) : symbol.domainUri.folder = uri.folder := by
  have isFound : at? w uri position = (some symbol, (at? w uri position).2) := Prod.ext found rfl
  obtain ⟨file, _, span, domainFile, d, meaning, _, _, _, isDomainFile, _, _, rfl, _⟩ := at?_some isFound
  obtain ⟨domainUri, isBound, stored⟩ := Option.bind_eq_some_iff.mp isDomainFile
  have sameUri : (resolve domainFile d (file.document.rangeOf span) meaning).1.domainUri = domainFile.uri := by
    cases meaning <;> rfl
  rw [sameUri, ← orderly.folder_of_domainBinding isBound]
  exact congrArg Prod.fst (orderly.find?_key stored)

theorem at?_alike {exact : Prop} (orderly : w.Orderly)
    (related : w.RelatedIn (fun f f' => SourceFile.SameSymbols f f' ∧ (exact → f'.domain? = f.domain?)) uri.folder w')
    (position : Position) : Option.Rel (fun s s' => s'.unplaced = s.unplaced ∧ (exact → s' = s))
      (at? w uri position).1 (at? w' uri position).1 := by
  have files := related.find?
  have domainFiles := related.domainFile? orderly fun _ _ same => same.1.kin
  rw [at?_fst, at?_fst]
  generalize w.find? uri = file, w'.find? uri = file' at files
  generalize w.domainFile? uri = domainFile, w'.domainFile? uri = domainFile' at domainFiles
  cases files with
  | none => exact .none
  | @some f f' same =>
  cases domainFiles with
  | none => exact .none
  | @some domainFile domainFile' sameDomain =>
  have unplaced := same.1.unplaced_symbolIn? sameDomain.1 position
  have exactly (memory : exact) :=
    same.1.symbolIn? sameDomain.1.uri sameDomain.1.document (sameDomain.2 memory) position
  simp only [Option.bind_some]
  generalize symbolIn? position f domainFile = left, symbolIn? position f' domainFile' = right at unplaced exactly
  clear same sameDomain
  cases left with
  | none =>
    rw [Option.map_none, Option.map_eq_none_iff] at unplaced
    rw [unplaced]
    exact .none
  | some s =>
    obtain ⟨s', rfl, same⟩ := Option.map_eq_some_iff.mp unplaced
    exact .some ⟨same, fun memory => Option.some.inj (exactly memory)⟩

theorem references_of_unplaced {symbol symbol' : Symbol} (same : symbol'.unplaced = symbol.unplaced) (w : Workspace) :
    references w symbol' true = references w symbol true := by
  show references w symbol'.unplaced true = references w symbol.unplaced true
  rw [same]

end Symbol
end PddlAssist
