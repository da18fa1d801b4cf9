import PddlAssist.Proofs.Symbol.Places
import PddlAssist.Proofs.Workspace.Kinship
import PddlAssist.Proofs.Workspace.Run

namespace PddlAssist

open Text

namespace Workspace

theorem isDomain_of_find? {w : Workspace} {domainUri : Uri} {domainFile : SourceFile} {d : Domain}
    (found : w.find? domainUri = some domainFile) (isDomain : domainFile.domain? = some d) :
    ∀ file, w.find? domainUri = some file → file.isDomain = true := by
  intro file isFile
  rw [found] at isFile
  cases isFile
  rw [SourceFile.isDomain, isDomain, Option.isSome_some]

theorem bound_of_mem_family {w : Workspace} {domainUri : Uri}
    (isDomain : ∀ file, w.find? domainUri = some file → file.isDomain = true) {file : SourceFile}
    (member : file ∈ w.family domainUri) : file.isDomain = true ∨ file.isProblem = true := by
  rcases List.mem_append.mp member with found | isProblem
  · exact .inl (isDomain file (Option.mem_toList.mp found))
  · exact .inr (mem_problemFiles isProblem).2

theorem problemFiles_sublist (w : Workspace) (domainUri : Uri) :
    (w.problemFiles domainUri).Sublist (w.siblings domainUri) := by
  unfold problemFiles
  split
  · exact List.filter_sublist
  · exact List.nil_sublist _

namespace Orderly

variable {w : Workspace} {domainUri : Uri}

theorem find?_of_mem_family (orderly : Orderly w) {file : SourceFile} (member : file ∈ w.family domainUri) :
    w.find? file.uri = some file := by
  rcases List.mem_append.mp member with found | isProblem
  · exact orderly.find?_uri (Option.mem_toList.mp found)
  · exact orderly.find?_of_mem_siblings (mem_problemFiles isProblem).1

theorem family_apart (orderly : Orderly w)
    (isDomain : ∀ file, w.find? domainUri = some file → file.isDomain = true) :
    (w.family domainUri).Pairwise fun f g => f.uri.key ≠ g.uri.key := by
  have problems : (w.problemFiles domainUri).Pairwise fun f g => f.uri.key ≠ g.uri.key :=
    (orderly.filesIn_apart domainUri.folder).sublist (problemFiles_sublist w domainUri)
  cases found : w.find? domainUri with
  | none =>
    rw [family, found]
    exact problems
  | some domainFile =>
    rw [family, found]
    refine .cons ?_ problems
    intro file member same
    obtain ⟨isSibling, isProblem⟩ := mem_problemFiles member
    have isFile := orderly.find?_of_mem_siblings isSibling
    rw [find?_eq_stored?, ← same, ← find?_eq_stored?, orderly.find?_uri found] at isFile
    cases isFile
    have isDomain := isDomain domainFile found
    simp only [SourceFile.isDomain, SourceFile.domain?, SourceFile.isProblem, SourceFile.problem?] at isDomain isProblem
    cases kind : domainFile.kind <;> simp [kind] at isDomain isProblem

end Orderly
end Workspace

theorem FileKind.forget_cases {kind kind' : FileKind} (same : kind'.forget = kind.forget) :
    kind' = kind ∨ ∃ d d', kind = .domain d ∧ kind' = .domain d' ∧ d'.forget = d.forget := by
  cases kind <;> cases kind' <;> simp_all [forget]

namespace SourceFile

/-- Files that differ in what they remember. -/
def SameText (f f' : SourceFile) : Prop := f'.forget = f.forget

namespace SameText

theorem refl (f : SourceFile) : SameText f f := rfl

variable {f f' : SourceFile}

theorem uri (same : SameText f f') : f'.uri = f.uri := (congrArg SourceFile.uri same :)

theorem document (same : SameText f f') : f'.document = f.document := (congrArg SourceFile.document same :)

theorem tree (same : SameText f f') : f'.tree = f.tree := (congrArg SourceFile.tree same :)

theorem version (same : SameText f f') : f'.version = f.version := (congrArg SourceFile.version same :)

theorem kin (same : SameText f f') : Kin f f' := by
  have kinds : f'.kind.forget = f.kind.forget := congrArg SourceFile.kind same
  refine ⟨same.uri, ?_⟩
  rcases FileKind.forget_cases kinds with equal | ⟨d, d', isDomain, isDomain', same⟩
  · rw [equal]
    exact .refl f.kind
  · rw [isDomain, isDomain']
    exact .domain (congrArg Domain.name same :)

end SameText

theorem domain?_forget (f : SourceFile) : f.forget.domain? = f.domain?.map Domain.forget := by
  simp only [domain?, forget]
  cases f.kind <;> rfl

/-- Two readings of one text in which every word stands for the same symbol. -/
structure SameSymbols (f f' : SourceFile) : Prop where
  uri : f'.uri = f.uri
  document : f'.document = f.document
  root : f'.tree.root = f.tree.root
  kind : FileKind.Kin f.kind f'.kind
  domain : f'.domain?.map Domain.forget = f.domain?.map Domain.forget

theorem SameText.sameSymbols {f f' : SourceFile} (same : SameText f f') : SameSymbols f f' where
  uri := same.uri
  document := same.document
  root := by rw [same.tree]
  kind := same.kin.kind
  domain := by rw [← domain?_forget, ← domain?_forget, show f'.forget = f.forget from same]

namespace SameSymbols

variable {f f' : SourceFile}

theorem refl (f : SourceFile) : SameSymbols f f := ⟨rfl, rfl, rfl, .refl f.kind, rfl⟩

theorem kin (same : SameSymbols f f') : Kin f f' := ⟨same.uri, same.kind⟩

theorem breadcrumbs (same : SameSymbols f f') : f'.tree.breadcrumbs = f.tree.breadcrumbs := by
  funext offset
  rw [Tree.breadcrumbs, Tree.breadcrumbs, same.root]

theorem namesVariable (same : SameSymbols f f') : Symbol.namesVariable f' = Symbol.namesVariable f := by
  funext offset
  rw [Symbol.namesVariable, Symbol.namesVariable, Tree.bracketNamedAt?, Tree.bracketNamedAt?, same.breadcrumbs]

theorem insideEither (same : SameSymbols f f') : Symbol.insideEither f' = Symbol.insideEither f := by
  funext offset
  rw [Symbol.insideEither, Symbol.insideEither, same.breadcrumbs]

theorem placesIn (same : SameSymbols f f') {d d' : Domain} (sameDomain : d'.forget = d.forget) (symbol : Symbol) :
    Symbol.placesIn symbol d' f' = Symbol.placesIn symbol d f := by
  have sections : d'.sections = d.sections := (congrArg Domain.sections sameDomain :)
  have actions : d'.actions = d.actions := (congrArg Domain.actions sameDomain :)
  have findAction : d'.findAction? = d.findAction? := by
    funext name
    rw [Domain.findAction?, Domain.findAction?, actions]
  have inTypes : Symbol.inTypesSection d' = Symbol.inTypesSection d := by
    funext offset
    rw [Symbol.inTypesSection, Symbol.inTypesSection, sections]
  have kind := same.kind
  unfold Symbol.placesIn
  rw [same.document, same.namesVariable, same.insideEither, findAction, inTypes]
  generalize f.kind = left, f'.kind = right at kind
  cases kind <;> cases symbol.kind <;> rfl

end SameSymbols
end SourceFile

namespace Symbol

theorem meaning?_variable {file : SourceFile} {d : Domain} {span : Span} {n : Nat} {var : Variable}
    (isMeaning : meaning? file d span = some (.variable n var)) : d.allVariables[n]? = some var := by
  have action {name : String} : (d.findAction? name).map Meaning.action ≠ some (.variable n var) := by
    cases d.findAction? name <;> simp
  simp only [meaning?] at isMeaning
  split at isMeaning
  case h_1 found isFound =>
    cases isMeaning
    rcases Option.or_eq_some_iff.mp isFound with isStep | ⟨_, isVariable⟩
    · split at isStep
      · exact absurd isStep action
      · cases isStep
    · split at isVariable
      · obtain ⟨index, _, isIndex⟩ := Option.bind_eq_some_iff.mp isVariable
        obtain ⟨found, isFound, same⟩ := Option.map_eq_some_iff.mp isIndex
        cases same
        exact isFound
      · cases isVariable
  case h_2 =>
    split at isMeaning
    · exact absurd isMeaning action
    · split at isMeaning
      · cases isMeaning
      · cases isMeaning

theorem at?_sameText {w : Workspace} (orderly : w.Orderly) (uri : Uri) (position : Position) :
    w.Related SourceFile.SameText (at? w uri position).2 := by
  rcases at?_cases w uri position with same | ⟨key, file, file', stored, same, isPut⟩
  · rw [same]
    exact .refl SourceFile.SameText.refl w
  · have alike : SourceFile.SameText file file' := same
    rw [isPut]
    refine .put SourceFile.SameText.refl ?_ alike
    rw [alike.uri]
    exact orderly.find?_of_stored? stored

theorem at?_variable {w w' : Workspace} (orderly : w.Orderly) {uri : Uri} {position : Position} {symbol : Symbol}
    {kind : VariableKind} (found : at? w uri position = (some symbol, w'))
    (isVariable : symbol.kind = .variable kind) :
    ∃ domainFile d var, w.find? symbol.domainUri = some domainFile ∧ domainFile.domain? = some d ∧
      var ∈ d.allVariables ∧ symbol.name = var.name ∧ w.Related SourceFile.SameText w' := by
  have related := at?_sameText orderly uri position
  rw [found] at related
  obtain ⟨file, _, span, domainFile, d, meaning, _, _, _, isDomainFile, isDomain, isMeaning, rfl, _⟩ := at?_some found
  obtain ⟨domainUri, _, stored⟩ := Option.bind_eq_some_iff.mp isDomainFile
  rcases meaning with ⟨n, var⟩ | name | action
  · have declared := meaning?_variable isMeaning
    exact ⟨domainFile, d, var, orderly.find?_uri stored, isDomain, List.mem_of_getElem? declared, rfl, related⟩
  · cases isVariable
  · cases isVariable

section

variable {symbol : Symbol} {kind : VariableKind}

theorem placesIn_variable (isVariable : symbol.kind = .variable kind) (d : Domain) {file : SourceFile}
    (bound : file.isDomain = true ∨ file.isProblem = true) :
    placesIn symbol d file = placesWhere file.document symbol.name (namesVariable file) := by
  simp only [SourceFile.isDomain, SourceFile.domain?, SourceFile.isProblem, SourceFile.problem?] at bound
  simp only [placesIn, isVariable]
  cases isKind : file.kind with
  | domain | problem => rfl
  | plan | happenings | unknown => simp [isKind] at bound

theorem references_variable {w : Workspace} (isVariable : symbol.kind = .variable kind) {domainFile : SourceFile}
    {d : Domain} (found : w.find? symbol.domainUri = some domainFile) (isDomain : domainFile.domain? = some d) :
    references w symbol true = (w.family symbol.domainUri).flatMap fun file =>
      (placesWhere file.document symbol.name (namesVariable file)).map (Location.mk file.uri) := by
  have members : relatedFiles w symbol domainFile = w.family symbol.domainUri := by
    simp [relatedFiles, isVariable, Workspace.family, found]
  simp only [references, found, isDomain, if_true, members]
  have isDomainFile := Workspace.isDomain_of_find? found isDomain
  refine List.flatMap_congr fun file member => ?_
  rw [placesIn_variable isVariable d (Workspace.bound_of_mem_family isDomainFile member)]

end

theorem flatMap_locations {files files' : List SourceFile} {places places' : SourceFile → List Range}
    (alike : List.Forall₂ (fun f f' => f'.uri = f.uri ∧ places' f' = places f) files files') :
    (files'.flatMap fun f => (places' f).map (Location.mk f.uri)) =
      files.flatMap fun f => (places f).map (Location.mk f.uri) := by
  induction alike with
  | nil => rfl
  | cons first _ ih => rw [List.flatMap_cons, List.flatMap_cons, ih, first.1, first.2]

theorem relatedFiles_rel {R : SourceFile → SourceFile → Prop} {w w' : Workspace} (orderly : w.Orderly)
    {symbol : Symbol} (related : w.RelatedIn R symbol.domainUri.folder w') (kin : ∀ f f', R f f' → SourceFile.Kin f f')
    {domainFile domainFile' : SourceFile} (same : R domainFile domainFile') :
    List.Forall₂ R (relatedFiles w symbol domainFile) (relatedFiles w' symbol domainFile') := by
  unfold relatedFiles
  refine List.rel_append (.cons same (related.problemFiles kin)) ?_
  split
  · exact related.planFiles orderly kin
  · exact .nil

/-- The references of a symbol depend on what the words stand for in the files of its folder, and on nothing
else. -/
theorem references_sameSymbols {w w' : Workspace} (orderly : w.Orderly) {symbol : Symbol}
    (related : w.RelatedIn SourceFile.SameSymbols symbol.domainUri.folder w') (declaration : Bool) :
    references w' symbol declaration = references w symbol declaration := by
  have found := related.find?
  unfold references
  generalize isFound : w.find? symbol.domainUri = file, isFound' : w'.find? symbol.domainUri = file' at found
  cases found with
  | none => rfl
  | @some domainFile domainFile' same =>
  have files := relatedFiles_rel orderly related (fun _ _ same => same.kin) same
  have domains := same.domain
  simp only
  cases isDomain : domainFile.domain? with
  | none =>
    rw [isDomain, Option.map_none, Option.map_eq_none_iff] at domains
    rw [domains]
  | some d =>
    rw [isDomain, Option.map_some, Option.map_eq_some_iff] at domains
    obtain ⟨d', isDomain', sameDomain⟩ := domains
    have all := flatMap_locations (files.imp fun _ _ same => And.intro same.uri (same.placesIn sameDomain symbol))
    rw [isDomain']
    simp only [all]

/-- In any reachable workspace, the references of a variable whose domain and problems were read are the words
that name the brackets which apply it, and nothing else: those of the domain first, then those of the problems
in the order of their addresses, and in each file in text order. Only the words of these files must not go on
after the name with a character that identifiers do not have. -/
theorem references_are_applications {w : Workspace} (reachable : w.Reachable) {symbol : Symbol} {kind : VariableKind}
    (isVariable : symbol.kind = .variable kind) {domainFile : SourceFile}
    (found : w.find? symbol.domainUri = some domainFile) (isDomain : domainFile.isDomain = true)
    (identifier : ∀ c ∈ symbol.name.toList, isIdentifierChar c = true)
    (read : ∀ file ∈ domainFile :: w.problemFiles symbol.domainUri, file.status ≠ .dirty)
    (unextended : ∀ file ∈ domainFile :: w.problemFiles symbol.domainUri,
      Unextended symbol.name file.document.chars) :
    references w symbol true =
        ((domainFile :: w.problemFiles symbol.domainUri).flatMap fun file =>
          (applicationTokens file.tree symbol.name).map fun t => ⟨file.uri, file.document.rangeOf t.span⟩) ∧
      (w.problemFiles symbol.domainUri).Pairwise (fun f g => f.uri.text < g.uri.text) ∧
      ∀ file ∈ domainFile :: w.problemFiles symbol.domainUri,
        (applicationTokens file.tree symbol.name).Pairwise fun left right => left.start < right.start := by
  have keeps := reachable.keeps Workspace.lasting_isReading
  have family : w.family symbol.domainUri = domainFile :: w.problemFiles symbol.domainUri := by
    rw [Workspace.family, found]
    rfl
  have isTree : ∀ file ∈ domainFile :: w.problemFiles symbol.domainUri,
      file.tree = Tree.build file.document.chars := by
    intro file member
    rw [← family] at member
    exact (keeps.find? (keeps.find?_of_mem_family member) (read file (family ▸ member))).tree
  obtain ⟨d, isDomain⟩ := Option.isSome_iff_exists.mp isDomain
  refine ⟨?_, ?_, ?_⟩
  · rw [references_variable isVariable found isDomain, family]
    refine List.flatMap_congr fun file member => ?_
    rw [placesWhere_applications identifier (isTree file member) (unextended file member), List.map_map]
    rfl
  · exact (keeps.filesIn_sorted symbol.domainUri.folder).sublist (Workspace.problemFiles_sublist w symbol.domainUri)
  · intro file member
    rw [isTree file member]
    exact applicationTokens_sorted _ _

theorem references_are_applications_at :
    let reader : FileReader := ⟨0, {}, fun _ => .error (.path .missing)⟩
    let domainUri : Uri := { scheme := "file", authority := some {}, path := "/w/d.pddl" }
    let problemUri : Uri := { scheme := "file", authority := some {}, path := "/w/p.pddl" }
    let w := Workspace.run { reader }
      [.upsert domainUri 1
         "(define (domain d) ; (at)\n(:predicates (at ?x)) (:derived (p ?x) (at start (AT ?x))))".toList,
       .upsert problemUri 1 "(define (problem p) (:domain d) (:init (at a) (at 5 (at b))))".toList]
    ∃ symbol domainFile, (at? w problemUri ⟨0, 40⟩).1 = some symbol ∧ symbol.name = "at" ∧
      w.find? symbol.domainUri = some domainFile ∧
      (domainFile :: w.problemFiles symbol.domainUri).map (fun file =>
        (applicationTokens file.tree symbol.name).map (·.start)) = [[40, 76], [40, 53]] ∧
      references w symbol true =
        (domainFile :: w.problemFiles symbol.domainUri).flatMap fun file =>
          (applicationTokens file.tree symbol.name).map fun t => ⟨file.uri, file.document.rangeOf t.span⟩ := by
  intro reader domainUri problemUri w
  have known : (at? w problemUri ⟨0, 40⟩).1.map (fun symbol => (symbol.kind, symbol.name, symbol.domainUri)) =
      some (.variable .predicate, "at", domainUri) := by decide +kernel
  have ready : (w.find? domainUri).any (·.isDomain) = true ∧ ∀ file ∈ w.family domainUri,
      file.status ≠ .dirty ∧ Unextended "at" file.document.chars := by decide +kernel
  have starts : (w.family domainUri).map (fun file => (applicationTokens file.tree "at").map (·.start)) =
      [[40, 76], [40, 53]] := by decide +kernel
  have reachable : w.Reachable := ⟨reader, _, by decide, rfl⟩
  clear_value w
  obtain ⟨symbol, isSymbol, same⟩ := Option.map_eq_some_iff.mp known
  obtain ⟨isVariable, isName, isUri⟩ : symbol.kind = _ ∧ symbol.name = _ ∧ symbol.domainUri = _ := by
    simpa using same
  obtain ⟨domainFile, found, isDomain⟩ := Option.any_eq_true _ _ |>.mp ready.1
  have family : w.family domainUri = domainFile :: w.problemFiles domainUri := by
    rw [Workspace.family, found]
    rfl
  rw [family] at starts ready
  rw [← isName, ← isUri] at starts ready
  rw [← isUri] at found
  refine ⟨symbol, domainFile, isSymbol, isName, found, starts, ?_⟩
  refine (references_are_applications reachable isVariable found isDomain ?_ ?_ ?_).1
  · rw [isName]
    exact List.all_eq_true.mp (by decide)
  · exact fun file member => (ready.2 file member).1
  · exact fun file member => (ready.2 file member).2

/-- The search ignores case, so a word may also go on after the name in another case. -/
theorem references_gain_loose_word :
    let reader : FileReader := ⟨0, {}, fun _ => .error (.path .missing)⟩
    let uri : Uri := { scheme := "file", authority := some {}, path := "/w/d.pddl" }
    let w := Workspace.run { reader }
      [.upsert uri 1 "(define (domain d) (:predicates (foo ?x)) (:derived (goal ?x) (FOO+ ?x)))".toList]
    (at? w uri ⟨0, 33⟩).1.map (fun symbol => (symbol.kind, symbol.name, symbol.domainUri)) =
        some (.variable .predicate, "foo", uri) ∧
      "foo".toList.all isIdentifierChar = true ∧
      (∀ file ∈ w.family uri, file.status = .parsed ∧ Directive.ofText? file.document.chars = none ∧
        ∀ t ∈ Token.scan file.document.chars, t.text.toList.take 3 = "foo".toList → t.text = "foo") ∧
      (w.family uri).map (fun file => (applicationTokens file.tree "foo").map (·.start)) = [[33]] ∧
      (at? w uri ⟨0, 33⟩).1.map (fun symbol =>
        (references w symbol true).map (·.range.start.character)) = some [33, 63] := by
  intro reader uri w
  refine ⟨?_, ?_, ?_, ?_, ?_⟩
  · decide +kernel
  · decide
  · decide +kernel
  · decide +kernel
  · decide +kernel

end Symbol
end PddlAssist
