import PddlAssist.Proofs.Symbol.Exchange
import PddlAssist.Proofs.Symbol.References
import PddlAssist.Proofs.Workspace.Editing

namespace PddlAssist

open Text

/-- What two files define if the text of the second has other names. -/
inductive FileKind.Renamed (rename : String → String) : FileKind → FileKind → Prop where
  | domain {d d' : Domain} (alike : Domain.Alike rename (· = ·) d.forget d') :
    Renamed rename (.domain d) (.domain d')
  | problem {p p' : Problem} (alike : Problem.Alike rename p p') : Renamed rename (.problem p) (.problem p')

namespace FileKind.Renamed

variable {rename : String → String} {kind kind' : FileKind}

theorem kin (renamed : Renamed rename kind kind') : Kin kind kind' := by
  cases renamed with
  | domain alike => exact .domain alike.name
  | problem alike => exact .problem alike.name alike.domainName

theorem of_forget (renamed : Renamed rename kind.forget kind') : Renamed rename kind kind' := by
  cases kind with
  | domain d =>
    have twice : d.forget.forget = d.forget := by simp [Domain.forget, Variable.forget, Function.comp_def]
    cases renamed with
    | domain alike =>
      rw [twice] at alike
      exact .domain alike
  | problem | plan | happenings | unknown => exact renamed

end FileKind.Renamed

theorem Harmless.classify {rename : String → String} {cs : List Char} (harmless : Harmless rename cs)
    (document document' : Document) :
    FileKind.Renamed rename (SourceFile.classify document (Tree.build cs)).1
        (SourceFile.classify document' (Tree.build (renamedText rename cs))).1 ∨
      (SourceFile.classify document (Tree.build cs)).1 = .unknown := by
  have domains := harmless.domain document document'
  have problems := harmless.problem document document'
  simp only [SourceFile.classify]
  generalize isDomain : Domain.ofTree? document _ = d, Domain.ofTree? document' _ = d' at domains
  cases domains with
  | @some found _ alike =>
    have forgotten : found.1.forget = found.1 := Domain.forget_ofTree? isDomain
    refine .inl (.domain ?_)
    rw [forgotten]
    exact alike.1
  | none =>
    generalize Problem.ofTree? document _ = p, Problem.ofTree? document' _ = p' at problems
    cases problems with
    | some alike => exact .inl (.problem alike.1)
    | none => exact .inr rfl

namespace SourceFile

theorem IsReading.classify {f : SourceFile} (reading : f.IsReading)
    (unprocessed : Directive.ofText? f.document.chars = none) (bound : f.isDomain = true ∨ f.isProblem = true) :
    FileFormat.ofUri f.uri = .pddl ∧
      f.kind.forget = (SourceFile.classify f.document (Tree.build f.document.chars)).1 := by
  obtain ⟨reader, kind, _⟩ := reading.kind
  simp only [isDomain, domain?, isProblem, problem?] at bound
  simp only [SourceFile.read] at kind
  cases format : FileFormat.ofUri f.uri with
  | plan | happenings =>
    simp only [format] at kind
    cases isKind : f.kind <;> simp_all [FileKind.forget]
  | pddl =>
    simp only [format, readPddl, unprocessed] at kind
    exact ⟨rfl, kind⟩

theorem read_kind {reader : FileReader} {uri : Uri} (format : FileFormat.ofUri uri = .pddl) (version : Int)
    {text : List Char} (unprocessed : Directive.ofText? text = none) :
    (read reader uri version text).kind = (SourceFile.classify ⟨text⟩ (Tree.build text)).1 := by
  simp only [read, format, readPddl, unprocessed]

theorem IsReading.renamed {f : SourceFile} (reading : f.IsReading)
    (unprocessed : Directive.ofText? f.document.chars = none) (bound : f.isDomain = true ∨ f.isProblem = true)
    {rename : String → String} (harmless : Harmless rename f.document.chars) (reader : FileReader)
    (version : Int) : FileKind.Renamed rename f.kind
      (SourceFile.read reader f.uri version (renamedText rename f.document.chars)).kind := by
  obtain ⟨format, kind⟩ := reading.classify unprocessed bound
  rw [read_kind format version (harmless.directive.trans unprocessed)]
  rcases harmless.classify f.document ⟨renamedText rename f.document.chars⟩ with renamed | unknown
  · rw [← kind] at renamed
    exact renamed.of_forget
  · rw [unknown] at kind
    simp only [isDomain, domain?, isProblem, problem?] at bound
    cases isKind : f.kind with
    | domain | problem | plan | happenings | unknown => simp [isKind, FileKind.forget] at kind bound

end SourceFile

namespace Symbol

theorem countP_locations {files files' : List SourceFile} {places places' : SourceFile → List Range}
    (related : List.Forall₂ (fun f f' => f'.uri = f.uri ∧ (places' f').length = (places f).length) files files')
    (address : Uri) :
    (files'.flatMap fun f => (places' f).map (Location.mk f.uri)).countP (·.uri = address) =
      (files.flatMap fun f => (places f).map (Location.mk f.uri)).countP (·.uri = address) := by
  have count (f : SourceFile) (ranges : List Range) :
      (ranges.map (Location.mk f.uri)).countP (·.uri = address) = if f.uri = address then ranges.length else 0 := by
    rw [List.countP_map]
    split
    case isTrue same => simp [Function.comp_def, same]
    case isFalse differs => simp [Function.comp_def, differs]
  induction related with
  | nil => rfl
  | cons first _ ih =>
    simp only [List.flatMap_cons, List.countP_append, ih, count, first.1, first.2]

theorem isName_of_mem_allVariables {f : SourceFile} (reading : f.IsReading)
    (unprocessed : Directive.ofText? f.document.chars = none) {d : Domain} (isDomain : f.domain? = some d)
    {var : Variable} (member : var ∈ d.allVariables) : Token.IsName (Token.scan f.document.chars) var.name := by
  have bound : f.isDomain = true := by rw [SourceFile.isDomain, isDomain, Option.isSome_some]
  obtain ⟨_, kind⟩ := reading.classify unprocessed (.inl bound)
  rw [SourceFile.kind_of_domain? isDomain] at kind
  simp only [SourceFile.classify] at kind
  cases read : Domain.ofTree? f.document (Tree.build f.document.chars) with
  | none =>
    rw [read] at kind
    cases isProblem : Problem.ofTree? f.document (Tree.build f.document.chars) with
    | none | some => simp [isProblem, FileKind.forget] at kind
  | some found =>
    obtain ⟨d', issues⟩ := found
    rw [read] at kind
    have same : d.forget = d' := FileKind.domain.inj kind
    rw [← same] at read
    have declared : var.forget ∈ d.forget.allVariables := by
      rw [d.allVariables_forget]
      exact List.mem_map_of_mem member
    have named := Domain.isName_of_mem_allVariables read declared
    exact named

/-- A file whose text was read as it stands, and in which a name can be exchanged for another. -/
structure IsReady (name newName : String) (file : SourceFile) : Prop where
  read : file.status ≠ .dirty
  unprocessed : Directive.ofText? file.document.chars = none
  admits : Admits name newName file.document.chars

instance (name newName : String) (file : SourceFile) : Decidable (IsReady name newName file) :=
  decidable_of_iff (file.status ≠ .dirty ∧ Directive.ofText? file.document.chars = none ∧
      Admits name newName file.document.chars)
    ⟨fun ⟨read, unprocessed, admits⟩ => ⟨read, unprocessed, admits⟩,
      fun ⟨read, unprocessed, admits⟩ => ⟨read, unprocessed, admits⟩⟩

/-- What a file becomes when a name is exchanged in its text. -/
def IsExchange (name newName : String) (f f' : SourceFile) : Prop :=
  ∃ reader, f' = SourceFile.read reader f.uri (f.version + 1) (renamedText (exchange name newName) f.document.chars)

section

variable {w : Workspace} {symbol : Symbol} {kind : VariableKind} {newName : String} {domainFile : SourceFile}
  {d : Domain}

theorem edited?_references (orderly : w.Orderly) (isVariable : symbol.kind = .variable kind)
    (found : w.find? symbol.domainUri = some domainFile) (isDomain : domainFile.domain? = some d)
    (free : IsFreeName symbol.name) {file : SourceFile} (member : file ∈ w.family symbol.domainUri)
    (isTree : file.tree = Tree.build file.document.chars) (strict : Strict symbol.name file.document.chars) :
    file.document.edited? (editsOf (editsFor (references w symbol true) newName) file.uri) =
      some (renamedText (exchange symbol.name newName) file.document.chars) := by
  have apart : (w.family symbol.domainUri).Pairwise fun f g => f.uri ≠ g.uri :=
    (orderly.family_apart (Workspace.isDomain_of_find? found isDomain)).imp fun differ same =>
      differ (congrArg Uri.key same)
  rw [editsOf_editsFor, references_variable isVariable found isDomain,
    filter_locations apart (fun f => placesWhere f.document symbol.name (namesVariable f)) member,
    placesWhere_namesVariable free.valid (free.free "at" (by decide)) isTree strict, List.map_map, List.map_map]
  exact edited?_namedTokens file.document symbol.name newName

theorem places_of_isExchange {name : String} {f f' : SourceFile} (isTree : f.tree = Tree.build f.document.chars)
    (admits : Admits name newName f.document.chars) (free : IsFreeName name) (freeNew : IsFreeName newName)
    (differ : sameName name newName = false) (exchanged : IsExchange name newName f f') :
    (placesWhere f'.document newName (namesVariable f')).length =
        (placesWhere f.document name (namesVariable f)).length ∧
      placesWhere f'.document name (namesVariable f') = [] := by
  obtain ⟨reader, rfl⟩ := exchanged
  have isTree' := (SourceFile.IsReading.read reader f.uri (f.version + 1)
    (renamedText (exchange name newName) f.document.chars)).tree
  have isDocument := SourceFile.read_document reader f.uri (f.version + 1)
    (renamedText (exchange name newName) f.document.chars)
  have strictNew := admits.strict_renamedText free freeNew admits.strictNew
  have strict := admits.strict_renamedText free freeNew admits.strict
  have notTime := free.free "at" (by decide)
  have notTime' := freeNew.free "at" (by decide)
  constructor
  · rw [placesWhere_namesVariable freeNew.valid notTime' isTree' (by rwa [isDocument]),
      placesWhere_namesVariable free.valid notTime isTree admits.strict, isDocument, List.length_map, List.length_map,
      admits.length_namedTokens_new free freeNew]
  · rw [placesWhere_namesVariable free.valid notTime isTree' (by rwa [isDocument]), isDocument,
      admits.namedTokens_old free freeNew differ, List.map_nil]

/-- Files that are bound alike, with the name exchanged in those of a family. -/
def Exchanged (files : List SourceFile) (name newName : String) (f f' : SourceFile) : Prop :=
  SourceFile.Kin f f' ∧ (f ∈ files → IsExchange name newName f f')

theorem edit?_references {w' : Workspace} (keeps : w.Keeps fun file => file.status ≠ .dirty → file.IsReading)
    (related : w.Related SourceFile.SameText w') (isVariable : symbol.kind = .variable kind)
    (found : w.find? symbol.domainUri = some domainFile) (isDomain : domainFile.domain? = some d)
    (free : IsFreeName symbol.name) (freeNew : IsFreeName newName)
    (ready : ∀ file ∈ w.family symbol.domainUri, IsReady symbol.name newName file) :
    ∃ w'', w'.edit? (editsFor (references w' symbol true) newName) (w.family symbol.domainUri) = some w'' ∧
      w.Related (Exchanged (w.family symbol.domainUri) symbol.name newName) w'' := by
  have isDomainFile := Workspace.isDomain_of_find? found isDomain
  have reading {file : SourceFile} (member : file ∈ w.family symbol.domainUri) : file.IsReading :=
    keeps.find? (keeps.find?_of_mem_family member) (ready file member).read
  have known : ∀ file ∈ w.family symbol.domainUri, ∃ current, w'.find? file.uri = some current ∧
      current.version = file.version ∧ SourceFile.Kin file current := by
    intro file member
    have same := related.find? file.uri
    rw [keeps.find?_of_mem_family member] at same
    generalize w'.find? file.uri = found' at same
    cases same with
    | some same => exact ⟨_, rfl, same.version, same.kin⟩
  have alike : ∀ file ∈ w.family symbol.domainUri, ∀ reader, SourceFile.Kin file (SourceFile.read reader file.uri
      (file.version + 1) (renamedText (exchange symbol.name newName) file.document.chars)) := by
    intro file member reader
    have harmless := (ready file member).admits.harmless free freeNew
    have renamed := (reading member).renamed (ready file member).unprocessed
      (Workspace.bound_of_mem_family isDomainFile member) harmless reader (file.version + 1)
    exact ⟨SourceFile.read_uri _ _ _ _, renamed.kin⟩
  have sameSymbols := (related.inFolder symbol.domainUri.folder).imp fun _ _ same => same.sameSymbols
  rw [references_sameSymbols keeps.toOrderly sameSymbols]
  obtain ⟨w'', isDone, kin, reads, _⟩ := Workspace.edit?_kin (keeps.family_apart isDomainFile) _ known
    (fun file member => edited?_references keeps.toOrderly isVariable found isDomain free member
      (reading member).tree (ready file member).admits.strict) alike
  refine ⟨w'', isDone, fun key => ?_⟩
  have whole := (related.imp fun _ _ same => same.kin).trans (fun _ _ _ first second => first.trans second) kin key
  generalize isFile : w.stored? key = file, isFile' : w''.stored? key = file' at whole
  cases whole with
  | none => exact .none
  | @some f f' whole =>
    refine .some ⟨whole, fun member => ?_⟩
    obtain ⟨reader, isRead⟩ := reads f member
    rw [Workspace.find?_eq_stored?, keeps.keyed isFile, isFile'] at isRead
    exact ⟨reader, Option.some.inj isRead⟩

theorem references_exchanged {w'' : Workspace} (isVariable : symbol.kind = .variable kind)
    (found : w.find? symbol.domainUri = some domainFile) (isDomain : domainFile.domain? = some d)
    (trees : ∀ file ∈ w.family symbol.domainUri, file.tree = Tree.build file.document.chars)
    (free : IsFreeName symbol.name) (freeNew : IsFreeName newName) (differ : sameName symbol.name newName = false)
    (ready : ∀ file ∈ w.family symbol.domainUri, IsReady symbol.name newName file)
    (related : w.Related (Exchanged (w.family symbol.domainUri) symbol.name newName) w'') :
    (∀ address, (references w'' { symbol with name := newName } true).countP (·.uri = address) =
        (references w symbol true).countP (·.uri = address)) ∧
      references w'' symbol true = [] := by
  have same := related.find? symbol.domainUri
  rw [found] at same
  generalize isFound'' : w''.find? symbol.domainUri = found'' at same
  cases same with
  | @some _ domainFile'' same =>
  have known := same.1.domain?
  rw [isDomain] at known
  generalize isDomain'' : domainFile''.domain? = d'' at known
  cases known with
  | some =>
  have families := (related.inFolder symbol.domainUri.folder).family fun _ _ same => same.1
  have places := forall₂_imp_of_mem families
    fun f f' member same => And.intro same.1.uri
      (places_of_isExchange (trees f member) (ready f member).admits free freeNew differ (same.2 member))
  have isNewVariable : ({ symbol with name := newName } : Symbol).kind = .variable kind := isVariable
  rw [references_variable isVariable found isDomain, references_variable isVariable isFound'' isDomain'']
  constructor
  · rw [references_variable isNewVariable isFound'' isDomain'']
    exact countP_locations (places.imp fun _ _ both => ⟨both.1, both.2.1⟩)
  · clear related
    generalize w.family symbol.domainUri = files, w''.family symbol.domainUri = files'' at places
    induction places with
    | nil => rfl
    | cons first _ ih => rw [List.flatMap_cons, ih, first.2.2, List.map_nil, List.append_nil]

end

/-- In any reachable workspace, the edits that rename a variable can be made in the file of its domain and in
the files of the problems. The new texts have the tokens of the old ones, with the new name in place of each
bracket's name that is the old one; they are read as the same domain and problems under the new name, all
files stay bound as they were, and the new name has in each file the references that the old one had. -/
theorem rename_keeps_meaning {w w' : Workspace} (reachable : w.Reachable) {uri : Uri} {position : Position}
    {symbol : Symbol} {kind : VariableKind} {newName : String}
    (found : at? w uri position = (some symbol, w')) (isVariable : symbol.kind = .variable kind)
    (free : IsFreeName symbol.name) (freeNew : IsFreeName newName)
    (ready : ∀ file ∈ w.family symbol.domainUri, IsReady symbol.name newName file) :
    ∃ edits w'', rename w uri position newName = (some edits, w') ∧
      w'.edit? edits (w.family symbol.domainUri) = some w'' ∧
      (∀ file ∈ w.family symbol.domainUri, ∃ file', w''.find? file.uri = some file' ∧
        Token.scan file'.document.chars =
          Token.renameFrom (exchange symbol.name newName) 0 false (Token.scan file.document.chars) ∧
        FileKind.Renamed (exchange symbol.name newName) file.kind file'.kind) ∧
      (∀ address, w''.domainBinding address = w.domainBinding address ∧
        w''.problemBinding address = w.problemBinding address) ∧
      (∀ address, (references w'' { symbol with name := newName } true).countP (·.uri = address) =
        (references w symbol true).countP (·.uri = address)) ∧
      references w'' symbol true = [] := by
  have keeps := reachable.keeps Workspace.lasting_isReading
  obtain ⟨domainFile, d, var, isFound, isDomain, declared, isName, related⟩ :=
    at?_variable keeps.toOrderly found isVariable
  have isDomainFile := Workspace.isDomain_of_find? isFound isDomain
  have reading {file : SourceFile} (member : file ∈ w.family symbol.domainUri) : file.IsReading :=
    keeps.find? (keeps.find?_of_mem_family member) (ready file member).read
  have inFamily : domainFile ∈ w.family symbol.domainUri :=
    List.mem_append_left _ (Option.mem_toList.mpr isFound)
  have differ : sameName symbol.name newName = false := by
    rw [isName]
    exact (ready domainFile inFamily).admits.new_of_isName freeNew.valid
      (isName_of_mem_allVariables (reading inFamily) (ready domainFile inFamily).unprocessed isDomain declared)
  obtain ⟨w'', isDone, exchanged⟩ := edit?_references keeps related isVariable isFound isDomain free freeNew ready
  have kin : w.Kin w'' := exchanged.imp fun _ _ both => both.1
  refine ⟨editsFor (references w' symbol true) newName, w'', ?_, isDone, ?_, ?_, ?_⟩
  · simp [rename, freeNew.valid, found, Option.filter, isVariable, SymbolKind.isRenameable]
  · intro file member
    have both := exchanged.find? file.uri
    rw [keeps.find?_of_mem_family member] at both
    generalize w''.find? file.uri = found'' at both
    cases both with
    | @some _ file' both =>
    obtain ⟨reader, isRead⟩ := both.2 member
    have harmless := (ready file member).admits.harmless free freeNew
    refine ⟨file', rfl, ?_, ?_⟩
    · rw [isRead, SourceFile.read_document]
      exact (ready file member).admits.scan_renamedText free freeNew
    · rw [isRead]
      exact (reading member).renamed (ready file member).unprocessed
        (Workspace.bound_of_mem_family isDomainFile member) harmless reader (file.version + 1)
  · exact fun address => ⟨kin.domainBinding address, kin.problemBinding address⟩
  · exact references_exchanged isVariable isFound isDomain (fun file member => (reading member).tree) free freeNew
      differ ready exchanged

theorem rename_keeps_meaning_from_problem :
    let reader : FileReader := ⟨0, {}, fun _ => .error (.path .missing)⟩
    let domainUri : Uri := { scheme := "file", authority := some {}, path := "/w/d.pddl" }
    let problemUri : Uri := { scheme := "file", authority := some {}, path := "/w/p.pddl" }
    let w := Workspace.run { reader }
      [.upsert domainUri 1
         "(define (domain d) ; é (foo)\n(:predicates (foo ?x)) (:derived (FOO-2 ?x) (FOO ?x)))".toList,
       .upsert problemUri 1 "(define (problem p) (:domain d) (:init (Foo a)))".toList]
    ∃ symbol w', at? w problemUri ⟨0, 40⟩ = (some symbol, w') ∧ symbol.name = "foo" ∧
      (w.family symbol.domainUri).map (·.uri) = [domainUri, problemUri] ∧
      (∀ file ∈ w.family symbol.domainUri, IsReady symbol.name "bar" file) ∧
      ∃ edits w'', rename w problemUri ⟨0, 40⟩ "bar" = (some edits, w') ∧
        w'.edit? edits (w.family symbol.domainUri) = some w'' ∧
        (∀ address, (references w'' { symbol with name := "bar" } true).countP (·.uri = address) =
          (references w symbol true).countP (·.uri = address)) ∧
        references w'' symbol true = [] := by
  intro reader domainUri problemUri w
  have known : (at? w problemUri ⟨0, 40⟩).1.map (fun symbol => (symbol.kind, symbol.name, symbol.domainUri)) =
      some (.variable .predicate, "foo", domainUri) := by decide +kernel
  have family : (w.family domainUri).map (·.uri) = [domainUri, problemUri] := by decide +kernel
  have ready : ∀ file ∈ w.family domainUri, IsReady "foo" "bar" file := by decide +kernel
  have reachable : w.Reachable := ⟨reader, _, by decide, rfl⟩
  clear_value w
  obtain ⟨symbol, isSymbol, same⟩ := Option.map_eq_some_iff.mp known
  obtain ⟨isVariable, isName, isDomain⟩ : symbol.kind = _ ∧ symbol.name = _ ∧ symbol.domainUri = _ := by
    simpa using same
  rw [← isDomain, ← isName] at ready
  have found : at? w problemUri ⟨0, 40⟩ = (some symbol, (at? w problemUri ⟨0, 40⟩).2) := Prod.ext isSymbol rfl
  have free : IsFreeName symbol.name := by
    rw [isName]
    decide
  obtain ⟨edits, w'', renamed, edited, _, _, counted, gone⟩ :=
    rename_keeps_meaning reachable found isVariable free (by decide) ready
  exact ⟨symbol, _, found, isName, by rw [isDomain, family], ready, edits, w'', renamed, edited, counted, gone⟩

/-- A bracket whose name goes on loosely after the new name is taken for a reference of it. -/
theorem rename_gains_reference :
    let reader : FileReader := ⟨0, {}, fun _ => .error (.path .missing)⟩
    let uri : Uri := { scheme := "file", authority := some {}, path := "/w/d.pddl" }
    let w := Workspace.run { reader }
      [.upsert uri 1 "(define (domain d) (:predicates (foo ?x) (bar+x ?y)))".toList]
    (at? w uri ⟨0, 33⟩).1.map (fun symbol => (symbol.kind, symbol.name, symbol.domainUri)) =
        some (.variable .predicate, "foo", uri) ∧
      IsFreeName "foo" ∧ IsFreeName "bar" ∧
      (∀ file ∈ w.family uri, file.status = .parsed ∧ Directive.ofText? file.document.chars = none ∧
        (∀ t ∈ Token.scan file.document.chars, t.kind = .word → sameName t.text "bar" = false) ∧
        Strict "foo" file.document.chars) ∧
      (at? w uri ⟨0, 33⟩).1.map (fun symbol => (references w symbol true).length) = some 1 ∧
      ((at? w uri ⟨0, 33⟩).1.bind fun symbol => (rename w uri ⟨0, 33⟩ "bar").1.bind fun edits =>
          ((rename w uri ⟨0, 33⟩ "bar").2.edit? edits (w.family uri)).map fun w'' =>
            (references w'' { symbol with name := "bar" } true).length) = some 2 := by
  intro reader uri w
  refine ⟨?_, ?_, ?_, ?_, ?_, ?_⟩
  · decide +kernel
  · decide
  · decide
  · decide +kernel
  · decide +kernel
  · decide +kernel

end Symbol
end PddlAssist
