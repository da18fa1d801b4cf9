import PddlAssist.Proofs.Symbol.Preparation
import PddlAssist.Proofs.Symbol.Recall
import PddlAssist.Proofs.Symbol.Types

namespace PddlAssist

open Text

namespace Symbol

section

variable {document : Document} {name : String} (identifier : ∀ c ∈ name.toList, isIdentifierChar c = true)
include identifier

theorem isWritten_of_mem_occurrences {scope span : Span} (found : span ∈ occurrences document.chars scope name) :
    IsWritten document.chars name span.start ∧ scope.start ≤ span.start ∧ span.start < scope.stop ∧
      span = ⟨span.start, span.start + width name.toList⟩ := by
  have nonempty := ne_nil_of_mem_occurrences found
  have positive := width_pos nonempty
  obtain ⟨isWritten, isStop, first, last⟩ :=
    (mem_occurrences_iff nonempty identifier (within_of_mem_occurrences found)).mp found
  exact ⟨isWritten, first, by omega, by rw [← isStop]⟩

theorem nodup_placesWhere (keep : Nat → Bool) : (placesWhere document name keep).Nodup := by
  rw [placesWhere, List.Nodup, List.pairwise_map]
  refine ((occurrences_sorted _ _ _).filter _).imp_of_mem fun {left right} isLeft isRight less same => ?_
  have leftWritten := (isWritten_of_mem_occurrences identifier (List.mem_of_mem_filter isLeft)).1
  have rightWritten := (isWritten_of_mem_occurrences identifier (List.mem_of_mem_filter isRight)).1
  have here := Document.positionAt_inj leftWritten.isBoundary rightWritten.isBoundary (congrArg Range.start same)
  exact absurd less (here ▸ Nat.lt_irrefl _)

theorem place_of_searchType {d : Domain} {range : Range} (searched : d.searchType name document = some range) :
    ∃ place, IsWritten document.chars name place ∧ inTypesSection d place = true ∧
      range = document.rangeOf ⟨place, place + width name.toList⟩ := by
  obtain ⟨scope, isScope, isFound⟩ := Option.bind_eq_some_iff.mp searched
  obtain ⟨span, isSpan, rfl⟩ := Option.map_eq_some_iff.mp isFound
  have found : span ∈ occurrences document.chars scope name := by
    rcases Option.or_eq_some_iff.mp isSpan with first | ⟨-, first⟩
    · exact List.mem_of_find?_eq_some first
    · exact List.mem_of_mem_head? first
  obtain ⟨isWritten, first, last, same⟩ := isWritten_of_mem_occurrences identifier found
  refine ⟨span.start, isWritten, ?_, by rw [← same]⟩
  rw [inTypesSection, isScope, Option.any_some, Bool.and_eq_true, decide_eq_true_eq, decide_eq_true_eq]
  exact ⟨first, last⟩

end

theorem place_of_searchVariable {document : Document} {var : Variable}
    (identifier : ∀ c ∈ var.name.toList, isIdentifierChar c = true) {d : Domain} {range : Range}
    (searched : d.searchVariable var document = some range) :
    ∃ place, IsWritten document.chars var.name place ∧ precededByBracket document.chars place = true ∧
      range = document.rangeOf ⟨place, place + width var.name.toList⟩ := by
  obtain ⟨span, isSpan, rfl⟩ := Option.map_eq_some_iff.mp searched
  obtain ⟨scope, -, found⟩ := List.mem_flatMap.mp (List.mem_of_find?_eq_some isSpan)
  obtain ⟨isWritten, -, -, same⟩ := isWritten_of_mem_occurrences identifier found
  have preceded := List.find?_some isSpan
  exact ⟨span.start, isWritten, preceded, by rw [← same]⟩

theorem namesVariable_of_precededByBracket {file : SourceFile} (isTree : file.tree = Tree.build file.document.chars)
    (clear : BracketsStandClear file.document.chars) {name : String} (nonempty : name.toList ≠ [])
    (identifier : ∀ c ∈ name.toList, isIdentifierChar c = true) (notTime : sameName name "at" = false) {place : Nat}
    (isWritten : IsWritten file.document.chars name place)
    (preceded : precededByBracket file.document.chars place = true) : namesVariable file place = true := by
  have found := mem_occurrences_of_isWritten nonempty identifier isWritten
  obtain ⟨before, written, after, whole, rfl, same, -, -, uncommented⟩ := isWritten
  obtain ⟨c, run, rfl⟩ := List.exists_cons_of_ne_nil (l := written) (by
    rintro rfl
    exact nonempty (List.map_eq_nil_iff.mp same.symm))
  rw [isCommented, whole, takeBytes_width] at uncommented
  obtain ⟨t, isName, here⟩ := clear.name_of_precededByBracket whole
    (isIdentifierChar_of_map_toLower same identifier c (.head _)) uncommented preceded
  obtain ⟨b, isBracket, named⟩ := (Tree.bracketNamedAt?_iff _ (width before) t).mpr ⟨isName, here⟩
  have notAt : b.hasName "at" = false := by
    rw [Node.hasName, Node.name?, named, Option.map_some, Option.any_some, Bool.eq_false_iff]
    intro isAt
    have member := (Token.namesFrom_sublist false _).subset isName
    rcases sameName_or_beginsLoosely_of_occurrence identifier member (Token.isWord_of_mem_namesFrom isName) found here
      with isName | loose
    · rw [sameName, ← sameName_iff.mp isName, ← sameName, isAt] at notTime
      cases notTime
    · have letters := isIdentifierChar_of_isValidName (by decide : isValidName "at" = true)
      rw [beginsLoosely_eq_false (isIdentifierChar_of_map_toLower (sameName_iff_map.mp isAt) letters)] at loose
      cases loose
  rw [namesVariable, isTree, isBracket, Option.any_some, Node.isTimeSpecifier, notAt]
  rfl

theorem location_of_at? {w w' : Workspace} (reachable : w.Reachable) {uri : Uri} {position : Position} {symbol : Symbol}
    (asked : at? w uri position = (some symbol, w')) (renameable : symbol.kind.isRenameable = true)
    {domainFile : SourceFile} (found : w.find? symbol.domainUri = some domainFile) (clean : domainFile.status ≠ .dirty) :
    symbol.name.toList ≠ [] ∧ (∀ c ∈ symbol.name.toList, isIdentifierChar c = true) ∧
      ∃ d, domainFile.domain? = some d ∧
        ((symbol.kind = .type ∧
            symbol.location = (d.searchType symbol.name domainFile.document).map (⟨domainFile.uri, ·⟩)) ∨
          ∃ var, symbol.kind = .variable var.kind ∧ symbol.name = var.name ∧
            symbol.location = (d.searchVariable var domainFile.document).map (⟨domainFile.uri, ·⟩)) := by
  have keeps := reachable.keeps Workspace.lasting_recalls
  obtain ⟨file, span, known, d, meaning, -, isWord, isKnown, isDomain, isMeaning, isSymbol, -⟩ := at?_word asked
  obtain ⟨same, -⟩ := symbol_of_meaning? isMeaning isSymbol renameable
  obtain ⟨domainUri, -, stored⟩ := Option.bind_eq_some_iff.mp isKnown
  have isUri : symbol.domainUri = known.uri := by rw [isSymbol]; cases meaning <;> rfl
  obtain rfl : known = domainFile := by
    rw [isUri, keeps.toOrderly.find?_uri stored, Option.some.injEq] at found
    exact found
  have recalls := keeps.find? found clean d isDomain
  refine ⟨?_, isIdentifierChar_of_sameName_word isWord same, d, isDomain, ?_⟩
  · obtain ⟨before, text, after, word, -⟩ := wordIn?_eq_some isWord
    intro empty
    rw [word.whole, word.place, slice_middle, sameName_iff_map, String.toList_ofList, empty, List.map_nil,
      List.map_eq_nil_iff] at same
    exact word.nonempty same
  · subst isSymbol
    rcases meaning with ⟨n, var⟩ | name | action
    · refine .inr ⟨var, rfl, rfl, ?_⟩
      rw [← recalls.locate_fst (meaning?_variable isMeaning)]
      rfl
    · refine .inl ⟨rfl, ?_⟩
      rw [← recalls.locateType_fst]
      rfl
    · cases renameable

theorem nodup_references {w : Workspace} (orderly : w.Orderly) {symbol : Symbol}
    (renameable : symbol.kind.isRenameable = true) (identifier : ∀ c ∈ symbol.name.toList, isIdentifierChar c = true)
    {domainFile : SourceFile} {d : Domain} (found : w.find? symbol.domainUri = some domainFile)
    (isDomain : domainFile.domain? = some d) : (references w symbol true).Nodup := by
  rw [references_renameable renameable found isDomain, List.nodup_flatMap]
  refine ⟨fun file _ => (nodup_placesWhere identifier _).map fun _ _ same => (Location.mk.inj same).2, ?_⟩
  refine (orderly.family_apart (Workspace.isDomain_of_find? found isDomain)).imp fun {f g} apart => ?_
  intro location inLeft inRight
  obtain ⟨_, -, rfl⟩ := List.mem_map.mp inLeft
  obtain ⟨_, -, same⟩ := List.mem_map.mp inRight
  exact apart (by rw [(Location.mk.inj same).1])

theorem references_false (w : Workspace) (symbol : Symbol) : references w symbol false =
    (references w symbol true).filter fun location => some location != symbol.location := by
  unfold references
  split
  · rfl
  · split
    · rfl
    · rfl

theorem mem_references_of_location {w w' : Workspace} (reachable : w.Reachable) {uri : Uri} {position : Position}
    {symbol : Symbol} (asked : at? w uri position = (some symbol, w')) (renameable : symbol.kind.isRenameable = true)
    {domainFile : SourceFile} (found : w.find? symbol.domainUri = some domainFile) (clean : domainFile.status ≠ .dirty)
    (plain : symbol.kind ≠ .type → sameName symbol.name "at" = false ∧ BracketsStandClear domainFile.document.chars)
    {location : Location} (isLocation : symbol.location = some location) : location ∈ references w symbol true := by
  have keeps := reachable.keeps Workspace.lasting_isReading
  obtain ⟨nonempty, identifier, d, isDomain, searched⟩ := location_of_at? reachable asked renameable found clean
  suffices declared : ∃ place, IsWritten domainFile.document.chars symbol.name place ∧
      isInContext symbol d domainFile place = true ∧
        location = ⟨domainFile.uri, domainFile.document.rangeOf ⟨place, place + width symbol.name.toList⟩⟩ by
    obtain ⟨place, isWritten, inContext, rfl⟩ := declared
    have member : domainFile ∈ w.family symbol.domainUri := by simp [Workspace.family, found]
    rw [references_renameable renameable found isDomain, mem_locations_iff keeps.toOrderly member,
      mem_placesWhere_iff_isWritten nonempty identifier]
    exact ⟨place, isWritten, inContext, rfl⟩
  rcases searched with ⟨isType, isSearched⟩ | ⟨var, isVariable, isName, isSearched⟩
  · obtain ⟨range, isFound, rfl⟩ := Option.map_eq_some_iff.mp (isSearched.symm.trans isLocation)
    obtain ⟨place, isWritten, inSection, rfl⟩ := place_of_searchType identifier isFound
    refine ⟨place, isWritten, ?_, rfl⟩
    simp [isInContext, isType, inSection, SourceFile.isDomain, isDomain]
  · obtain ⟨range, isFound, rfl⟩ := Option.map_eq_some_iff.mp (isSearched.symm.trans isLocation)
    obtain ⟨notTime, clear⟩ := plain (by simp [isVariable])
    rw [isName] at nonempty identifier notTime ⊢
    obtain ⟨place, isWritten, preceded, rfl⟩ := place_of_searchVariable identifier isFound
    have isTree := (keeps.find? found clean).tree
    have applied := namesVariable_of_precededByBracket isTree clear nonempty identifier notTime isWritten preceded
    exact ⟨place, isWritten, by simpa only [isInContext, isVariable] using applied, rfl⟩

/-- The declaration of a symbol is listed once among its references, and leaving it out leaves out nothing else. The file
of the domain must have been read, and for a predicate or function its brackets must stand clear and the name must not
be `at`, in any case. -/
theorem declaration_is_referenced_once {w w' : Workspace} (reachable : w.Reachable) {uri : Uri} {position : Position}
    {symbol : Symbol} (asked : at? w uri position = (some symbol, w')) (renameable : symbol.kind.isRenameable = true)
    {domainFile : SourceFile} (found : w.find? symbol.domainUri = some domainFile) (clean : domainFile.status ≠ .dirty)
    (plain : symbol.kind ≠ .type →
      sameName symbol.name "at" = false ∧ BracketsStandClear domainFile.document.chars) :
    (∀ location, symbol.location = some location → (references w' symbol true).count location = 1 ∧
        references w' symbol false = (references w' symbol true).erase location) ∧
      (symbol.location = none → references w' symbol false = references w' symbol true) := by
  have orderly := (reachable.keeps Workspace.lasting_isReading).toOrderly
  obtain ⟨-, identifier, d, isDomain, -⟩ := location_of_at? reachable asked renameable found clean
  have afterwards (declaration : Bool) : references w' symbol declaration = references w symbol declaration := by
    have related := at?_sameSymbols orderly uri position symbol.domainUri.folder
    rw [asked] at related
    exact references_sameSymbols orderly related declaration
  have nodup := nodup_references orderly renameable identifier found isDomain
  rw [afterwards, afterwards, references_false]
  constructor
  · intro location isLocation
    have listed := mem_references_of_location reachable asked renameable found clean plain isLocation
    rw [isLocation, nodup.erase_eq_filter]
    exact ⟨List.count_eq_one_of_mem nodup listed, rfl⟩
  · intro nowhere
    simp [nowhere]

theorem declaration_is_referenced_once_from_problem :
    let reader : FileReader := ⟨0, {}, fun _ => .error (.path .missing)⟩
    let domainUri : Uri := { scheme := "file", authority := some {}, path := "/w/d.pddl" }
    let problemUri : Uri := { scheme := "file", authority := some {}, path := "/w/p.pddl" }
    let ds := "(define (domain d) (:predicates ( On ?x) (q)) ; (on\n(:derived (q) (on c)))".toList
    let ps := "(define (problem p) (:domain d) (:init (on a)))".toList
    let w := Workspace.run { reader } [.upsert domainUri 1 ds, .upsert problemUri 1 ps]
    let location : Location := ⟨domainUri, ⟨⟨0, 34⟩, ⟨0, 36⟩⟩⟩
    ∃ symbol w', at? w problemUri ⟨0, 40⟩ = (some symbol, w') ∧ symbol.location = some location ∧
      (references w' symbol true).length = 3 ∧ (references w' symbol true).count location = 1 ∧
        references w' symbol false = (references w' symbol true).erase location := by
  intro reader domainUri problemUri ds ps w location
  obtain ⟨known, read⟩ : (at? w problemUri ⟨0, 40⟩).1.map (fun symbol => (symbol.kind, symbol.name, symbol.domainUri,
        symbol.location, (references (at? w problemUri ⟨0, 40⟩).2 symbol true).length)) =
          some (.variable .predicate, "On", domainUri, some location, 3) ∧
      (w.find? domainUri).map (fun file => (file.status, file.document.chars)) = some (.parsed, ds) := by
    simp only [w, ds, ps, String.reduceToList]
    decide +kernel
  have clear : BracketsStandClear ds := by
    simp only [ds, String.reduceToList]
    decide +kernel
  have reachable : w.Reachable := ⟨reader, _, by decide, rfl⟩
  clear_value w ds
  obtain ⟨symbol, isSymbol, same⟩ := Option.map_eq_some_iff.mp known
  obtain ⟨isVariable, isName, isUri, isLocation, long⟩ :
      symbol.kind = _ ∧ symbol.name = _ ∧ symbol.domainUri = _ ∧ symbol.location = _ ∧ _ = _ := by simpa using same
  obtain ⟨domainFile, found, isFile⟩ := Option.map_eq_some_iff.mp read
  obtain ⟨parsed, isText⟩ : domainFile.status = _ ∧ domainFile.document.chars = _ := by simpa using isFile
  have asked : at? w problemUri ⟨0, 40⟩ = (some symbol, (at? w problemUri ⟨0, 40⟩).2) := Prod.ext isSymbol rfl
  have once := (declaration_is_referenced_once reachable asked (by simp [isVariable, SymbolKind.isRenameable])
    (isUri ▸ found) (by simp [parsed]) (fun _ => ⟨by rw [isName]; decide, isText ▸ clear⟩)).1 location isLocation
  exact ⟨symbol, _, asked, isLocation, long, once⟩

/-- A predicate named `AT` is applied like a time where it is declared. -/
theorem declaration_is_no_reference :
    let reader : FileReader := ⟨0, {}, fun _ => .error (.path .missing)⟩
    let uri : Uri := { scheme := "file", authority := some {}, path := "/w/d.pddl" }
    let cs := "(define (domain d) (:predicates (AT start)) (:derived (q ?x) (AT ?x)))".toList
    let w := Workspace.run { reader } [.upsert uri 1 cs]
    let location : Location := ⟨uri, ⟨⟨0, 33⟩, ⟨0, 35⟩⟩⟩
    (∃ symbol w', at? w uri ⟨0, 62⟩ = (some symbol, w') ∧ symbol.kind = .variable .predicate ∧ symbol.name = "AT" ∧
        isValidName symbol.name = true ∧ symbol.domainUri = uri ∧ symbol.location = some location ∧
        references w' symbol true = [⟨uri, ⟨⟨0, 62⟩, ⟨0, 64⟩⟩⟩] ∧ (references w' symbol true).count location = 0) ∧
      (∃ file, w.find? uri = some file ∧ file.status = .parsed ∧ file.document.chars = cs) ∧
      Directive.ofText? cs = none ∧ BracketsStandClear cs ∧
      ∀ span ∈ occurrences cs ⟨0, width cs⟩ "AT", ∃ t ∈ Token.scan cs, t.span = span ∧ t.text = "AT" := by
  intro reader uri cs w location
  obtain ⟨known, read⟩ : (at? w uri ⟨0, 62⟩).1.map (fun symbol => (symbol.kind, symbol.name, symbol.domainUri,
        symbol.location, references (at? w uri ⟨0, 62⟩).2 symbol true)) =
          some (.variable .predicate, "AT", uri, some location, [⟨uri, ⟨⟨0, 62⟩, ⟨0, 64⟩⟩⟩]) ∧
      (w.find? uri).map (fun file => (file.status, file.document.chars)) = some (.parsed, cs) := by
    simp only [w, cs, String.reduceToList]
    decide +kernel
  have plain : (Directive.ofText? cs).isNone = true ∧ BracketsStandClear cs ∧
      ∀ span ∈ occurrences cs ⟨0, width cs⟩ "AT", ∃ t ∈ Token.scan cs, t.span = span ∧ t.text = "AT" := by
    simp only [cs, String.reduceToList]
    decide +kernel
  clear_value w cs
  obtain ⟨symbol, isSymbol, same⟩ := Option.map_eq_some_iff.mp known
  obtain ⟨isVariable, isName, isUri, isLocation, listed⟩ : symbol.kind = _ ∧ symbol.name = _ ∧ symbol.domainUri = _ ∧
      symbol.location = _ ∧ references _ symbol true = _ := by simpa using same
  obtain ⟨file, found, isFile⟩ := Option.map_eq_some_iff.mp read
  refine ⟨⟨symbol, _, Prod.ext isSymbol rfl, isVariable, isName, ?_, isUri, isLocation, listed, ?_⟩,
    ⟨file, found, (Prod.mk.inj isFile).1, (Prod.mk.inj isFile).2⟩, Option.isNone_iff_eq_none.mp plain.1, plain.2⟩
  · rw [isName]
    decide
  · rw [listed]
    decide

end Symbol
end PddlAssist
