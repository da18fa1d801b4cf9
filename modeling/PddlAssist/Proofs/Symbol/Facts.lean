import PddlAssist.Proofs.Document.Order
import PddlAssist.Proofs.Reading.Facts
import PddlAssist.Proofs.Symbol.Rename
import PddlAssist.Proofs.Workspace.Binding

namespace PddlAssist

open Text

theorem SourceFile.IsReading.problem {f : SourceFile} (reading : f.IsReading)
    (plain : Directive.ofText? f.document.chars = none) {p : Problem} (isProblem : f.problem? = some p) :
    ∃ issues, Problem.ofTree? f.document f.tree = some (p, issues) := by
  have isKind : f.kind = .problem p := by
    simp only [problem?] at isProblem
    split at isProblem
    · rename_i isKind
      rw [isKind, Option.some.inj isProblem]
    · cases isProblem
  have bound : f.isProblem = true := by rw [SourceFile.isProblem, isProblem, Option.isSome_some]
  obtain ⟨_, same⟩ := reading.classify plain (.inr bound)
  rw [isKind, FileKind.forget.eq_def] at same
  simp only [SourceFile.classify] at same
  split at same
  · cases same
  · split at same
    · rename_i read
      cases same
      exact ⟨_, reading.tree ▸ read⟩
    · cases same

namespace Symbol

section

variable {name : String} {file : SourceFile} {b : Node} {a : Atom}

theorem atomToken (isTree : file.tree = Tree.build file.document.chars) (isSaid : b ∈ file.tree.brackets)
    (read : Problem.readAtom? b = some a) :
    ∃ t ∈ Token.namesFrom false (Token.scan file.document.chars), t.text = a.name ∧ t.span = a.span ∧
      namesVariable file t.start = !a.isLikeTime := by
  obtain ⟨t, named, _, same⟩ := Problem.readAtom?_eq_some_iff.mp read
  rw [isTree] at isSaid
  have found := Tree.bracketNamedAt?_eq_some.mpr ⟨isSaid, t, named, rfl⟩
  refine ⟨t, ((Tree.bracketNamedAt?_iff _ t.start t).mp ⟨b, found, named⟩).1, by rw [same], by rw [same], ?_⟩
  rw [namesVariable, isTree, found, Option.any_some, Problem.isTimeSpecifier_of_readAtom? read]

theorem mem_placesWhere_iff (isTree : file.tree = Tree.build file.document.chars) (isSaid : b ∈ file.tree.brackets)
    (read : Problem.readAtom? b = some a) (named : sameName a.name name = true)
    (identifier : ∀ c ∈ name.toList, isIdentifierChar c = true) :
    file.document.rangeOf a.span ∈ placesWhere file.document name (namesVariable file) ↔ a.isLikeTime = false := by
  obtain ⟨t, isName, isText, isSpan, names⟩ := atomToken isTree isSaid read
  have found : t.span ∈ occurrences file.document.chars ⟨0, width file.document.chars⟩ name :=
    occurrence_of_mem_namedTokens identifier (mem_namedTokens.mpr ⟨isName, by rwa [isText]⟩)
  have nonempty : name.toList ≠ [] := by
    intro empty
    rw [String.toList_eq_nil_iff] at empty
    simp [occurrences, empty] at found
  simp only [placesWhere, List.mem_map, List.mem_filter, ← isSpan]
  constructor
  · rintro ⟨span, ⟨isFound, names'⟩, same⟩
    have boundary {span : Span} (found : span ∈ occurrences file.document.chars ⟨0, width file.document.chars⟩ name) :
        IsBoundary file.document.chars span.start := by
      obtain ⟨before, after, whole, _, _, _, _, rfl⟩ := (mem_occurrences nonempty identifier).mp found
      exact ⟨before, after, whole, rfl⟩
    have start : span.start = t.start :=
      Document.positionAt_inj (boundary isFound) (boundary found) (congrArg Range.start same)
    rw [start, names] at names'
    simpa using names'
  · intro notTime
    exact ⟨t.span, ⟨found, by rw [Token.span, names, notTime]; rfl⟩, rfl⟩

end

theorem mem_locations_iff {w : Workspace} (orderly : w.Orderly) {domainUri : Uri} {file : SourceFile}
    (member : file ∈ w.family domainUri) {places : SourceFile → List Range} {range : Range} :
    ⟨file.uri, range⟩ ∈ ((w.family domainUri).flatMap fun f => (places f).map (Location.mk f.uri)) ↔
      range ∈ places file := by
  simp only [List.mem_flatMap, List.mem_map]
  constructor
  · rintro ⟨other, isOther, place, inOther, same⟩
    obtain ⟨sameUri, rfl⟩ := Location.mk.inj same
    rwa [orderly.eq_of_uri (orderly.find?_of_mem_family member) (orderly.find?_of_mem_family isOther) sameUri.symm]
  · intro inFile
    exact ⟨file, member, range, inFile, rfl⟩

theorem mem_references_iff {w : Workspace} (orderly : w.Orderly) {symbol : Symbol} {kind : VariableKind}
    (isVariable : symbol.kind = .variable kind) {domainFile : SourceFile} {d : Domain}
    (found : w.find? symbol.domainUri = some domainFile) (isDomain : domainFile.domain? = some d) {file : SourceFile}
    (member : file ∈ w.family symbol.domainUri) {range : Range} :
    ⟨file.uri, range⟩ ∈ references w symbol true ↔
      range ∈ placesWhere file.document symbol.name (namesVariable file) := by
  rw [references_variable isVariable found isDomain]
  exact mem_locations_iff orderly member

/-- The name of a fact is among the references of the predicate or function that it applies, unless the fact is like
a time. -/
theorem fact_is_referenced_iff {w : Workspace} (reachable : w.Reachable) {uri : Uri}
    {problemFile domainFile : SourceFile} {p : Problem} (known : w.find? uri = some problemFile)
    (isProblem : problemFile.problem? = some p) (read : problemFile.status ≠ .dirty)
    (plain : Directive.ofText? problemFile.document.chars = none)
    (isDomainFile : w.domainFile? uri = some domainFile) {symbol : Symbol} {kind : VariableKind}
    (isVariable : symbol.kind = .variable kind) (isDomain : symbol.domainUri = domainFile.uri)
    (symbols : ∀ c ∈ symbol.name.toList, isSymbolChar c = true) {entry : InitEntry} (isEntry : entry ∈ p.initEntries)
    (named : sameName entry.atom.name symbol.name = true) :
    ⟨problemFile.uri, problemFile.document.rangeOf entry.atom.span⟩ ∈ references w symbol true ↔
      entry.atom.isLikeTime = false := by
  have keeps := reachable.keeps Workspace.lasting_isReading
  have bound : problemFile.isProblem = true := by rw [SourceFile.isProblem, isProblem, Option.isSome_some]
  obtain ⟨stored, isDomainKind, member⟩ := keeps.mem_family_of_domainFile? known (.inr bound) isDomainFile
  obtain ⟨d, isKnown⟩ := SourceFile.isDomain_iff.mp isDomainKind
  rw [← isDomain] at stored member
  have reading := keeps.find? known read
  obtain ⟨issues, isRead⟩ := reading.problem plain isProblem
  obtain ⟨b, isSaid, isAtom⟩ := Problem.saidIn_of_ofTree? isRead entry isEntry
  rw [mem_references_iff keeps.toOrderly isVariable stored isKnown member]
  exact mem_placesWhere_iff reading.tree isSaid isAtom named fun c isChar =>
    isIdentifierChar_of_isSymbolChar (symbols c isChar)

theorem fact_is_referenced_iff_until :
    let reader : FileReader := ⟨0, {}, fun _ => .error (.path .missing)⟩
    let domainUri : Uri := { scheme := "file", authority := some {}, path := "/w/d.pddl" }
    let problemUri : Uri := { scheme := "file", authority := some {}, path := "/w/p.pddl" }
    let w := Workspace.run { reader }
      [.upsert domainUri 1 "(define (domain d) (:predicates (at ?x ?y)))".toList,
       .upsert problemUri 1
         "(define (problem p) (:domain d) (:init (At end b) (at c end) (at 5 (not (AT c end)))))".toList]
    ∃ symbol problemFile p, (at? w problemUri ⟨0, 52⟩).1 = some symbol ∧ symbol.name = "at" ∧
      w.find? problemUri = some problemFile ∧ problemFile.problem? = some p ∧
      p.initEntries.map (fun entry => (entry.atom.name, entry.atom.span, entry.atom.isLikeTime)) =
        [("At", ⟨40, 42⟩, true), ("at", ⟨51, 53⟩, false), ("AT", ⟨73, 75⟩, false)] ∧
      ∀ entry ∈ p.initEntries,
        ⟨problemFile.uri, problemFile.document.rangeOf entry.atom.span⟩ ∈ references w symbol true ↔
          entry.atom.isLikeTime = false := by
  intro reader domainUri problemUri w
  have holds : (at? w problemUri ⟨0, 52⟩).1.map (fun symbol => (symbol.kind, symbol.name, symbol.domainUri)) =
        some (.variable .predicate, "at", domainUri) ∧
      (w.domainFile? problemUri).map (·.uri) = some domainUri ∧
      (w.find? problemUri).any (fun file =>
        file.status == .parsed && (Directive.ofText? file.document.chars).isNone && file.problem?.any fun p =>
          p.initEntries.map (fun entry => (entry.atom.name, entry.atom.span, entry.atom.isLikeTime)) ==
              [("At", ⟨40, 42⟩, true), ("at", ⟨51, 53⟩, false), ("AT", ⟨73, 75⟩, false)] &&
            p.initEntries.all (sameName ·.atom.name "at")) = true := by decide +kernel
  have reachable : w.Reachable := ⟨reader, _, by decide, rfl⟩
  clear_value w
  obtain ⟨known, domains, ready⟩ := holds
  obtain ⟨symbol, isSymbol, same⟩ := Option.map_eq_some_iff.mp known
  obtain ⟨isVariable, isName, isDomain⟩ : symbol.kind = _ ∧ symbol.name = _ ∧ symbol.domainUri = _ := by
    simpa using same
  obtain ⟨domainFile, isDomainFile, isUri⟩ := Option.map_eq_some_iff.mp domains
  simp only [Option.any_eq_true, Bool.and_eq_true, beq_iff_eq, Option.isNone_iff_eq_none, List.all_eq_true] at ready
  obtain ⟨problemFile, found, ⟨read, plain⟩, p, isProblem, entries, named⟩ := ready
  refine ⟨symbol, problemFile, p, isSymbol, isName, found, isProblem, entries, fun entry isEntry => ?_⟩
  refine fact_is_referenced_iff reachable found isProblem (by simp [read]) plain isDomainFile isVariable
    (by rw [isDomain, isUri]) ?_ isEntry (isName ▸ named entry isEntry)
  rw [isName]
  exact List.all_eq_true.mp (by decide)

/-- The fact that a thing is at an object called `start` is not found with its predicate. -/
theorem fact_like_time_is_unreferenced :
    let reader : FileReader := ⟨0, {}, fun _ => .error (.path .missing)⟩
    let domainUri : Uri := { scheme := "file", authority := some {}, path := "/w/d.pddl" }
    let problemUri : Uri := { scheme := "file", authority := some {}, path := "/w/p.pddl" }
    let w := Workspace.run { reader }
      [.upsert domainUri 1 "(define (domain d) (:predicates (at ?x ?y)))".toList,
       .upsert problemUri 1 "(define (problem p) (:domain d) (:objects start depot) (:init (at start depot)))".toList]
    w.Reachable ∧ w.domainBinding problemUri = .unique domainUri ∧
      w.files.map (fun file => (file.status, Directive.ofText? file.document.chars)) =
        [(.parsed, none), (.parsed, none)] ∧
      (w.find? problemUri).map (fun file => file.problem?.map fun p => p.initEntries.map (·.atom)) =
        some (some [⟨"at", ["start", "depot"], ⟨63, 65⟩⟩]) ∧
      (at? w domainUri ⟨0, 33⟩).1.map (fun symbol =>
          (symbol.kind, symbol.name, symbol.domainUri, references w symbol true)) =
        some (.variable .predicate, "at", domainUri, [⟨domainUri, ⟨⟨0, 33⟩, ⟨0, 35⟩⟩⟩]) := by
  intro reader domainUri problemUri w
  exact ⟨⟨reader, _, by decide, rfl⟩, by decide +kernel⟩

end Symbol
end PddlAssist
