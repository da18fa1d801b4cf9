import PddlAssist.Proofs.Document.Ranges
import PddlAssist.Proofs.Reading.Declarations
import PddlAssist.Proofs.Tree.Spans
import PddlAssist.Proofs.TypedList.Parts
import PddlAssist.SourceFile

namespace PddlAssist

open Text

namespace Document

def HasRanges (d : Document) (issues : List Issue) : Prop := ∀ issue ∈ issues, d.HasRange issue.range

variable {d : Document} {issues : List Issue}

theorem hasRanges_nil : d.HasRanges [] := fun _ nothing => absurd nothing List.not_mem_nil

theorem HasRanges.append {more : List Issue} (known : d.HasRanges issues) (found : d.HasRanges more) :
    d.HasRanges (issues ++ more) := List.forall_mem_append.mpr ⟨known, found⟩

theorem HasRanges.add (known : d.HasRanges issues) {issue : Issue} (here : d.HasRange issue.range) :
    d.HasRanges (issues ++ [issue]) := known.append (List.forall_mem_singleton.mpr here)

end Document

def Text.ShowsName (cs : List Char) (name : String) : Option Span → Prop
  | none => name = ""
  | some span => Shows cs span name.toList

def ProblemSections.all (s : ProblemSections) : List Span :=
  s.objects.toList ++ s.init.toList ++ s.goal.toList ++ s.metric.toList

structure Action.IsPlaced (cs : List Char) (a : Action) : Prop where
  span : Tree.IsBracketed cs a.span
  name : ShowsName cs a.name a.nameSpan
  parts : ∀ span ∈ a.condition.toList ++ a.effect.toList, Tree.IsBracketed cs span

structure Domain.IsPlaced (cs : List Char) (d : Domain) : Prop where
  name : ShowsName cs d.name d.nameSpan
  sections : ∀ span ∈ d.sections.all, Tree.IsBracketed cs span
  actions : ∀ a ∈ d.actions, a.IsPlaced cs

structure Problem.IsPlaced (cs : List Char) (p : Problem) : Prop where
  domainName : Shows cs p.domainNameSpan p.domainName.toList ∨
    p.domainName = "" ∧ Tree.IsBracketed cs p.domainNameSpan
  objects : ∀ entry ∈ p.objectEntries, Shows cs entry.span entry.name.toList
  init : ∀ entry ∈ p.initEntries, Shows cs entry.atom.span entry.atom.name.toList
  sections : ∀ span ∈ p.sections.all, Tree.IsBracketed cs span

def FileKind.IsPlaced (cs : List Char) : FileKind → Prop
  | domain d => d.IsPlaced cs
  | problem p => p.IsPlaced cs
  | plan _ | happenings _ | unknown => True

/-- All that is remembered of places in a text is there. -/
structure SourceFile.IsPlaced (f : SourceFile) (text : List Char) : Prop where
  chars : f.document.chars = text
  nodes : ∀ n ∈ f.tree.nodes.map Prod.fst, n.IsPlaced text
  kind : f.kind.IsPlaced text
  issues : f.document.HasRanges f.issues

variable {cs : List Char}

theorem Text.Shows.hasRange {span : Span} {part : List Char} (shows : Shows cs span part) :
    Document.HasRange ⟨cs⟩ (Document.rangeOf ⟨cs⟩ span) :=
  Document.hasRange_rangeOf shows.start shows.stop shows.ordered

theorem Text.showsName_word {word : Option Token} (shows : ∀ t ∈ word, Shows cs t.span t.text.toList) :
    ShowsName cs (word.elim "" (·.text)) (word.map (·.span)) := by
  cases word with
  | none => rfl
  | some t => exact shows t rfl

theorem TypedEntry.exists_of_mem_readList {nodes : List Node} {entry : TypedEntry} (member : entry ∈ readList nodes) :
    ∃ n ∈ nodes, ∃ t, n.terminal? = some t ∧ entry.name = t.text ∧ entry.span = t.span := by
  have each := (List.forall₂_iff_get.mp (forall₂_readAfter (nodes.filter (!·.isComment)))).2
  have length := (forall₂_readAfter (nodes.filter (!·.isComment))).length_eq
  obtain ⟨i, inside, rfl⟩ := List.mem_iff_getElem.mp member
  obtain ⟨t, isWord, name, span⟩ := (each i (length ▸ inside) inside).written
  obtain ⟨n, isNode, isWord⟩ := Option.bind_eq_some_iff.mp isWord
  exact ⟨n, List.mem_of_mem_filter (List.mem_of_getElem? isNode), t, isWord, name, span⟩

namespace Tree

section

variable {n : Node} (listed : n ∈ (build cs).nodes.map Prod.fst)

include listed

theorem hasRange_of_mem_nodes : Document.HasRange ⟨cs⟩ (Document.rangeOf ⟨cs⟩ n.span) := by
  obtain ⟨part, shows⟩ := shows_of_mem_nodes listed
  exact shows.hasRange

theorem shows_of_firstWord? {t : Token} (isFirst : n.firstWord? = some t) : Shows cs t.span t.text.toList := by
  obtain ⟨arg, member, isWord⟩ := List.exists_of_findSome?_eq_some isFirst
  exact shows_of_terminal? (mem_nodes_of_mem_arguments listed member) isWord

theorem shows_of_nameToken? {t : Token} (named : n.nameToken? = some t) : Shows cs t.span t.text.toList := by
  rw [Node.nameToken?] at named
  split at named
  · obtain ⟨child, isFirst, isWord⟩ := Option.bind_eq_some_iff.mp named
    have isChild := List.mem_of_mem_filter (List.mem_of_head? isFirst)
    exact shows_of_terminal? (mem_nodes_of_mem_children listed isChild) isWord
  · cases named

theorem shows_of_mem_readList {entry : TypedEntry} (member : entry ∈ TypedEntry.readList n.arguments) :
    Shows cs entry.span entry.name.toList := by
  obtain ⟨arg, isArgument, t, isWord, name, span⟩ := TypedEntry.exists_of_mem_readList member
  rw [name, span]
  exact shows_of_terminal? (mem_nodes_of_mem_arguments listed isArgument) isWord

end

end Tree

namespace Domain

theorem isPlaced_readActionParts {a : Action} (placed : a.IsPlaced cs) {nodes : List Node}
    (listed : ∀ n ∈ nodes, n ∈ (Tree.build cs).nodes.map Prod.fst) : (readActionParts a nodes).IsPlaced cs := by
  induction nodes generalizing a with
  | nil => exact placed
  | cons node rest ih =>
    rw [List.forall_mem_cons] at listed
    rw [readActionParts.eq_def]
    simp only
    split
    · rename_i token value isWord isValue
      refine ih ?_ listed.2
      split
      · exact placed
      · rename_i isBracket
        have bracketed : Tree.IsBracketed cs value.span :=
          Tree.isBracketed_of_mem_nodes (listed.2 value (List.mem_of_head? isValue)) (by simpa using isBracket)
        have single : ∀ span ∈ (some value.span).toList, Tree.IsBracketed cs span := by simpa using bracketed
        obtain ⟨condition, effect⟩ := List.forall_mem_append.mp placed.parts
        split
        · exact ⟨placed.span, placed.name, placed.parts⟩
        · exact ⟨placed.span, placed.name, List.forall_mem_append.mpr ⟨single, effect⟩⟩
        · exact ⟨placed.span, placed.name, List.forall_mem_append.mpr ⟨single, effect⟩⟩
        · exact ⟨placed.span, placed.name, List.forall_mem_append.mpr ⟨condition, single⟩⟩
        · exact placed
    · exact ih placed listed.2

section

variable {part : Node} (listed : part ∈ (Tree.build cs).nodes.map Prod.fst)

include listed

theorem isPlaced_readAction (isBracket : part.isBracket = true) (kind : ActionKind) :
    (readAction (Tree.build cs) kind part).IsPlaced cs := by
  have arguments : ∀ arg ∈ part.arguments, arg ∈ (Tree.build cs).nodes.map Prod.fst := fun arg member =>
    Tree.mem_nodes_of_mem_arguments listed member
  refine isPlaced_readActionParts ⟨Tree.isBracketed_of_mem_nodes listed isBracket, ?_, by simp⟩ arguments
  refine showsName_word fun t isName => ?_
  obtain ⟨arg, isFirst, isWord⟩ := Option.bind_eq_some_iff.mp (Option.filter_eq_some_iff.mp isName).1
  exact Tree.shows_of_terminal? (arguments arg (List.mem_of_head? isFirst)) isWord

theorem hasRanges_readTypes {r : Reading} (known : Document.HasRanges ⟨cs⟩ r.issues) :
    Document.HasRanges ⟨cs⟩ (readTypes ⟨cs⟩ r part).issues := by
  refine List.foldlRecOn (motive := fun r : Reading => Document.HasRanges ⟨cs⟩ r.issues)
    _ _ known fun r known entry isEntry => ?_
  refine List.foldlRecOn (motive := fun r : Reading => Document.HasRanges ⟨cs⟩ r.issues)
    _ _ known fun r known parent _ => ?_
  cases added : r.domain.hierarchy.addEdge? entry.name parent with
  | some hierarchy => simpa only [declareParent, added] using known
  | none =>
    simp only [declareParent, added]
    exact known.add (Tree.shows_of_mem_readList listed isEntry).hasRange

theorem hasRanges_readVariables (kind : VariableKind) :
    Document.HasRanges ⟨cs⟩ (readVariables ⟨cs⟩ (Tree.build cs) kind part).2 := by
  rw [readVariables_eq]
  refine List.foldlRecOn (motive := fun r : List Variable × List Issue =>
    Document.HasRanges ⟨cs⟩ r.2) _ _ Document.hasRanges_nil fun r known node member => ?_
  unfold declareVariable
  split
  · exact known
  · split
    · have isListed := Tree.mem_nodes_of_mem_arguments listed (List.mem_of_mem_filter member)
      exact known.add (Tree.hasRange_of_mem_nodes isListed)
    · exact known

end

/-- What is known of the domain while it is read, its sections apart. -/
structure Reading.IsPlaced (cs : List Char) (r : Reading) : Prop where
  name : ShowsName cs r.domain.name r.domain.nameSpan
  actions : ∀ a ∈ r.domain.actions, a.IsPlaced cs
  issues : Document.HasRanges ⟨cs⟩ r.issues

theorem Reading.IsPlaced.readTypes {r : Reading} (placed : r.IsPlaced cs) {part : Node}
    (listed : part ∈ (Tree.build cs).nodes.map Prod.fst) : (Domain.readTypes ⟨cs⟩ r part).IsPlaced cs := by
  have same := readTypes_untyped ⟨cs⟩ r part
  have name : (Domain.readTypes ⟨cs⟩ r part).domain.name = r.domain.name := (congrArg Domain.name same :)
  have span : (Domain.readTypes ⟨cs⟩ r part).domain.nameSpan = r.domain.nameSpan := (congrArg Domain.nameSpan same :)
  have actions : (Domain.readTypes ⟨cs⟩ r part).domain.actions = r.domain.actions := (congrArg Domain.actions same :)
  refine ⟨?_, ?_, hasRanges_readTypes listed placed.issues⟩
  · rw [name, span]
    exact placed.name
  · rw [actions]
    exact placed.actions

theorem Reading.IsPlaced.readSection {r : Reading} (placed : r.IsPlaced cs) {part : Node}
    (listed : part ∈ (Tree.build cs).nodes.map Prod.fst) (isBracket : part.isBracket = true) :
    (Domain.readSection ⟨cs⟩ (Tree.build cs) r part).IsPlaced cs := by
  have declared (kind : VariableKind) := placed.issues.append (hasRanges_readVariables listed kind)
  obtain ⟨name, actions, issues⟩ := placed
  unfold Domain.readSection
  split
  · exact ⟨name, actions, issues⟩
  · exact ⟨name, actions, issues⟩
  · refine Reading.IsPlaced.readTypes ?_ listed
    exact ⟨name, actions, issues⟩
  · exact ⟨name, actions, issues⟩
  · exact ⟨name, actions, declared .predicate⟩
  · exact ⟨name, actions, declared .function⟩
  · exact ⟨name, actions, issues⟩
  · split
    · rename_i kind _
      refine ⟨name, List.forall_mem_append.mpr ⟨actions, List.forall_mem_singleton.mpr ?_⟩, issues⟩
      exact isPlaced_readAction listed isBracket kind
    · exact ⟨name, actions, issues⟩

theorem isPlaced_ofTree? {d : Domain} {issues : List Issue} (read : ofTree? ⟨cs⟩ (Tree.build cs) = some (d, issues)) :
    d.IsPlaced cs ∧ Document.HasRanges ⟨cs⟩ issues := by
  have sections : ∀ span ∈ d.sections.all, Tree.IsBracketed cs span := by
    intro span member
    obtain ⟨define, part, isDefine, isPart, isBracket, rfl⟩ := sections_ofTree? read member
    have listed := Tree.mem_nodes_of_mem_children (Tree.mem_nodes_of_define? isDefine) isPart
    exact Tree.isBracketed_of_mem_nodes listed isBracket
  simp only [ofTree?, Option.bind_eq_bind, Option.bind_eq_some_iff] at read
  obtain ⟨define, isDefine, header, isHeader, read⟩ := read
  have isListed := Tree.mem_nodes_of_define? isDefine
  have headerListed := Tree.mem_nodes_of_mem_children isListed (List.mem_of_mem_filter (List.mem_of_head? isHeader))
  cases read
  suffices placed : Reading.IsPlaced cs _ from ⟨⟨placed.name, sections, placed.actions⟩, placed.issues⟩
  refine List.foldlRecOn (motive := fun r : Reading => r.IsPlaced cs) _ _ ?_ fun r placed part member => ?_
  · refine ⟨showsName_word fun t isWord => Tree.shows_of_firstWord? headerListed isWord, by simp, ?_⟩
    split
    · exact Document.hasRanges_nil.add (Tree.hasRange_of_mem_nodes headerListed)
    · exact Document.hasRanges_nil
  · obtain ⟨isSignificant, isBracket⟩ := List.mem_filter.mp member
    exact placed.readSection (Tree.mem_nodes_of_mem_children isListed (List.mem_of_mem_filter isSignificant)) isBracket

end Domain

namespace Problem

theorem shows_of_saidIn {a : Atom} (said : SaidIn (Tree.build cs) a) : Shows cs a.span a.name.toList := by
  obtain ⟨b, isBracket, read⟩ := said
  obtain ⟨t, named, _, rfl⟩ := readAtom?_eq_some_iff.mp read
  exact Tree.shows_of_nameToken? (List.mem_of_mem_filter isBracket) named

/-- What is known of the problem while it is read, its initial state apart. -/
structure Reading.IsPlaced (cs : List Char) (r : Reading) : Prop where
  domainName : Shows cs r.problem.domainNameSpan r.problem.domainName.toList ∨
    r.problem.domainName = "" ∧ Tree.IsBracketed cs r.problem.domainNameSpan
  objects : ∀ entry ∈ r.problem.objectEntries, Shows cs entry.span entry.name.toList
  sections : ∀ span ∈ r.problem.sections.all, Tree.IsBracketed cs span
  issues : Document.HasRanges ⟨cs⟩ r.issues

variable {r : Reading}

theorem Reading.IsPlaced.readInit (placed : r.IsPlaced cs) {n : Node}
    (listed : n ∈ (Tree.build cs).nodes.map Prod.fst) :
    (Problem.readInit ⟨cs⟩ (Tree.build cs) r n).IsPlaced cs := by
  obtain ⟨domainName, objects, sections, issues⟩ := placed
  unfold Problem.readInit
  split
  · exact ⟨domainName, objects, sections, issues⟩
  · exact ⟨domainName, objects, sections, issues.add (Tree.hasRange_of_mem_nodes listed)⟩

theorem Reading.IsPlaced.readSection (placed : r.IsPlaced cs) {part : Node}
    (listed : part ∈ (Tree.build cs).nodes.map Prod.fst) (isBracket : part.isBracket = true) :
    (Problem.readSection ⟨cs⟩ (Tree.build cs) r part).IsPlaced cs := by
  have bracketed := Tree.isBracketed_of_mem_nodes listed isBracket
  obtain ⟨domainName, objects, sections, issues⟩ := placed
  have more (s : ProblemSections) (known : ∀ span ∈ s.all, span ∈ r.problem.sections.all ∨ span = part.span) :
      ∀ span ∈ s.all, Tree.IsBracketed cs span := by
    intro span member
    rcases known span member with before | rfl
    · exact sections span before
    · exact bracketed
  unfold Problem.readSection
  split
  · exact ⟨domainName, fun entry => Tree.shows_of_mem_readList listed,
      more _ (by simp only [ProblemSections.all]; grind), issues⟩
  · have started : Reading.IsPlaced cs { r with problem := { r.problem with
        sections := { r.problem.sections with init := some part.span } } } :=
      ⟨domainName, objects, more _ (by simp only [ProblemSections.all]; grind), issues⟩
    have read := List.foldlRecOn (motive := fun r : Reading => r.IsPlaced cs)
      (part.arguments.filter Node.isBracket) (Problem.readInit ⟨cs⟩ (Tree.build cs)) started
      fun r placed n member => placed.readInit (Tree.mem_nodes_of_mem_arguments listed (List.mem_of_mem_filter member))
    exact ⟨read.domainName, read.objects, read.sections, read.issues⟩
  · exact ⟨domainName, objects, more _ (by simp only [ProblemSections.all]; grind), issues⟩
  · exact ⟨domainName, objects, more _ (by simp only [ProblemSections.all]; grind), issues⟩
  · exact ⟨domainName, objects, sections, issues⟩

theorem isPlaced_ofTree? {p : Problem} {issues : List Issue}
    (read : ofTree? ⟨cs⟩ (Tree.build cs) = some (p, issues)) :
    p.IsPlaced cs ∧ Document.HasRanges ⟨cs⟩ issues := by
  have said := saidIn_of_ofTree? read
  simp only [ofTree?, Option.bind_eq_bind, Option.bind_eq_some_iff] at read
  obtain ⟨define, isDefine, header, _, reference, isReference, read⟩ := read
  have isListed := Tree.mem_nodes_of_define? isDefine
  obtain ⟨isChild, named⟩ := List.mem_filter.mp (List.mem_of_head? isReference)
  have referenceListed := Tree.mem_nodes_of_mem_children isListed isChild
  cases read
  suffices placed : Reading.IsPlaced cs _ from
    ⟨⟨placed.domainName, placed.objects, fun entry member => shows_of_saidIn (said entry member), placed.sections⟩,
      placed.issues⟩
  clear said
  refine List.foldlRecOn (motive := fun r : Reading => r.IsPlaced cs) _ _ ?_ fun r placed part member => ?_
  · cases isWord : reference.firstWord? with
    | some t =>
      exact ⟨.inl (Tree.shows_of_firstWord? referenceListed isWord), by simp, by simp [ProblemSections.all],
        Document.hasRanges_nil⟩
    | none =>
      have bracketed := Tree.isBracketed_of_mem_nodes referenceListed (Bool.and_eq_true_iff.mp named).1
      exact ⟨.inr ⟨rfl, bracketed⟩, by simp, by simp [ProblemSections.all],
        Document.hasRanges_nil.add (Tree.hasRange_of_mem_nodes referenceListed)⟩
  · obtain ⟨isSignificant, isBracket⟩ := List.mem_filter.mp member
    exact placed.readSection (Tree.mem_nodes_of_mem_children isListed (List.mem_of_mem_filter isSignificant)) isBracket

end Problem

section

variable {document : Document}

namespace Plan

theorem hasRanges_readLine (epsilon : Float) {r : Reading} (known : document.HasRanges r.issues)
    {n : Nat} (isLine : n < document.lineCount) (line : List Char) :
    document.HasRanges (readLine document epsilon r n line).issues := by
  unfold readLine
  simp only
  split
  · exact known
  · exact known
  · split
    · exact known
    · split
      · exact known.add (Document.hasRange_lineRange isLine)
      · exact known
      · exact known

theorem hasRanges_readLines (epsilon : Float) {r : Reading} (known : document.HasRanges r.issues)
    {n : Nat} {lines : List (Nat × List Char)} (areLines : n + lines.length ≤ document.lineCount) :
    document.HasRanges (readLines document epsilon r n lines).issues := by
  induction lines generalizing r n with
  | nil => exact known
  | cons line rest ih =>
    rw [List.length_cons] at areLines
    exact ih (hasRanges_readLine epsilon known (by omega) line.2) (by omega)

end Plan

namespace Timeline

theorem range_of_mem_add {t : Timeline} {h : Happening} {range : Range} {issue : Issue}
    (member : issue ∈ (t.add h range).issues) : issue ∈ t.issues ∨ issue.range = range := by
  have timed {issue : Issue} (member : issue ∈ (t.checkTime h range).issues) :
      issue ∈ t.issues ∨ issue.range = range := by
    unfold checkTime report at member
    split at member
    · exact (List.mem_append.mp member).imp_right fun last => by rw [List.mem_singleton.mp last]; rfl
    · exact .inl member
  have paired : issue ∈ (t.checkTime h range).issues ∨ issue.range = range := by
    change issue ∈ ((t.checkTime h range).pair h range).issues at member
    unfold pair report at member
    split at member
    · split at member
      · exact (List.mem_append.mp member).imp_right fun last => by rw [List.mem_singleton.mp last]; rfl
      · exact .inl member
    · split at member
      · exact .inl member
      · exact (List.mem_append.mp member).imp_right fun last => by rw [List.mem_singleton.mp last]; rfl
    · exact .inl member
  exact paired.elim timed .inr

theorem hasRanges_readLine {t : Timeline} (known : document.HasRanges t.issues)
    {n : Nat} (isLine : n < document.lineCount) (line : List Char) :
    document.HasRanges (readLine document t n line).issues := by
  have here := Document.hasRange_lineRange isLine
  unfold readLine
  simp only
  split
  · exact known
  · split
    · intro issue member
      rcases range_of_mem_add member with before | same
      · exact known issue before
      · rw [same]
        exact here
    · exact known.add here

theorem hasRanges_readLines {t : Timeline} (known : document.HasRanges t.issues)
    {n : Nat} {lines : List (Nat × List Char)} (areLines : n + lines.length ≤ document.lineCount) :
    document.HasRanges (readLines document t n lines).issues := by
  induction lines generalizing t n with
  | nil => exact known
  | cons line rest ih =>
    rw [List.length_cons] at areLines
    exact ih (hasRanges_readLine known (by omega) line.2) (by omega)

end Timeline

end

namespace SourceFile

theorem hasRanges_bracketIssues : Document.HasRanges ⟨cs⟩ (bracketIssues ⟨cs⟩ (Tree.build cs)) := by
  refine Document.HasRanges.append ?_ ?_
  · refine List.forall_mem_map.mpr ?_
    intro n isUnclosed
    obtain ⟨listed, isBracket⟩ := List.mem_filter.mp isUnclosed
    obtain ⟨inner, shows⟩ := (Tree.isBracketed_of_mem_nodes listed (Bool.and_eq_true_iff.mp isBracket).1).shows
    obtain ⟨before, after, whole, start, _⟩ := shows_iff.mp shows
    have narrow : '('.utf8Size = 1 := rfl
    have opening : Shows cs ⟨n.span.start, n.span.start + 1⟩ ['('] :=
      shows_iff.mpr ⟨before, inner ++ after, whole, start, by simp [start, narrow]⟩
    exact opening.hasRange
  · refine List.forall_mem_map.mpr ?_
    exact fun n isStray => Tree.hasRange_of_mem_nodes (List.mem_of_mem_filter isStray)

theorem isPlaced_classify (cs : List Char) : (classify ⟨cs⟩ (Tree.build cs)).1.IsPlaced cs ∧
    Document.HasRanges ⟨cs⟩ (classify ⟨cs⟩ (Tree.build cs)).2 := by
  unfold classify
  split
  · rename_i d issues read
    obtain ⟨placed, ranges⟩ := Domain.isPlaced_ofTree? read
    exact ⟨placed, hasRanges_bracketIssues.append ranges⟩
  · split
    · rename_i p issues read
      obtain ⟨placed, ranges⟩ := Problem.isPlaced_ofTree? read
      exact ⟨placed, hasRanges_bracketIssues.append ranges⟩
    · exact ⟨trivial, hasRanges_bracketIssues⟩

/-- Whatever text is read, all that is remembered of places in it is there, unless a pre-processor makes another text of
it. -/
theorem read_is_placed (reader : FileReader) (uri : Uri) (version : Int) (text : List Char)
    (plain : FileFormat.ofUri uri = .pddl → Directive.ofText? text = none) :
    (SourceFile.read reader uri version text).IsPlaced text := by
  have nodes : ∀ n ∈ (Tree.build text).nodes.map Prod.fst, n.IsPlaced text := fun n => Tree.isPlaced_of_mem_nodes
  have lines : 0 + (Document.lines ⟨text⟩).length ≤ Document.lineCount ⟨text⟩ := by
    simp [Document.lines, Document.length_linesFrom, Document.lineCount]
  unfold SourceFile.read
  cases format : FileFormat.ofUri uri with
  | plan => exact ⟨rfl, nodes, trivial, Plan.hasRanges_readLines reader.epsilon Document.hasRanges_nil lines⟩
  | happenings =>
    refine ⟨rfl, nodes, trivial, (Timeline.hasRanges_readLines Document.hasRanges_nil lines).append ?_⟩
    exact List.forall_mem_map.mpr fun h _ => Document.hasRange_end ⟨text⟩
  | pddl =>
    have isPlain : readPddl reader uri ⟨text⟩ (Tree.build text) = classify ⟨text⟩ (Tree.build text) := by
      simp [readPddl, plain format]
    obtain ⟨kind, issues⟩ := isPlaced_classify text
    simp only [isPlain]
    exact ⟨rfl, nodes, kind, issues⟩

theorem read_is_placed_unclosed :
    let reader : FileReader := ⟨0, {}, fun _ => .error (.path .missing)⟩
    let uri : Uri := { scheme := "file", authority := some {}, path := "/w/p.pddl" }
    let text := "(define (problem p) (:domain dépôt) (:objects a) (:init (at a b) (at".toList
    (FileFormat.ofUri uri = .pddl → Directive.ofText? text = none) ∧
      (SourceFile.read reader uri 1 text).problem?.map (fun p => (p.domainName, p.domainNameSpan, p.sections.all)) =
        some ("dépôt", ⟨29, 36⟩, [⟨38, 50⟩, ⟨51, 70⟩]) ∧
      (SourceFile.read reader uri 1 text).IsPlaced text := by
  intro reader uri text
  have plain : FileFormat.ofUri uri = .pddl → Directive.ofText? text = none := by
    simp only [text, String.reduceToList]
    decide +kernel
  refine ⟨plain, ?_, read_is_placed reader uri 1 text plain⟩
  simp only [text, String.reduceToList]
  decide +kernel

end SourceFile
end PddlAssist
