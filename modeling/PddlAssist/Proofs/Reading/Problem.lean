import PddlAssist.Proofs.Reading.Domain

namespace PddlAssist

open Text

section Alike

variable (rename : String → String)

def Atom.Alike (a a' : Atom) : Prop := a'.name = rename a.name ∧ a'.arguments = a.arguments

inductive InitEntry.Alike : InitEntry → InitEntry → Prop where
  | literal {a a' : Atom} (atom : Atom.Alike rename a a') (positive : Bool) :
    Alike (.literal a positive) (.literal a' positive)
  | fluent {a a' : Atom} (atom : Atom.Alike rename a a') (value : Float) :
    Alike (.fluent a value) (.fluent a' value)
  | timedLiteral (time : Float) {a a' : Atom} (atom : Atom.Alike rename a a') (positive : Bool) :
    Alike (.timedLiteral time a positive) (.timedLiteral time a' positive)
  | timedFluent (time : Float) {a a' : Atom} (atom : Atom.Alike rename a a') (value : Float) :
    Alike (.timedFluent time a value) (.timedFluent time a' value)

structure ProblemSections.Alike (s s' : ProblemSections) : Prop where
  objects : s'.objects.isSome = s.objects.isSome
  init : s'.init.isSome = s.init.isSome
  goal : s'.goal.isSome = s.goal.isSome
  metric : s'.metric.isSome = s.metric.isSome

structure Problem.Alike (p p' : Problem) : Prop where
  name : p'.name = p.name
  domainName : p'.domainName = p.domainName
  objects : p'.objects = p.objects
  objectEntries : List.Forall₂ (TypedEntry.Alike Eq) p.objectEntries p'.objectEntries
  initEntries : List.Forall₂ (InitEntry.Alike rename) p.initEntries p'.initEntries
  sections : ProblemSections.Alike p.sections p'.sections
  preprocessed : p.preprocessed = none ∧ p'.preprocessed = none

structure Problem.Reading.Alike (r r' : Reading) : Prop where
  problem : Problem.Alike rename r.problem r'.problem
  issues : List.Forall₂ (Issue.Alike rename) r.issues r'.issues

end Alike

namespace Similarity

variable {rename : String → String} {docs : Option String → Option String → Prop}
  {tree tree' : Tree} {R : Node → Node → Prop}

theorem allTerminal (sim : Similarity rename docs tree tree' R) {nodes nodes' : List Node}
    (alike : List.Forall₂ R nodes nodes') : nodes'.all Node.isTerminal = nodes.all Node.isTerminal := by
  induction alike with
  | nil => rfl
  | cons head _ ih => simp only [List.all_cons, ih, sim.isTerminal head]

theorem readAtom? (sim : Similarity rename docs tree tree' R) {n n' : Node} (alike : R n n') :
    Option.Rel (Atom.Alike rename) (Problem.readAtom? n) (Problem.readAtom? n') := by
  have named := sim.name alike
  have args := sim.arguments alike
  simp only [Problem.readAtom?, Option.bind_eq_bind]
  cases first : n.nameToken? <;> cases second : n'.nameToken? <;> simp [first, second] at named
  · exact .none
  · simp only [Option.bind_some, sim.allTerminal args, sim.texts args]
    split
    · exact .some ⟨congrArg Token.text named, rfl⟩
    · exact .none

theorem readArgumentAtom? (sim : Similarity rename docs tree tree' R) {n n' : Node} (alike : R n n') :
    Option.Rel (Atom.Alike rename) (Problem.readArgumentAtom? n) (Problem.readArgumentAtom? n') := by
  have args := sim.arguments alike
  simp only [Problem.readArgumentAtom?]
  generalize n.arguments = args, n'.arguments = args' at args
  cases args with
  | nil => exact .none
  | cons head _ =>
    simp only [List.head?_cons, Option.filter, sim.isBracket head]
    split
    · exact sim.readAtom? head
    · exact .none

theorem number? (sim : Similarity rename docs tree tree' R) {n n' : Node} (alike : R n n') :
    Problem.number? n' = Problem.number? n := by
  rcases sim.word_cases alike with ⟨none, none'⟩ | ⟨token, token', some, some', _, text⟩
  · simp [Problem.number?, none, none']
  · simp [Problem.number?, some, some', text]

theorem isEquals (sim : Similarity rename docs tree tree' R) {n n' : Node} (alike : R n n') {name : String}
    (named : n.name? = some name) : rename name = "=" ↔ name = "=" := by
  rcases sim.plain alike named with same | ⟨plain, plain'⟩
  · rw [same]
  · have differs {word : String} (wordPlain : IsPlainName word) : word ≠ "=" := by
      rintro rfl
      have impossible := wordPlain "=" (by decide)
      rw [sameName_refl] at impossible
      cases impossible
    simp [differs plain, differs plain']

theorem number?_second (sim : Similarity rename docs tree tree' R) {nodes nodes' : List Node}
    (alike : List.Forall₂ R nodes nodes') :
    (nodes'[1]?).bind Problem.number? = (nodes[1]?).bind Problem.number? := by
  rcases alike with _ | ⟨_, _ | ⟨second, _⟩⟩
  · rfl
  · rfl
  · simpa using sim.number? second

theorem readUntimed? (sim : Similarity rename docs tree tree' R) {n n' : Node} (alike : R n n') :
    Option.Rel (InitEntry.Alike rename) (Problem.readUntimed? n) (Problem.readUntimed? n') := by
  have args := sim.arguments alike
  have argument := sim.readArgumentAtom? alike
  have whole := sim.readAtom? alike
  have isNot := sim.hasName alike (by decide : "not" ∈ reservedNames)
  simp only [Problem.readUntimed?, sim.name? alike]
  cases named : n.name? with
  | none => exact .none
  | some name =>
    simp only [Node.hasName, sim.name? alike, named, Option.map_some, Option.any_some] at isNot
    simp only [Option.map_some, Option.bind_some, sim.isEquals alike named, isNot,
      Option.bind_eq_bind, sim.number?_second args]
    generalize Problem.readArgumentAtom? n = first, Problem.readArgumentAtom? n' = first' at argument
    generalize Problem.readAtom? n = atom, Problem.readAtom? n' = atom' at whole
    split
    · cases argument with
      | none => exact .none
      | some atomAlike =>
        cases (n.arguments[1]?).bind Problem.number? with
        | none => exact .none
        | some value => exact .some (.fluent atomAlike value)
    · split
      · cases argument with
        | none => exact .none
        | some atomAlike => exact .some (.literal atomAlike false)
      · cases whole with
        | none => exact .none
        | some atomAlike => exact .some (.literal atomAlike true)

theorem timed? (sim : Similarity rename docs tree tree' R) {n n' : Node} (alike : R n n') :
    Option.Rel (fun found found' => found'.1 = found.1 ∧ R found.2 found'.2)
      (Problem.timed? n) (Problem.timed? n') := by
  have args := sim.arguments alike
  simp only [Problem.timed?, sim.hasName alike (by decide : "at" ∈ reservedNames)]
  generalize n.arguments = args, n'.arguments = args' at args
  cases n.hasName "at" with
  | false => exact .none
  | true =>
    rcases args with _ | ⟨time, _ | ⟨inner, _ | _⟩⟩
    · exact .none
    · exact .none
    · simp only [sim.isBracket inner, sim.number? time]
      split
      · cases Problem.number? _ with
        | none => exact .none
        | some value => exact .some ⟨rfl, inner⟩
      · exact .none
    · exact .none

theorem readEntry? (sim : Similarity rename docs tree tree' R) {n n' : Node} (alike : R n n') :
    Option.Rel (InitEntry.Alike rename) (Problem.readEntry? n) (Problem.readEntry? n') := by
  have outer := sim.timed? alike
  have plain := sim.readUntimed? alike
  simp only [Problem.readEntry?]
  generalize Problem.timed? n = found, Problem.timed? n' = found' at outer
  cases outer with
  | none => exact plain
  | @some pair pair' related =>
    obtain ⟨time, inner⟩ := pair
    obtain ⟨time', inner'⟩ := pair'
    obtain ⟨sameTime, innerAlike⟩ := related
    simp only at sameTime innerAlike
    subst sameTime
    have again := sim.timed? innerAlike
    have read := sim.readUntimed? innerAlike
    have isTimed : (Problem.timed? inner').isSome = (Problem.timed? inner).isSome := by
      generalize Problem.timed? inner = found, Problem.timed? inner' = found' at again
      cases again <;> rfl
    simp only [isTimed]
    split
    · exact .none
    · generalize Problem.readUntimed? inner = entry, Problem.readUntimed? inner' = entry' at read
      cases read with
      | none => exact .none
      | some entryAlike =>
        cases entryAlike with
        | literal atomAlike positive => exact .some (.timedLiteral _ atomAlike positive)
        | fluent atomAlike value => exact .some (.timedFluent _ atomAlike value)
        | timedLiteral => exact .none
        | timedFluent => exact .none

theorem quotation_unquoted (text : String) (range range' : Range) (text' : String) :
    (Issue.warning ("Unrecognized initial state entry: " ++ text') range').unquoted =
      (Issue.warning ("Unrecognized initial state entry: " ++ text) range).unquoted := by
  have quoted (text : String) (range : Range) :
      (Issue.warning ("Unrecognized initial state entry: " ++ text) range).unquoted =
        "Unrecognized initial state entry: " := by
    rw [Issue.unquoted, if_pos]
    simp [Issue.warning]
  rw [quoted, quoted]

theorem readInit (sim : Similarity rename docs tree tree' R) (document document' : Document)
    {r r' : Problem.Reading} (readingAlike : Problem.Reading.Alike rename r r') {n n' : Node}
    (alike : R n n') :
    Problem.Reading.Alike rename (Problem.readInit document tree r n)
      (Problem.readInit document' tree' r' n') := by
  have problem := readingAlike.problem
  have read := sim.readEntry? alike
  simp only [Problem.readInit]
  generalize Problem.readEntry? n = entry, Problem.readEntry? n' = entry' at read
  cases read with
  | none =>
    refine ⟨problem, List.rel_append readingAlike.issues (.cons ⟨rfl, fun _ => ?_⟩ .nil)⟩
    exact quotation_unquoted _ _ _ _
  | some entryAlike =>
    exact ⟨{ problem with initEntries := List.rel_append problem.initEntries (.cons entryAlike .nil) },
      readingAlike.issues⟩

theorem readInits (sim : Similarity rename docs tree tree' R) (document document' : Document)
    {r r' : Problem.Reading} (readingAlike : Problem.Reading.Alike rename r r') {n n' : Node}
    (alike : R n n') :
    Problem.Reading.Alike rename
      ((n.arguments.filter Node.isBracket).foldl (Problem.readInit document tree) r)
      ((n'.arguments.filter Node.isBracket).foldl (Problem.readInit document' tree') r') := by
  refine List.rel_foldl ?_ readingAlike (sim.brackets alike)
  intro r r' readingAlike part part' partAlike
  exact sim.readInit document document' readingAlike partAlike.2

theorem readProblemSection_plain (document : Document) (tree : Tree) (r : Problem.Reading) (n : Node)
    {name : String} (named : n.name? = some name) (plain : IsPlainName name) :
    Problem.readSection document tree r n = r := by
  have differs {word : String} (reserved : word ∈ reservedNames) (isLower : lower word = word) :
      lower name ≠ word := plain.lower_ne reserved isLower
  simp only [Problem.readSection, named, Option.map_some]
  split
  · exact absurd (Option.some.inj ‹_›) (differs (by decide) (by decide))
  · exact absurd (Option.some.inj ‹_›) (differs (by decide) (by decide))
  · exact absurd (Option.some.inj ‹_›) (differs (by decide) (by decide))
  · exact absurd (Option.some.inj ‹_›) (differs (by decide) (by decide))
  · rfl

theorem readProblemSection (sim : Similarity rename docs tree tree' R) (document document' : Document)
    {r r' : Problem.Reading} (readingAlike : Problem.Reading.Alike rename r r') {n n' : Node}
    (alike : R n n') :
    Problem.Reading.Alike rename (Problem.readSection document tree r n)
      (Problem.readSection document' tree' r' n') := by
  cases named : n.name? with
  | none =>
    have named' : n'.name? = none := by rw [sim.name? alike, named]; rfl
    simpa only [Problem.readSection, named, named', Option.map_none] using readingAlike
  | some name =>
    have named' : n'.name? = some (rename name) := by rw [sim.name? alike, named]; rfl
    rcases sim.plain alike named with same | ⟨plain, plain'⟩
    · have problem := readingAlike.problem
      have sections := problem.sections
      have issues := readingAlike.issues
      simp only [Problem.readSection, named, named', same, Option.map_some]
      split
      · have entries := sim.readArguments alike
        exact ⟨{ problem with
          objects := ObjectGroup.group_alike entries
          objectEntries := entries
          sections := { sections with objects := rfl } }, issues⟩
      · have start : Problem.Reading.Alike rename
            { r with problem := { r.problem with
              sections := { r.problem.sections with init := some n.span } } }
            { r' with problem := { r'.problem with
              sections := { r'.problem.sections with init := some n'.span } } } :=
          ⟨{ problem with sections := { sections with init := rfl } }, issues⟩
        have read := sim.readInits document document' start alike
        exact ⟨{ read.problem with }, read.issues⟩
      · exact ⟨{ problem with sections := { sections with goal := rfl } }, issues⟩
      · exact ⟨{ problem with sections := { sections with metric := rfl } }, issues⟩
      · exact readingAlike
    · rw [readProblemSection_plain document tree r n named plain,
        readProblemSection_plain document' tree' r' n' named' plain']
      exact readingAlike

theorem readProblemSections (sim : Similarity rename docs tree tree' R) (document document' : Document)
    {r r' : Problem.Reading} (readingAlike : Problem.Reading.Alike rename r r') {n n' : Node}
    (alike : R n n') :
    Problem.Reading.Alike rename
      ((n.significant.filter Node.isBracket).foldl (Problem.readSection document tree) r)
      ((n'.significant.filter Node.isBracket).foldl (Problem.readSection document' tree') r') := by
  rw [Node.significant_brackets, Node.significant_brackets]
  refine List.rel_foldl ?_ readingAlike (sim.brackets alike)
  intro r r' readingAlike part part' partAlike
  exact sim.readProblemSection document document' readingAlike partAlike.2

theorem problem (sim : Similarity rename docs tree tree' R) (root : R tree.root tree'.root)
    (document document' : Document) :
    Option.Rel (fun found found' => Problem.Alike rename found.1 found'.1 ∧
        List.Forall₂ (Issue.Alike rename) found.2 found'.2)
      (Problem.ofTree? document tree) (Problem.ofTree? document' tree') := by
  have defines := head?_rel (sim.childrenNamed root (by decide : "define" ∈ reservedNames))
  simp only [Problem.ofTree?, Tree.define?]
  generalize (tree.root.childrenNamed "define").head? = found,
    (tree'.root.childrenNamed "define").head? = found' at defines
  cases defines with
  | none => exact .none
  | @some n n' define =>
    have headers := head?_rel (sim.childrenNamed define (by decide : "problem" ∈ reservedNames))
    have references := head?_rel (sim.childrenNamed define (by decide : ":domain" ∈ reservedNames))
    simp only [Option.bind_eq_bind, Option.bind_some]
    generalize (n.childrenNamed "problem").head? = header, (n'.childrenNamed "problem").head? = header' at headers
    generalize (n.childrenNamed ":domain").head? = reference,
      (n'.childrenNamed ":domain").head? = reference' at references
    cases headers with
    | none => exact .none
    | @some h h' header =>
      cases references with
      | none => exact .none
      | @some d d' reference =>
        have name : h'.firstWord?.elim "" Token.text = h.firstWord?.elim "" Token.text := by
          have named := sim.firstWord? header
          generalize h.firstWord? = name, h'.firstWord? = name' at named
          cases name <;> cases name' <;> simp at named
          · rfl
          · exact (Token.bare_eq_iff.mp named).2
        have named := sim.firstWord? reference
        simp only [Option.bind_some]
        generalize d.firstWord? = domain, d'.firstWord? = domain' at named
        refine .some ?_
        suffices start : Problem.Reading.Alike rename
            { problem :=
                { name := h.firstWord?.elim "" (·.text), domainName := domain.elim "" (·.text)
                  domainNameSpan := domain.elim d.span (·.span) }
              issues :=
                if domain.isNone then [.error "Domain name is missing" (document.rangeOf d.span)] else [] }
            { problem :=
                { name := h'.firstWord?.elim "" (·.text), domainName := domain'.elim "" (·.text)
                  domainNameSpan := domain'.elim d'.span (·.span) }
              issues :=
                if domain'.isNone then [.error "Domain name is missing" (document'.rangeOf d'.span)]
                else [] } by
          have read := sim.readProblemSections document document' start define
          exact ⟨read.problem, read.issues⟩
        have fresh : ProblemSections.Alike {} {} := ⟨rfl, rfl, rfl, rfl⟩
        cases domain <;> cases domain' <;> simp at named
        · exact ⟨⟨name, rfl, rfl, .nil, .nil, fresh, rfl, rfl⟩, .cons ⟨rfl, fun _ => rfl⟩ .nil⟩
        · have text := (Token.bare_eq_iff.mp named).2
          exact ⟨⟨name, text, rfl, .nil, .nil, fresh, rfl, rfl⟩, .nil⟩

end Similarity
end PddlAssist
