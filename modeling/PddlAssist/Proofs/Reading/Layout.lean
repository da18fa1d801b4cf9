import PddlAssist.Proofs.Reading.Problem

namespace PddlAssist

open Text

def nowhere : Span := ⟨0, 0⟩

def TypedEntry.bare (e : TypedEntry) : TypedEntry := { e with span := nowhere }

def Issue.bare (i : Issue) : Issue := { i with message := i.unquoted, range := ⟨⟨0, 0⟩, ⟨0, 0⟩⟩ }

def Variable.bare (v : Variable) : Variable := { v with documentation := none }

def Action.bare (a : Action) : Action :=
  { a with
    span := nowhere
    nameSpan := a.nameSpan.map fun _ => nowhere
    condition := a.condition.map fun _ => nowhere
    effect := a.effect.map fun _ => nowhere
    documentation := none }

def DomainSections.bare (s : DomainSections) : DomainSections :=
  { requirements := s.requirements.map fun _ => nowhere
    types := s.types.map fun _ => nowhere
    constants := s.constants.map fun _ => nowhere
    predicates := s.predicates.map fun _ => nowhere
    functions := s.functions.map fun _ => nowhere
    derived := s.derived.map fun _ => nowhere }

/-- The domain without places and documentation. -/
def Domain.bare (d : Domain) : Domain :=
  { d with
    nameSpan := d.nameSpan.map fun _ => nowhere
    predicates := d.predicates.map Variable.bare
    functions := d.functions.map Variable.bare
    derived := d.derived.map Variable.bare
    actions := d.actions.map Action.bare
    sections := d.sections.bare }

def Atom.bare (a : Atom) : Atom := { a with span := nowhere }

def InitEntry.bare : InitEntry → InitEntry
  | literal atom positive => literal atom.bare positive
  | fluent atom value => fluent atom.bare value
  | timedLiteral time atom positive => timedLiteral time atom.bare positive
  | timedFluent time atom value => timedFluent time atom.bare value

def ProblemSections.bare (s : ProblemSections) : ProblemSections :=
  { objects := s.objects.map fun _ => nowhere
    init := s.init.map fun _ => nowhere
    goal := s.goal.map fun _ => nowhere
    metric := s.metric.map fun _ => nowhere }

/-- The problem without places. -/
def Problem.bare (p : Problem) : Problem :=
  { p with
    domainNameSpan := nowhere
    objectEntries := p.objectEntries.map TypedEntry.bare
    initEntries := p.initEntries.map InitEntry.bare
    sections := p.sections.bare }

theorem map_nowhere {place place' : Option Span} (same : place'.isSome = place.isSome) :
    (place'.map fun _ => nowhere) = place.map fun _ => nowhere := by
  cases place <;> cases place' <;> simp_all

theorem map_eq_of_forall₂ {α β γ : Type} {S : α → β → Prop} {f : α → γ} {g : β → γ} {left : List α}
    {right : List β} (related : List.Forall₂ S left right) (same : ∀ a b, S a b → g b = f a) :
    right.map g = left.map f := by
  induction related with
  | nil => rfl
  | cons head _ ih => rw [List.map_cons, List.map_cons, ih, same _ _ head]

theorem Issue.Alike.bare {i i' : Issue} (alike : Issue.Alike id i i') : i'.bare = i.bare := by
  simp only [Issue.bare, alike.1, alike.2 rfl]

theorem Variable.Alike.bare {docs : Option String → Option String → Prop} {v v' : Variable}
    (alike : Variable.Alike id docs v v') : v'.bare = v.bare := by
  obtain ⟨words, first, second⟩ := alike.declaredName
  have name : v'.name = v.name := alike.name
  rw [name, ← first] at second
  simp only [Variable.bare, name, second, alike.parameters, alike.kind, alike.location.1, alike.location.2]

theorem Action.Alike.bare {a a' : Action} (alike : Action.Alike id a a') : a'.bare = a.bare := by
  have parameters : a'.parameters = a.parameters := by
    have named := map_eq_of_forall₂ (f := id) (g := id) alike.parameters ?_
    · simpa using named
    rintro ⟨name, typeName⟩ ⟨name', typeName'⟩ ⟨sameType, sameName⟩
    simp_all
  simp only [Action.bare, alike.name, alike.kind, parameters, map_nowhere alike.nameSpan,
    map_nowhere alike.condition, map_nowhere alike.effect]

theorem DomainSections.Alike.bare {s s' : DomainSections} (alike : DomainSections.Alike s s') :
    s'.bare = s.bare := by
  simp only [DomainSections.bare, map_nowhere alike.requirements, map_nowhere alike.types,
    map_nowhere alike.constants, map_nowhere alike.predicates, map_nowhere alike.functions,
    List.map_const', alike.derived]

theorem Domain.Alike.bare {docs : Option String → Option String → Prop} {d d' : Domain}
    (alike : Domain.Alike id docs d d') : d'.bare = d.bare := by
  have predicates := map_eq_of_forall₂ alike.predicates fun _ _ => Variable.Alike.bare
  have functions := map_eq_of_forall₂ alike.functions fun _ _ => Variable.Alike.bare
  have derived := map_eq_of_forall₂ alike.derived fun _ _ => Variable.Alike.bare
  have actions := map_eq_of_forall₂ alike.actions fun _ _ => Action.Alike.bare
  simp only [Domain.bare, alike.name, map_nowhere alike.nameSpan, alike.requirements, alike.types,
    alike.hierarchy, alike.constants, predicates, functions, derived, actions, alike.sections.bare,
    alike.typeLocations.1, alike.typeLocations.2]

theorem Atom.Alike.bare {a a' : Atom} (alike : Atom.Alike id a a') : a'.bare = a.bare := by
  have name : a'.name = a.name := alike.1
  simp only [Atom.bare, name, alike.2]

theorem Atom.Alike.fullName {a a' : Atom} (alike : Atom.Alike id a a') : a'.fullName = a.fullName := by
  have name : a'.name = a.name := alike.1
  simp only [Atom.fullName, name, alike.2]

theorem InitEntry.Alike.bare {e e' : InitEntry} (alike : InitEntry.Alike id e e') : e'.bare = e.bare := by
  cases alike <;> rename_i atom _ <;> simp only [InitEntry.bare, atom.bare]

theorem InitEntry.Alike.timedValue {e e' : InitEntry} (alike : InitEntry.Alike id e e') :
    e'.timedValue = e.timedValue := by
  cases alike <;> rename_i atom _ <;> simp only [InitEntry.timedValue, atom.fullName]

theorem Problem.Alike.bare {p p' : Problem} (alike : Problem.Alike id p p')
    (inits : p.inits = p.initEntries.map InitEntry.timedValue)
    (inits' : p'.inits = p'.initEntries.map InitEntry.timedValue) : p'.bare = p.bare := by
  have objects : p'.objectEntries.map TypedEntry.bare = p.objectEntries.map TypedEntry.bare := by
    refine map_eq_of_forall₂ alike.objectEntries ?_
    rintro entry entry' ⟨name, types⟩
    simp only [TypedEntry.bare, name, types]
  have entries := map_eq_of_forall₂ alike.initEntries fun _ _ => InitEntry.Alike.bare
  have values := map_eq_of_forall₂ alike.initEntries fun _ _ => InitEntry.Alike.timedValue
  have sections : p'.sections.bare = p.sections.bare := by
    simp only [ProblemSections.bare, map_nowhere alike.sections.objects, map_nowhere alike.sections.init,
      map_nowhere alike.sections.goal, map_nowhere alike.sections.metric]
  simp only [Problem.bare, alike.name, alike.domainName, alike.objects, objects, entries, inits, inits',
    values, sections, alike.preprocessed.1, alike.preprocessed.2]

theorem Problem.readSection_inits (document : Document) (tree : Tree) {r : Problem.Reading} (n : Node)
    (inits : r.problem.inits = r.problem.initEntries.map InitEntry.timedValue) :
    (Problem.readSection document tree r n).problem.inits =
      (Problem.readSection document tree r n).problem.initEntries.map InitEntry.timedValue := by
  simp only [Problem.readSection]
  split
  · exact inits
  · rfl
  · exact inits
  · exact inits
  · exact inits

theorem Problem.ofTree?_inits {document : Document} {tree : Tree} {p : Problem} {issues : List Issue}
    (read : Problem.ofTree? document tree = some (p, issues)) :
    p.inits = p.initEntries.map InitEntry.timedValue := by
  have fold (sections : List Node) (r : Problem.Reading)
      (inits : r.problem.inits = r.problem.initEntries.map InitEntry.timedValue) :
      (sections.foldl (Problem.readSection document tree) r).problem.inits =
        (sections.foldl (Problem.readSection document tree) r).problem.initEntries.map
          InitEntry.timedValue := by
    induction sections generalizing r with
    | nil => exact inits
    | cons part rest ih => exact ih _ (Problem.readSection_inits document tree part inits)
  simp only [Problem.ofTree?, Option.bind_eq_bind, Option.bind_eq_some_iff] at read
  obtain ⟨define, _, header, _, reference, _, read⟩ := read
  cases read
  exact fold _ _ rfl

theorem bare_similarity (tree tree' : Tree) :
    Similarity id (fun _ _ => True) tree tree' fun n n' => n.bare = n'.bare where
  isBracket {n n'} alike := by rw [← n.bare_isBracket, ← n'.bare_isBracket, alike]
  word {n n'} alike := by rw [← n.bare_terminal?, ← n'.bare_terminal?, alike]
  name {n n'} alike := by
    rw [← n'.bare_nameToken?, ← alike, n.bare_nameToken?]
    rfl
  arguments {n n'} alike := by
    have same : n.arguments.map Node.bare = n'.arguments.map Node.bare := by
      rw [← n.bare_arguments, ← n'.bare_arguments, alike]
    rw [← List.forall₂_eq_eq_eq, List.forall₂_map_left_iff, List.forall₂_map_right_iff] at same
    exact same
  documentation _ _ := trivial
  plain _ _ := .inl rfl
  distinct _ _ _ _ := rfl

/-- Texts that differ in blanks and comments only define the same domain and the same problem, or none:
they agree in everything but places, documentation, and the ranges and quotations of issues. -/
theorem reading_ignores_layout (left right : List Char)
    (same : significantTokens left = significantTokens right) :
    ((Domain.ofTree? ⟨left⟩ (Tree.build left)).map fun (d, issues) => (d.bare, issues.map Issue.bare)) =
        ((Domain.ofTree? ⟨right⟩ (Tree.build right)).map fun (d, issues) => (d.bare, issues.map Issue.bare)) ∧
      ((Problem.ofTree? ⟨left⟩ (Tree.build left)).map fun (p, issues) => (p.bare, issues.map Issue.bare)) =
        ((Problem.ofTree? ⟨right⟩ (Tree.build right)).map fun (p, issues) =>
          (p.bare, issues.map Issue.bare)) := by
  have sim := bare_similarity (Tree.build left) (Tree.build right)
  have root := Tree.build_bare_congr same
  constructor
  · have read := sim.domain root ⟨left⟩ ⟨right⟩
    generalize Domain.ofTree? ⟨left⟩ _ = found, Domain.ofTree? ⟨right⟩ _ = found' at read
    cases read with
    | none => rfl
    | some alike =>
      have issues := map_eq_of_forall₂ alike.2 fun _ _ => Issue.Alike.bare
      simp only [Option.map_some, alike.1.bare, issues]
  · have read := sim.problem root ⟨left⟩ ⟨right⟩
    have inits {p : Problem} {issues : List Issue} {cs : List Char}
        (is : Problem.ofTree? ⟨cs⟩ (Tree.build cs) = some (p, issues)) := Problem.ofTree?_inits is
    generalize first : Problem.ofTree? ⟨left⟩ (Tree.build left) = found,
      second : Problem.ofTree? ⟨right⟩ (Tree.build right) = found' at read
    cases read with
    | none => rfl
    | some alike =>
      have bare := alike.1.bare (inits first) (inits second)
      have issues := map_eq_of_forall₂ alike.2 fun _ _ => Issue.Alike.bare
      simp only [Option.map_some, bare, issues]

theorem reading_ignores_layout_commented :
    let spread := "(define (domain d) ; a (b\r\n (:predicates (p ?x - t))) ; end".toList
    let dense := "(define(domain\td)(:predicates (p ?x;;)\n - t)))".toList
    significantTokens spread = significantTokens dense ∧
      ((Domain.ofTree? ⟨spread⟩ (Tree.build spread)).map fun (d, issues) => (d.bare, issues.map Issue.bare)) =
        ((Domain.ofTree? ⟨dense⟩ (Tree.build dense)).map fun (d, issues) =>
          (d.bare, issues.map Issue.bare)) :=
  ⟨by decide +kernel, (reading_ignores_layout _ _ (by decide +kernel)).1⟩

end PddlAssist
