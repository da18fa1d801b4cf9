import PddlAssist.Proofs.Reading.Similarity

namespace PddlAssist

open Text

def Issue.unquoted (i : Issue) : String :=
  let quoting := "Unrecognized initial state entry: "
  if quoting.toList.isPrefixOf i.message.toList then quoting else i.message

section Alike

variable (rename : String → String) (docs : Option String → Option String → Prop)

/-- Issues of one severity; without renaming they say the same, quotations apart. -/
def Issue.Alike (i i' : Issue) : Prop :=
  i'.severity = i.severity ∧ (rename = id → i'.unquoted = i.unquoted)

structure Variable.Alike (v v' : Variable) : Prop where
  name : v'.name = rename v.name
  declaredName : ∃ words : List String,
    v.declaredName = singleSpaced (" ".intercalate (v.name :: words)) ∧
      v'.declaredName = singleSpaced (" ".intercalate (v'.name :: words))
  parameters : v'.parameters = v.parameters
  kind : v'.kind = v.kind
  documentation : docs v.documentation v'.documentation
  location : v.location = none ∧ v'.location = none

def Parameter.Alike (p p' : Parameter) : Prop :=
  p'.typeName = p.typeName ∧ (p'.name = p.name ∨ p'.name = rename p.name)

structure Action.Alike (a a' : Action) : Prop where
  name : a'.name = a.name
  kind : a'.kind = a.kind
  parameters : List.Forall₂ (Parameter.Alike rename) a.parameters a'.parameters
  nameSpan : a'.nameSpan.isSome = a.nameSpan.isSome
  condition : a'.condition.isSome = a.condition.isSome
  effect : a'.effect.isSome = a.effect.isSome

structure DomainSections.Alike (s s' : DomainSections) : Prop where
  requirements : s'.requirements.isSome = s.requirements.isSome
  types : s'.types.isSome = s.types.isSome
  constants : s'.constants.isSome = s.constants.isSome
  predicates : s'.predicates.isSome = s.predicates.isSome
  functions : s'.functions.isSome = s.functions.isSome
  derived : s'.derived.length = s.derived.length

structure Domain.Alike (d d' : Domain) : Prop where
  name : d'.name = d.name
  nameSpan : d'.nameSpan.isSome = d.nameSpan.isSome
  requirements : d'.requirements = d.requirements
  types : d'.types = d.types
  hierarchy : d'.hierarchy = d.hierarchy
  constants : d'.constants = d.constants
  predicates : List.Forall₂ (Variable.Alike rename docs) d.predicates d'.predicates
  functions : List.Forall₂ (Variable.Alike rename docs) d.functions d'.functions
  derived : List.Forall₂ (Variable.Alike rename docs) d.derived d'.derived
  actions : List.Forall₂ (Action.Alike rename) d.actions d'.actions
  sections : DomainSections.Alike d.sections d'.sections
  typeLocations : d.typeLocations = [] ∧ d'.typeLocations = []

structure Domain.Reading.Alike (r r' : Reading) : Prop where
  domain : Domain.Alike rename docs r.domain r'.domain
  issues : List.Forall₂ (Issue.Alike rename) r.issues r'.issues

end Alike

theorem ObjectGroup.group_alike {entries entries' : List TypedEntry}
    (alike : List.Forall₂ (TypedEntry.Alike Eq) entries entries') :
    ObjectGroup.group entries' = ObjectGroup.group entries := by
  refine (List.rel_foldl (P := Eq) (R := TypedEntry.Alike Eq) ?_ rfl alike).symm
  rintro groups _ rfl entry entry' ⟨name, types⟩
  simp only [← name, types]

theorem TypedEntry.parameters_alike {entries entries' : List TypedEntry}
    (alike : List.Forall₂ (TypedEntry.Alike Eq) entries entries') :
    entries'.map Parameter.ofEntry = entries.map Parameter.ofEntry := by
  induction alike with
  | nil => rfl
  | cons head _ ih => simp [ih, Parameter.ofEntry, head.1, head.2]

namespace Similarity

variable {rename : String → String} {docs : Option String → Option String → Prop}
  {tree tree' : Tree} {R : Node → Node → Prop}

theorem readVariable? (sim : Similarity rename docs tree tree' R) (kind : VariableKind) {n n' : Node}
    (alike : R n n') (bracket : n.isBracket = true) :
    Option.Rel (Variable.Alike rename docs) (Domain.readVariable? tree kind n)
      (Domain.readVariable? tree' kind n') := by
  simp only [Domain.readVariable?, sim.name? alike]
  cases named : n.name? with
  | none => exact .none
  | some name =>
    refine .some ⟨rfl, ?_, ?_, rfl, sim.documentation alike bracket, rfl, rfl⟩
    · refine ⟨n.arguments.filterMap fun arg => arg.terminal?.map (·.text), ?_, ?_⟩
      · rw [n.significant_texts named]
      · rw [n'.significant_texts (by rw [sim.name? alike, named]; rfl), sim.texts (sim.arguments alike)]
    · exact TypedEntry.parameters_alike (sim.readArguments alike)

def Declared (rename : String → String) (docs : Option String → Option String → Prop)
    (R : Node → Node → Prop) (v v' : Variable) : Prop :=
  Variable.Alike rename docs v v' ∧ ∃ n n', R n n' ∧ n.name? = some v.name

theorem any_sameName (sim : Similarity rename docs tree tree' R) {known known' : List Variable}
    (declared : List.Forall₂ (Declared rename docs R) known known') {v v' : Variable}
    (new : Declared rename docs R v v') :
    known'.any (sameName ·.name v'.name) = known.any (sameName ·.name v.name) := by
  induction declared with
  | nil => rfl
  | cons head _ ih =>
    obtain ⟨old, m, m', mAlike, mNamed⟩ := head
    obtain ⟨fresh, n, n', nAlike, nNamed⟩ := new
    rw [List.any_cons, List.any_cons, ih, old.name, fresh.name, sim.distinct mAlike nAlike mNamed nNamed]

theorem readVariables (sim : Similarity rename docs tree tree' R) (document document' : Document)
    (kind : VariableKind) {n n' : Node} (alike : R n n') :
    List.Forall₂ (Variable.Alike rename docs) (Domain.readVariables document tree kind n).1
        (Domain.readVariables document' tree' kind n').1 ∧
      List.Forall₂ (Issue.Alike rename) (Domain.readVariables document tree kind n).2
        (Domain.readVariables document' tree' kind n').2 := by
  let invariant (p p' : List Variable × List Issue) : Prop :=
    List.Forall₂ (Declared rename docs R) p.1 p'.1 ∧ List.Forall₂ (Issue.Alike rename) p.2 p'.2
  have start : invariant ([], []) ([], []) := ⟨.nil, .nil⟩
  suffices final : invariant (Domain.readVariables document tree kind n)
      (Domain.readVariables document' tree' kind n') from
    ⟨final.1.imp fun _ _ declared => declared.1, final.2⟩
  refine List.rel_foldl ?_ start (sim.brackets alike)
  rintro ⟨known, issues⟩ ⟨known', issues'⟩ ⟨declared, reported⟩ node node' ⟨bracket, nodeAlike⟩
  have read := sim.readVariable? kind nodeAlike bracket
  cases first : Domain.readVariable? tree kind node with
  | none =>
    rw [first] at read
    cases second : Domain.readVariable? tree' kind node' with
    | none => simpa only [first, second] using ⟨declared, reported⟩
    | some v' => rw [second] at read; cases read
  | some v =>
    rw [first] at read
    cases second : Domain.readVariable? tree' kind node' with
    | none => rw [second] at read; cases read
    | some v' =>
      rw [second] at read
      cases read with
      | some variableAlike =>
      have named : node.name? = some v.name := by
        simp only [Domain.readVariable?] at first
        cases isName : node.name? with
        | none => simp [isName] at first
        | some name =>
          simp only [isName, Option.map_some, Option.some.injEq] at first
          rw [← first]
      have new : Declared rename docs R v v' := ⟨variableAlike, node, node', nodeAlike, named⟩
      simp only [first, second, sim.any_sameName declared new]
      split
      · refine ⟨declared, List.rel_append reported (.cons ⟨rfl, ?_⟩ .nil)⟩
        intro same
        simp [Issue.unquoted, Issue.warning, variableAlike.name, same]
      · exact ⟨List.rel_append declared (.cons new .nil), reported⟩

theorem parameters_renamed {entries entries' : List TypedEntry}
    (alike : List.Forall₂ (TypedEntry.Alike fun text text' => text' = text ∨ text' = rename text)
      entries entries') :
    List.Forall₂ (Parameter.Alike rename) (entries.map Parameter.ofEntry)
      (entries'.map Parameter.ofEntry) := by
  rw [List.forall₂_map_left_iff, List.forall₂_map_right_iff]
  refine alike.imp ?_
  rintro entry entry' ⟨name, types⟩
  exact ⟨by simp only [Parameter.ofEntry, types], name⟩

theorem readActionParts (sim : Similarity rename docs tree tree' R) {nodes nodes' : List Node}
    (alike : List.Forall₂ R nodes nodes') {action action' : Action}
    (actionAlike : Action.Alike rename action action') :
    Action.Alike rename (Domain.readActionParts action nodes)
      (Domain.readActionParts action' nodes') := by
  induction alike generalizing action action' with
  | nil => exact actionAlike
  | cons head tail ih =>
    rcases sim.word_cases head with ⟨none, none'⟩ | ⟨token, token', some, some', _, text⟩
    · simp only [Domain.readActionParts, none, none']
      exact ih actionAlike
    · cases tail with
      | nil =>
        simp only [Domain.readActionParts, some, some', List.head?_nil]
        exact actionAlike
      | cons valueAlike tail =>
        rw [Domain.readActionParts.eq_def, Domain.readActionParts.eq_def action']
        simp only [some, some', List.head?_cons, sim.isBracket valueAlike, text]
        apply ih
        split
        · exact actionAlike
        · have read := parameters_renamed (sim.readSignificant valueAlike)
          split
          · exact { actionAlike with parameters := read }
          · exact { actionAlike with condition := rfl }
          · exact { actionAlike with condition := rfl }
          · exact { actionAlike with effect := rfl }
          · exact actionAlike

theorem readAction (sim : Similarity rename docs tree tree' R) (kind : ActionKind) {n n' : Node}
    (alike : R n n') :
    Action.Alike rename (Domain.readAction tree kind n) (Domain.readAction tree' kind n') := by
  have parts := sim.arguments alike
  have named : ((n'.arguments.head?.bind Node.terminal?).filter (·.kind != .keyword)).map Token.text =
      ((n.arguments.head?.bind Node.terminal?).filter (·.kind != .keyword)).map Token.text := by
    generalize n.arguments = args, n'.arguments = args' at parts
    cases parts with
    | nil => rfl
    | cons head _ =>
      rcases sim.word_cases head with ⟨none, none'⟩ | ⟨token, token', some, some', kind, text⟩
      · simp [none, none']
      · cases keyword : token.kind != .keyword <;>
          simp [some, some', Option.filter, kind, keyword, text]
  apply sim.readActionParts parts
  generalize (n.arguments.head?.bind Node.terminal?).filter (·.kind != .keyword) = name,
    (n'.arguments.head?.bind Node.terminal?).filter (·.kind != .keyword) = name' at named
  cases name <;> cases name' <;> simp at named
  · exact ⟨rfl, rfl, .nil, rfl, rfl, rfl⟩
  · exact ⟨named, rfl, .nil, rfl, rfl, rfl⟩

theorem declareParent (document document' : Document) {entry entry' : TypedEntry}
    (entryAlike : TypedEntry.Alike Eq entry entry') {r r' : Domain.Reading}
    (alike : Domain.Reading.Alike rename docs r r') (parent : String) :
    Domain.Reading.Alike rename docs (Domain.declareParent document entry r parent)
      (Domain.declareParent document' entry' r' parent) := by
  have sameTypes := alike.domain.types
  have sameHierarchy := alike.domain.hierarchy
  simp only [Domain.declareParent, ← entryAlike.1, sameTypes, sameHierarchy]
  cases r.domain.hierarchy.addEdge? entry.name parent with
  | some hierarchy => exact ⟨{ alike.domain with types := rfl, hierarchy := rfl }, alike.issues⟩
  | none =>
    refine ⟨{ alike.domain with types := rfl, hierarchy := rfl }, List.rel_append alike.issues (.cons ⟨rfl, ?_⟩ .nil)⟩
    exact fun _ => rfl

theorem declareType (document document' : Document) {entry entry' : TypedEntry}
    (entryAlike : TypedEntry.Alike Eq entry entry') {r r' : Domain.Reading}
    (alike : Domain.Reading.Alike rename docs r r') :
    Domain.Reading.Alike rename docs (Domain.declareType document r entry)
      (Domain.declareType document' r' entry') := by
  simp only [Domain.declareType, entryAlike.2]
  have parents : List.Forall₂ Eq entry.types entry.types := by rw [List.forall₂_eq_eq_eq]
  refine List.rel_foldl ?_ ⟨{ alike.domain with types := ?_, hierarchy := ?_ }, alike.issues⟩ parents
  · rintro r r' readingAlike parent _ rfl
    exact declareParent document document' entryAlike readingAlike parent
  · simp only [alike.domain.types, ← entryAlike.1]
  · simp only [alike.domain.hierarchy, ← entryAlike.1]

theorem readTypes (sim : Similarity rename docs tree tree' R) (document document' : Document) {n n' : Node}
    (alike : R n n') {r r' : Domain.Reading} (readingAlike : Domain.Reading.Alike rename docs r r') :
    Domain.Reading.Alike rename docs (Domain.readTypes document r n) (Domain.readTypes document' r' n') := by
  have declared : Domain.Reading.Alike rename docs
      ((TypedEntry.readList n.arguments).foldl (Domain.declareType document) r)
      ((TypedEntry.readList n'.arguments).foldl (Domain.declareType document') r') := by
    refine List.rel_foldl ?_ readingAlike (sim.readArguments alike)
    intro r r' readingAlike entry entry' entryAlike
    exact declareType document document' entryAlike readingAlike
  simp only [Domain.readTypes]
  refine ⟨{ declared.domain with types := ?_, hierarchy := ?_ }, declared.issues⟩
  · simp only [declared.domain.types]
  · simp only [declared.domain.types, declared.domain.hierarchy]

theorem ofKeyword?_plain {name : String} (plain : IsPlainName name) :
    ActionKind.ofKeyword? (lower name) = none := by
  rw [ActionKind.ofKeyword?, List.find?_eq_none]
  intro kind _
  have differs : sameName name kind.keyword = false := plain kind.keyword (by cases kind <;> decide)
  rw [sameName_comm, sameName, lower_lower]
  simpa [sameName] using differs

theorem readSection_plain (document : Document) (tree : Tree) (r : Domain.Reading) (n : Node) {name : String}
    (named : n.name? = some name) (plain : IsPlainName name) :
    Domain.readSection document tree r n = r := by
  have differs {word : String} (reserved : word ∈ reservedNames) (isLower : lower word = word) :
      lower name ≠ word := plain.lower_ne reserved isLower
  simp only [Domain.readSection, named, Option.map_some]
  split
  · rfl
  · exact absurd (Option.some.inj ‹_›) (differs (by decide) (by decide))
  · exact absurd (Option.some.inj ‹_›) (differs (by decide) (by decide))
  · exact absurd (Option.some.inj ‹_›) (differs (by decide) (by decide))
  · exact absurd (Option.some.inj ‹_›) (differs (by decide) (by decide))
  · exact absurd (Option.some.inj ‹_›) (differs (by decide) (by decide))
  · exact absurd (Option.some.inj ‹_›) (differs (by decide) (by decide))
  · have keyword := Option.some.inj ‹some (lower name) = some _›
    rw [← keyword, ofKeyword?_plain plain]

theorem readDerived (sim : Similarity rename docs tree tree' R) {n n' : Node} (alike : R n n') :
    List.Forall₂ (Variable.Alike rename docs)
      ((n.arguments.find? Node.isBracket).bind (Domain.readVariable? tree .derived)).toList
      ((n'.arguments.find? Node.isBracket).bind (Domain.readVariable? tree' .derived)).toList := by
  have brackets := sim.brackets alike
  rw [← List.head?_filter, ← List.head?_filter]
  generalize n.arguments.filter Node.isBracket = found, n'.arguments.filter Node.isBracket = found' at brackets
  cases brackets with
  | nil => exact .nil
  | cons head _ =>
    have read := sim.readVariable? .derived head.2 head.1
    simp only [List.head?_cons, Option.bind_some]
    generalize Domain.readVariable? tree .derived _ = v, Domain.readVariable? tree' .derived _ = v' at read
    cases read with
    | none => exact .nil
    | some variableAlike => exact .cons variableAlike .nil

theorem readSection (sim : Similarity rename docs tree tree' R) (document document' : Document)
    {r r' : Domain.Reading} (readingAlike : Domain.Reading.Alike rename docs r r') {n n' : Node}
    (alike : R n n') :
    Domain.Reading.Alike rename docs (Domain.readSection document tree r n)
      (Domain.readSection document' tree' r' n') := by
  cases named : n.name? with
  | none =>
    have named' : n'.name? = none := by rw [sim.name? alike, named]; rfl
    simpa only [Domain.readSection, named, named', Option.map_none] using readingAlike
  | some name =>
    have named' : n'.name? = some (rename name) := by rw [sim.name? alike, named]; rfl
    rcases sim.plain alike named with same | ⟨plain, plain'⟩
    · have domain := readingAlike.domain
      have sections := domain.sections
      have issues := readingAlike.issues
      simp only [Domain.readSection, named, named', same, Option.map_some]
      split
      · cases ‹some (lower name) = none›
      · have words : Domain.words n' = Domain.words n := sim.texts (sim.arguments alike)
        exact ⟨{ domain with requirements := words, sections := { sections with requirements := rfl } }, issues⟩
      · apply sim.readTypes document document' alike
        exact ⟨{ domain with sections := { sections with types := rfl } }, issues⟩
      · have groups := ObjectGroup.group_alike (sim.readArguments alike)
        exact ⟨{ domain with constants := groups, sections := { sections with constants := rfl } }, issues⟩
      · obtain ⟨declared, found⟩ := sim.readVariables document document' .predicate alike
        exact ⟨{ domain with predicates := declared, sections := { sections with predicates := rfl } },
          List.rel_append issues found⟩
      · obtain ⟨declared, found⟩ := sim.readVariables document document' .function alike
        exact ⟨{ domain with functions := declared, sections := { sections with functions := rfl } },
          List.rel_append issues found⟩
      · have declared := List.rel_append domain.derived (sim.readDerived alike)
        have spans : (r'.domain.sections.derived ++ [n'.span]).length =
            (r.domain.sections.derived ++ [n.span]).length := by simp [sections.derived]
        exact ⟨{ domain with derived := declared, sections := { sections with derived := spans } }, issues⟩
      · split
        · exact ⟨{ domain with actions := List.rel_append domain.actions (.cons (sim.readAction _ alike) .nil) },
            issues⟩
        · exact readingAlike
    · rw [readSection_plain document tree r n named plain, readSection_plain document' tree' r' n' named' plain']
      exact readingAlike

theorem readSections (sim : Similarity rename docs tree tree' R) (document document' : Document)
    {r r' : Domain.Reading} (readingAlike : Domain.Reading.Alike rename docs r r') {n n' : Node}
    (alike : R n n') :
    Domain.Reading.Alike rename docs
      ((n.significant.filter Node.isBracket).foldl (Domain.readSection document tree) r)
      ((n'.significant.filter Node.isBracket).foldl (Domain.readSection document' tree') r') := by
  rw [Node.significant_brackets, Node.significant_brackets]
  refine List.rel_foldl ?_ readingAlike (sim.brackets alike)
  intro r r' readingAlike part part' partAlike
  exact sim.readSection document document' readingAlike partAlike.2

theorem domain (sim : Similarity rename docs tree tree' R) (root : R tree.root tree'.root)
    (document document' : Document) :
    Option.Rel (fun found found' => Domain.Alike rename docs found.1 found'.1 ∧
        List.Forall₂ (Issue.Alike rename) found.2 found'.2)
      (Domain.ofTree? document tree) (Domain.ofTree? document' tree') := by
  have defines := head?_rel (sim.childrenNamed root (by decide : "define" ∈ reservedNames))
  simp only [Domain.ofTree?, Tree.define?]
  generalize (tree.root.childrenNamed "define").head? = found,
    (tree'.root.childrenNamed "define").head? = found' at defines
  cases defines with
  | none => exact .none
  | some define =>
    rename_i n n'
    have headers := head?_rel (sim.childrenNamed define (by decide : "domain" ∈ reservedNames))
    simp only [Option.bind_eq_bind, Option.bind_some]
    generalize (n.childrenNamed "domain").head? = header, (n'.childrenNamed "domain").head? = header' at headers
    cases headers with
    | none => exact .none
    | some header =>
      rename_i h h'
      have named := sim.firstWord? header
      simp only [Option.bind_some]
      generalize h.firstWord? = name, h'.firstWord? = name' at named
      refine .some ?_
      suffices start : Domain.Reading.Alike rename docs
          { domain :=
              { name := name.elim "" (·.text), nameSpan := name.map (·.span)
                hierarchy := TypeHierarchy.addType {} rootType }
            issues :=
              if name.isNone then [.error "Domain name is missing" (document.rangeOf h.span)] else [] }
          { domain :=
              { name := name'.elim "" (·.text), nameSpan := name'.map (·.span)
                hierarchy := TypeHierarchy.addType {} rootType }
            issues :=
              if name'.isNone then [.error "Domain name is missing" (document'.rangeOf h'.span)] else [] } by
        have read := sim.readSections document document' start define
        exact ⟨read.domain, read.issues⟩
      have fresh : DomainSections.Alike {} {} := ⟨rfl, rfl, rfl, rfl, rfl, rfl⟩
      cases name <;> cases name' <;> simp at named
      · refine ⟨⟨rfl, rfl, rfl, rfl, rfl, rfl, .nil, .nil, .nil, .nil, fresh, rfl, rfl⟩, ?_⟩
        exact .cons ⟨rfl, fun _ => rfl⟩ .nil
      · have text := (Token.bare_eq_iff.mp named).2
        exact ⟨⟨text, rfl, rfl, rfl, rfl, rfl, .nil, .nil, .nil, .nil, fresh, rfl, rfl⟩, .nil⟩

end Similarity
end PddlAssist
