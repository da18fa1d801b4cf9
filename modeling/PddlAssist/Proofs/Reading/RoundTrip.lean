import PddlAssist.Proofs.Reading.Declarations
import PddlAssist.Proofs.Reading.Inheritance
import PddlAssist.Proofs.Reading.Layout
import PddlAssist.Proofs.Reading.Sketch

namespace PddlAssist

open Text Node Relation

/-- The entries of groups that are written one after the other. -/
def ObjectGroup.entries (groups : List ObjectGroup) : List TypedEntry :=
  groups.flatMap fun g => g.objects.map fun o => ⟨o, (Token.ofWord o).span, [g.typeName]⟩

theorem IsName.notDash {name : String} (isName : IsName name) : (Token.ofWord name).kind ≠ .dash := by
  intro dash
  have chars : name.toList = ['-'] := by
    simp only [Token.ofWord, Token.wordKind] at dash
    split at dash <;> first | assumption | cases dash
  exact isName.2.1 (String.toList_inj.mp chars)

theorem IsName.notKeyword {name : String} (isName : IsName name) : (Token.ofWord name).kind ≠ .keyword := by
  intro keyword
  simp only [Token.ofWord, Token.wordKind] at keyword
  split at keyword <;> first | cases keyword
  rename_i rest chars
  exact isName.2.2 (by rw [chars]; rfl)

namespace TypedEntry

theorem readAfter_names {names : List String} (named : ∀ name ∈ names, IsName name) (pending : List Token)
    (rest : List Node) :
    readAfter pending (names.map word ++ rest) = readAfter ((names.map Token.ofWord).reverse ++ pending) rest := by
  induction names generalizing pending with
  | nil => rfl
  | cons name names ih =>
    rw [List.forall_mem_cons] at named
    rw [List.map_cons, List.cons_append, readAfter.eq_def]
    simp only [terminal?_word, named.1.notDash, if_false]
    rw [ih named.2, List.map_cons, List.reverse_cons, List.append_assoc, List.singleton_append]

theorem readAfter_typedList {groups : List ObjectGroup} (named : ∀ g ∈ groups, g.IsNamed) :
    readAfter [] (typedList groups) = ObjectGroup.entries groups := by
  induction groups with
  | nil => rfl
  | cons g rest ih =>
    rw [List.forall_mem_cons] at named
    have dash : (Token.ofWord "-").kind = .dash := by decide
    rw [typedList, List.flatMap_cons, List.append_assoc, readAfter_names named.1.2, List.cons_append,
      readAfter.eq_def]
    simp only [terminal?_word, dash, if_true, List.cons_append, List.nil_append, operandTypes]
    rw [← typedList, ih named.2, List.append_nil, List.reverse_reverse, withTypes, List.map_map]
    rfl

theorem readList_typedList {groups : List ObjectGroup} (named : ∀ g ∈ groups, g.IsNamed) :
    readList (typedList groups) = ObjectGroup.entries groups := by
  rw [readList, filter_written (Prints.typedList named).written, readAfter_typedList named]

end TypedEntry

def Variable.signature (v : Variable) : VariableKind × Signature := ⟨v.kind, v.name, v.parameters⟩

def Action.signature (a : Action) : ActionKind × Signature := ⟨a.kind, a.name, a.parameters⟩

namespace Signature.IsNamed

variable {s : Signature}

theorem readParameters (named : s.IsNamed) :
    (TypedEntry.readList s.parameterNodes).map Parameter.ofEntry = s.parameters := by
  rw [parameterNodes, TypedEntry.readList_typedList named.groups, ObjectGroup.entries, List.flatMap_map,
    List.map_flatMap]
  simp [Parameter.group, Parameter.ofEntry]

theorem readVariable? (named : s.IsNamed) (tree : Tree) (kind : VariableKind) :
    ∃ v, Domain.readVariable? tree kind s.node = some v ∧ v.signature = (kind, s) := by
  refine ⟨_, by rw [Domain.readVariable?, node, name?_group, Option.map_some], ?_⟩
  rw [Variable.signature, arguments_group named.prints.isWritten, named.readParameters]

theorem readAction (named : s.IsNamed) (tree : Tree) (kind : ActionKind) :
    (Domain.readAction tree kind (s.actionNode kind)).signature = (kind, s) := by
  have written := (named.prints_action kind).isWritten
  have arguments : (s.actionNode kind).arguments = [word s.name, word ":parameters", .group s.parameterNodes] :=
    arguments_group written
  have significant : (Node.group s.parameterNodes).significant = s.parameterNodes :=
    significant_group (written.inside _ (by simp))
  have name : (some (Token.ofWord s.name)).filter (·.kind != .keyword) = some (Token.ofWord s.name) := by
    simp [Option.filter, named.1.notKeyword]
  have keyword : lower (Token.ofWord ":parameters").text = ":parameters" := by decide
  simp only [Domain.readAction, arguments, List.head?_cons, Option.bind_some, terminal?_word, name,
    Domain.readActionParts, isBracket_word, isBracket_group, keyword, significant, named.readParameters,
    Action.signature]
  rfl

end Signature.IsNamed

namespace Domain

variable (document : Document) (tree : Tree)

theorem declareVariables {signatures : List Signature} (named : ∀ s ∈ signatures, s.IsNamed)
    (distinct : signatures.Pairwise fun s s' => sameName s.name s'.name = false) (kind : VariableKind)
    (known : List Variable) (issues : List Issue)
    (new : ∀ v ∈ known, ∀ s ∈ signatures, sameName v.name s.name = false) :
    ∃ added : List Variable,
      (signatures.map Signature.node).foldl (declareVariable document tree kind) (known, issues) =
        (known ++ added, issues) ∧
      added.map Variable.signature = signatures.map (kind, ·) := by
  -- by induction on the signatures, for all variables that may be known before
  induction signatures generalizing known with
  | nil => exact ⟨[], by simp⟩
  | cons s rest ih =>
    rw [List.forall_mem_cons] at named
    rw [List.pairwise_cons] at distinct
    obtain ⟨v, read, signature⟩ := named.1.readVariable? tree kind
    have name : v.name = s.name := congrArg (·.2.name) signature
    have declared : declareVariable document tree kind (known, issues) s.node = (known ++ [v], issues) := by
      have absent : known.any (sameName ·.name v.name) = false := by
        rw [List.any_eq_false]
        intro other member
        rw [name, new other member s (.head _)]
        exact Bool.false_ne_true
      simp [declareVariable, read, absent]
    have newer : ∀ w ∈ known ++ [v], ∀ s' ∈ rest, sameName w.name s'.name = false := by
      rw [List.forall_mem_append, List.forall_mem_singleton, name]
      exact ⟨fun w isKnown s' member => new w isKnown s' (.tail _ member), distinct.1⟩
    obtain ⟨added, later, signatures⟩ := ih named.2 distinct.2 _ newer
    refine ⟨v :: added, ?_, ?_⟩
    · rw [List.map_cons, List.foldl_cons, declared, later, List.append_assoc, List.singleton_append]
    · rw [List.map_cons, signature, signatures, List.map_cons]

theorem readVariables_signatures {signatures : List Signature} (named : ∀ s ∈ signatures, s.IsNamed)
    (distinct : signatures.Pairwise fun s s' => sameName s.name s'.name = false) {keyword : String}
    (run : Token.IsRun keyword) (kind : VariableKind) :
    ∃ read : List Variable,
      readVariables document tree kind (.group (word keyword :: signatures.map Signature.node)) = (read, []) ∧
      read.map Variable.signature = signatures.map (kind, ·) := by
  have brackets : (signatures.map Signature.node).filter isBracket = signatures.map Signature.node := by
    rw [List.filter_eq_self, List.forall_mem_map]
    exact fun s _ => rfl
  rw [readVariables_eq, arguments_group (Prints.signatures run named).isWritten, brackets]
  exact declareVariables document tree named distinct kind [] [] (by simp)

theorem readSection_action (r : Reading) (kind : ActionKind) (s : Signature) :
    readSection document tree r (s.actionNode kind) =
      { r with domain := { r.domain with
        actions := r.domain.actions ++ [readAction tree kind (s.actionNode kind)] } } := by
  have name : lower kind.keyword = kind.keyword := by cases kind <;> decide
  rw [readSection, Signature.actionNode, name?_group, Option.map_some, name]
  cases kind <;> rfl

theorem readActions {actions : List (ActionKind × Signature)} (named : ∀ a ∈ actions, a.2.IsNamed) :
    ∃ read : List Action,
      (∀ r, (actions.map fun a => a.2.actionNode a.1).foldl (readSection document tree) r =
        { r with domain := { r.domain with actions := r.domain.actions ++ read } }) ∧
      read.map Action.signature = actions := by
  induction actions with
  | nil => exact ⟨[], by simp⟩
  | cons a rest ih =>
    rw [List.forall_mem_cons] at named
    obtain ⟨read, later, signatures⟩ := ih named.2
    refine ⟨readAction tree a.1 (a.2.actionNode a.1) :: read, fun r => ?_, ?_⟩
    · rw [List.map_cons, List.foldl_cons, readSection_action, later, List.append_assoc, List.singleton_append]
    · rw [List.map_cons, named.1.readAction, signatures]

theorem readSection_header (r : Reading) (name : String) :
    readSection document tree r (.group [word "domain", word name]) = r := by
  rw [readSection, name?_group]
  rfl

theorem readSection_requirements (r : Reading) {requirements : List String}
    (runs : ∀ text ∈ requirements, Token.IsRun text) :
    readSection document tree r (.group (word ":requirements" :: requirements.map word)) =
      { r with domain := { r.domain with
        requirements, sections := { r.domain.sections with requirements := some nowhere } } } := by
  have written := (Prints.headed (by decide : Token.IsRun ":requirements") (Prints.words runs)).isWritten
  rw [← List.flatMap_def, ← List.map_eq_flatMap] at written
  have read : words (.group (word ":requirements" :: requirements.map word)) = requirements := by
    rw [words, arguments_group written]
    simp [List.filterMap_map, Token.ofWord]
  rw [readSection, name?_group, Option.map_some, show lower ":requirements" = ":requirements" by decide]
  simp only [read]
  rfl

theorem readSection_types (r : Reading) (nodes : List Node) :
    readSection document tree r (.group (word ":types" :: nodes)) =
      readTypes document { r with domain := { r.domain with
        sections := { r.domain.sections with types := some nowhere } } } (.group (word ":types" :: nodes)) := by
  rw [readSection, name?_group]
  rfl

theorem readSection_constants (r : Reading) {groups : List ObjectGroup} (named : ∀ g ∈ groups, g.IsNamed) :
    readSection document tree r (.group (word ":constants" :: typedList groups)) =
      { r with domain := { r.domain with
        constants := ObjectGroup.group (ObjectGroup.entries groups)
        sections := { r.domain.sections with constants := some nowhere } } } := by
  have written := (Prints.groups (by decide : Token.IsRun ":constants") named).isWritten
  rw [readSection, name?_group, Option.map_some, show lower ":constants" = ":constants" by decide]
  simp only [arguments_group written, TypedEntry.readList_typedList named]
  rfl

theorem readSection_predicates (r : Reading) {nodes : List Node} {read : List Variable}
    (isRead : readVariables document tree .predicate (.group (word ":predicates" :: nodes)) = (read, [])) :
    readSection document tree r (.group (word ":predicates" :: nodes)) =
      { r with domain := { r.domain with
        predicates := read, sections := { r.domain.sections with predicates := some nowhere } } } := by
  rw [readSection, name?_group, Option.map_some, show lower ":predicates" = ":predicates" by decide]
  simp only [isRead, List.append_nil]
  rfl

theorem readSection_functions (r : Reading) {nodes : List Node} {read : List Variable}
    (isRead : readVariables document tree .function (.group (word ":functions" :: nodes)) = (read, [])) :
    readSection document tree r (.group (word ":functions" :: nodes)) =
      { r with domain := { r.domain with
        functions := read, sections := { r.domain.sections with functions := some nowhere } } } := by
  rw [readSection, name?_group, Option.map_some, show lower ":functions" = ":functions" by decide]
  simp only [isRead, List.append_nil]
  rfl

end Domain

namespace Sketch

def IsBelow (d : Sketch) (child parent : String) : Prop :=
  ∃ g ∈ d.types, ∃ o ∈ g.objects, lower o = child ∧ lower g.typeName = parent

def HasType (d : Sketch) (name : String) : Prop :=
  name ≠ lower rootType ∧ ∃ g ∈ d.types, ∃ o ∈ g.objects, lower o = name ∨ lower g.typeName = name

/-- The types of a sketch are a hierarchy below the root, and its variables have different names. -/
structure IsCoherent (d : Sketch) : Prop extends d.IsNamed where
  acyclic : ∀ a, ¬ TransGen d.IsBelow a a
  inner : ∀ g ∈ d.types, ∀ o ∈ g.objects, sameName o rootType = false
  distinctPredicates : d.predicates.Pairwise fun s s' => sameName s.name s'.name = false
  distinctFunctions : d.functions.Pairwise fun s s' => sameName s.name s'.name = false

/-- What the domain says is what the sketch says. -/
structure Describes (d : Sketch) (domain : Domain) : Prop where
  name : domain.name = d.name
  requirements : domain.requirements = d.requirements
  types : ∀ a, a ∈ domain.types.map lower ↔ d.HasType a
  edges : ∀ a b, (a, b) ∈ domain.hierarchy.edges.map (fun edge => (lower edge.1, lower edge.2)) ↔
    d.IsBelow a b ∨ b = lower rootType ∧ d.HasType a ∧ ∀ c, ¬ d.IsBelow a c
  constants : domain.constants = ObjectGroup.group (ObjectGroup.entries d.constants)
  predicates : domain.predicates.map Variable.signature = d.predicates.map (.predicate, ·)
  functions : domain.functions.map Variable.signature = d.functions.map (.function, ·)
  derived : domain.derived = []
  actions : domain.actions.map Action.signature = d.actions

theorem isBelow_entries {d : Sketch} : Domain.IsBelow (ObjectGroup.entries d.types) = d.IsBelow := by
  funext child parent
  simp [Domain.IsBelow, IsBelow, ObjectGroup.entries, and_assoc, exists_and_left]

theorem IsCoherent.mentions_iff {d : Sketch} (coherent : d.IsCoherent) {name : String} :
    Domain.Mentions (ObjectGroup.entries d.types) name ↔ d.HasType name := by
  have differs : ∀ g ∈ d.types, ∀ o ∈ g.objects, lower o ≠ lower rootType := by
    intro g isGroup o member same
    simpa [sameName_iff.mpr same] using coherent.inner g isGroup o member
  simp only [Domain.Mentions, HasType, ObjectGroup.entries, List.mem_flatMap, List.mem_map]
  constructor
  · rintro ⟨_, ⟨g, isGroup, o, member, rfl⟩, rfl | ⟨notRoot, p, isType, rfl⟩⟩
    · exact ⟨differs g isGroup o member, g, isGroup, o, member, .inl rfl⟩
    · exact ⟨notRoot, g, isGroup, o, member, .inr (congrArg lower (List.mem_singleton.mp isType).symm)⟩
  · rintro ⟨notRoot, g, isGroup, o, member, same⟩
    refine ⟨_, ⟨g, isGroup, o, member, rfl⟩, same.imp_right fun isType => ⟨notRoot, _, .head _, isType⟩⟩

theorem IsCoherent.readTypes {d : Sketch} (coherent : d.IsCoherent) {document : Document} {r r' : Domain.Reading}
    (read : Domain.readTypes document r (.group (word ":types" :: typedList d.types)) = r')
    (fresh : r.domain.hierarchy = TypeHierarchy.addType {} rootType) (none : r.domain.types = []) :
    Domain.Shows r' (fun a b => d.IsBelow a b ∨ b = lower rootType ∧ d.HasType a ∧ ∀ c, ¬ d.IsBelow a c) d.HasType ∧
      r'.issues = r.issues ∧ r'.domain.untyped = r.domain.untyped := by
  have entries : TypedEntry.readList (Node.group (word ":types" :: typedList d.types)).arguments =
      ObjectGroup.entries d.types := by
    rw [arguments_group (Prints.groups (by decide : Token.IsRun ":types") coherent.types).isWritten,
      TypedEntry.readList_typedList coherent.types]
  have inner : ∀ e ∈ ObjectGroup.entries d.types, sameName e.name rootType = false := by
    intro e member
    simp only [ObjectGroup.entries, List.mem_flatMap, List.mem_map] at member
    obtain ⟨g, isGroup, o, isObject, rfl⟩ := member
    exact coherent.inner g isGroup o isObject
  obtain ⟨shows, quiet⟩ :=
    Domain.readTypes_shows document entries fresh none (isBelow_entries ▸ coherent.acyclic) inner
  rw [isBelow_entries] at shows
  subst read
  exact ⟨shows.congr (fun a b => by rw [coherent.mentions_iff]) (fun a => coherent.mentions_iff), quiet,
    Domain.readTypes_untyped document r _⟩

theorem IsCoherent.readSections {d : Sketch} (coherent : d.IsCoherent) (document : Document) (tree : Tree)
    (nameSpan : Option Span) :
    ∃ domain, d.sections.foldl (Domain.readSection document tree)
        ⟨{ name := d.name, nameSpan, hierarchy := TypeHierarchy.addType {} rootType }, []⟩ = ⟨domain, []⟩ ∧
      d.Describes domain := by
  obtain ⟨predicates, readPredicates, arePredicates⟩ :=
    Domain.readVariables_signatures document tree coherent.predicates coherent.distinctPredicates
      (by decide : Token.IsRun ":predicates") .predicate
  obtain ⟨functions, readFunctions, areFunctions⟩ :=
    Domain.readVariables_signatures document tree coherent.functions coherent.distinctFunctions
      (by decide : Token.IsRun ":functions") .function
  obtain ⟨actions, readActions, areActions⟩ := Domain.readActions document tree coherent.actions
  simp only [sections, List.foldl_append, List.foldl_cons, List.foldl_nil, Domain.readSection_header,
    Domain.readSection_requirements document tree _ coherent.requirements, Domain.readSection_types,
    Domain.readSection_constants document tree _ coherent.constants,
    Domain.readSection_predicates document tree _ readPredicates,
    Domain.readSection_functions document tree _ readFunctions, readActions]
  -- of the reading after the types only `readTypes` tells; the later sections fill other fields
  generalize read : Domain.readTypes document _ (.group (word ":types" :: typedList d.types)) = typed
  obtain ⟨shows, quiet, untouched⟩ := coherent.readTypes read rfl rfl
  refine ⟨_, congrArg (Domain.Reading.mk _) quiet, ?_⟩
  exact {
    name := congrArg Domain.name untouched
    requirements := congrArg Domain.requirements untouched
    types := shows.names
    edges := fun a b => shows.sound.mem_edges_iff.trans (shows.edges a b)
    constants := rfl
    predicates := arePredicates
    functions := areFunctions
    derived := congrArg Domain.derived untouched
    actions := by
      have none : typed.domain.actions = [] := congrArg Domain.actions untouched
      simpa [none] using areActions }

theorem IsCoherent.readNode {d : Sketch} (coherent : d.IsCoherent) (document : Document) (cs : List Char) :
    ∃ domain, Domain.ofTree? document ⟨cs, .document 0 [d.node]⟩ = some (domain, []) ∧ d.Describes domain := by
  have defines : (Node.document 0 [d.node]).childrenNamed "define" = [d.node] :=
    List.filter_cons_of_pos (by simp [node, hasName_group])
  have header : (d.node.childrenNamed "domain").head? = some (.group [word "domain", word d.name]) := by
    have first : (Node.group [word "domain", word d.name]).hasName "domain" = true := hasName_group _ _
    have children : d.node.children = word "define" :: d.sections := rfl
    rw [childrenNamed, children, List.filter_cons_of_neg (by simp), sections, List.cons_append,
      List.filter_cons_of_pos (by simp [first])]
    rfl
  have written : (Node.group [word "domain", word d.name]).IsWritten :=
    coherent.prints.isWritten.inside _ (by simp [sections])
  have name : (Node.group [word "domain", word d.name]).firstWord? = some (Token.ofWord d.name) := by
    rw [firstWord?, arguments_group written]
    simp
  have brackets : d.node.significant.filter isBracket = d.sections := by
    have all : ∀ n ∈ d.sections, n.isBracket = true := by
      simp only [sections, List.forall_mem_append, List.forall_mem_cons, List.forall_mem_map]
      simp [Signature.actionNode]
    rw [node, significant_group coherent.prints.isWritten, List.filter_cons_of_neg (by simp)]
    exact List.filter_eq_self.mpr all
  obtain ⟨domain, read, describes⟩ :=
    coherent.readSections document ⟨cs, .document 0 [d.node]⟩ (some (Token.ofWord d.name).span)
  refine ⟨domain, ?_, describes⟩
  simp only [Domain.ofTree?, Tree.define?, defines, List.head?_cons, header, name, brackets, Option.bind_eq_bind,
    Option.bind_some]
  exact congrArg (fun r => some (r.domain, r.issues)) read

theorem Describes.of_alike {d : Sketch} {domain domain' : Domain} (describes : d.Describes domain)
    {docs : Option String → Option String → Prop} (alike : Domain.Alike id docs domain domain') :
    d.Describes domain' where
  name := alike.name.trans describes.name
  requirements := alike.requirements.trans describes.requirements
  types := by simpa only [alike.types] using describes.types
  edges := by simpa only [alike.hierarchy] using describes.edges
  constants := alike.constants.trans describes.constants
  predicates :=
    (map_eq_of_forall₂ alike.predicates fun _ _ same => congrArg Variable.signature same.bare).trans
      describes.predicates
  functions :=
    (map_eq_of_forall₂ alike.functions fun _ _ same => congrArg Variable.signature same.bare).trans
      describes.functions
  derived := List.forall₂_nil_left_iff.mp (describes.derived ▸ alike.derived)
  actions :=
    (map_eq_of_forall₂ alike.actions fun _ _ same => congrArg Action.signature same.bare).trans describes.actions

/-- Reading undoes printing. -/
theorem read_render {d : Sketch} (coherent : d.IsCoherent) :
    ∃ domain, Domain.ofTree? ⟨d.render.toList⟩ (Tree.build d.render.toList) = some (domain, []) ∧
      d.Describes domain := by
  -- the tree of the text and the one that is written down differ in places only
  obtain ⟨domain, read, describes⟩ := coherent.readNode ⟨d.render.toList⟩ d.render.toList
  have sim := bare_similarity ⟨d.render.toList, .document 0 [d.node]⟩ (Tree.build d.render.toList)
  have alike := sim.domain coherent.prints.root.symm ⟨d.render.toList⟩ ⟨d.render.toList⟩
  rw [read] at alike
  generalize Domain.ofTree? _ (Tree.build d.render.toList) = found at alike
  cases alike with
  | @some _ found same =>
    have issues : found.2 = [] := List.forall₂_nil_left_iff.mp same.2
    exact ⟨found.1, by rw [← issues], describes.of_alike same.1⟩

def delivery : Sketch where
  name := "delivery"
  requirements := [":strips", ":typing"]
  types := [⟨"vehicle", ["Truck", "plane"]⟩, ⟨"transport", ["VEHICLE"]⟩, ⟨"object", ["place"]⟩]
  constants := [⟨"place", ["depot", "port"]⟩, ⟨"truck", ["t1"]⟩]
  predicates := [⟨"at", [⟨"?t", "transport"⟩, ⟨"?p", "place"⟩]⟩, ⟨"open", []⟩]
  functions := [⟨"distance", [⟨"?from", "place"⟩, ⟨"?to", "place"⟩]⟩]
  actions := [(.instantaneous, ⟨"drive", [⟨"?t", "truck"⟩]⟩), (.durative, ⟨"fly", [⟨"?p", "plane"⟩]⟩),
    (.process, ⟨"drift", []⟩), (.event, ⟨"close", []⟩)]

theorem read_render_delivery :
    delivery.IsCoherent ∧
      ∃ domain, Domain.ofTree? ⟨delivery.render.toList⟩ (Tree.build delivery.render.toList) = some (domain, []) ∧
        delivery.Describes domain := by
  have coherent : delivery.IsCoherent := {
    name := by decide
    requirements := by decide
    types := by decide
    constants := by decide
    predicates := by decide
    functions := by decide
    actions := by decide
    acyclic := by
      -- every type here has a shorter name than the one above it
      have longer : ∀ g ∈ delivery.types, ∀ o ∈ g.objects, (lower o).length < (lower g.typeName).length := by decide
      have step : ∀ a b, delivery.IsBelow a b → a.length < b.length := by
        rintro _ _ ⟨g, isGroup, o, isObject, rfl, rfl⟩
        exact longer g isGroup o isObject
      intro a cycle
      have way : TransGen (· < ·) a.length a.length := TransGen.lift String.length step _ _ cycle
      rw [transGen_eq_self] at way
      exact lt_irrefl _ way
    inner := by decide
    distinctPredicates := by decide
    distinctFunctions := by decide }
  exact ⟨coherent, read_render coherent⟩

end Sketch

end PddlAssist
