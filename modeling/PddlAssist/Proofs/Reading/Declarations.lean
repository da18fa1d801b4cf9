import PddlAssist.Proofs.Reading.Facts
import PddlAssist.Proofs.Reading.Sections

namespace PddlAssist

open Text

theorem Node.hasName_iff {n : Node} {name : String} :
    n.hasName name = true ↔ n.name?.map lower = some (lower name) := by
  cases isName : n.name? with
  | none => simp [hasName, isName]
  | some other => simp [hasName, isName, sameName_iff]

def VariableKind.keyword : VariableKind → String
  | predicate => ":predicates"
  | function => ":functions"
  | derived => ":derived"

structure Declaration where
  kind : VariableKind
  part : Node
  bracket : Node

namespace Declaration

/-- The brackets with a name that no bracket before them has. -/
def firsts : List Node → List Node
  | [] => []
  | b :: rest =>
    match b.name? with
    | some name => b :: (firsts rest).filter (!·.hasName name)
    | none => firsts rest

/-- The brackets that declare the variables of a section. -/
def brackets (kind : VariableKind) (part : Node) : List Node :=
  match kind with
  | .derived => ((part.arguments.find? Node.isBracket).filter (·.name?.isSome)).toList
  | .predicate | .function => firsts (part.arguments.filter Node.isBracket)

def parts (kind : VariableKind) (nodes : List Node) : List Node :=
  let named := nodes.filter (·.hasName kind.keyword)
  if kind = .derived then named else named.getLast?.toList

end Declaration

/-- The declarations of variables in the order in which the domain of a text lists the variables. -/
def Tree.declarations (tree : Tree) : List Declaration :=
  [VariableKind.predicate, .function, .derived].flatMap fun kind =>
    (Declaration.parts kind (tree.define?.elim [] fun define => define.significant.filter Node.isBracket)).flatMap
      fun part => (Declaration.brackets kind part).map fun b => ⟨kind, part, b⟩

namespace Domain

def declareVariable (document : Document) (tree : Tree) (kind : VariableKind) (r : List Variable × List Issue)
    (node : Node) : List Variable × List Issue :=
  match readVariable? tree kind node with
  | none => r
  | some var =>
    if r.1.any (sameName ·.name var.name) then
      (r.1, r.2 ++ [.warning (kind.label ++ " '" ++ var.name ++ "' is declared more than once")
        (document.rangeOf node.span)])
    else (r.1 ++ [var], r.2)

theorem readVariables_eq (document : Document) (tree : Tree) (kind : VariableKind) (part : Node) :
    readVariables document tree kind part =
      (part.arguments.filter Node.isBracket).foldl (declareVariable document tree kind) ([], []) := rfl

theorem readVariable?_eq_some {tree : Tree} {kind : VariableKind} {b : Node} {var : Variable}
    (read : readVariable? tree kind b = some var) :
    var.kind = kind ∧ var.location = none ∧ b.name? = some var.name := by
  obtain ⟨name, isName, rfl⟩ := Option.map_eq_some_iff.mp read
  exact ⟨rfl, rfl, isName⟩

def variablesOf (d : Domain) : VariableKind → List Variable
  | .predicate => d.predicates
  | .function => d.functions
  | .derived => d.derived

theorem foldl_declareVariable (document : Document) (tree : Tree) (kind : VariableKind) (nodes : List Node)
    (known : List Variable) (issues : List Issue) :
    (nodes.foldl (declareVariable document tree kind) (known, issues)).1 =
      known ++ ((Declaration.firsts nodes).filter fun b => !known.any (b.hasName ·.name)).filterMap
        (readVariable? tree kind) := by
  induction nodes generalizing known issues with
  | nil => simp [Declaration.firsts]
  | cons b rest ih =>
    rw [List.foldl_cons]
    cases isName : b.name? with
    | none =>
      have nothing : readVariable? tree kind b = none := by simp [readVariable?, isName]
      simp only [declareVariable, nothing, ih, Declaration.firsts, isName]
    | some name =>
      obtain ⟨var, read, named⟩ : ∃ var, readVariable? tree kind b = some var ∧ var.name = name := by
        simp [readVariable?, isName]
      have hasName (v : Variable) : b.hasName v.name = sameName v.name name := by
        simp [Node.hasName, isName, sameName_comm]
      simp only [declareVariable, read, named, Declaration.firsts, isName, List.filter_cons, hasName]
      cases before : known.any (sameName ·.name name) with
      | true =>
        -- whatever has the name of `b` has a name that is known
        have absent (c : Node) : (!known.any (c.hasName ·.name) && !c.hasName name) =
            !known.any (c.hasName ·.name) := by
          obtain ⟨v, isKnown, same⟩ := List.any_eq_true.mp before
          by_cases again : c.hasName name = true
          · have found : known.any (c.hasName ·.name) = true := by
              refine List.any_eq_true.mpr ⟨v, isKnown, ?_⟩
              rw [Node.hasName_iff] at again ⊢
              rw [again, sameName_iff.mp same]
            simp [found]
          · simp [again]
        simp [ih, List.filter_filter, absent]
      | false =>
        simp [ih, read, named, List.filter_filter, Bool.and_comm]

theorem readVariables_fst (document : Document) (tree : Tree) (kind : VariableKind) (part : Node) :
    (readVariables document tree kind part).1 =
      (Declaration.firsts (part.arguments.filter Node.isBracket)).filterMap (readVariable? tree kind) := by
  rw [readVariables_eq, foldl_declareVariable]
  simp

theorem hasName_keyword_iff {part : Node} {kind : VariableKind} :
    part.hasName kind.keyword = true ↔ part.name?.map lower = some kind.keyword := by
  have keyword : lower kind.keyword = kind.keyword := by cases kind <;> decide
  rw [Node.hasName_iff, keyword]

theorem readSection_own (document : Document) (tree : Tree) (r : Reading) {part : Node} {kind : VariableKind}
    (own : part.hasName kind.keyword = true) :
    (readSection document tree r part).domain.variablesOf kind =
        (if kind = .derived then r.domain.variablesOf kind else []) ++
          (Declaration.brackets kind part).filterMap (readVariable? tree kind) ∧
      (readSection document tree r part).domain.scopes kind =
        (if kind = .derived then r.domain.scopes kind else []) ++ [part.span] := by
  have isName := hasName_keyword_iff.mp own
  cases kind with
  | predicate | function =>
    simp only [VariableKind.keyword] at isName
    simp [readSection, isName, variablesOf, scopes, Declaration.brackets, readVariables_fst]
  | derived =>
    simp only [VariableKind.keyword] at isName
    simp only [readSection, isName, variablesOf, scopes, Declaration.brackets, if_true, and_true]
    congr 1
    cases part.arguments.find? Node.isBracket with
    | none => rfl
    | some b => cases named : b.name? <;> simp [readVariable?, named, Option.filter]

theorem readSection_other (document : Document) (tree : Tree) (r : Reading) {part : Node} {kind : VariableKind}
    (other : part.hasName kind.keyword = false) :
    (readSection document tree r part).domain.variablesOf kind = r.domain.variablesOf kind ∧
      (readSection document tree r part).domain.scopes kind = r.domain.scopes kind := by
  have types (r : Reading) : (readTypes document r part).domain.variablesOf kind = r.domain.variablesOf kind ∧
      (readTypes document r part).domain.scopes kind = r.domain.scopes kind := by
    have same := readTypes_untyped document r part
    cases kind with
    | predicate => exact ⟨(congrArg predicates same :), by rw [scopes, sections_readTypes]; rfl⟩
    | function => exact ⟨(congrArg functions same :), by rw [scopes, sections_readTypes]; rfl⟩
    | derived => exact ⟨(congrArg derived same :), by rw [scopes, sections_readTypes]; rfl⟩
  have differs : part.name?.map lower ≠ some kind.keyword := by
    rw [ne_eq, ← hasName_keyword_iff, other]
    exact Bool.false_ne_true
  unfold readSection
  split
  · exact ⟨rfl, rfl⟩
  · cases kind <;> exact ⟨rfl, rfl⟩
  · rw [(types _).1, (types _).2]
    cases kind <;> exact ⟨rfl, rfl⟩
  · cases kind <;> exact ⟨rfl, rfl⟩
  · cases kind with
    | predicate => contradiction
    | function | derived => exact ⟨rfl, rfl⟩
  · cases kind with
    | function => contradiction
    | predicate | derived => exact ⟨rfl, rfl⟩
  · cases kind with
    | derived => contradiction
    | predicate | function => exact ⟨rfl, rfl⟩
  · split
    · cases kind <;> exact ⟨rfl, rfl⟩
    · exact ⟨rfl, rfl⟩

theorem parts_append_single (kind : VariableKind) (nodes : List Node) (part : Node) :
    Declaration.parts kind (nodes ++ [part]) =
      if part.hasName kind.keyword then (if kind = .derived then Declaration.parts kind nodes else []) ++ [part]
      else Declaration.parts kind nodes := by
  by_cases own : part.hasName kind.keyword = true
  · simp [Declaration.parts, List.filter_append, own]
    split <;> simp
  · simp [Declaration.parts, List.filter_append, own]

theorem foldl_readSection (document : Document) (tree : Tree) {start : Reading}
    (fresh : ∀ kind, start.domain.variablesOf kind = [] ∧ start.domain.scopes kind = []) (nodes : List Node)
    (kind : VariableKind) :
    (nodes.foldl (readSection document tree) start).domain.variablesOf kind =
        ((Declaration.parts kind nodes).flatMap fun part =>
          (Declaration.brackets kind part).filterMap (readVariable? tree kind)) ∧
      (nodes.foldl (readSection document tree) start).domain.scopes kind =
        (Declaration.parts kind nodes).map Node.span := by
  -- from the last section on, since it may replace what the others have declared
  induction nodes using List.reverseRecOn with
  | nil => simpa [Declaration.parts] using fresh kind
  | append_singleton nodes part ih =>
    rw [List.foldl_concat, parts_append_single]
    split
    case isTrue own =>
      obtain ⟨read, spans⟩ := readSection_own document tree (nodes.foldl (readSection document tree) start) own
      rw [read, spans, ih.1, ih.2]
      split <;> simp
    case isFalse other =>
      rw [Bool.not_eq_true] at other
      obtain ⟨read, spans⟩ := readSection_other document tree (nodes.foldl (readSection document tree) start) other
      rw [read, spans]
      exact ih

theorem mem_firsts {nodes : List Node} {b : Node} (member : b ∈ Declaration.firsts nodes) :
    b ∈ nodes ∧ b.name?.isSome = true := by
  induction nodes with
  | nil => cases member
  | cons first rest ih =>
    rw [Declaration.firsts] at member
    split at member
    case h_1 name named =>
      rcases List.mem_cons.mp member with rfl | later
      · exact ⟨.head _, by rw [named, Option.isSome_some]⟩
      · exact (ih (List.mem_of_mem_filter later)).imp_left (.tail _)
    case h_2 => exact (ih member).imp_left (.tail _)

theorem mem_brackets {kind : VariableKind} {part b : Node} (member : b ∈ Declaration.brackets kind part) :
    b ∈ part.arguments ∧ b.name?.isSome = true := by
  cases kind with
  | predicate | function => exact (mem_firsts member).imp_left List.mem_of_mem_filter
  | derived =>
    obtain ⟨found, named⟩ := Option.filter_eq_some_iff.mp (Option.mem_toList.mp member)
    exact ⟨List.mem_of_find?_eq_some found, named⟩

theorem parts_sublist (kind : VariableKind) (nodes : List Node) : (Declaration.parts kind nodes).Sublist nodes := by
  simp only [Declaration.parts]
  split
  · exact List.filter_sublist
  · refine List.Sublist.trans ?_ (List.filter_sublist (p := (·.hasName kind.keyword)))
    cases last : (nodes.filter (·.hasName kind.keyword)).getLast? with
    | none => exact List.nil_sublist _
    | some part => exact List.singleton_sublist.mpr (List.mem_of_getLast? last)

theorem variablesOf_ofTree? {document : Document} {tree : Tree} {d : Domain} {issues : List Issue}
    (read : ofTree? document tree = some (d, issues)) :
    ∃ define, tree.define? = some define ∧ ∀ kind,
      d.variablesOf kind = ((Declaration.parts kind (define.significant.filter Node.isBracket)).flatMap fun part =>
          (Declaration.brackets kind part).filterMap (readVariable? tree kind)) ∧
        d.scopes kind = (Declaration.parts kind (define.significant.filter Node.isBracket)).map Node.span := by
  simp only [ofTree?, Option.bind_eq_bind, Option.bind_eq_some_iff] at read
  obtain ⟨define, isDefine, header, _, read⟩ := read
  cases read
  refine ⟨define, isDefine, foldl_readSection document tree ?_ _⟩
  intro kind
  cases kind <;> exact ⟨rfl, rfl⟩

theorem declarations_ofTree? {document : Document} {tree : Tree} {d : Domain} {issues : List Issue}
    (read : ofTree? document tree = some (d, issues)) :
    (tree.declarations.map fun e => readVariable? tree e.kind e.bracket) = d.allVariables.map some := by
  obtain ⟨define, isDefine, each⟩ := variablesOf_ofTree? read
  have all : d.allVariables = [VariableKind.predicate, .function, .derived].flatMap d.variablesOf := by
    simp [allVariables, variablesOf]
  have named (kind : VariableKind) (part : Node) :
      ((Declaration.brackets kind part).filterMap (readVariable? tree kind)).map some =
        (Declaration.brackets kind part).map (readVariable? tree kind) := by
    rw [List.map_filterMap_some_eq_filter_map_isSome, List.filter_eq_self]
    simp only [List.forall_mem_map, readVariable?, Option.isSome_map]
    exact fun b member => (mem_brackets member).2
  simp only [all, Tree.declarations, isDefine, Option.elim_some, List.map_flatMap, each, named, List.map_map]
  rfl

theorem declaration_of_variable {document : Document} {tree : Tree} {d : Domain} {issues : List Issue}
    (read : ofTree? document tree = some (d, issues)) {n : Nat} {var : Variable}
    (isVariable : d.allVariables[n]? = some var) :
    ∃ e, tree.declarations[n]? = some e ∧ readVariable? tree e.kind e.bracket = some var := by
  have same := congrArg (·[n]?) (declarations_ofTree? read)
  simpa only [List.getElem?_map, isVariable, Option.map_some, Option.map_eq_some_iff] using same

theorem place_of_mem_declarations {document : Document} {tree : Tree} {d : Domain} {issues : List Issue}
    (read : ofTree? document tree = some (d, issues)) {e : Declaration} (member : e ∈ tree.declarations) :
    e.part.span ∈ d.scopes e.kind ∧ e.part ∈ tree.nodes.map Prod.fst ∧ e.bracket ∈ e.part.children := by
  obtain ⟨define, isDefine, each⟩ := variablesOf_ofTree? read
  simp only [Tree.declarations, isDefine, Option.elim_some, List.mem_flatMap, List.mem_map] at member
  obtain ⟨kind, _, part, isPart, b, isBracket, rfl⟩ := member
  rw [(each kind).2]
  have isSection := List.mem_of_mem_filter (List.mem_of_mem_filter ((parts_sublist _ _).subset isPart))
  exact ⟨List.mem_map_of_mem isPart, Tree.mem_nodes_of_mem_children (Tree.mem_nodes_of_define? isDefine) isSection,
    Node.mem_children_of_mem_arguments (mem_brackets isBracket).1⟩

theorem scopes_sorted {cs : List Char} {d : Domain} {issues : List Issue}
    (read : ofTree? ⟨cs⟩ (Tree.build cs) = some (d, issues)) (kind : VariableKind) :
    (d.scopes kind).Pairwise (·.stop ≤ ·.start) := by
  obtain ⟨define, isDefine, each⟩ := variablesOf_ofTree? read
  obtain ⟨⟨_, parent⟩, listed, same⟩ := List.mem_map.mp (Tree.mem_nodes_of_define? isDefine)
  cases same
  obtain ⟨_, _, placed, _⟩ := Tree.placed_children listed
  rw [(each kind).2, List.pairwise_map]
  exact placed.bounds.2.sublist ((parts_sublist _ _).trans (List.filter_sublist.trans List.filter_sublist))

end Domain

def Tree.typesSection? (tree : Tree) : Option Node :=
  ((tree.define?.elim [] fun define => define.significant.filter Node.isBracket).filter (·.hasName ":types")).getLast?

theorem Tree.mem_brackets_of_typesSection? {tree : Tree} {part : Node} (isSection : tree.typesSection? = some part) :
    part ∈ tree.brackets ∧ part.hasName ":types" = true := by
  obtain ⟨isPart, named⟩ := List.mem_filter.mp (List.mem_of_getLast? isSection)
  cases isDefine : tree.define? with
  | none => simp [isDefine] at isPart
  | some define =>
    rw [isDefine, Option.elim_some] at isPart
    obtain ⟨isChild, isBracket⟩ := List.mem_filter.mp isPart
    have listed := mem_nodes_of_mem_children (mem_nodes_of_define? isDefine) (List.mem_of_mem_filter isChild)
    exact ⟨List.mem_filter.mpr ⟨listed, isBracket⟩, named⟩

namespace Domain

theorem types_readSection (document : Document) (tree : Tree) (r : Reading) (part : Node) :
    (readSection document tree r part).domain.sections.types =
      if part.hasName ":types" then some part.span else r.domain.sections.types := by
  have isTypes : part.hasName ":types" = true ↔ part.name?.map lower = some ":types" := by
    rw [Node.hasName_iff]
    exact Iff.rfl
  by_cases own : part.hasName ":types" = true
  · rw [if_pos own]
    simp only [readSection, isTypes.mp own, sections_readTypes]
  · rw [if_neg own]
    rw [isTypes] at own
    unfold readSection
    split
    case h_3 here => exact absurd here own
    case h_8 => split <;> rfl
    all_goals rfl

theorem types_ofTree? {document : Document} {tree : Tree} {d : Domain} {issues : List Issue}
    (read : ofTree? document tree = some (d, issues)) : d.sections.types = tree.typesSection?.map Node.span := by
  simp only [ofTree?, Option.bind_eq_bind, Option.bind_eq_some_iff] at read
  obtain ⟨define, isDefine, header, _, read⟩ := read
  cases read
  rw [Tree.typesSection?, isDefine, Option.elim_some]
  -- from the last section on, since it replaces the others
  induction define.significant.filter Node.isBracket using List.reverseRecOn with
  | nil => rfl
  | append_singleton nodes part ih =>
    rw [List.foldl_concat, types_readSection, List.filter_append]
    by_cases own : part.hasName ":types" = true
    · simp [own]
    · rw [if_neg own, ih]
      simp [own]

end Domain
end PddlAssist
