import PddlAssist.Domain

namespace PddlAssist.Domain

open Text

structure Reading where
  domain : Domain
  issues : List Issue

def addName (names : List String) (name : String) : List String :=
  if names.any (sameName · name) then names else names ++ [name]

def declareParent (document : Document) (entry : TypedEntry) (r : Reading) (parent : String) :
    Reading :=
  let types := if sameName parent rootType then r.domain.types else addName r.domain.types parent
  match r.domain.hierarchy.addEdge? entry.name parent with
  | some hierarchy => { r with domain := { r.domain with types, hierarchy } }
  | none =>
    { domain := { r.domain with types }
      issues := r.issues ++ [.error
        ("Type '" ++ entry.name ++ "' cannot inherit from '" ++ parent ++
          "': the inheritance would be cyclic")
        (document.rangeOf entry.span)] }

def declareType (document : Document) (r : Reading) (entry : TypedEntry) : Reading :=
  let named := { r with domain := { r.domain with
    types := addName r.domain.types entry.name
    hierarchy := r.domain.hierarchy.addType entry.name } }
  entry.types.foldl (declareParent document entry) named

def hangUnderRoot (h : TypeHierarchy) (name : String) : TypeHierarchy :=
  if (h.parents name).isEmpty && !sameName name rootType then (h.addEdge? name rootType).getD h
  else h

def readTypes (document : Document) (r : Reading) (part : Node) : Reading :=
  let declared := (TypedEntry.readList part.arguments).foldl (declareType document) r
  let d := declared.domain
  { declared with domain := { d with
    hierarchy := d.types.foldl hangUnderRoot d.hierarchy
    types := d.types.filter (!sameName · rootType) } }

/-- The variable that a bracket such as `(at ?t - truck ?l)` declares. -/
def readVariable? (tree : Tree) (kind : VariableKind) (node : Node) : Option Variable :=
  node.name?.map fun name =>
    { name
      declaredName := singleSpaced
        (" ".intercalate (node.significant.filterMap fun child => child.terminal?.map (·.text)))
      parameters := (TypedEntry.readList node.arguments).map .ofEntry
      kind
      documentation := tree.documentation? node.span.start }

/-- Declarations of a name after its first are reported and left out. -/
def readVariables (document : Document) (tree : Tree) (kind : VariableKind) (part : Node) :
    List Variable × List Issue :=
  (part.arguments.filter Node.isBracket).foldl (fun (known, issues) node =>
    match readVariable? tree kind node with
    | none => (known, issues)
    | some var =>
      if known.any (sameName ·.name var.name) then
        (known, issues ++ [.warning
          (kind.label ++ " '" ++ var.name ++ "' is declared more than once")
          (document.rangeOf node.span)])
      else (known ++ [var], issues)) ([], [])

def readActionParts (action : Action) : List Node → Action
  | [] => action
  | node :: rest =>
    match node.terminal?, rest.head? with
    | some token, some value =>
      let next :=
        if !value.isBracket then action
        else
          match lower token.text with
          | ":parameters" =>
            { action with parameters := (TypedEntry.readList value.significant).map .ofEntry }
          | ":precondition" | ":condition" => { action with condition := some value.span }
          | ":effect" => { action with effect := some value.span }
          | _ => action
      readActionParts next rest
    | _, _ => readActionParts action rest

def readAction (tree : Tree) (kind : ActionKind) (part : Node) : Action :=
  let name := (part.arguments.head?.bind Node.terminal?).filter (·.kind != .keyword)
  readActionParts
    { name := name.elim "" (·.text)
      kind
      parameters := []
      span := part.span
      nameSpan := name.map (·.span)
      condition := none
      effect := none
      documentation := tree.documentation? part.span.start }
    part.arguments

def words (node : Node) : List String := node.arguments.filterMap fun arg => arg.terminal?.map (·.text)

def readSection (document : Document) (tree : Tree) (r : Reading) (part : Node) : Reading :=
  let d := r.domain
  let span := part.span
  match part.name?.map lower with
  | none => r
  | some ":requirements" =>
    { r with domain := { d with
      requirements := words part
      sections := { d.sections with requirements := some span } } }
  | some ":types" =>
    readTypes document
      { r with domain := { d with sections := { d.sections with types := some span } } } part
  | some ":constants" =>
    { r with domain := { d with
      constants := ObjectGroup.group (TypedEntry.readList part.arguments)
      sections := { d.sections with constants := some span } } }
  | some ":predicates" =>
    let (predicates, issues) := readVariables document tree .predicate part
    { domain := { d with predicates, sections := { d.sections with predicates := some span } }
      issues := r.issues ++ issues }
  | some ":functions" =>
    let (functions, issues) := readVariables document tree .function part
    { domain := { d with functions, sections := { d.sections with functions := some span } }
      issues := r.issues ++ issues }
  | some ":derived" =>
    let var := (part.arguments.find? Node.isBracket).bind (readVariable? tree .derived)
    { r with domain := { d with
      derived := d.derived ++ var.toList
      sections := { d.sections with derived := d.sections.derived ++ [span] } } }
  | some keyword =>
    match ActionKind.ofKeyword? keyword with
    | some kind => { r with domain := { d with actions := d.actions ++ [readAction tree kind part] } }
    | none => r

/-- The domain that a text defines, with the issues found, or nothing if the text does not define a
domain. -/
def ofTree? (document : Document) (tree : Tree) : Option (Domain × List Issue) := do
  let define ← tree.define?
  let header ← (define.childrenNamed "domain").head?
  let name := header.firstWord?
  let start : Reading :=
    { domain :=
        { name := name.elim "" (·.text)
          nameSpan := name.map (·.span)
          hierarchy := TypeHierarchy.addType {} rootType }
      issues :=
        if name.isNone then [.error "Domain name is missing" (document.rangeOf header.span)] else [] }
  let r := (define.significant.filter Node.isBracket).foldl (readSection document tree) start
  return (r.domain, r.issues)

end PddlAssist.Domain
