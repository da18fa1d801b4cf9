import PddlAssist.Problem

namespace PddlAssist.Problem

open Text

def readAtom? (node : Node) : Option Atom := do
  let name ← node.nameToken?
  if node.arguments.all Node.isTerminal then
    some ⟨name.text, node.arguments.filterMap fun arg => arg.terminal?.map (·.text), name.span⟩
  else none

def readArgumentAtom? (node : Node) : Option Atom :=
  (node.arguments.head?.filter Node.isBracket).bind readAtom?

def number? (node : Node) : Option Float := node.terminal?.bind fun token => Decimal.numeral? token.text

def readUntimed? (node : Node) : Option InitEntry :=
  node.name?.bind fun name =>
    if name = "=" then do
      let atom ← readArgumentAtom? node
      let value ← (node.arguments[1]?).bind number?
      return .fluent atom value
    else if sameName name "not" then (readArgumentAtom? node).map (.literal · false)
    else (readAtom? node).map (.literal · true)

def timed? (node : Node) : Option (Float × Node) :=
  match node.hasName "at", node.arguments with
  | true, [time, inner] => if inner.isBracket then (number? time).map (·, inner) else none
  | _, _ => none

def readEntry? (node : Node) : Option InitEntry :=
  match timed? node with
  | none => readUntimed? node
  | some (time, inner) =>
    if (timed? inner).isSome then none
    else
      match readUntimed? inner with
      | some (.literal atom positive) => some (.timedLiteral time atom positive)
      | some (.fluent atom value) => some (.timedFluent time atom value)
      | _ => none

structure Reading where
  problem : Problem
  issues : List Issue

def readInit (document : Document) (tree : Tree) (r : Reading) (node : Node) : Reading :=
  match readEntry? node with
  | some entry => { r with problem := { r.problem with initEntries := r.problem.initEntries ++ [entry] } }
  | none =>
    { r with issues := r.issues ++ [.warning
      ("Unrecognized initial state entry: " ++ String.ofList (trim (tree.textOf node)))
      (document.rangeOf node.span)] }

def readSection (document : Document) (tree : Tree) (r : Reading) (part : Node) : Reading :=
  let p := r.problem
  let span := part.span
  match part.name?.map lower with
  | some ":objects" =>
    let objectEntries := TypedEntry.readList part.arguments
    { r with problem := { p with
      objectEntries
      objects := ObjectGroup.group objectEntries
      sections := { p.sections with objects := some span } } }
  | some ":init" =>
    let started := { r with problem := { p with sections := { p.sections with init := some span } } }
    let read := (part.arguments.filter Node.isBracket).foldl (readInit document tree) started
    { read with problem := { read.problem with
      inits := read.problem.initEntries.map InitEntry.timedValue } }
  | some ":goal" => { r with problem := { p with sections := { p.sections with goal := some span } } }
  | some ":metric" => { r with problem := { p with sections := { p.sections with metric := some span } } }
  | _ => r

/-- The problem that a text defines, with the issues found, or nothing if the text does not define a
problem for a domain. -/
def ofTree? (document : Document) (tree : Tree) : Option (Problem × List Issue) := do
  let define ← tree.define?
  let header ← (define.childrenNamed "problem").head?
  let reference ← (define.childrenNamed ":domain").head?
  let domain := reference.firstWord?
  let start : Reading :=
    { problem :=
        { name := header.firstWord?.elim "" (·.text)
          domainName := domain.elim "" (·.text)
          domainNameSpan := domain.elim reference.span (·.span) }
      issues :=
        if domain.isNone then [.error "Domain name is missing" (document.rangeOf reference.span)]
        else [] }
  let r := (define.significant.filter Node.isBracket).foldl (readSection document tree) start
  return (r.problem, r.issues)

end PddlAssist.Problem
