import PddlAssist.Document.Occurrence
import PddlAssist.Hover
import PddlAssist.Workspace.Binding

namespace PddlAssist

open Text

inductive CompletionKind where
  | keyword
  | type
  | atom
  | object
  | action
  deriving DecidableEq, Repr, Inhabited

structure CompletionItem where
  label : String
  kind : CompletionKind
  detail : String
  documentation : Option String := none
  deriving DecidableEq, Repr, Inhabited

namespace Completion

def knownRequirements : List String :=
  [":strips", ":typing", ":negative-preconditions", ":disjunctive-preconditions", ":equality",
   ":existential-preconditions", ":universal-preconditions", ":quantified-preconditions",
   ":conditional-effects", ":fluents", ":numeric-fluents", ":object-fluents", ":adl",
   ":durative-actions", ":duration-inequalities", ":continuous-effects", ":derived-predicates",
   ":timed-initial-literals", ":preferences", ":constraints", ":action-costs", ":time"]

def actionKeywords : List String := [":action", ":durative-action", ":process", ":event"]

def domainSections : List String :=
  [":requirements", ":types", ":constants", ":predicates", ":functions", ":derived"] ++ actionKeywords

def problemSections : List String :=
  [":domain", ":objects", ":init", ":goal", ":metric", ":constraints"]

def actionFields : List String :=
  [":parameters", ":precondition", ":effect", ":duration", ":condition"]

def operators : List String :=
  ["and", "or", "not", "imply", "forall", "exists", "when", "at start", "at end", "over all",
   "increase", "decrease", "assign", "scale-up", "scale-down"]

def atomScopes : List String :=
  actionKeywords ++ [":derived", ":init", ":goal", ":metric", ":constraints"]

inductive Context where
  | topLevel
  | section
  | actionField
  | requirement
  | type
  | atom
  | argument
  | planAction
  deriving DecidableEq, Repr

def isPartialChar (c : Char) : Bool :=
  c.isAlphanum || c == '-' || c == '_' || c == ':' || c == '?'

/-- The text before the word that ends at an offset, last character first. A dash alone is no word. -/
def beforeWord (cs : List Char) (offset : Nat) : List Char :=
  let before := (takeBytes offset cs).reverse
  if before.takeWhile isPartialChar = ['-'] then before else before.dropWhile isPartialChar

def endsWithDash : List Char → Bool
  | '-' :: c :: _ => c == ' ' || c == '\t' || c == '\n'
  | _ => false

def bracketNames (file : SourceFile) (offset : Nat) : List String :=
  ((file.tree.breadcrumbs offset).filter Node.isBracket).map fun node => (node.name?.map lower).getD ""

def isAtomScope (name : String) : Bool := atomScopes.contains name

def contextAt? (file : SourceFile) (offset : Nat) : Option Context :=
  let before := beforeWord file.document.chars offset
  let afterBracket := before.head? == some '('
  let listsActions :=
    match file.kind with
    | .plan _ | .happenings _ => true
    | _ => false
  if listsActions then if afterBracket then some .planAction else none
  else
    let names := bracketNames file offset
    -- the bracket that is being typed says nothing about its context
    let enclosing := if afterBracket then names.dropLast else names
    if endsWithDash (before.dropWhile fun c => c == ' ' || c == '\t') then some .type
    else if enclosing.contains ":requirements" then some .requirement
    else
      match afterBracket, enclosing.getLast? with
      | true, none => some .topLevel
      | true, some "define" => some .section
      | true, some _ => if enclosing.any isAtomScope then some .atom else none
      | false, none => none
      | false, some last =>
        if actionKeywords.contains last then some .actionField
        else if !isAtomScope last && enclosing.dropLast.any isAtomScope then some .argument
        else none

def keywordItems (detail : String) (labels : List String) : List CompletionItem :=
  labels.map fun label => { label, kind := .keyword, detail }

def typeItems (domain : Domain) : List CompletionItem :=
  (rootType :: domain.types).map fun name => { label := name, kind := .type, detail := "Type: " ++ name }

def atomItems (domain : Domain) : List CompletionItem :=
  (domain.allVariables.map fun v =>
    { label := v.name, kind := .atom, detail := v.kind.label ++ ": (" ++ v.declaredName ++ ")"
      documentation := some (Hover.ofVariable v) }) ++
  keywordItems "Operator" operators

def objectItems (detail : String) (groups : List ObjectGroup) : List CompletionItem :=
  groups.flatMap fun group => group.objects.map fun object =>
    { label := object, kind := .object, detail := detail ++ " - " ++ group.typeName }

def actionItems (domain : Domain) : List CompletionItem :=
  (domain.actions.filter (!·.name.isEmpty)).map fun a =>
    { label := a.name, kind := .action, detail := "Action: " ++ a.name
      documentation := some (Hover.ofAction a) }

def itemsFor (file : SourceFile) (domain : Option Domain) : Context → List CompletionItem
  | .topLevel => keywordItems "PDDL definition" ["define"]
  | .section =>
    match file.kind with
    | .problem _ => keywordItems "Section" problemSections
    | .domain _ => keywordItems "Section" domainSections
    | _ => keywordItems "Domain" ["domain"] ++ keywordItems "Problem" ["problem"]
  | .actionField => keywordItems "Action field" actionFields
  | .requirement => keywordItems "Requirement" knownRequirements
  | .type => domain.elim [] typeItems
  | .atom => domain.elim [] atomItems
  | .argument =>
    domain.elim [] (fun d => objectItems "Constant" d.constants) ++
      file.problem?.elim [] fun p => objectItems "Object" p.objects
  | .planAction => domain.elim [] actionItems

def at? (w : Workspace) (uri : Uri) (position : Position) : Option (List CompletionItem) := do
  let file ← w.find? uri
  let offset ← file.document.offset? position
  if isCommented file.document.chars offset then none
  let context ← contextAt? file offset
  return itemsFor file ((w.domainFile? uri).bind (·.domain?)) context

def items (w : Workspace) (uri : Uri) (position : Position) : List CompletionItem :=
  (at? w uri position).getD []

end Completion
end PddlAssist
