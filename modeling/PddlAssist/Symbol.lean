import PddlAssist.Document.Occurrence
import PddlAssist.Domain.Location
import PddlAssist.Hover
import PddlAssist.Workspace.Binding

namespace PddlAssist

open Text

inductive SymbolKind where
  | variable (kind : VariableKind)
  | type
  | action (kind : ActionKind)
  deriving DecidableEq, Repr, Inhabited

namespace SymbolKind

def label : SymbolKind → String
  | .variable kind => kind.label
  | .type => "Type"
  | .action .durative => "Durative action"
  | .action .process => "Process"
  | .action .event => "Event"
  | .action .instantaneous => "Action"

def isRenameable : SymbolKind → Bool
  | .variable _ | .type => true
  | .action _ => false

end SymbolKind

structure Location where
  uri : Uri
  range : Range
  deriving DecidableEq, Repr, Inhabited

structure TextEdit where
  range : Range
  newText : String
  deriving DecidableEq, Repr, Inhabited

structure Symbol where
  kind : SymbolKind
  name : String
  range : Range
  hover : String
  location : Option Location
  domainUri : Uri
  deriving DecidableEq, Repr, Inhabited

namespace Symbol

def isSymbolChar (c : Char) : Bool := c.isAlphanum || c == '-' || c == '_'

/-- The word that touches an offset; parameters and keywords are no words here. -/
def wordAt? (cs : List Char) (offset : Nat) : Option Span :=
  let before := (takeBytes offset cs).reverse
  let left := before.takeWhile isSymbolChar
  let right := (dropBytes offset cs).takeWhile isSymbolChar
  let start := width (takeBytes offset cs) - width left
  if left.isEmpty && right.isEmpty then none
  else
    match before.drop left.length with
    | '?' :: _ | ':' :: _ => none
    | _ => some ⟨start, start + width left + width right⟩

def precededByActionKeyword (cs : List Char) (offset : Nat) : Bool :=
  let before := (trimEnd (takeBytes offset cs)).reverse.map Char.toLower
  [":action", ":durative-action", ":process", ":event"].any fun keyword =>
    keyword.toList.reverse.isPrefixOf before

def insideEither (file : SourceFile) (offset : Nat) : Bool :=
  (file.tree.breadcrumbs offset).any fun node => node.isBracket && node.hasName "either"

def namesVariable (file : SourceFile) (offset : Nat) : Bool :=
  (file.tree.bracketNamedAt? offset).any (!·.isTimeSpecifier)

def inTypesSection (domain : Domain) (offset : Nat) : Bool :=
  domain.sections.types.any fun span => span.start ≤ offset && offset < span.stop

def listsActions (file : SourceFile) : Bool :=
  match file.kind with
  | .plan _ | .happenings _ => true
  | _ => false

inductive Meaning where
  | variable (index : Nat) (var : Variable)
  | type (name : String)
  | action (action : Action)

/-- What the word at `span` of a file stands for in the domain of the file. -/
def meaning? (file : SourceFile) (domain : Domain) (span : Span) : Option Meaning :=
  let cs := file.document.chars
  let word := String.ofList (slice cs span)
  let asVariable : Option Meaning :=
    if !listsActions file && namesVariable file span.start then
      (domain.allVariables.findIdx? (sameName ·.name word)).bind fun n =>
        (domain.allVariables[n]?).map (.variable n)
    else none
  let asStep : Option Meaning :=
    if listsActions file && precededByBracket cs span.start then
      (domain.findAction? word).map .action
    else none
  let asType : Option Meaning :=
    if (precededByDash cs span.start || insideEither file span.start ||
        (file.isDomain && inTypesSection domain span.start)) && domain.hasType word then
      some (.type ((domain.types.find? (sameName · word)).getD word))
    else none
  match asStep.or asVariable with
  | some found => some found
  | none =>
    if file.isDomain && precededByActionKeyword cs span.start then
      (domain.findAction? word).map .action
    else asType

def resolve (domainFile : SourceFile) (domain : Domain) (range : Range) :
    Meaning → Symbol × Domain
  | .variable n var =>
    let (location, domain) := domain.locate n domainFile.document
    ({ kind := .variable var.kind, name := var.name, range, hover := Hover.ofVariable var
       location := location.map (⟨domainFile.uri, ·⟩), domainUri := domainFile.uri }, domain)
  | .type name =>
    let (location, located) := domain.locateType name domainFile.document
    ({ kind := .type, name, range, hover := Hover.ofType domain name
       location := location.map (⟨domainFile.uri, ·⟩), domainUri := domainFile.uri }, located)
  | .action action =>
    ({ kind := .action action.kind, name := action.name, range, hover := Hover.ofAction action
       location := some ⟨domainFile.uri, Domain.actionLocation action domainFile.document⟩
       domainUri := domainFile.uri }, domain)

def at? (w : Workspace) (uri : Uri) (position : Position) : Option Symbol × Workspace :=
  let found : Option (Symbol × SourceFile) := do
    let file ← w.find? uri
    let offset ← file.document.offset? position
    if isCommented file.document.chars offset then none
    let span ← wordAt? file.document.chars offset
    let domainFile ← w.domainFile? uri
    let domain ← domainFile.domain?
    let meaning ← meaning? file domain span
    let (symbol, domain) := resolve domainFile domain (file.document.rangeOf span) meaning
    return (symbol, { domainFile with kind := .domain domain })
  match found with
  | some (symbol, domainFile) => (some symbol, w.put domainFile)
  | none => (none, w)

/-- The places in a document where a name is written and `keep` holds. -/
def placesWhere (document : Document) (name : String) (keep : Nat → Bool) : List Range :=
  ((occurrences document.chars ⟨0, document.size⟩ name).filter (keep ·.start)).map document.rangeOf

def placesIn (symbol : Symbol) (domain : Domain) (file : SourceFile) : List Range :=
  let cs := file.document.chars
  match symbol.kind, file.kind with
  | .variable _, .domain _ | .variable _, .problem _ =>
    placesWhere file.document symbol.name (namesVariable file)
  | .type, .domain _ =>
    placesWhere file.document symbol.name fun offset =>
      precededByDash cs offset || inTypesSection domain offset || insideEither file offset
  | .type, .problem _ =>
    placesWhere file.document symbol.name fun offset =>
      precededByDash cs offset || insideEither file offset
  | .action _, .domain _ =>
    (domain.findAction? symbol.name).toList.map (Domain.actionLocation · file.document)
  | .action _, .plan _ | .action _, .happenings _ =>
    placesWhere file.document symbol.name (precededByBracket cs)
  | _, _ => []

/-- The files that may write a symbol: its domain, the problems and, for actions, the plans. -/
def relatedFiles (w : Workspace) (symbol : Symbol) (domainFile : SourceFile) : List SourceFile :=
  let plans :=
    match symbol.kind with
    | .action _ => w.planFiles symbol.domainUri
    | _ => []
  domainFile :: w.problemFiles symbol.domainUri ++ plans

def references (w : Workspace) (symbol : Symbol) (declaration : Bool) : List Location :=
  match w.find? symbol.domainUri with
  | none => []
  | some domainFile =>
    match domainFile.domain? with
    | none => []
    | some domain =>
      let all := (relatedFiles w symbol domainFile).flatMap fun file =>
        (placesIn symbol domain file).map (⟨file.uri, ·⟩)
      if declaration then all else all.filter fun location => some location != symbol.location

def isValidName (name : String) : Bool :=
  match name.toList with
  | [] => false
  | c :: rest => c.isAlpha && rest.all isSymbolChar

def prepareRename (w : Workspace) (uri : Uri) (position : Position) : Option Range × Workspace :=
  let (symbol, w) := at? w uri position
  ((symbol.filter (·.kind.isRenameable)).map (·.range), w)

def addEdit (edits : List (Uri × List TextEdit)) (uri : Uri) (edit : TextEdit) :
    List (Uri × List TextEdit) :=
  match edits with
  | [] => [(uri, [edit])]
  | (u, es) :: rest => if u = uri then (u, es ++ [edit]) :: rest else (u, es) :: addEdit rest uri edit

def editsFor (locations : List Location) (newName : String) : List (Uri × List TextEdit) :=
  locations.foldl (fun edits location => addEdit edits location.uri ⟨location.range, newName⟩) []

def rename (w : Workspace) (uri : Uri) (position : Position) (newName : String) :
    Option (List (Uri × List TextEdit)) × Workspace :=
  if isValidName newName then
    let (symbol, w) := at? w uri position
    ((symbol.filter (·.kind.isRenameable)).map fun symbol =>
      editsFor (references w symbol true) newName, w)
  else (none, w)

end Symbol
end PddlAssist
