import PddlAssist.Decimal.Numeral
import PddlAssist.Text.Case
import PddlAssist.Token

namespace PddlAssist

open Text

inductive Node where
  | document (stop : Nat) (children : List Node)
  | bracket (id : Nat) (span : Span) (closed : Bool) (children : List Node)
  | leaf (id : Nat) (token : Token)
  deriving Repr, Inhabited

namespace Node

def id : Node → Nat
  | document .. => 0
  | bracket id .. | leaf id _ => id

def span : Node → Span
  | document stop _ => ⟨0, stop⟩
  | bracket _ span .. => span
  | leaf _ token => token.span

def children : Node → List Node
  | document _ children | bracket _ _ _ children => children
  | leaf .. => []

def isClosed : Node → Bool
  | bracket _ _ closed _ => closed
  | _ => true

def isBracket : Node → Bool
  | bracket .. => true
  | _ => false

def isComment : Node → Bool
  | leaf _ token => token.kind == .comment
  | _ => false

def terminal? : Node → Option Token
  | leaf _ token => if token.kind = .comment then none else some token
  | _ => none

def isTerminal (n : Node) : Bool := n.terminal?.isSome

def significant (n : Node) : List Node := n.children.filter (!·.isComment)

/-- The token that names a bracket: `define` in `(define …)`. -/
def nameToken? (n : Node) : Option Token :=
  if n.isBracket then n.significant.head?.bind terminal? else none

def name? (n : Node) : Option String := n.nameToken?.map (·.text)

def hasName (n : Node) (name : String) : Bool := n.name?.any (sameName · name)

def arguments (n : Node) : List Node :=
  if n.nameToken?.isSome then n.significant.tail else n.significant

def childrenNamed (n : Node) (name : String) : List Node :=
  n.children.filter fun child => child.isBracket && child.hasName name

def firstWord? (n : Node) : Option Token := n.arguments.findSome? terminal?

/-- `(at start …)`, `(at end …)`, `(at 12 …)` and `(at … (…) …)` say when something holds; any other
bracket named `at` is the application of a predicate. -/
def isTimeSpecifier (n : Node) : Bool :=
  let isTime (word : String) : Bool :=
    sameName word "start" || sameName word "end" || (Decimal.numeral? word).isSome
  n.hasName "at" &&
    (((n.arguments.head?.bind terminal?).any (isTime ·.text)) || n.arguments.any isBracket)

/-- A bracket holds the offsets between its two ends, and a bracket without end also the end of the
text. A leaf holds the offsets that touch it. -/
def holds (n : Node) (offset : Nat) : Bool :=
  match n with
  | document .. => false
  | bracket _ span closed _ =>
    span.start < offset && (offset < span.stop || (!closed && offset ≤ span.stop))
  | leaf _ token => token.start ≤ offset && offset ≤ token.stop

mutual

def first? (name : String) : Node → Option Node
  | document _ children | bracket _ _ _ children => firstOf? name children
  | leaf .. => none

def firstOf? (name : String) : List Node → Option Node
  | [] => none
  | node :: rest =>
    if node.isBracket && node.hasName name then some node
    else (first? name node).or (firstOf? name rest)

end

mutual

def path (offset : Nat) : Node → List Node
  | document _ children | bracket _ _ _ children => pathOf offset children
  | leaf .. => []

def pathOf (offset : Nat) : List Node → List Node
  | [] => []
  | node :: rest => if node.holds offset then node :: path offset node else pathOf offset rest

end

mutual

/-- All nodes in the order of their numbers, each with the number of its parent. -/
def listing (parent : Option Nat) : Node → List (Node × Option Nat)
  | document stop children => (document stop children, parent) :: listingOf (some 0) children
  | bracket id span closed children =>
    (bracket id span closed children, parent) :: listingOf (some id) children
  | leaf id token => [(leaf id token, parent)]

def listingOf (parent : Option Nat) : List Node → List (Node × Option Nat)
  | [] => []
  | node :: rest => listing parent node ++ listingOf parent rest

end

end Node

/-- Every text has a tree: a bracket that is never closed runs to the end of the text, and a closing
bracket without partner is a leaf of the document. -/
structure Tree where
  chars : List Char
  root : Node
  deriving Repr, Inhabited

namespace Tree

structure Frame where
  id : Nat
  start : Nat
  children : List Node

/-- The part of a tree that some tokens determine. The innermost open bracket comes first; `top` are
the document's children so far, newest first. -/
structure Growth where
  next : Nat
  frames : List Frame
  top : List Node

namespace Growth

def empty : Growth := ⟨1, [], []⟩

def attach (g : Growth) (node : Node) : Growth :=
  match g.frames with
  | [] => { g with top := node :: g.top }
  | frame :: outer => { g with frames := { frame with children := node :: frame.children } :: outer }

def addLeaf (g : Growth) (token : Token) : Growth :=
  { g.attach (.leaf g.next token) with next := g.next + 1 }

def step (g : Growth) (token : Token) : Growth :=
  match token.kind with
  | .blank => g
  | .openBracket => { g with next := g.next + 1, frames := ⟨g.next, token.start, []⟩ :: g.frames }
  | .closeBracket =>
    match g.frames with
    | [] => g.addLeaf token
    | frame :: outer =>
      { g with frames := outer }.attach
        (.bracket frame.id ⟨frame.start, token.stop⟩ true frame.children.reverse)
  | _ => g.addLeaf token

/-- The children of the document when the text ends at `stop` with the brackets `frames` open and
`inner` are the newest children, newest first. -/
def finish (stop : Nat) (top : List Node) : List Frame → List Node → List Node
  | [], inner => (inner ++ top).reverse
  | frame :: outer, inner =>
    finish stop top outer
      [.bracket frame.id ⟨frame.start, stop⟩ false (inner ++ frame.children).reverse]

end Growth

def build (cs : List Char) : Tree :=
  let g := (Token.scan cs).foldl Growth.step .empty
  ⟨cs, .document (width cs) (Growth.finish (width cs) g.top g.frames [])⟩

def nodes (t : Tree) : List (Node × Option Nat) := t.root.listing none

def node? (t : Tree) (id : Nat) : Option Node := (t.nodes[id]?).map (·.1)

def textOf (t : Tree) (node : Node) : List Char := slice t.chars node.span

def define? (t : Tree) : Option Node := (t.root.childrenNamed "define").head?

def breadcrumbs (t : Tree) (offset : Nat) : List Node := t.root :: t.root.path offset

def bracketNamedAt? (t : Tree) (offset : Nat) : Option Node := do
  let bracket ← (t.breadcrumbs offset).reverse.find? Node.isBracket
  let name ← bracket.nameToken?
  if name.start = offset then some bracket else none

def isInComment (t : Tree) (offset : Nat) : Bool :=
  (t.breadcrumbs offset).getLast?.any fun node => node.isComment && node.span.start < offset

def unclosed (t : Tree) : List Node :=
  (t.nodes.map (·.1)).filter fun node => node.isBracket && !node.isClosed

def stray (t : Tree) : List Node :=
  (t.nodes.map (·.1)).filter fun node => node.terminal?.any (·.kind == .closeBracket)

/-- The text of a line that holds only a comment. A line that starts with `;;!` is an instruction. -/
def remark? (line : List Char) : Option (List Char) :=
  match trim line with
  | ';' :: ';' :: '!' :: _ => none
  | ';' :: rest => some (trim (rest.dropWhile (· == ';')))
  | _ => none

def remarks : List (List Char) → List (List Char)
  | [] => []
  | line :: rest =>
    match remark? line with
    | some remark => remark :: remarks rest
    | none => []

/-- The comment lines right above an offset's line and the comment after the offset on its line. -/
def documentation? (t : Tree) (offset : Nat) : Option String :=
  let above := (Document.splitLines (takeBytes offset t.chars)).reverse.tail
  let rest := (dropBytes offset t.chars).takeWhile (· != '\n')
  let trailing := trim ((rest.dropWhile (· != ';')).dropWhile (· == ';'))
  let lines := ((remarks above).reverse ++ [trailing]).filter (!·.isEmpty)
  if lines.isEmpty then none else some ("\n".intercalate (lines.map String.ofList))

end Tree
end PddlAssist
