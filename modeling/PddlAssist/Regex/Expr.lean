import PddlAssist.Regex.Look

namespace PddlAssist.Regex

inductive Flag where
  | ignoreCase
  | multiLine
  | dotAll
  | swapGreed
  | unicode
  | crlf
  | extended
  deriving DecidableEq, Repr, Inhabited

inductive Shorthand where
  | digit
  | blank
  | word
  deriving DecidableEq, Repr, Inhabited

structure Query where
  negated : Bool
  name : List Char
  value : Option (List Char) := none
  deriving DecidableEq, Repr, Inhabited

inductive SetOp where
  | intersection
  | difference
  | symmetric
  deriving DecidableEq, Repr, Inhabited

inductive SetExpr where
  | range (low high : Char)
  | posix (negated : Bool) (name : String)
  | shorthand (negated : Bool) (kind : Shorthand)
  | query (q : Query)
  | bracket (negated : Bool) (inner : SetExpr)
  | union (items : List SetExpr)
  | join (op : SetOp) (left right : SetExpr)
  deriving Inhabited

inductive Anchor where
  | lineStart
  | lineEnd
  | textStart
  | textEnd
  | wordEdge
  | noWordEdge
  | wordStart
  | wordEnd
  | noWordBefore
  | noWordAfter
  deriving DecidableEq, Repr, Inhabited

inductive GroupKind where
  | capture (index : Nat)
  | plain (set clear : List Flag)
  deriving DecidableEq, Repr, Inhabited

inductive Expr where
  | empty
  | flags (set clear : List Flag)
  | literal (c : Char) (byte : Bool)
  | dot
  | anchor (a : Anchor)
  | shorthand (negated : Bool) (kind : Shorthand)
  | query (q : Query)
  | bracket (negated : Bool) (inner : SetExpr)
  | repeated (greedy : Bool) (inner : Expr) (low : Nat) (high : Option Nat)
  | group (kind : GroupKind) (inner : Expr)
  | alternatives (branches : List Expr)
  | sequence (parts : List Expr)
  deriving Inhabited

namespace SetExpr

def ofItems : List SetExpr → SetExpr
  | [item] => item
  | items => union items

mutual

def depth : SetExpr → Nat
  | range .. | posix .. | shorthand .. | query _ => 0
  | bracket _ inner => inner.depth + 1
  | union [] => 0
  | union (item :: items) => max item.depth (depths items) + 1
  | join _ left right => max left.depth right.depth + 1

def depths : List SetExpr → Nat
  | [] => 0
  | item :: items => max item.depth (depths items)

end

end SetExpr

namespace Expr

def ofParts : List Expr → Expr
  | [] => empty
  | [part] => part
  | parts => sequence parts

def ofBranches : List Expr → Expr
  | [branch] => branch
  | branches => alternatives branches

mutual

def depth : Expr → Nat
  | empty | flags .. | literal .. | dot | anchor _ | shorthand .. | query _ => 0
  | bracket _ inner => inner.depth + 1
  | repeated _ inner .. => inner.depth + 1
  | group _ inner => inner.depth + 1
  | alternatives branches => depths branches + 1
  | sequence parts => depths parts + 1

def depths : List Expr → Nat
  | [] => 0
  | e :: rest => max e.depth (depths rest)

end

end Expr
end PddlAssist.Regex
