import PddlAssist.Tree

namespace PddlAssist

open Text

def rootType : String := "object"

structure TypedEntry where
  name : String
  span : Span
  types : List String
  deriving DecidableEq, Repr, Inhabited

namespace TypedEntry

def operandTypes (node : Node) : List String :=
  match node.terminal? with
  | some token => [token.text]
  | none =>
    if node.hasName "either" then node.arguments.filterMap fun arg => arg.terminal?.map (·.text)
    else []

def withTypes (types : List String) (pending : List Token) : List TypedEntry :=
  pending.map fun token => ⟨token.text, token.span, types⟩

/-- The entries of a list whose names so far, newest first, wait for a type. -/
def readAfter (pending : List Token) : List Node → List TypedEntry
  | [] => withTypes [rootType] pending.reverse
  | node :: rest =>
    match node.terminal? with
    | none => readAfter pending rest
    | some token =>
      if token.kind = .dash then
        match rest with
        | [] => withTypes [] pending.reverse
        | operand :: rest => withTypes (operandTypes operand) pending.reverse ++ readAfter [] rest
      else readAfter (token :: pending) rest

/-- In `a b - t c - (either u v) d` a name has the types written after the next dash, and the type
`object` if no dash follows. -/
def readList (nodes : List Node) : List TypedEntry :=
  readAfter [] (nodes.filter (!·.isComment))

end TypedEntry

structure Parameter where
  name : String
  typeName : String
  deriving DecidableEq, Repr, Inhabited

namespace Parameter

def ofEntry (entry : TypedEntry) : Parameter := ⟨entry.name, " ".intercalate entry.types⟩

def render (parameters : List Parameter) : String :=
  " ".intercalate (parameters.map fun p => p.name ++ " - " ++ p.typeName)

end Parameter

structure ObjectGroup where
  typeName : String
  objects : List String
  deriving DecidableEq, Repr, Inhabited

namespace ObjectGroup

def add (name typeName : String) : List ObjectGroup → List ObjectGroup
  | [] => [⟨typeName, [name]⟩]
  | group :: rest =>
    if sameName group.typeName typeName then ⟨group.typeName, group.objects ++ [name]⟩ :: rest
    else group :: add name typeName rest

/-- Groups in the order in which their types first occur. -/
def group (entries : List TypedEntry) : List ObjectGroup :=
  entries.foldl (fun groups entry =>
    entry.types.foldl (fun groups typeName => add entry.name typeName groups) groups) []

def has (g : ObjectGroup) (name : String) : Bool := g.objects.any (sameName · name)

def typeOf? (groups : List ObjectGroup) (name : String) : Option String :=
  (groups.find? (·.has name)).map (·.typeName)

end ObjectGroup
end PddlAssist
