import PddlAssist.Text.Case

namespace PddlAssist

open Text

structure TypeVertex where
  name : String
  /-- The keys of the parents, in increasing order. -/
  parents : List String
  deriving DecidableEq, Repr, Inhabited

def TypeVertex.key (v : TypeVertex) : String := lower v.name

def insertKey (key : String) : List String → List String
  | [] => [key]
  | k :: rest =>
    if key < k then key :: k :: rest
    else if key = k then k :: rest
    else k :: insertKey key rest

/-- A graph without cycles. Types are found by their names in lower case, keep the spelling in which
they were added first, and stand in increasing order of their keys. -/
structure TypeHierarchy where
  vertices : List TypeVertex := []
  deriving DecidableEq, Repr, Inhabited

namespace TypeHierarchy

def insertVertex (name : String) : List TypeVertex → List TypeVertex
  | [] => [⟨name, []⟩]
  | v :: rest =>
    if lower name < v.key then ⟨name, []⟩ :: v :: rest
    else if lower name = v.key then v :: rest
    else v :: insertVertex name rest

def addType (h : TypeHierarchy) (name : String) : TypeHierarchy := ⟨insertVertex name h.vertices⟩

def find? (h : TypeHierarchy) (key : String) : Option TypeVertex :=
  h.vertices.find? (·.key == key)

def contains (h : TypeHierarchy) (name : String) : Bool := (h.find? (lower name)).isSome

def parentKeys (h : TypeHierarchy) (key : String) : List String :=
  (h.find? key).elim [] (·.parents)

def childKeys (h : TypeHierarchy) (key : String) : List String :=
  (h.vertices.filter (·.parents.contains key)).map (·.key)

def unseen (seen : List String) : List String → List String
  | [] => []
  | key :: found =>
    if seen.contains key then unseen seen found else key :: unseen (key :: seen) found

/-- The keys that `n` steps reach from `frontier`, nearest first, apart from those in `seen`. -/
def reach (step : String → List String) : Nat → List String → List String → List String
  | 0, _, _ => []
  | n + 1, seen, frontier =>
    let next := unseen seen (frontier.flatMap step)
    next ++ reach step n (seen ++ next) next

/-- A walk that meets a new type at each step has no more steps than there are types. -/
def ancestorKeys (h : TypeHierarchy) (key : String) : List String :=
  reach h.parentKeys (h.vertices.length + 1) [] [key]

def descendantKeys (h : TypeHierarchy) (key : String) : List String :=
  reach h.childKeys (h.vertices.length + 1) [] [key]

def displayName (h : TypeHierarchy) (key : String) : String := (h.find? key).elim key (·.name)

def closesCycle (h : TypeHierarchy) (child parent : String) : Bool :=
  lower child == lower parent || (h.ancestorKeys (lower parent)).contains (lower child)

def addParent (child parent : String) (v : TypeVertex) : TypeVertex :=
  if v.key = child then { v with parents := insertKey parent v.parents } else v

def addEdge? (h : TypeHierarchy) (child parent : String) : Option TypeHierarchy :=
  if h.closesCycle child parent then none
  else
    let grown := (h.addType child).addType parent
    some ⟨grown.vertices.map (addParent (lower child) (lower parent))⟩

def types (h : TypeHierarchy) : List String := h.vertices.map (·.name)

def edges (h : TypeHierarchy) : List (String × String) :=
  h.vertices.flatMap fun v => v.parents.map fun parent => (v.name, h.displayName parent)

def parents (h : TypeHierarchy) (name : String) : List String :=
  (h.parentKeys (lower name)).map h.displayName

def ancestors (h : TypeHierarchy) (name : String) : List String :=
  (h.ancestorKeys (lower name)).map h.displayName

def inheriting (h : TypeHierarchy) (name : String) : List String :=
  let below := h.descendantKeys (lower name)
  (h.vertices.filter (below.contains ·.key)).map (·.name)

def isSubtype (h : TypeHierarchy) (child ancestor : String) : Bool :=
  sameName child ancestor || (h.ancestorKeys (lower child)).contains (lower ancestor)

end TypeHierarchy
end PddlAssist
