import PddlAssist.Domain
import PddlAssist.Proofs.Tree.Written

namespace PddlAssist

open Text Token

/-- A name with its parameters. -/
structure Signature where
  name : String
  parameters : List Parameter
  deriving DecidableEq

/-- What the sections of a domain declare. -/
structure Sketch where
  name : String
  requirements : List String
  types : List ObjectGroup
  constants : List ObjectGroup
  predicates : List Signature
  functions : List Signature
  actions : List (ActionKind × Signature)

def bracketed (parts : List String) : String := "(" ++ " ".intercalate parts ++ ")"

/-- Names with their type, such as `a b - t`. -/
def ObjectGroup.render (g : ObjectGroup) : String := " ".intercalate (g.objects ++ ["-", g.typeName])

def Signature.render (s : Signature) : String := bracketed [s.name, Parameter.render s.parameters]

def Signature.renderAction (kind : ActionKind) (s : Signature) : String :=
  bracketed [kind.keyword, s.name, ":parameters", bracketed [Parameter.render s.parameters]]

def Sketch.render (d : Sketch) : String :=
  bracketed
    (["define",
      bracketed ["domain", d.name],
      bracketed (":requirements" :: d.requirements),
      bracketed (":types" :: d.types.map ObjectGroup.render),
      bracketed (":constants" :: d.constants.map ObjectGroup.render),
      bracketed (":predicates" :: d.predicates.map Signature.render),
      bracketed (":functions" :: d.functions.map Signature.render)] ++
    d.actions.map fun action => action.2.renderAction action.1)

/-- A name that is a word and neither a dash nor a keyword. -/
def IsName (word : String) : Prop := IsRun word ∧ word ≠ "-" ∧ word.toList.head? ≠ some ':'

instance (word : String) : Decidable (IsName word) :=
  inferInstanceAs (Decidable (IsRun word ∧ word ≠ "-" ∧ word.toList.head? ≠ some ':'))

def ObjectGroup.IsNamed (g : ObjectGroup) : Prop := IsName g.typeName ∧ ∀ o ∈ g.objects, IsName o

instance (g : ObjectGroup) : Decidable g.IsNamed :=
  inferInstanceAs (Decidable (IsName g.typeName ∧ ∀ o ∈ g.objects, IsName o))

def Signature.IsNamed (s : Signature) : Prop :=
  IsName s.name ∧ ∀ p ∈ s.parameters, IsName p.name ∧ IsName p.typeName

instance (s : Signature) : Decidable s.IsNamed :=
  inferInstanceAs (Decidable (IsName s.name ∧ ∀ p ∈ s.parameters, IsName p.name ∧ IsName p.typeName))

structure Sketch.IsNamed (d : Sketch) : Prop where
  name : IsName d.name
  requirements : ∀ word ∈ d.requirements, IsRun word
  types : ∀ g ∈ d.types, g.IsNamed
  constants : ∀ g ∈ d.constants, g.IsNamed
  predicates : ∀ s ∈ d.predicates, s.IsNamed
  functions : ∀ s ∈ d.functions, s.IsNamed
  actions : ∀ a ∈ d.actions, a.2.IsNamed

namespace Node

def typedList (groups : List ObjectGroup) : List Node :=
  groups.flatMap fun g => g.objects.map word ++ [word "-", word g.typeName]

end Node

/-- A parameter as a group of its own. -/
def Parameter.group (p : Parameter) : ObjectGroup := ⟨p.typeName, [p.name]⟩

namespace Signature

open Node

def parameterNodes (s : Signature) : List Node := typedList (s.parameters.map Parameter.group)

def node (s : Signature) : Node := .group (word s.name :: s.parameterNodes)

def actionNode (kind : ActionKind) (s : Signature) : Node :=
  .group [word kind.keyword, word s.name, word ":parameters", .group s.parameterNodes]

end Signature

namespace Sketch

open Node

def sections (d : Sketch) : List Node :=
  [.group [word "domain", word d.name],
    .group (word ":requirements" :: d.requirements.map word),
    .group (word ":types" :: typedList d.types),
    .group (word ":constants" :: typedList d.constants),
    .group (word ":predicates" :: d.predicates.map Signature.node),
    .group (word ":functions" :: d.functions.map Signature.node)] ++
  d.actions.map fun action => action.2.actionNode action.1

def node (d : Sketch) : Node := .group (word "define" :: d.sections)

end Sketch

structure Prints (text : String) (nodes : List Node) : Prop where
  written : ∀ n ∈ nodes, n.IsWritten
  spells : Spells text.toList (Node.tokensAll nodes)

namespace Prints

open Node

theorem isWritten {text : String} {n : Node} (prints : Prints text [n]) : n.IsWritten :=
  prints.written n (List.mem_singleton_self n)

theorem root {text : String} {n : Node} (prints : Prints text [n]) :
    (Tree.build text.toList).root.bare = (Node.document 0 [n]).bare := by
  have spelled := prints.spells [] (by simp)
  simp only [List.append_nil, significantTokens_nil, tokensAll_cons, tokensAll_nil] at spelled
  exact Tree.build_written prints.isWritten spelled

theorem word {text : String} (run : IsRun text) : Prints text [Node.word text] where
  written := by simpa using IsWritten.word run
  spells := by simpa [tokens_word] using Spells.word run

theorem joined {texts : List String} {nodes : List (List Node)} (each : List.Forall₂ Prints texts nodes) :
    Prints (" ".intercalate texts) nodes.flatten where
  written := by
    induction each with
    | nil => simp
    | cons first _ ih =>
      rw [List.flatten_cons]
      exact List.forall_mem_append.mpr ⟨first.written, ih⟩
  spells := by
    have spells : List.Forall₂ (fun text tokens => Spells text.toList tokens) texts (nodes.map tokensAll) :=
      List.forall₂_map_right_iff.mpr (each.imp fun _ _ prints => prints.spells)
    have all (nodes : List (List Node)) : tokensAll nodes.flatten = (nodes.map tokensAll).flatten := by
      induction nodes with
      | nil => rfl
      | cons first rest ih => rw [List.flatten_cons, tokensAll_append, ih, List.map_cons, List.flatten_cons]
    rw [all]
    exact Spells.joined spells

theorem bracketed {texts : List String} {nodes : List (List Node)} (each : List.Forall₂ Prints texts nodes) :
    Prints (PddlAssist.bracketed texts) [.group nodes.flatten] where
  written := by simpa using IsWritten.group (joined each).written
  spells := by
    have around := (joined each).spells.bracket
    rw [tokensAll_cons, tokens_group, tokensAll_nil, List.append_nil]
    simpa [PddlAssist.bracketed] using around

theorem words {texts : List String} (runs : ∀ text ∈ texts, IsRun text) :
    List.Forall₂ Prints texts (texts.map fun text => [Node.word text]) := by
  rw [List.forall₂_map_right_iff, List.forall₂_same]
  exact fun text member => word (runs text member)

theorem mapped {α : Type} {items : List α} {text : α → String} {nodes : α → List Node}
    (each : ∀ a ∈ items, Prints (text a) (nodes a)) : List.Forall₂ Prints (items.map text) (items.map nodes) := by
  rw [List.forall₂_map_left_iff, List.forall₂_map_right_iff, List.forall₂_same]
  exact each

end Prints

theorem ActionKind.isRun_keyword (kind : ActionKind) : IsRun kind.keyword := by
  cases kind <;> decide

theorem ObjectGroup.IsNamed.prints {g : ObjectGroup} (named : g.IsNamed) :
    Prints g.render (g.objects.map Node.word ++ [Node.word "-", Node.word g.typeName]) := by
  have ends : List.Forall₂ Prints ["-", g.typeName] [[Node.word "-"], [Node.word g.typeName]] :=
    .cons (.word (by decide)) (.cons (.word named.1.1) .nil)
  have joined := Prints.joined (List.rel_append (Prints.words fun o member => (named.2 o member).1) ends)
  simpa [ObjectGroup.render, List.flatten_append, ← List.flatMap_def, ← List.map_eq_flatMap] using joined

theorem Prints.typedList {groups : List ObjectGroup} (named : ∀ g ∈ groups, g.IsNamed) :
    Prints (" ".intercalate (groups.map ObjectGroup.render)) (Node.typedList groups) := by
  rw [Node.typedList, List.flatMap_def]
  exact .joined (Prints.mapped fun g member => (named g member).prints)

theorem Parameter.render_eq (parameters : List Parameter) :
    Parameter.render parameters = " ".intercalate ((parameters.map Parameter.group).map ObjectGroup.render) := by
  rw [Parameter.render, List.map_map]
  refine congrArg _ (List.map_congr_left fun p _ => ?_)
  have dash : " - " = " " ++ "- " := rfl
  have rendered : (ObjectGroup.render ∘ Parameter.group) p = p.name ++ (" " ++ ("- " ++ p.typeName)) := by
    simp [ObjectGroup.render, Parameter.group, String.append_assoc]
  rw [rendered, dash]
  simp only [String.append_assoc]

namespace Signature.IsNamed

variable {s : Signature}

theorem groups (named : s.IsNamed) : ∀ g ∈ s.parameters.map Parameter.group, g.IsNamed := by
  intro g member
  obtain ⟨p, inside, rfl⟩ := List.mem_map.mp member
  obtain ⟨name, typeName⟩ := named.2 p inside
  exact ⟨typeName, fun o isName => List.mem_singleton.mp isName ▸ name⟩

theorem prints_parameters (named : s.IsNamed) : Prints (Parameter.render s.parameters) s.parameterNodes := by
  rw [Parameter.render_eq]
  exact .typedList named.groups

theorem prints (named : s.IsNamed) : Prints s.render [s.node] := by
  have inside := Prints.bracketed (.cons (.word named.1.1) (.cons named.prints_parameters .nil))
  simpa [Signature.render, Signature.node] using inside

theorem prints_action (named : s.IsNamed) (kind : ActionKind) :
    Prints (s.renderAction kind) [s.actionNode kind] := by
  have keyword : IsRun ":parameters" := by decide
  have parameters := Prints.bracketed (.cons named.prints_parameters .nil)
  have inside := Prints.bracketed
    (.cons (.word kind.isRun_keyword) (.cons (.word named.1.1) (.cons (.word keyword) (.cons parameters .nil))))
  simpa [Signature.renderAction, Signature.actionNode] using inside

end Signature.IsNamed

theorem Prints.headed {keyword : String} (run : IsRun keyword) {texts : List String} {nodes : List (List Node)}
    (each : List.Forall₂ Prints texts nodes) :
    Prints (PddlAssist.bracketed (keyword :: texts)) [.group (Node.word keyword :: nodes.flatten)] := by
  simpa using Prints.bracketed (.cons (.word run) each)

theorem Prints.groups {keyword : String} (run : IsRun keyword) {groups : List ObjectGroup}
    (named : ∀ g ∈ groups, g.IsNamed) :
    Prints (PddlAssist.bracketed (keyword :: groups.map ObjectGroup.render))
      [.group (Node.word keyword :: Node.typedList groups)] := by
  have each := Prints.headed run (Prints.mapped fun g member => (named g member).prints)
  rwa [← List.flatMap_def] at each

theorem Prints.signatures {keyword : String} (run : IsRun keyword) {signatures : List Signature}
    (named : ∀ s ∈ signatures, s.IsNamed) :
    Prints (PddlAssist.bracketed (keyword :: signatures.map Signature.render))
      [.group (Node.word keyword :: signatures.map Signature.node)] := by
  have each := Prints.headed run (Prints.mapped fun s member => (named s member).prints)
  rwa [← List.flatMap_def, ← List.map_eq_flatMap] at each

theorem Sketch.IsNamed.prints {d : Sketch} (named : d.IsNamed) : Prints d.render [d.node] := by
  have header := Prints.headed (by decide : IsRun "domain")
    (.cons (.word named.name.1) .nil)
  have requirements := Prints.headed (by decide : IsRun ":requirements")
    (Prints.words named.requirements)
  have types := Prints.groups (by decide : IsRun ":types") named.types
  have constants := Prints.groups (by decide : IsRun ":constants") named.constants
  have predicates := Prints.signatures (by decide : IsRun ":predicates") named.predicates
  have functions := Prints.signatures (by decide : IsRun ":functions") named.functions
  have actions := Prints.mapped fun action member => (named.actions action member).prints_action action.1
  have sections := Prints.headed (by decide : IsRun "define")
    (.cons header (.cons requirements (.cons types (.cons constants (.cons predicates (.cons functions actions))))))
  simpa [Sketch.render, Sketch.node, Sketch.sections, ← List.flatMap_def, ← List.map_eq_flatMap] using sections

end PddlAssist
