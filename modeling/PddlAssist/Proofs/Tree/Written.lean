import PddlAssist.Proofs.Token.Spelling
import PddlAssist.Proofs.Tree.Marks

namespace PddlAssist

open Text

namespace Node

def word (text : String) : Node := .leaf 0 (Token.ofWord text)

def group (nodes : List Node) : Node := .bracket 0 ⟨0, 0⟩ true nodes

inductive IsWritten : Node → Prop where
  | word {text : String} (run : Token.IsRun text) : IsWritten (word text)
  | group {nodes : List Node} (inside : ∀ n ∈ nodes, IsWritten n) : IsWritten (group nodes)

theorem ofWord_notComment (text : String) : (Token.ofWord text).kind ≠ .comment := by
  exact Token.wordKind_ne rfl text.toList

@[simp] theorem terminal?_word (text : String) : (word text).terminal? = some (Token.ofWord text) := by
  simp [word, terminal?, ofWord_notComment]

@[simp] theorem isComment_word (text : String) : (word text).isComment = false := by
  simp [word, isComment, ofWord_notComment]

@[simp] theorem isBracket_word (text : String) : (word text).isBracket = false := rfl

@[simp] theorem isBracket_group (nodes : List Node) : (group nodes).isBracket = true := rfl

theorem IsWritten.isComment {n : Node} (written : n.IsWritten) : n.isComment = false := by
  cases written with
  | word => exact isComment_word _
  | group => rfl

theorem filter_written {nodes : List Node} (written : ∀ n ∈ nodes, n.IsWritten) :
    nodes.filter (!·.isComment) = nodes :=
  List.filter_eq_self.mpr fun n member => by simp [(written n member).isComment]

theorem IsWritten.inside {nodes : List Node} (written : (Node.group nodes).IsWritten) :
    ∀ n ∈ nodes, n.IsWritten := by
  cases written
  assumption

theorem significant_group {nodes : List Node} (written : (group nodes).IsWritten) :
    (group nodes).significant = nodes := filter_written written.inside

theorem nameToken?_group (name : String) (nodes : List Node) :
    (group (word name :: nodes)).nameToken? = some (Token.ofWord name) := by
  have first : (group (word name :: nodes)).significant = word name :: nodes.filter (!·.isComment) :=
    List.filter_cons_of_pos (by simp)
  simp [nameToken?, first]

theorem name?_group (name : String) (nodes : List Node) : (group (word name :: nodes)).name? = some name := by
  rw [name?, nameToken?_group]
  rfl

theorem hasName_group (name : String) (nodes : List Node) : (group (word name :: nodes)).hasName name = true := by
  simp [hasName, name?_group, sameName]

theorem arguments_group {name : String} {nodes : List Node} (written : (group (word name :: nodes)).IsWritten) :
    (group (word name :: nodes)).arguments = nodes := by
  simp [arguments, nameToken?_group, significant_group written]

theorem tokens_word (text : String) : (word text).tokens = [Token.ofWord text] := rfl

theorem tokens_group (nodes : List Node) :
    (group nodes).tokens = Token.opening :: (tokensAll nodes ++ [Token.closing]) := by
  rw [group, tokens_bracket]
  rfl

end Node

namespace Tree

open Node

namespace Growth

theorem foldl_step_bare_congr (tokens : List Token) {g h : Growth} (same : g.bare = h.bare) :
    (tokens.foldl step g).bare = (tokens.foldl step h).bare := by
  induction tokens generalizing g h with
  | nil => exact same
  | cons t rest ih => exact ih (step_bare_congr same rfl)

theorem foldl_attach_bare_congr (nodes : List Node) {g h : Growth} (same : g.bare = h.bare) :
    (nodes.foldl attach g).bare = (nodes.foldl attach h).bare := by
  induction nodes generalizing g h with
  | nil => exact same
  | cons n rest ih => exact ih (attach_bare_congr same rfl)

theorem foldl_attach_frame (nodes : List Node) (next : Nat) (frame : Frame) (outer : List Frame) (top : List Node) :
    nodes.foldl attach ⟨next, frame :: outer, top⟩ =
      ⟨next, { frame with children := nodes.reverse ++ frame.children } :: outer, top⟩ := by
  induction nodes generalizing frame with
  | nil => rfl
  | cons n rest ih => simp [attach, ih]

theorem foldl_tokensAll {nodes : List Node}
    (each : ∀ n ∈ nodes, ∀ g : Growth, (n.tokens.foldl step g).bare = (g.attach n).bare) (g : Growth) :
    ((tokensAll nodes).foldl step g).bare = (nodes.foldl attach g).bare := by
  induction nodes generalizing g with
  | nil => rfl
  | cons n rest ih =>
    rw [List.forall_mem_cons] at each
    rw [tokensAll_cons, List.foldl_append, ih each.2, List.foldl_cons]
    exact foldl_attach_bare_congr rest (each.1 g)

theorem foldl_tokens {n : Node} (written : n.IsWritten) (g : Growth) :
    (n.tokens.foldl step g).bare = (g.attach n).bare := by
  induction written generalizing g with
  | @word text run =>
    have isWord := Token.wordKind_isWord text.toList
    have leaf : g.step (Token.ofWord text) = g.addLeaf (Token.ofWord text) := by
      cases kind : Token.wordKind text.toList <;> simp_all [step, Token.ofWord, TokenKind.isWord]
    rw [tokens_word, List.foldl_cons, List.foldl_nil, leaf]
    exact attach_bare_congr rfl rfl
  | @group nodes inside ih =>
    have opened := foldl_tokensAll ih (g.step Token.opening)
    have isOpen : g.step Token.opening = ⟨g.next + 1, ⟨g.next, 0, []⟩ :: g.frames, g.top⟩ := rfl
    rw [isOpen, foldl_attach_frame] at opened
    rw [tokens_group, List.foldl_cons, List.foldl_append, isOpen]
    refine (foldl_step_bare_congr [Token.closing] opened).trans ?_
    simp only [List.foldl_cons, List.foldl_nil, step, Token.closing]
    refine attach_bare_congr rfl ?_
    simp [Node.group, Node.bare]

end Growth

theorem build_written {cs : List Char} {n : Node} (written : n.IsWritten) (spelled : significantTokens cs = n.tokens) :
    (build cs).root.bare = (Node.document 0 [n]).bare := by
  have grown : ((Token.scan cs).foldl Growth.step .empty).bare = (Growth.empty.attach n).bare := by
    rw [Growth.bare_foldl_step (Token.scan cs) rfl, ← Growth.foldl_tokens written, ← spelled]
    rfl
  have frames := congrArg Growth.frames grown
  have top := congrArg Growth.top grown
  simp only [Growth.bare] at frames top
  have finished : bareAll (Growth.finish (width cs) _ _ []) =
      bareAll (Growth.finish 0 (Growth.empty.attach n).top (Growth.empty.attach n).frames []) :=
    Growth.finish_bare_congr top _ frames rfl
  exact congrArg (Node.document 0) finished

end Tree
end PddlAssist
