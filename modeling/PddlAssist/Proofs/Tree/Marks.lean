import Mathlib.Data.List.Range
import PddlAssist.Proofs.Tree.Placement

namespace PddlAssist

open Text

/-- What one meets on the way through a tree in text order. -/
inductive Mark where
  | opening (id start : Nat)
  | closing (stop : Nat)
  | leaf (id : Nat) (token : Token)

namespace Mark

def token : Mark → Token
  | opening _ start => ⟨.openBracket, "(", start⟩
  | closing stop => ⟨.closeBracket, ")", stop - 1⟩
  | leaf _ token => token

def id? : Mark → Option Nat
  | opening id _ | leaf id _ => some id
  | closing _ => none

end Mark

namespace Node

mutual

def marks : Node → List Mark
  | document _ children => marksAll children
  | bracket id span closed children =>
    .opening id span.start :: (marksAll children ++ if closed then [.closing span.stop] else [])
  | leaf id token => [.leaf id token]

def marksAll : List Node → List Mark
  | [] => []
  | node :: rest => marks node ++ marksAll rest

end

@[simp] theorem marksAll_append (left right : List Node) :
    marksAll (left ++ right) = marksAll left ++ marksAll right := by
  induction left with
  | nil => rfl
  | cons node left ih => simp [marksAll, ih]

def tokens (n : Node) : List Token := n.marks.map Mark.token

def tokensAll (nodes : List Node) : List Token := (marksAll nodes).map Mark.token

@[simp] theorem tokensAll_nil : tokensAll [] = [] := rfl

@[simp] theorem tokensAll_cons (n : Node) (rest : List Node) : tokensAll (n :: rest) = n.tokens ++ tokensAll rest := by
  simp [tokensAll, tokens, marksAll]

@[simp] theorem tokensAll_append (left right : List Node) :
    tokensAll (left ++ right) = tokensAll left ++ tokensAll right := by
  simp [tokensAll]

theorem tokens_document (stop : Nat) (children : List Node) :
    (document stop children).tokens = tokensAll children := rfl

theorem tokens_leaf (id : Nat) (t : Token) : (leaf id t).tokens = [t] := rfl

theorem tokens_bracket (id : Nat) (span : Span) (closed : Bool) (children : List Node) :
    (bracket id span closed children).tokens =
      (Mark.opening id span.start).token ::
        (tokensAll children ++ if closed then [(Mark.closing span.stop).token] else []) := by
  cases closed <;> simp [tokens, marks, tokensAll]

end Node

namespace Tree.Growth

open Node

def marks (top : List Node) : List Frame → List Mark
  | [] => marksAll top.reverse
  | frame :: outer => marks top outer ++ .opening frame.id frame.start :: marksAll frame.children.reverse

def marksOf (g : Growth) (t : Token) : List Mark :=
  match t.kind with
  | .blank => []
  | .openBracket => [.opening g.next t.start]
  | .closeBracket => if g.frames.isEmpty then [.leaf g.next t] else [.closing t.stop]
  | _ => [.leaf g.next t]

theorem marks_attach (g : Growth) (n : Node) :
    marks (g.attach n).top (g.attach n).frames = marks g.top g.frames ++ n.marks := by
  obtain ⟨next, frames, top⟩ := g
  cases frames <;> simp [attach, marks, marksAll]

theorem marks_step (g : Growth) (t : Token) :
    marks (g.step t).top (g.step t).frames = marks g.top g.frames ++ g.marksOf t := by
  have leaf : marks (g.addLeaf t).top (g.addLeaf t).frames = marks g.top g.frames ++ [.leaf g.next t] :=
    marks_attach g (.leaf g.next t)
  cases kind : t.kind with
  | blank => simp [step, kind, marksOf]
  | openBracket => simp [step, kind, marksOf, marks, marksAll]
  | closeBracket =>
    simp only [step, kind, marksOf]
    cases isFrames : g.frames with
    | nil => simpa [isFrames] using leaf
    | cons frame outer =>
      simp only
      rw [marks_attach]
      simp [Node.marks, marks]
  | comment | keyword | parameter | dash | word => simpa [step, kind, marksOf] using leaf

theorem marks_finish (stop : Nat) (top : List Node) (frames : List Frame) (inner : List Node) :
    marksAll (finish stop top frames inner) = marks top frames ++ marksAll inner.reverse := by
  induction frames generalizing inner with
  | nil => simp [finish, marks]
  | cons frame outer ih =>
    rw [finish, ih]
    simp [marks, Node.marks, marksAll]

theorem tokens_marksOf {t : Token} {rest : List Char} (leads : t.Leads rest) (g : Growth) :
    (g.marksOf t).map Mark.token = [t].filter (·.kind != .blank) := by
  cases leads with
  | openBracket => rfl
  | closeBracket start =>
    have stop : (⟨.closeBracket, String.ofList [')'], start⟩ : Token).stop - 1 = start := by
      rw [Token.stop, String.toList_ofList, show width [')'] = 1 from by decide, Nat.add_sub_cancel]
    simp only [marksOf]
    split
    · rfl
    · simp only [List.map_cons, List.map_nil, Mark.token, stop]
      rfl
  | comment | blank => rfl
  | @word start run =>
    have isWord := Token.wordKind_isWord run
    cases kind : Token.wordKind run <;> simp_all [marksOf, Mark.token, TokenKind.isWord]

theorem tokens_foldl {start : Nat} {tokens : List Token} (scanned : Token.Scanned start tokens) (g : Growth) :
    (marks (tokens.foldl step g).top (tokens.foldl step g).frames).map Mark.token =
      (marks g.top g.frames).map Mark.token ++ tokens.filter (·.kind != .blank) := by
  induction tokens generalizing start g with
  | nil => simp
  | cons t rest ih =>
    obtain ⟨_, leads, scanned⟩ := Token.scanned_cons_iff.mp scanned
    rw [List.foldl_cons, ih scanned, marks_step, List.map_append, tokens_marksOf leads, List.append_assoc,
      ← List.filter_append, List.singleton_append]

/-- The numbers that are given out are those that the way meets, in order. -/
def IsCounted (g : Growth) : Prop :=
  1 ≤ g.next ∧ (marks g.top g.frames).filterMap Mark.id? = List.range' 1 (g.next - 1)

theorem IsCounted.step {g : Growth} (counted : g.IsCounted) (t : Token) : (g.step t).IsCounted := by
  obtain ⟨positive, numbers⟩ := counted
  have onward : List.range' 1 (g.next - 1) ++ [g.next] = List.range' 1 g.next := by
    have whole : g.next = g.next - 1 + 1 := by omega
    conv_rhs => rw [whole, List.range'_concat]
    simp
    omega
  have given {next : Nat} (isNext : (g.step t).next = next) (ids : (g.marksOf t).filterMap Mark.id? = [g.next])
      (one : next = g.next + 1) : (g.step t).IsCounted := by
    rw [IsCounted, marks_step, List.filterMap_append, numbers, ids, isNext, one]
    exact ⟨by omega, onward⟩
  have kept (isNext : (g.step t).next = g.next) (ids : (g.marksOf t).filterMap Mark.id? = []) :
      (g.step t).IsCounted := by
    rw [IsCounted, marks_step, List.filterMap_append, numbers, ids, isNext, List.append_nil]
    exact ⟨positive, rfl⟩
  have attached (n : Node) : ((g.attach n)).next = g.next := by
    simp only [attach]
    split <;> rfl
  cases kind : t.kind with
  | blank => exact kept (by simp [Growth.step, kind]) (by simp [marksOf, kind])
  | openBracket =>
    exact given (by simp [Growth.step, kind]) (by simp [marksOf, kind, Mark.id?]) rfl
  | closeBracket =>
    cases isFrames : g.frames with
    | nil =>
      exact given (by simp [Growth.step, kind, isFrames, addLeaf]) (by simp [marksOf, kind, isFrames, Mark.id?]) rfl
    | cons frame outer =>
      refine kept ?_ (by simp [marksOf, kind, isFrames, Mark.id?])
      simp only [Growth.step, kind, isFrames, attach]
      split <;> rfl
  | comment | keyword | parameter | dash | word =>
    exact given (by simp [Growth.step, kind, addLeaf]) (by simp [marksOf, kind, Mark.id?]) rfl

theorem IsCounted.foldl (tokens : List Token) {g : Growth} (counted : g.IsCounted) :
    (tokens.foldl Growth.step g).IsCounted := by
  induction tokens generalizing g with
  | nil => exact counted
  | cons t rest ih => exact ih (counted.step t)

end Tree.Growth

namespace Tree

theorem tokens_build (cs : List Char) : (build cs).root.tokens = (Token.scan cs).filter (·.kind != .blank) := by
  have scanned := (Token.scan_eq_iff.mp (rfl : Token.scan cs = _)).1
  have grown := Growth.tokens_foldl scanned .empty
  simp only [build, Node.tokens_document, Node.tokensAll]
  rw [Growth.marks_finish, List.reverse_nil, Node.marksAll, List.append_nil, grown]
  rfl

theorem ids_build (cs : List Char) :
    ∃ count, ((build cs).root.marks).filterMap Mark.id? = List.range' 1 count := by
  have counted := Growth.IsCounted.foldl (Token.scan cs) (g := .empty) ⟨Nat.le_refl 1, rfl⟩
  refine ⟨_, Eq.trans ?_ counted.2⟩
  simp only [build, Node.marks]
  rw [Growth.marks_finish, List.reverse_nil, Node.marksAll, List.append_nil]

end Tree
end PddlAssist
