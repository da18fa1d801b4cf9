import PddlAssist.Domain.Location
import PddlAssist.Proofs.Reading.Inheritance
import PddlAssist.Proofs.Tree.Reflection

namespace PddlAssist

open Text

namespace Text

structure Fits (cs : List Char) (span : Span) : Prop where
  start : IsBoundary cs span.start
  stop : IsBoundary cs span.stop

theorem isBoundary_append (left right : List Char) : IsBoundary (left ++ right) (width left) := ⟨left, right, rfl, rfl⟩

theorem isBoundary_width (cs : List Char) : IsBoundary cs (width cs) := ⟨cs, [], (List.append_nil cs).symm, rfl⟩

end Text

theorem Token.fits_of_mem_scan {cs : List Char} {t : Token} (member : t ∈ scan cs) : Fits cs t.span := by
  obtain ⟨earlier, later, rfl, start, _⟩ := mem_scan member
  constructor
  · rw [span, start]
    exact isBoundary_append _ _
  · rw [span, stop, start, ← List.append_assoc, ← width_append]
    exact isBoundary_append _ _

namespace Tree

open Node

theorem fits_bracket {cs : List Char} {id : Nat} {span : Span} {closed : Bool} {children : List Node}
    {parent : Option Nat} (listed : (Node.bracket id span closed children, parent) ∈ (build cs).nodes) :
    Fits cs span := by
  have inside := (mem_nodes_build.mp listed).resolve_left fun isRoot => by simp [build] at isRoot
  have scanned : ∀ t ∈ (Node.bracket id span closed children).tokens, Fits cs t.span := by
    intro t member
    refine Token.fits_of_mem_scan ?_
    have read := (infix_tokensAll inside).subset member
    rw [← tokens_document (width cs)] at read
    exact List.mem_of_mem_filter (tokens_build cs ▸ read)
  rw [tokens_bracket, List.forall_mem_cons, List.forall_mem_append] at scanned
  refine ⟨scanned.1.start, ?_⟩
  cases closed with
  | true =>
    -- the closing token is one byte wide and begins that much before the end of the bracket
    have narrow : ')'.utf8Size = 1 := rfl
    have ends : (Mark.closing span.stop).token.span.stop = span.stop - 1 + 1 := by
      simp [Mark.token, Token.span, Token.stop, narrow]
    have last := (scanned.2.2 _ (.head _)).stop
    by_cases isZero : span.stop = 0
    · rw [isZero]
      exact isBoundary_append [] cs
    · rwa [ends, Nat.sub_add_cancel (Nat.pos_of_ne_zero isZero)] at last
  | false =>
    rcases (build_trailing cs).cases_of_mem (fun _ settled => settled) inside with
      whole | ⟨_, settled, _⟩ | ⟨_, _, _, _, isBracket, _⟩
    · cases whole
    · cases settled.isClosed
    · cases isBracket
      exact isBoundary_width cs

end Tree

def DomainSections.searched (s : DomainSections) : List Span :=
  s.types.toList ++ s.predicates.toList ++ s.functions.toList ++ s.derived

def DomainSections.all (s : DomainSections) : List Span :=
  s.requirements.toList ++ s.types.toList ++ s.constants.toList ++ s.predicates.toList ++ s.functions.toList ++
    s.derived

theorem DomainSections.searched_subset (s : DomainSections) : s.searched ⊆ s.all := by
  intro scope member
  simp only [searched, all, List.mem_append] at member ⊢
  grind

namespace Domain

theorem mem_searched_of_scopes {d : Domain} {kind : VariableKind} {scope : Span} (member : scope ∈ d.scopes kind) :
    scope ∈ d.sections.searched := by
  simp only [DomainSections.searched, List.mem_append]
  cases kind with
  | predicate => exact .inl (.inl (.inr member))
  | function => exact .inl (.inr member)
  | derived => exact .inr member

theorem sections_readTypes (document : Document) (r : Reading) (part : Node) :
    (readTypes document r part).domain.sections = r.domain.sections :=
  (congrArg Domain.sections (readTypes_untyped document r part) :)

theorem sections_readSection {document : Document} {tree : Tree} {r : Reading} {part : Node} {scope : Span}
    (member : scope ∈ (readSection document tree r part).domain.sections.all) :
    scope ∈ r.domain.sections.all ∨ scope = part.span := by
  simp only [DomainSections.all, List.mem_append] at member ⊢
  unfold readSection at member
  split at member
  · exact .inl member
  · grind
  · rw [sections_readTypes] at member
    grind
  · grind
  · grind
  · grind
  · grind
  · split at member
    · exact .inl member
    · exact .inl member

theorem sections_ofTree? {document : Document} {tree : Tree} {d : Domain} {issues : List Issue}
    (read : ofTree? document tree = some (d, issues)) {scope : Span} (member : scope ∈ d.sections.all) :
    ∃ define part, tree.define? = some define ∧ part ∈ define.children ∧ part.isBracket = true ∧ part.span = scope := by
  have fold (parts : List Node) (r : Reading)
      (found : scope ∈ (parts.foldl (readSection document tree) r).domain.sections.all) :
      scope ∈ r.domain.sections.all ∨ ∃ part ∈ parts, part.span = scope := by
    induction parts generalizing r with
    | nil => exact .inl found
    | cons part rest ih =>
      rcases ih _ found with earlier | ⟨later, isLater, same⟩
      · rcases sections_readSection earlier with before | rfl
        · exact .inl before
        · exact .inr ⟨part, .head _, rfl⟩
      · exact .inr ⟨later, .tail _ isLater, same⟩
  simp only [ofTree?, Option.bind_eq_bind, Option.bind_eq_some_iff] at read
  obtain ⟨define, isDefine, header, _, read⟩ := read
  cases read
  rcases fold _ _ member with nothing | ⟨part, isPart, same⟩
  · simp [DomainSections.all] at nothing
  · obtain ⟨isSignificant, isBracket⟩ := List.mem_filter.mp isPart
    exact ⟨define, part, isDefine, List.mem_of_mem_filter isSignificant, isBracket, same⟩

theorem fits_searched {cs : List Char} {d : Domain} {issues : List Issue}
    (read : ofTree? ⟨cs⟩ (Tree.build cs) = some (d, issues)) {scope : Span} (member : scope ∈ d.sections.searched) :
    Fits cs scope := by
  obtain ⟨define, part, isDefine, isPart, isBracket, rfl⟩ :=
    sections_ofTree? read (d.sections.searched_subset member)
  have isChild : define ∈ (Tree.build cs).root.children := List.mem_of_mem_filter (List.mem_of_head? isDefine)
  have root : ((Tree.build cs).root, none) ∈ (Tree.build cs).nodes := Tree.mem_nodes_build.mpr (.inl ⟨rfl, rfl⟩)
  have listed := Node.mem_listing_child (Node.mem_listing_child root isChild) isPart
  cases part with
  | document | leaf => cases isBracket
  | bracket id span closed children => exact Tree.fits_bracket listed

end Domain
end PddlAssist
