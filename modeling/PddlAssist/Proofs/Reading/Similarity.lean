import Mathlib.Data.List.Forall2
import PddlAssist.Domain.Reader
import PddlAssist.Problem.Reader
import PddlAssist.Proofs.Text.Case
import PddlAssist.Proofs.Tree.Bare

namespace PddlAssist

open Text

namespace Node

theorem terminal?_isBracket {n : Node} {token : Token} (word : n.terminal? = some token) :
    n.isBracket = false := by
  cases n <;> simp_all [terminal?, isBracket]

theorem isComment_isBracket {n : Node} (comment : n.isComment = true) : n.isBracket = false := by
  cases n <;> simp_all [isComment, isBracket]

theorem significant_cases (n : Node) :
    (n.nameToken? = none ∧ n.significant = n.arguments) ∨
      ∃ head token, n.nameToken? = some token ∧ head.terminal? = some token ∧
        n.significant = head :: n.arguments := by
  cases named : n.nameToken? with
  | none => exact .inl ⟨rfl, by simp [arguments, named]⟩
  | some token =>
    simp only [nameToken?] at named
    split at named
    · cases children : n.significant with
      | nil => simp [children] at named
      | cons head rest =>
        rw [children] at named
        have word : head.terminal? = some token := by simpa using named
        have isNamed : n.nameToken?.isSome = true := by
          simp_all [nameToken?]
        exact .inr ⟨head, token, rfl, word, by simp [arguments, isNamed, children]⟩
    · simp at named

theorem arguments_not_comment {n arg : Node} (member : arg ∈ n.arguments) : arg.isComment = false := by
  have inside : arg ∈ n.significant := by
    rcases n.significant_cases with ⟨_, same⟩ | ⟨head, _, _, _, same⟩
    · rwa [same]
    · rw [same]
      exact List.mem_cons_of_mem _ member
  simpa using (List.mem_filter.mp inside).2

theorem arguments_filter_comment (n : Node) :
    n.arguments.filter (!·.isComment) = n.arguments := by
  rw [List.filter_eq_self]
  intro arg member
  simp [arguments_not_comment member]

theorem significant_filter_comment (n : Node) :
    n.significant.filter (!·.isComment) = n.significant := by
  simp [significant]

theorem significant_filter_bracket (n : Node) (p : Node → Bool) :
    n.significant.filter (fun child => child.isBracket && p child) =
      n.arguments.filter fun child => child.isBracket && p child := by
  rcases n.significant_cases with ⟨_, same⟩ | ⟨head, token, _, word, same⟩
  · rw [same]
  · rw [same, List.filter_cons_of_neg]
    simp [terminal?_isBracket word]

theorem significant_brackets (n : Node) :
    n.significant.filter isBracket = n.arguments.filter isBracket := by
  simpa using n.significant_filter_bracket fun _ => true

theorem childrenNamed_eq (n : Node) (name : String) :
    n.childrenNamed name = n.arguments.filter fun child => child.isBracket && child.hasName name := by
  rw [← significant_filter_bracket, significant, List.filter_filter, childrenNamed]
  apply List.filter_congr
  intro child _
  cases comment : child.isComment
  · simp
  · simp [isComment_isBracket comment]

theorem significant_texts (n : Node) {name : String} (isName : n.name? = some name) :
    (n.significant.filterMap fun child => child.terminal?.map (·.text)) =
      name :: n.arguments.filterMap fun child => child.terminal?.map (·.text) := by
  rcases n.significant_cases with ⟨unnamed, _⟩ | ⟨head, token, named, word, same⟩
  · simp [name?, unnamed] at isName
  · simp only [name?, named, Option.map_some, Option.some.injEq] at isName
    simp [same, word, isName]

end Node

def sectionKeywords : List String :=
  [":requirements", ":types", ":constants", ":predicates", ":functions", ":derived", ":action",
   ":durative-action", ":process", ":event", ":domain", ":objects", ":init", ":goal", ":metric"]

def reservedNames : List String :=
  ["at", "define", "domain", "problem", "either", "not", "="] ++ sectionKeywords

def IsPlainName (name : String) : Prop := ∀ word ∈ reservedNames, sameName name word = false

/-- `R` relates the nodes of two trees that readers cannot tell apart, save that the second tree has
names of brackets changed by `rename`. `docs` relates what is written above the brackets. -/
structure Similarity (rename : String → String) (docs : Option String → Option String → Prop)
    (tree tree' : Tree) (R : Node → Node → Prop) : Prop where
  isBracket : ∀ {n n'}, R n n' → n'.isBracket = n.isBracket
  word : ∀ {n n'}, R n n' → n'.terminal?.map Token.bare = n.terminal?.map Token.bare
  name : ∀ {n n'}, R n n' →
    n'.nameToken?.map Token.bare = n.nameToken?.map fun t => ⟨t.kind, rename t.text, 0⟩
  arguments : ∀ {n n'}, R n n' → List.Forall₂ R n.arguments n'.arguments
  documentation : ∀ {n n'}, R n n' → n.isBracket = true →
    docs (tree.documentation? n.span.start) (tree'.documentation? n'.span.start)
  plain : ∀ {n n' name}, R n n' → n.name? = some name →
    rename name = name ∨ (IsPlainName name ∧ IsPlainName (rename name))
  distinct : ∀ {m m' n n' left right}, R m m' → R n n' → m.name? = some left → n.name? = some right →
    sameName (rename left) (rename right) = sameName left right

theorem IsPlainName.lower_ne {name word : String} (plain : IsPlainName name) (reserved : word ∈ reservedNames)
    (isLower : lower word = word) : lower name ≠ word := by
  intro same
  have differs := plain word reserved
  rw [sameName, same, isLower, beq_self_eq_true] at differs
  cases differs

namespace Similarity

variable {rename : String → String} {docs : Option String → Option String → Prop}
  {tree tree' : Tree} {R : Node → Node → Prop}

theorem name? (sim : Similarity rename docs tree tree' R) {n n' : Node} (alike : R n n') :
    n'.name? = n.name?.map rename := by
  have names := congrArg (Option.map Token.text) (sim.name alike)
  simpa [Node.name?, Function.comp_def] using names

theorem hasName (sim : Similarity rename docs tree tree' R) {n n' : Node} (alike : R n n')
    {word : String} (reserved : word ∈ reservedNames) : n'.hasName word = n.hasName word := by
  simp only [Node.hasName, sim.name? alike]
  cases named : n.name? with
  | none => rfl
  | some name =>
    rcases sim.plain alike named with same | ⟨plain, plain'⟩
    · simp [same]
    · simp [plain word reserved, plain' word reserved]

theorem brackets (sim : Similarity rename docs tree tree' R) {n n' : Node} (alike : R n n') :
    List.Forall₂ (fun child child' => child.isBracket = true ∧ R child child')
      (n.arguments.filter Node.isBracket) (n'.arguments.filter Node.isBracket) := by
  rw [List.forall₂_and_left]
  constructor
  · intro child member
    exact (List.mem_filter.mp member).2
  · refine List.rel_filter ?_ (sim.arguments alike)
    intro child child' childAlike
    simp only [sim.isBracket childAlike]

theorem childrenNamed (sim : Similarity rename docs tree tree' R) {n n' : Node} (alike : R n n')
    {word : String} (reserved : word ∈ reservedNames) :
    List.Forall₂ R (n.childrenNamed word) (n'.childrenNamed word) := by
  rw [Node.childrenNamed_eq, Node.childrenNamed_eq]
  refine List.rel_filter ?_ (sim.arguments alike)
  intro child child' childAlike
  simp only [sim.isBracket childAlike, sim.hasName childAlike reserved]

theorem head?_rel {nodes nodes' : List Node} (alike : List.Forall₂ R nodes nodes') :
    Option.Rel R nodes.head? nodes'.head? := by
  cases alike with
  | nil => exact .none
  | cons head _ => exact .some head

theorem word_cases (sim : Similarity rename docs tree tree' R) {n n' : Node} (alike : R n n') :
    (n.terminal? = none ∧ n'.terminal? = none) ∨
      ∃ token token', n.terminal? = some token ∧ n'.terminal? = some token' ∧
        token'.kind = token.kind ∧ token'.text = token.text := by
  have word := sim.word alike
  cases first : n.terminal? <;> cases second : n'.terminal? <;> rw [first, second] at word
  · exact .inl ⟨rfl, rfl⟩
  · simp at word
  · simp at word
  · exact .inr ⟨_, _, rfl, rfl, Token.bare_eq_iff.mp (Option.some.inj word)⟩

theorem word_some (sim : Similarity rename docs tree tree' R) {n n' : Node} (alike : R n n') {token : Token}
    (some : n.terminal? = some token) :
    ∃ token', n'.terminal? = Option.some token' ∧ token'.kind = token.kind ∧ token'.text = token.text := by
  rcases sim.word_cases alike with ⟨none, _⟩ | ⟨other, token', isOther, some', same⟩
  · rw [some] at none
    cases none
  · rw [some] at isOther
    cases isOther
    exact ⟨token', some', same⟩

theorem isTerminal (sim : Similarity rename docs tree tree' R) {n n' : Node} (alike : R n n') :
    n'.isTerminal = n.isTerminal := by
  rcases sim.word_cases alike with ⟨none, none'⟩ | ⟨token, token', some, some', _⟩
  · simp [Node.isTerminal, none, none']
  · simp [Node.isTerminal, some, some']

theorem texts (sim : Similarity rename docs tree tree' R) {nodes nodes' : List Node}
    (alike : List.Forall₂ R nodes nodes') :
    (nodes'.filterMap fun arg => arg.terminal?.map (·.text)) =
      nodes.filterMap fun arg => arg.terminal?.map (·.text) := by
  induction alike with
  | nil => rfl
  | cons head _ ih =>
    rcases sim.word_cases head with ⟨none, none'⟩ | ⟨token, token', some, some', _, text⟩
    · simpa [none, none'] using ih
    · simpa [some, some', text] using ih

theorem findWord (sim : Similarity rename docs tree tree' R) {nodes nodes' : List Node}
    (alike : List.Forall₂ R nodes nodes') :
    (nodes'.findSome? Node.terminal?).map Token.bare = (nodes.findSome? Node.terminal?).map Token.bare := by
  induction alike with
  | nil => rfl
  | cons head _ ih =>
    rcases sim.word_cases head with ⟨none, none'⟩ | ⟨token, token', some, some', same⟩
    · simpa [none, none'] using ih
    · simpa [some, some'] using Token.bare_eq_iff.mpr same

theorem firstWord? (sim : Similarity rename docs tree tree' R) {n n' : Node} (alike : R n n') :
    n'.firstWord?.map Token.bare = n.firstWord?.map Token.bare :=
  sim.findWord (sim.arguments alike)

theorem operandTypes (sim : Similarity rename docs tree tree' R) {n n' : Node} (alike : R n n') :
    TypedEntry.operandTypes n' = TypedEntry.operandTypes n := by
  rcases sim.word_cases alike with ⟨none, none'⟩ | ⟨token, token', some, some', _, text⟩
  · simp only [TypedEntry.operandTypes, none, none', sim.texts (sim.arguments alike),
      sim.hasName alike (by decide : "either" ∈ reservedNames)]
  · simp [TypedEntry.operandTypes, some, some', text]

end Similarity

def TypedEntry.Alike (same : String → String → Prop) (e e' : TypedEntry) : Prop :=
  same e.name e'.name ∧ e'.types = e.types

namespace Similarity

variable {rename : String → String} {docs : Option String → Option String → Prop}
  {tree tree' : Tree} {R : Node → Node → Prop}

theorem withTypes_alike {same : String → String → Prop} (types : List String) {pending pending' : List Token}
    (waiting : List.Forall₂ (fun t t' => same t.text t'.text) pending pending') :
    List.Forall₂ (TypedEntry.Alike same) (TypedEntry.withTypes types pending)
      (TypedEntry.withTypes types pending') := by
  simp only [TypedEntry.withTypes, List.forall₂_map_left_iff, List.forall₂_map_right_iff]
  exact waiting.imp fun _ _ related => ⟨related, rfl⟩

theorem readAfter (sim : Similarity rename docs tree tree' R) {same : String → String → Prop}
    (refl : ∀ text, same text text) {nodes nodes' : List Node} (alike : List.Forall₂ R nodes nodes')
    {pending pending' : List Token}
    (waiting : List.Forall₂ (fun t t' => same t.text t'.text) pending pending') :
    List.Forall₂ (TypedEntry.Alike same) (TypedEntry.readAfter pending nodes)
      (TypedEntry.readAfter pending' nodes') := by
  fun_induction TypedEntry.readAfter pending nodes generalizing pending' nodes' with
  | case1 pending =>
    cases alike
    exact withTypes_alike _ (List.forall₂_reverse_iff.mpr waiting)
  | case2 pending node rest none ih =>
    obtain ⟨node', rest', head, tail, rfl⟩ := List.forall₂_cons_left_iff.mp alike
    have none' : node'.terminal? = Option.none := by simpa [none] using sim.word head
    rw [TypedEntry.readAfter.eq_def pending']
    simpa only [none'] using ih tail waiting
  | case3 pending node token some dash =>
    obtain ⟨node', rest', head, tail, rfl⟩ := List.forall₂_cons_left_iff.mp alike
    cases tail
    obtain ⟨token', some', kind, _⟩ := sim.word_some head some
    simp only [TypedEntry.readAfter, some', kind, dash, if_true]
    exact withTypes_alike _ (List.forall₂_reverse_iff.mpr waiting)
  | case4 pending node token some dash operand rest ih =>
    obtain ⟨node', rest', head, tail, rfl⟩ := List.forall₂_cons_left_iff.mp alike
    obtain ⟨operand', rest'', operandAlike, final, rfl⟩ := List.forall₂_cons_left_iff.mp tail
    obtain ⟨token', some', kind, _⟩ := sim.word_some head some
    simp only [TypedEntry.readAfter, some', kind, dash, if_true, sim.operandTypes operandAlike]
    exact List.rel_append (withTypes_alike _ (List.forall₂_reverse_iff.mpr waiting)) (ih final .nil)
  | case5 pending node rest token some dash ih =>
    obtain ⟨node', rest', head, tail, rfl⟩ := List.forall₂_cons_left_iff.mp alike
    obtain ⟨token', some', kind, text⟩ := sim.word_some head some
    rw [TypedEntry.readAfter.eq_def pending']
    simp only [some', kind, dash, if_false]
    exact ih tail (.cons (text ▸ refl token.text) waiting)

theorem readArguments (sim : Similarity rename docs tree tree' R) {n n' : Node} (alike : R n n') :
    List.Forall₂ (TypedEntry.Alike Eq) (TypedEntry.readList n.arguments)
      (TypedEntry.readList n'.arguments) := by
  simp only [TypedEntry.readList, Node.arguments_filter_comment]
  exact sim.readAfter (fun _ => rfl) (sim.arguments alike) .nil

theorem readSignificant (sim : Similarity rename docs tree tree' R) {n n' : Node} (alike : R n n') :
    List.Forall₂ (TypedEntry.Alike fun text text' => text' = text ∨ text' = rename text)
      (TypedEntry.readList n.significant) (TypedEntry.readList n'.significant) := by
  simp only [TypedEntry.readList, Node.significant_filter_comment]
  have names := sim.name alike
  have rest := sim.arguments alike
  have refl : ∀ text, text = text ∨ text = rename text := fun _ => .inl rfl
  rcases n.significant_cases with ⟨none, same⟩ | ⟨head, token, some, word, same⟩ <;>
    rcases n'.significant_cases with ⟨none', same'⟩ | ⟨head', token', some', word', same'⟩
  · rw [same, same']
    exact sim.readAfter refl rest .nil
  · simp [none, some'] at names
  · simp [some, none'] at names
  · simp only [some, some', Option.map_some, Option.some.injEq] at names
    have kind : token'.kind = token.kind := by simpa using congrArg Token.kind names
    have text : token'.text = rename token.text := by simpa using congrArg Token.text names
    rw [same, same']
    generalize n.arguments = args, n'.arguments = args' at rest
    rw [TypedEntry.readAfter.eq_def, TypedEntry.readAfter.eq_def []]
    simp only [word, word', kind]
    split
    · cases rest with
      | nil => exact .nil
      | cons operandAlike tail => exact sim.readAfter refl tail .nil
    · exact sim.readAfter refl rest (.cons (.inr text) .nil)

end Similarity

end PddlAssist
