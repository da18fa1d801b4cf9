import PddlAssist.Problem.Reader
import PddlAssist.Proofs.Reading.Similarity
import PddlAssist.Proofs.Tree.Brackets
import PddlAssist.Proofs.Tree.Listing

namespace PddlAssist

open Text

namespace Node

theorem mem_children_of_mem_arguments {n arg : Node} (member : arg ∈ n.arguments) : arg ∈ n.children := by
  have isSignificant : arg ∈ n.significant := by
    rcases n.significant_cases with ⟨_, same⟩ | ⟨_, _, _, _, same⟩
    · rwa [same]
    · rw [same]
      exact .tail _ member
  exact List.mem_of_mem_filter isSignificant

theorem isBracket_of_nameToken? {n : Node} {t : Token} (named : n.nameToken? = some t) : n.isBracket = true := by
  by_contra other
  rw [nameToken?, if_neg other] at named
  cases named

end Node

namespace Tree

theorem mem_brackets_of_nameToken? {tree : Tree} {n : Node} (listed : n ∈ tree.nodes.map Prod.fst) {t : Token}
    (named : n.nameToken? = some t) : n ∈ tree.brackets :=
  List.mem_filter.mpr ⟨listed, Node.isBracket_of_nameToken? named⟩

theorem mem_nodes_of_mem_children {tree : Tree} {n child : Node} (listed : n ∈ tree.nodes.map Prod.fst)
    (isChild : child ∈ n.children) : child ∈ tree.nodes.map Prod.fst := by
  obtain ⟨⟨_, parent⟩, isEntry, rfl⟩ := List.mem_map.mp listed
  exact List.mem_map_of_mem (f := Prod.fst) (Node.mem_listing_child isEntry isChild)

theorem mem_nodes_of_mem_arguments {tree : Tree} {n arg : Node} (listed : n ∈ tree.nodes.map Prod.fst)
    (member : arg ∈ n.arguments) : arg ∈ tree.nodes.map Prod.fst :=
  mem_nodes_of_mem_children listed (Node.mem_children_of_mem_arguments member)

theorem mem_nodes_of_define? {tree : Tree} {define : Node} (isDefine : tree.define? = some define) :
    define ∈ tree.nodes.map Prod.fst := by
  have root : tree.root ∈ tree.nodes.map Prod.fst := by
    rw [nodes, Node.listing_eq]
    exact .head _
  exact mem_nodes_of_mem_children root (List.mem_of_mem_filter (List.mem_of_head? isDefine))

end Tree

/-- The words that say when something holds: the ends of an action, and numerals. -/
def isTimeWord (word : String) : Bool :=
  sameName word "start" || sameName word "end" || (Decimal.numeral? word).isSome

/-- An atom that can be mistaken for the time at which something holds, such as `(at start depot)`. -/
def Atom.isLikeTime (a : Atom) : Bool := sameName a.name "at" && a.arguments.head?.any isTimeWord

namespace Problem

theorem readAtom?_eq_some_iff {n : Node} {a : Atom} :
    readAtom? n = some a ↔ ∃ t, n.nameToken? = some t ∧ (∀ arg ∈ n.arguments, arg.isTerminal = true) ∧
      a = ⟨t.text, n.arguments.filterMap fun arg => arg.terminal?.map (·.text), t.span⟩ := by
  simp only [readAtom?, Option.bind_eq_bind, Option.bind_eq_some_iff, List.all_eq_true]
  constructor
  · rintro ⟨t, named, read⟩
    split at read
    · rename_i words
      cases read
      exact ⟨t, named, words, rfl⟩
    · cases read
  · rintro ⟨t, named, words, rfl⟩
    exact ⟨t, named, by rw [if_pos words]⟩

theorem isTimeSpecifier_of_readAtom? {n : Node} {a : Atom} (read : readAtom? n = some a) :
    n.isTimeSpecifier = a.isLikeTime := by
  obtain ⟨t, named, words, rfl⟩ := readAtom?_eq_some_iff.mp read
  have noBracket : n.arguments.any Node.isBracket = false := by
    rw [List.any_eq_false]
    intro arg member isBracket
    obtain ⟨_, isWord⟩ := Option.isSome_iff_exists.mp (words arg member)
    rw [Node.terminal?_isBracket isWord] at isBracket
    cases isBracket
  have first : (n.arguments.head?.bind Node.terminal?).any (isTimeWord ·.text) =
      (n.arguments.filterMap fun arg => arg.terminal?.map (·.text)).head?.any isTimeWord := by
    cases args : n.arguments with
    | nil => rfl
    | cons arg rest =>
      obtain ⟨word, isWord⟩ := Option.isSome_iff_exists.mp (words arg (args ▸ List.mem_cons_self))
      simp [isWord]
  rw [Atom.isLikeTime, ← first]
  simp [Node.isTimeSpecifier, Node.hasName, Node.name?, named, noBracket, isTimeWord]

section

variable {tree : Tree}

/-- The atom is what some bracket of the tree says. -/
def SaidIn (tree : Tree) (a : Atom) : Prop := ∃ b ∈ tree.brackets, readAtom? b = some a

theorem saidIn_of_readAtom? {n : Node} (listed : n ∈ tree.nodes.map Prod.fst) {a : Atom}
    (read : readAtom? n = some a) : SaidIn tree a := by
  obtain ⟨t, named, _, _⟩ := readAtom?_eq_some_iff.mp read
  exact ⟨n, Tree.mem_brackets_of_nameToken? listed named, read⟩

theorem saidIn_of_readArgumentAtom? {n : Node} (listed : n ∈ tree.nodes.map Prod.fst) {a : Atom}
    (read : readArgumentAtom? n = some a) : SaidIn tree a := by
  obtain ⟨arg, isFirst, read⟩ := Option.bind_eq_some_iff.mp read
  have member : arg ∈ n.arguments := List.mem_of_head? (Option.filter_eq_some_iff.mp isFirst).1
  exact saidIn_of_readAtom? (Tree.mem_nodes_of_mem_arguments listed member) read

theorem saidIn_of_readUntimed? {n : Node} (listed : n ∈ tree.nodes.map Prod.fst) {entry : InitEntry}
    (read : readUntimed? n = some entry) : SaidIn tree entry.atom := by
  obtain ⟨name, _, read⟩ := Option.bind_eq_some_iff.mp read
  split at read
  · simp only [Option.bind_eq_bind, Option.bind_eq_some_iff] at read
    obtain ⟨a, isAtom, _, _, same⟩ := read
    cases same
    exact saidIn_of_readArgumentAtom? listed isAtom
  · split at read
    · obtain ⟨a, isAtom, rfl⟩ := Option.map_eq_some_iff.mp read
      exact saidIn_of_readArgumentAtom? listed isAtom
    · obtain ⟨a, isAtom, rfl⟩ := Option.map_eq_some_iff.mp read
      exact saidIn_of_readAtom? listed isAtom

theorem mem_arguments_of_timed? {n inner : Node} {time : Float} (timed : timed? n = some (time, inner)) :
    inner ∈ n.arguments := by
  unfold timed? at timed
  split at timed
  · rename_i args
    split at timed
    · obtain ⟨_, _, same⟩ := Option.map_eq_some_iff.mp timed
      cases same
      rw [args]
      exact .tail _ (.head _)
    · cases timed
  · cases timed

theorem saidIn_of_readEntry? {n : Node} (listed : n ∈ tree.nodes.map Prod.fst) {entry : InitEntry}
    (read : readEntry? n = some entry) : SaidIn tree entry.atom := by
  unfold readEntry? at read
  split at read
  · exact saidIn_of_readUntimed? listed read
  · rename_i time inner timed
    have listed := Tree.mem_nodes_of_mem_arguments listed (mem_arguments_of_timed? timed)
    split at read
    · cases read
    · split at read
      · rename_i isInner
        cases read
        have said := saidIn_of_readUntimed? listed isInner
        exact said
      · rename_i isInner
        cases read
        have said := saidIn_of_readUntimed? listed isInner
        exact said
      · cases read

theorem saidIn_of_readInit {document : Document} {n : Node} (listed : n ∈ tree.nodes.map Prod.fst) {r : Reading}
    (known : ∀ entry ∈ r.problem.initEntries, SaidIn tree entry.atom) :
    ∀ entry ∈ (readInit document tree r n).problem.initEntries, SaidIn tree entry.atom := by
  unfold readInit
  split
  · rename_i entry read
    rw [List.forall_mem_append, List.forall_mem_singleton]
    exact ⟨known, saidIn_of_readEntry? listed read⟩
  · exact known

theorem saidIn_of_readSection {document : Document} {part : Node} (listed : part ∈ tree.nodes.map Prod.fst)
    {r : Reading} (known : ∀ entry ∈ r.problem.initEntries, SaidIn tree entry.atom) :
    ∀ entry ∈ (readSection document tree r part).problem.initEntries, SaidIn tree entry.atom := by
  unfold readSection
  split
  case h_2 =>
    refine List.foldlRecOn (motive := fun r : Reading => ∀ entry ∈ r.problem.initEntries, SaidIn tree entry.atom)
      _ _ known fun r known n member => ?_
    exact saidIn_of_readInit (Tree.mem_nodes_of_mem_arguments listed (List.mem_of_mem_filter member)) known
  all_goals exact known

theorem saidIn_of_ofTree? {document : Document} {p : Problem} {issues : List Issue}
    (read : ofTree? document tree = some (p, issues)) : ∀ entry ∈ p.initEntries, SaidIn tree entry.atom := by
  simp only [ofTree?, Option.bind_eq_bind, Option.bind_eq_some_iff] at read
  obtain ⟨define, isDefine, header, _, reference, _, read⟩ := read
  cases read
  refine List.foldlRecOn (motive := fun r : Reading => ∀ entry ∈ r.problem.initEntries, SaidIn tree entry.atom)
    _ _ (by simp) fun r known part member => ?_
  have isChild : part ∈ define.children := List.mem_of_mem_filter (List.mem_of_mem_filter member)
  exact saidIn_of_readSection (Tree.mem_nodes_of_mem_children (Tree.mem_nodes_of_define? isDefine) isChild) known

end

end Problem
end PddlAssist
