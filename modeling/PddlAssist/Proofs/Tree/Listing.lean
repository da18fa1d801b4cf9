import PddlAssist.Proofs.Tree.Marks

namespace PddlAssist

open Text

namespace Node

@[simp] theorem id_bracket (number : Nat) (span : Span) (closed : Bool) (children : List Node) :
    (bracket number span closed children).id = number := rfl

@[simp] theorem id_leaf (number : Nat) (t : Token) : (leaf number t).id = number := rfl

theorem listing_eq (parent : Option Nat) (n : Node) :
    n.listing parent = (n, parent) :: listingOf (some n.id) n.children := by
  cases n <;> simp [listing, listingOf, id, children]

@[simp] theorem listingOf_append (parent : Option Nat) (left right : List Node) :
    listingOf parent (left ++ right) = listingOf parent left ++ listingOf parent right := by
  induction left with
  | nil => rfl
  | cons n left ih => simp [listingOf, ih]

theorem mem_listingOf {parent : Option Nat} {nodes : List Node} {entry : Node × Option Nat} :
    entry ∈ listingOf parent nodes ↔ ∃ n ∈ nodes, entry ∈ n.listing parent := by
  induction nodes with
  | nil => simp [listingOf]
  | cons n rest ih => simp [listingOf, ih]

theorem infix_listingOf {parent : Option Nat} {n : Node} {nodes : List Node} (member : n ∈ nodes) :
    n.listing parent <:+: listingOf parent nodes := by
  induction nodes with
  | nil => cases member
  | cons first rest ih =>
    rw [listingOf]
    rcases List.mem_cons.mp member with rfl | later
    · exact (List.prefix_append _ _).isInfix
    · exact (ih later).trans (List.suffix_append _ _).isInfix

mutual

theorem of_mem_listing {motive : Node → Option Nat → Prop}
    (down : ∀ m q, motive m q → ∀ c ∈ m.children, motive c (some m.id)) {parent q : Option Nat} {m : Node} :
    ∀ n : Node, motive n parent → (m, q) ∈ n.listing parent → motive m q
  | document stop children, here, listed => by
    rw [listing_eq] at listed
    rcases List.mem_cons.mp listed with same | inside
    · cases same
      exact here
    · exact of_mem_listingOf down children (down _ _ here) inside
  | bracket id span closed children, here, listed => by
    rw [listing_eq] at listed
    rcases List.mem_cons.mp listed with same | inside
    · cases same
      exact here
    · exact of_mem_listingOf down children (down _ _ here) inside
  | leaf id t, here, listed => by
    cases List.mem_singleton.mp listed
    exact here

theorem of_mem_listingOf {motive : Node → Option Nat → Prop}
    (down : ∀ m q, motive m q → ∀ c ∈ m.children, motive c (some m.id)) {parent q : Option Nat} {m : Node} :
    ∀ nodes : List Node, (∀ n ∈ nodes, motive n parent) → (m, q) ∈ listingOf parent nodes → motive m q
  | [], _, listed => by cases listed
  | n :: rest, here, listed => by
    rw [List.forall_mem_cons] at here
    rcases List.mem_append.mp listed with first | later
    · exact of_mem_listing down n here.1 first
    · exact of_mem_listingOf down rest here.2 later

end

theorem infix_listing {parent q : Option Nat} {n m : Node} (listed : (m, q) ∈ n.listing parent) :
    m.listing q <:+: n.listing parent := by
  refine of_mem_listing (motive := fun m q => m.listing q <:+: n.listing parent) ?_ n (List.infix_refl _) listed
  intro m q here c isChild
  refine List.IsInfix.trans ?_ here
  rw [listing_eq q m]
  exact (infix_listingOf isChild).trans (List.suffix_cons _ _).isInfix

theorem sublist_listingOf (parent : Option Nat) (nodes : List Node) :
    nodes.Sublist ((listingOf parent nodes).map Prod.fst) := by
  induction nodes with
  | nil => exact .slnil
  | cons n rest ih =>
    rw [listingOf, listing_eq, List.cons_append, List.map_cons, List.map_append]
    exact (ih.trans (List.sublist_append_right _ _)).cons_cons n

theorem mem_listing_child {parent q : Option Nat} {n m c : Node} (listed : (m, q) ∈ n.listing parent)
    (isChild : c ∈ m.children) : (c, some m.id) ∈ n.listing parent := by
  refine (infix_listing listed).subset ?_
  rw [listing_eq]
  refine .tail _ (mem_listingOf.mpr ⟨c, isChild, ?_⟩)
  rw [listing_eq]
  exact .head _

theorem listing_cases {parent q : Option Nat} {n m : Node} (listed : (m, q) ∈ n.listing parent) :
    m = n ∧ q = parent ∨ ∃ p r, (p, r) ∈ n.listing parent ∧ m ∈ p.children ∧ q = some p.id := by
  refine (of_mem_listing (motive := fun m q => (m, q) ∈ n.listing parent ∧ (m = n ∧ q = parent ∨
    ∃ p r, (p, r) ∈ n.listing parent ∧ m ∈ p.children ∧ q = some p.id)) ?_ n ?_ listed).2
  · intro m q here c isChild
    exact ⟨mem_listing_child here.1 isChild, .inr ⟨m, q, here.1, isChild, rfl⟩⟩
  · exact ⟨listing_eq parent n ▸ .head _, .inl ⟨rfl, rfl⟩⟩

namespace Placed

variable {low high : Nat} {nodes : List Node}

theorem ids_listingOf (placed : Placed low high nodes) (parent : Option Nat) :
    (listingOf parent nodes).map (·.1.id) = (marksAll nodes).filterMap Mark.id? := by
  induction placed generalizing parent with
  | nil => rfl
  | leaf _ _ ih => simp [listingOf, listing, marksAll, marks, Mark.id?, ih]
  | closed _ _ _ _ ihInside ihLater =>
    simp [listingOf, listing, marksAll, marks, Mark.id?, List.filterMap_cons, ihInside, ihLater]
  | unclosed _ _ _ ih => simp [listingOf, listing, marksAll, marks, Mark.id?, ih]

theorem bounds (placed : Placed low high nodes) :
    (∀ n ∈ nodes, low ≤ n.span.start ∧ n.span.start ≤ n.span.stop ∧ n.span.stop ≤ high) ∧
      nodes.Pairwise (·.span.stop ≤ ·.span.start) := by
  induction placed with
  | nil => exact ⟨fun n nothing => (List.not_mem_nil nothing).elim, .nil⟩
  | @leaf low high id t rest after later ih =>
    have order := later.le
    have forward : t.start ≤ t.stop := Nat.le_add_right _ _
    refine ⟨?_, .cons (fun n member => (ih.1 n member).1) ih.2⟩
    rintro n (_ | ⟨_, member⟩)
    · exact ⟨after, forward, order⟩
    · have := ih.1 n member
      omega
  | closed after inside ends later _ ih =>
    have order := later.le
    have inner := inside.le
    refine ⟨?_, .cons (fun n member => (ih.1 n member).1) ih.2⟩
    rintro n (_ | ⟨_, member⟩)
    · simp only [span]
      omega
    · have := ih.1 n member
      omega
  | unclosed after inside ends =>
    have inner := inside.le
    refine ⟨?_, List.pairwise_singleton _ _⟩
    rintro n (_ | ⟨_, member⟩)
    · simp only [span]
      omega
    · cases member

theorem bounds_of_mem_listingOf (placed : Placed low high nodes) {parent q : Option Nat} {m : Node}
    (listed : (m, q) ∈ listingOf parent nodes) : low ≤ m.span.start ∧ m.span.stop ≤ high := by
  induction placed generalizing parent with
  | nil => cases listed
  | @leaf low high id t rest after later ih =>
    have order := later.le
    rw [listingOf, listing] at listed
    rcases List.mem_append.mp listed with here | listed
    · cases List.mem_singleton.mp here
      exact ⟨after, order⟩
    · have bounds := ih listed
      simp only [Token.stop] at bounds
      omega
  | closed after inside ends later ihInside ihLater =>
    have inner := inside.le
    have order := later.le
    rw [listingOf, listing] at listed
    rcases List.mem_append.mp listed with here | listed
    · rcases List.mem_cons.mp here with same | deeper
      · cases same
        exact ⟨after, order⟩
      · have bounds := ihInside deeper
        omega
    · have bounds := ihLater listed
      omega
  | unclosed after inside ends ih =>
    rw [listingOf, listing] at listed
    rcases List.mem_append.mp listed with here | listed
    · rcases List.mem_cons.mp here with same | deeper
      · cases same
        exact ⟨after, ends⟩
      · have bounds := ih deeper
        omega
    · cases listed

theorem cases_of_mem_listingOf (placed : Placed low high nodes) {parent q : Option Nat} {m : Node}
    (listed : (m, q) ∈ listingOf parent nodes) :
    (∃ id t, m = .leaf id t) ∨ ∃ id span closed children last, m = .bracket id span closed children ∧
      Placed (span.start + 1) last children ∧ last ≤ span.stop ∧ (closed = true → last < span.stop) := by
  induction placed generalizing parent with
  | nil => cases listed
  | @leaf low high id t rest after later ih =>
    rw [listingOf, listing] at listed
    rcases List.mem_append.mp listed with here | later
    · cases List.mem_singleton.mp here
      exact .inl ⟨id, t, rfl⟩
    · exact ih later
  | @closed low high id last span children rest after inside ends _ ihInside ihLater =>
    rw [listingOf, listing] at listed
    rcases List.mem_append.mp listed with here | later
    · rcases List.mem_cons.mp here with same | deeper
      · cases same
        exact .inr ⟨id, span, true, children, last, rfl, inside, Nat.le_of_lt ends, fun _ => ends⟩
      · exact ihInside deeper
    · exact ihLater later
  | @unclosed low high id span children after inside ends ih =>
    rw [listingOf, listing] at listed
    rcases List.mem_append.mp listed with here | later
    · rcases List.mem_cons.mp here with same | deeper
      · cases same
        exact .inr ⟨id, span, false, children, span.stop, rfl, inside, Nat.le_refl _, fun closed => by cases closed⟩
      · exact ih deeper
    · cases later

theorem children_of_mem_listingOf (placed : Placed low high nodes) {parent q : Option Nat} {m : Node}
    (listed : (m, q) ∈ listingOf parent nodes) :
    ∃ first last, Placed first last m.children ∧ m.span.start ≤ first ∧ last ≤ m.span.stop := by
  rcases placed.cases_of_mem_listingOf listed with
    ⟨id, t, rfl⟩ | ⟨id, span, closed, children, last, rfl, inside, upper, _⟩
  · exact ⟨t.start, t.stop, .nil (Nat.le_add_right _ _), Nat.le_refl _, Nat.le_refl _⟩
  · exact ⟨_, last, inside, Nat.le_succ _, upper⟩

end Placed
end Node

namespace Tree

theorem nodes_build (cs : List Char) :
    (build cs).nodes = ((build cs).root, none) :: Node.listingOf (some 0) (build cs).root.children :=
  Node.listing_eq none _

theorem ids_nodes_build (cs : List Char) :
    ∃ count, (build cs).nodes.map (·.1.id) = List.range count := by
  obtain ⟨count, ids⟩ := ids_build cs
  refine ⟨count + 1, ?_⟩
  rw [nodes_build, List.map_cons, (build_placed cs).ids_listingOf, List.range_eq_range', List.range'_succ]
  exact congrArg (0 :: ·) ids

theorem ids_sorted (cs : List Char) : ((build cs).nodes.map (·.1.id)).Pairwise (· < ·) := by
  obtain ⟨count, ids⟩ := ids_nodes_build cs
  rw [ids]
  exact List.pairwise_lt_range

theorem nodes_getElem?_iff {cs : List Char} {i : Nat} {n : Node} {parent : Option Nat} :
    (build cs).nodes[i]? = some (n, parent) ↔ (n, parent) ∈ (build cs).nodes ∧ n.id = i := by
  obtain ⟨count, ids⟩ := ids_nodes_build cs
  have numbered {j : Nat} {m : Node} {q : Option Nat} (here : (build cs).nodes[j]? = some (m, q)) : m.id = j := by
    have same := congrArg (·[j]?) ids
    simp only [List.getElem?_map, here, Option.map_some] at same
    obtain ⟨_, isNumber⟩ := List.getElem?_eq_some_iff.mp same.symm
    rw [← isNumber, List.getElem_range]
  constructor
  · intro here
    exact ⟨List.mem_of_getElem? here, numbered here⟩
  · rintro ⟨member, rfl⟩
    obtain ⟨j, here⟩ := List.mem_iff_getElem?.mp member
    rw [numbered here]
    exact here

theorem mem_nodes_build {cs : List Char} {n : Node} {parent : Option Nat} : (n, parent) ∈ (build cs).nodes ↔
    n = (build cs).root ∧ parent = none ∨ (n, parent) ∈ Node.listingOf (some 0) (build cs).root.children := by
  rw [nodes_build, List.mem_cons, Prod.mk.injEq]

theorem node?_build_iff {cs : List Char} {i : Nat} {n : Node} :
    (build cs).node? i = some n ↔ (∃ parent, (n, parent) ∈ (build cs).nodes) ∧ n.id = i := by
  simp only [node?, Option.map_eq_some_iff]
  constructor
  · rintro ⟨⟨m, parent⟩, found, rfl⟩
    obtain ⟨listed, number⟩ := nodes_getElem?_iff.mp found
    exact ⟨⟨parent, listed⟩, number⟩
  · rintro ⟨⟨parent, listed⟩, number⟩
    exact ⟨(n, parent), nodes_getElem?_iff.mpr ⟨listed, number⟩, rfl⟩

theorem placed_children {cs : List Char} {m : Node} {q : Option Nat} (listed : (m, q) ∈ (build cs).nodes) :
    ∃ first last, Node.Placed first last m.children ∧ m.span.start ≤ first ∧ last ≤ m.span.stop := by
  rcases mem_nodes_build.mp listed with ⟨rfl, _⟩ | inner
  · exact ⟨0, width cs, build_placed cs, Nat.le_refl _, Nat.le_refl _⟩
  · exact (build_placed cs).children_of_mem_listingOf inner

theorem children_sorted {cs : List Char} {m : Node} {q : Option Nat} (listed : (m, q) ∈ (build cs).nodes) :
    (m.children.map Node.id).Pairwise (· < ·) := by
  have inside : (m.listing q).Sublist (build cs).nodes := (Node.infix_listing listed).sublist
  rw [Node.listing_eq] at inside
  have below := ((Node.sublist_listingOf (some m.id) m.children).trans
    (((List.sublist_cons_self _ _).trans inside).map Prod.fst)).map Node.id
  rw [List.map_map] at below
  exact (ids_sorted cs).sublist below

end Tree
end PddlAssist
