import Mathlib.Data.List.Forall2
import PddlAssist.TypedList

namespace PddlAssist.TypedEntry

inductive Part where
  | name
  | dash
  | operand
  | ignored
  deriving DecidableEq

/-- The part of a node that no dash takes. -/
inductive PlaysFree (node : Node) : Part → Prop where
  | dash {t : Token} (isWord : node.terminal? = some t) (isDash : t.kind = .dash) : PlaysFree node .dash
  | name {t : Token} (isWord : node.terminal? = some t) (noDash : t.kind ≠ .dash) : PlaysFree node .name
  | ignored (noWord : node.terminal? = none) : PlaysFree node .ignored

/-- The parts of nodes, by their places. What stands right after a dash is its operand, even another dash. -/
structure Plays (nodes : List Node) (parts : List Part) : Prop where
  length : parts.length = nodes.length
  operand_iff (i : Nat) : parts[i]? = some .operand ↔ i < nodes.length ∧ ∃ j, i = j + 1 ∧ parts[j]? = some .dash
  free {i : Nat} {node : Node} {part : Part} (isNode : nodes[i]? = some node) (isPart : parts[i]? = some part)
    (notTaken : part ≠ .operand) : PlaysFree node part

inductive Denotes : Option Node → List String → Prop where
  | word {node : Node} {t : Token} (isWord : node.terminal? = some t) : Denotes (some node) [t.text]
  | either {node : Node} (noWord : node.terminal? = none) (named : node.hasName "either" = true) :
      Denotes (some node) (node.arguments.filterMap fun arg => arg.terminal?.map (·.text))
  | other {node : Node} (noWord : node.terminal? = none) (named : node.hasName "either" = false) :
      Denotes (some node) []
  | missing : Denotes none []

inductive TypedFrom (nodes : List Node) (parts : List Part) (m : Nat) : List String → Prop where
  | dash {j : Nat} {types : List String} (behind : m ≤ j) (isDash : parts[j]? = some .dash)
      (first : ∀ k, m ≤ k → k < j → parts[k]? ≠ some .dash) (denotes : Denotes nodes[j + 1]? types) :
      TypedFrom nodes parts m types
  | root (noDash : ∀ k, m ≤ k → parts[k]? ≠ some .dash) : TypedFrom nodes parts m [rootType]

structure IsEntryAt (nodes : List Node) (parts : List Part) (i : Nat) (entry : TypedEntry) : Prop where
  written : ∃ t, nodes[i]?.bind Node.terminal? = some t ∧ entry.name = t.text ∧ entry.span = t.span
  types : TypedFrom nodes parts (i + 1) entry.types

def namePlaces (parts : List Part) : List Nat :=
  (List.range parts.length).filter fun i => parts[i]? = some .name

theorem PlaysFree.unique {node : Node} {part part' : Part} (plays : PlaysFree node part)
    (plays' : PlaysFree node part') : part = part' := by
  cases plays <;> cases plays' <;> simp_all

theorem Plays.exists_part {nodes : List Node} {parts : List Part} (plays : Plays nodes parts) {i : Nat}
    (inside : i < nodes.length) : ∃ part, parts[i]? = some part :=
  ⟨_, List.getElem?_eq_getElem (plays.length ▸ inside)⟩

theorem Plays.unique {nodes : List Node} {parts parts' : List Part} (plays : Plays nodes parts)
    (plays' : Plays nodes parts') : parts = parts' := by
  apply List.ext_getElem?
  intro i
  -- by induction on the place, since a node is taken if the one before is a dash
  induction i using Nat.strongRecOn with
  | ind i ih =>
    by_cases inside : i < nodes.length
    · have isNode : nodes[i]? = some nodes[i] := List.getElem?_eq_getElem inside
      obtain ⟨part, isPart⟩ := plays.exists_part inside
      obtain ⟨part', isPart'⟩ := plays'.exists_part inside
      have sameTaken : parts[i]? = some .operand ↔ parts'[i]? = some .operand := by
        rw [plays.operand_iff, plays'.operand_iff]
        refine and_congr_right fun _ => exists_congr fun j => and_congr_right fun isNext => ?_
        rw [ih j (by omega)]
      by_cases taken : parts[i]? = some .operand
      · rw [taken, sameTaken.mp taken]
      · have taken' : parts'[i]? ≠ some .operand := fun isOperand => taken (sameTaken.mpr isOperand)
        rw [isPart] at taken ⊢
        rw [isPart'] at taken' ⊢
        rw [(plays.free isNode isPart fun same => taken (same ▸ rfl)).unique
          (plays'.free isNode isPart' fun same => taken' (same ▸ rfl))]
    · rw [List.getElem?_eq_none (by rw [plays.length]; omega), List.getElem?_eq_none (by rw [plays'.length]; omega)]

def partOf (taken : Bool) (node : Node) : Part :=
  if taken then .operand
  else
    match node.terminal? with
    | none => .ignored
    | some t => if t.kind = .dash then .dash else .name

def partsFrom (taken : Bool) : List Node → List Part
  | [] => []
  | node :: rest => partOf taken node :: partsFrom (partOf taken node = .dash) rest

theorem playsFree_partOf (node : Node) : PlaysFree node (partOf false node) := by
  cases word : node.terminal? with
  | none => simpa [partOf, word] using .ignored word
  | some t =>
    by_cases dash : t.kind = .dash
    · simpa [partOf, word, dash] using .dash word dash
    · simpa [partOf, word, dash] using .name word dash

theorem partOf_eq_operand {taken : Bool} {node : Node} : partOf taken node = .operand ↔ taken = true := by
  cases taken with
  | true => simp [partOf]
  | false =>
    have free := playsFree_partOf node
    constructor
    · intro isOperand
      rw [isOperand] at free
      cases free
    · simp

theorem length_partsFrom (taken : Bool) (nodes : List Node) : (partsFrom taken nodes).length = nodes.length := by
  induction nodes generalizing taken with
  | nil => rfl
  | cons node rest ih => simp [partsFrom, ih]

theorem partsFrom_zero (taken : Bool) (nodes : List Node) :
    (partsFrom taken nodes)[0]? = nodes[0]?.map (partOf taken) := by
  cases nodes <;> simp [partsFrom]

theorem partsFrom_succ (taken : Bool) (nodes : List Node) (i : Nat) :
    (partsFrom taken nodes)[i + 1]? =
      nodes[i + 1]?.map (partOf ((partsFrom taken nodes)[i]? = some .dash)) := by
  induction nodes generalizing taken i with
  | nil => simp [partsFrom]
  | cons node rest ih =>
    cases i with
    | zero => simp [partsFrom, partsFrom_zero]
    | succ i => exact ih _ i

theorem getElem?_partsFrom (nodes : List Node) (i : Nat) : ∃ taken : Bool,
    (taken = true ↔ ∃ j, i = j + 1 ∧ (partsFrom false nodes)[j]? = some .dash) ∧
      (partsFrom false nodes)[i]? = nodes[i]?.map (partOf taken) := by
  cases i with
  | zero => exact ⟨false, by simp, partsFrom_zero false nodes⟩
  | succ i => exact ⟨_, by simp, partsFrom_succ false nodes i⟩

theorem plays_partsFrom (nodes : List Node) : Plays nodes (partsFrom false nodes) where
  length := length_partsFrom false nodes
  operand_iff i := by
    obtain ⟨taken, isTaken, part⟩ := getElem?_partsFrom nodes i
    rw [part, ← isTaken, Option.map_eq_some_iff]
    constructor
    · rintro ⟨node, isNode, isOperand⟩
      exact ⟨(List.getElem?_eq_some_iff.mp isNode).1, partOf_eq_operand.mp isOperand⟩
    · rintro ⟨inside, rfl⟩
      exact ⟨nodes[i], List.getElem?_eq_getElem inside, rfl⟩
  free {i node part} isNode isPart notTaken := by
    obtain ⟨taken, _, same⟩ := getElem?_partsFrom nodes i
    rw [isPart, isNode, Option.map_some, Option.some.injEq] at same
    subst same
    cases taken with
    | true => exact absurd rfl notTaken
    | false => exact playsFree_partOf node

theorem denotes_operandTypes (operand : Option Node) : Denotes operand (operand.elim [] operandTypes) := by
  cases operand with
  | none => exact .missing
  | some node =>
    cases word : node.terminal? with
    | some t => simpa [operandTypes, word] using .word word
    | none =>
      cases named : node.hasName "either" with
      | true => simpa [operandTypes, word, named] using .either word named
      | false => simpa [operandTypes, word, named] using .other word named

def typesAhead : List Node → List String
  | [] => [rootType]
  | node :: rest => if partOf false node = .dash then rest.head?.elim [] operandTypes else typesAhead rest

variable {nodes : List Node} {parts : List Part} {node : Node} {part : Part}

theorem typedFrom_cons {m : Nat} {types : List String} (typed : TypedFrom nodes parts m types) :
    TypedFrom (node :: nodes) (part :: parts) (m + 1) types := by
  cases typed with
  | @dash j types behind isDash first denotes =>
    refine .dash (j := j + 1) (by omega) (by simpa using isDash) (fun k after before => ?_) (by simpa using denotes)
    obtain ⟨k, rfl⟩ : ∃ l, k = l + 1 := ⟨k - 1, by omega⟩
    simpa using first k (by omega) (by omega)
  | root noDash =>
    refine .root fun k after => ?_
    obtain ⟨k, rfl⟩ : ∃ l, k = l + 1 := ⟨k - 1, by omega⟩
    simpa using noDash k (by omega)

theorem typedFrom_of_succ {types : List String} (typed : TypedFrom nodes parts 1 types)
    (noDash : parts[0]? ≠ some .dash) : TypedFrom nodes parts 0 types := by
  cases typed with
  | dash behind isDash first denotes =>
    refine .dash (Nat.zero_le _) isDash (fun k _ before => ?_) denotes
    cases k with
    | zero => exact noDash
    | succ k => exact first (k + 1) (by omega) before
  | root later =>
    refine .root fun k _ => ?_
    cases k with
    | zero => exact noDash
    | succ k => exact later (k + 1) (by omega)

theorem typedFrom_typesAhead (nodes : List Node) : TypedFrom nodes (partsFrom false nodes) 0 (typesAhead nodes) := by
  induction nodes with
  | nil => exact .root (by simp [partsFrom])
  | cons node rest ih =>
    by_cases dash : partOf false node = .dash
    · simp only [typesAhead, dash, if_true]
      refine .dash (j := 0) (Nat.zero_le 0) (by simp [partsFrom, dash]) (by simp) ?_
      rw [List.getElem?_cons_succ, ← List.head?_eq_getElem?]
      exact denotes_operandTypes rest.head?
    · simp only [typesAhead, dash, if_false]
      refine typedFrom_of_succ ?_ (by simpa [partsFrom] using dash)
      have later : TypedFrom (node :: rest) (partOf false node :: partsFrom false rest) 1 (typesAhead rest) :=
        typedFrom_cons ih
      simpa [partsFrom, dash] using later

theorem isEntryAt_cons {i : Nat} {entry : TypedEntry} (isEntry : IsEntryAt nodes parts i entry) :
    IsEntryAt (node :: nodes) (part :: parts) (i + 1) entry :=
  ⟨by simpa using isEntry.written, typedFrom_cons isEntry.types⟩

theorem namePlaces_cons (part : Part) (parts : List Part) :
    namePlaces (part :: parts) = (if part = .name then [0] else []) ++ (namePlaces parts).map (· + 1) := by
  simp only [namePlaces, List.length_cons, List.range_succ_eq_map, List.filter_cons, List.filter_map,
    List.getElem?_cons_zero, Option.some.injEq]
  by_cases name : part = .name <;> simp [name, Function.comp_def]

theorem forall₂_cons_other {entries : List TypedEntry}
    (each : List.Forall₂ (IsEntryAt nodes parts) (namePlaces parts) entries) (other : part ≠ .name) :
    List.Forall₂ (IsEntryAt (node :: nodes) (part :: parts)) (namePlaces (part :: parts)) entries := by
  rw [namePlaces_cons, if_neg other, List.nil_append, List.forall₂_map_left_iff]
  exact each.imp fun _ _ => isEntryAt_cons

section

variable {rest : List Node} {t : Token}

theorem readAfter_ignored (pending : List Token) (noWord : node.terminal? = none) :
    readAfter pending (node :: rest) = readAfter pending rest := by
  rw [readAfter.eq_def]
  simp [noWord]

theorem readAfter_name (pending : List Token) (isWord : node.terminal? = some t) (noDash : t.kind ≠ .dash) :
    readAfter pending (node :: rest) = readAfter (t :: pending) rest := by
  rw [readAfter.eq_def]
  simp [isWord, noDash]

theorem readAfter_dash (pending : List Token) (isWord : node.terminal? = some t) (isDash : t.kind = .dash) :
    readAfter pending (node :: rest) =
      withTypes (rest.head?.elim [] operandTypes) pending.reverse ++ readAfter [] rest.tail := by
  rw [readAfter.eq_def]
  cases rest <;> simp [isWord, isDash, readAfter, withTypes]

end

/-- The names that wait have the types ahead, and what comes behind does not depend on them. -/
theorem readAfter_eq (pending : List Token) (nodes : List Node) :
    readAfter pending nodes = withTypes (typesAhead nodes) pending.reverse ++ readAfter [] nodes := by
  induction nodes generalizing pending with
  | nil => simp [readAfter, typesAhead, withTypes]
  | cons node rest ih =>
    cases word : node.terminal? with
    | none =>
      have other : partOf false node ≠ .dash := by simp [partOf, word]
      rw [typesAhead, if_neg other, readAfter_ignored pending word, readAfter_ignored [] word]
      exact ih pending
    | some t =>
      by_cases dash : t.kind = .dash
      · have isDash : partOf false node = .dash := by simp [partOf, word, dash]
        rw [typesAhead, if_pos isDash, readAfter_dash pending word dash, readAfter_dash [] word dash]
        simp [withTypes]
      · have other : partOf false node ≠ .dash := by simp [partOf, word, dash]
        rw [typesAhead, if_neg other, readAfter_name pending word dash, readAfter_name [] word dash, ih (t :: pending),
          ih [t]]
        simp [withTypes]

theorem forall₂_readAfter (nodes : List Node) :
    List.Forall₂ (IsEntryAt nodes (partsFrom false nodes)) (namePlaces (partsFrom false nodes)) (readAfter [] nodes) := by
  -- by induction on the length, since a dash takes two nodes at once
  induction size : nodes.length using Nat.strongRecOn generalizing nodes with
  | ind size ih =>
    subst size
    cases nodes with
    | nil => exact .nil
    | cons node rest =>
      have later := ih rest.length (by simp) rest rfl
      cases word : node.terminal? with
      | none =>
        have ignored : partOf false node = .ignored := by simp [partOf, word]
        rw [readAfter_ignored [] word, partsFrom, ignored]
        exact forall₂_cons_other later (by simp)
      | some t =>
        by_cases dash : t.kind = .dash
        · have isDash : partOf false node = .dash := by simp [partOf, word, dash]
          rw [readAfter_dash [] word dash, partsFrom, isDash]
          cases rest with
          | nil => exact .nil
          | cons operand rest =>
            have behind := ih rest.length (by simp only [List.length_cons]; omega) rest rfl
            exact forall₂_cons_other (forall₂_cons_other behind (by simp [partOf])) (by simp)
        · have name : partOf false node = .name := by simp [partOf, word, dash]
          rw [readAfter_name [] word dash, readAfter_eq [t], partsFrom, name, namePlaces_cons, if_pos rfl,
            List.singleton_append]
          refine .cons ⟨⟨t, by simpa using word, rfl, rfl⟩, typedFrom_cons (typedFrom_typesAhead rest)⟩ ?_
          rw [List.forall₂_map_left_iff]
          exact later.imp fun _ _ => isEntryAt_cons

/-- Comments apart, the nodes of any list play their parts in one way, and the entries of the list are its names from
left to right, each with the types of the first dash behind it. -/
theorem entries_are_names (list : List Node) :
    let nodes := list.filter (!·.isComment)
    ∃ parts, Plays nodes parts ∧ (∀ other, Plays nodes other → other = parts) ∧
      List.Forall₂ (IsEntryAt nodes parts) (namePlaces parts) (readList list) := by
  intro nodes
  have plays := plays_partsFrom nodes
  exact ⟨partsFrom false nodes, plays, fun other isOther => isOther.unique plays, forall₂_readAfter nodes⟩

end PddlAssist.TypedEntry
