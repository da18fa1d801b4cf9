import Mathlib.Data.List.Perm.Basic
import PddlAssist.Proofs.Reading.Declarations
import PddlAssist.Proofs.TypeHierarchy.Queries

namespace PddlAssist

open Text Relation

namespace TypeHierarchy.IsSound

variable {h : TypeHierarchy} (sound : h.IsSound)
include sound

theorem length_ancestorKeys_lt {child parent : String} (edge : h.HasParent child parent) :
    (h.ancestorKeys parent).length < (h.ancestorKeys child).length := by
  have distinct : (parent :: h.ancestorKeys parent).Nodup := by
    refine List.nodup_cons.mpr ⟨fun isAncestor => ?_, nodup_reach _ _ _⟩
    exact sound.acyclic parent ((mem_ancestorKeys_iff sound.closed).mp isAncestor)
  have above : parent :: h.ancestorKeys parent ⊆ h.ancestorKeys child := by
    refine List.cons_subset.mpr ⟨(mem_ancestorKeys_iff sound.closed).mpr (.single edge), fun key isAncestor => ?_⟩
    rw [mem_ancestorKeys_iff sound.closed] at isAncestor ⊢
    exact isAncestor.head edge
  exact (distinct.subperm above).length_le

theorem exists_top (key : String) :
    ∃ top, ReflTransGen h.HasParent key top ∧ ∀ parent, ¬ h.HasParent top parent := by
  induction size : (h.ancestorKeys key).length using Nat.strong_induction_on generalizing key with
  | h size ih =>
    subst size
    by_cases bare : ∀ parent, ¬ h.HasParent key parent
    · exact ⟨key, .refl, bare⟩
    · obtain ⟨parent, edge⟩ := not_forall_not.mp bare
      obtain ⟨top, way, isTop⟩ := ih _ (sound.length_ancestorKeys_lt edge) parent rfl
      exact ⟨top, way.head edge, isTop⟩

end TypeHierarchy.IsSound

namespace Domain

open TypeHierarchy

theorem find?_addName (names : List String) (name key : String) :
    (addName names name).find? (lower · == key) =
      (names.find? (lower · == key)).or (if lower name = key then some name else none) := by
  rw [addName]
  split
  case isTrue known =>
    obtain ⟨other, member, same⟩ := List.any_eq_true.mp known
    by_cases isKey : lower name = key
    · have found : (names.find? (lower · == key)).isSome :=
        List.find?_isSome.mpr ⟨other, member, by simpa [isKey] using sameName_iff.mp same⟩
      rw [Option.or_of_isSome found]
    · rw [if_neg isKey, Option.or_none]
  case isFalse =>
    rw [List.find?_append]
    by_cases isKey : lower name = key <;> simp [isKey]

theorem distinct_addName {names : List String} (distinct : names.Pairwise (sameName · · = false)) (name : String) :
    (addName names name).Pairwise (sameName · · = false) := by
  rw [addName]
  split
  case isTrue => exact distinct
  case isFalse unknown =>
    refine List.pairwise_append.mpr ⟨distinct, List.pairwise_singleton _ _, fun other member new isNew => ?_⟩
    rw [List.mem_singleton.mp isNew]
    by_contra same
    exact unknown (List.any_eq_true.mpr ⟨other, member, by simpa using same⟩)

theorem find?_eq_some_iff_mem {types : List String} (distinct : types.Pairwise (sameName · · = false)) {name : String} :
    types.find? (lower · == lower name) = some name ↔ name ∈ types := by
  refine ⟨List.mem_of_find?_eq_some, fun member => ?_⟩
  induction types with
  | nil => cases member
  | cons first rest ih =>
    rw [List.pairwise_cons] at distinct
    rw [List.find?_cons]
    rcases List.mem_cons.mp member with rfl | later
    · rw [beq_self_eq_true]
    · have differs : (lower first == lower name) = false := distinct.1 name later
      rw [differs]
      exact ih distinct.2 later

/-- A list of types and a hierarchy show the same names in the same spelling, apart from the root. -/
structure Agree (types : List String) (h : TypeHierarchy) : Prop where
  sound : h.IsSound
  root : (h.find? (lower rootType)).isSome
  distinct : types.Pairwise (sameName · · = false)
  names : ∀ key, key ≠ lower rootType → (h.find? key).map (·.name) = types.find? (lower · == key)

namespace Agree

variable {types : List String} {h : TypeHierarchy} (agree : Agree types h)
include agree

theorem isSome_of_mem {name : String} (member : name ∈ types) : (h.find? (lower name)).isSome := by
  by_cases isRoot : lower name = lower rootType
  · exact isRoot ▸ agree.root
  · have named := congrArg Option.isSome (agree.names _ isRoot)
    rw [Option.isSome_map] at named
    rw [named, List.find?_isSome]
    exact ⟨name, member, by simp⟩

theorem mem_types_iff {name : String} (inner : sameName name rootType = false) :
    name ∈ types ↔ name ∈ h.types := by
  have notRoot : lower name ≠ lower rootType := by
    rw [ne_eq, ← sameName_iff, inner]
    exact Bool.false_ne_true
  rw [← find?_eq_some_iff_mem agree.distinct, ← agree.names _ notRoot, TypeHierarchy.types, List.mem_map,
    Option.map_eq_some_iff]
  constructor
  · rintro ⟨v, found, isName⟩
    exact ⟨v, List.mem_of_find?_eq_some found, isName⟩
  · rintro ⟨v, member, rfl⟩
    exact ⟨v, agree.sound.sorted.find?_of_mem member, rfl⟩

theorem addType (name : String) : Agree (addName types name) (h.addType name) where
  sound := agree.sound.addType name
  root := by
    rw [find?_addType agree.sound.sorted]
    simp [agree.root]
  distinct := distinct_addName agree.distinct name
  names key notRoot := by
    rw [find?_name_addType agree.sound.sorted, agree.names key notRoot, find?_addName]

theorem isSome_of_refused {child parent : String} (isChild : (h.find? (lower child)).isSome)
    (refused : h.addEdge? child parent = none) : (h.find? (lower parent)).isSome := by
  rcases (addEdge?_eq_none_iff agree.sound.closed).mp refused with same | way
  · rwa [← sameName_iff.mp same]
  · exact (agree.sound.isSome_of_transGen way).1

theorem filter_inner : Agree (types.filter (!sameName · rootType)) h where
  sound := agree.sound
  root := agree.root
  distinct := agree.distinct.filter _
  names key notRoot := by
    rw [agree.names key notRoot, List.find?_filter]
    congr 1
    funext name
    by_cases isKey : lower name = key
    · have inner : sameName name rootType = false := by
        rw [← Bool.not_eq_true, sameName_iff, isKey]
        exact notRoot
      simp [isKey, inner]
    · simp [isKey]

theorem addEdge? {child parent : String} {after : TypeHierarchy} (added : h.addEdge? child parent = some after)
    (isChild : (h.find? (lower child)).isSome) :
    Agree (if sameName parent rootType then types else addName types parent) after where
  sound := agree.sound.addEdge? added
  root := by
    have names := congrArg Option.isSome ((agree.sound.gains_of_addEdge? added).names (lower rootType))
    rw [Option.isSome_map, Option.isSome_or, Option.isSome_map, agree.root, Bool.true_or] at names
    exact names
  distinct := by
    split
    · exact agree.distinct
    · exact distinct_addName agree.distinct parent
  names key notRoot := by
    rw [(agree.sound.gains_of_addEdge? added).names, agree.names key notRoot]
    have listed : (if sameName parent rootType then types else addName types parent).find? (lower · == key) =
        (types.find? (lower · == key)).or (if lower parent = key then some parent else none) := by
      split
      case isTrue isRoot =>
        have differs : lower parent ≠ key := fun same => notRoot (same ▸ sameName_iff.mp isRoot)
        rw [if_neg differs, Option.or_none]
      case isFalse => exact find?_addName types parent key
    rw [listed]
    by_cases here : lower child = key
    · have known : (types.find? (lower · == key)).isSome := by
        rw [← agree.names key notRoot, Option.isSome_map, ← here]
        exact isChild
      rw [Option.or_of_isSome known, Option.or_of_isSome known]
    · rw [if_neg here]

end Agree

/-- A step of reading types: list and hierarchy still agree, no type is lost, and new edges are among those in `below`. -/
structure Extends (below : String → String → Prop) (r r' : Reading) : Prop where
  agree : Agree r'.domain.types r'.domain.hierarchy
  grows : ∀ key, (r.domain.hierarchy.find? key).isSome → (r'.domain.hierarchy.find? key).isSome
  edges : ∀ a b, r'.domain.hierarchy.HasParent a b → r.domain.hierarchy.HasParent a b ∨ below a b

theorem Extends.refl {below : String → String → Prop} {r : Reading}
    (agree : Agree r.domain.types r.domain.hierarchy) : Extends below r r :=
  ⟨agree, fun _ => id, fun _ _ => .inl⟩

theorem Extends.trans {below : String → String → Prop} {r r' r'' : Reading} (first : Extends below r r')
    (second : Extends below r' r'') : Extends below r r'' where
  agree := second.agree
  grows key isType := second.grows key (first.grows key isType)
  edges a b edge := (second.edges a b edge).elim (first.edges a b) .inr

theorem Extends.mono {below below' : String → String → Prop} {r r' : Reading} (step : Extends below r r')
    (wider : ∀ a b, below a b → below' a b) : Extends below' r r' where
  agree := step.agree
  grows := step.grows
  edges a b edge := (step.edges a b edge).imp_right (wider a b)

section

variable (document : Document) {r : Reading}

theorem Agree.declareParent (agree : Agree r.domain.types r.domain.hierarchy) {entry : TypedEntry} (parent : String)
    (isChild : (r.domain.hierarchy.find? (lower entry.name)).isSome) :
    Extends (fun a b => a = lower entry.name ∧ b = lower parent) r (declareParent document entry r parent) := by
  rw [Domain.declareParent]
  cases added : r.domain.hierarchy.addEdge? entry.name parent with
  | some after =>
    have gains := agree.sound.gains_of_addEdge? added
    refine ⟨agree.addEdge? added isChild, fun key isType => ?_, fun a b edge => (gains.edges a b).mp edge⟩
    have names := congrArg Option.isSome (gains.names key)
    rw [Option.isSome_map, Option.isSome_or, Option.isSome_map, isType, Bool.true_or] at names
    exact names
  | none =>
    refine ⟨?_, fun _ => id, fun _ _ => .inl⟩
    dsimp only
    split
    case isTrue => exact agree
    case isFalse notRoot =>
      -- the name is not appended, since it is on the list
      have isParent := agree.isSome_of_refused isChild added
      rw [sameName_iff] at notRoot
      have known := congrArg Option.isSome (agree.names (lower parent) notRoot)
      rw [Option.isSome_map, isParent] at known
      obtain ⟨other, member, same⟩ := List.find?_isSome.mp known.symm
      have onList : r.domain.types.any (sameName · parent) = true :=
        List.any_eq_true.mpr ⟨other, member, sameName_iff.mpr (by simpa using same)⟩
      rwa [addName, if_pos onList]

theorem Agree.declareParents (agree : Agree r.domain.types r.domain.hierarchy) {entry : TypedEntry}
    (isChild : (r.domain.hierarchy.find? (lower entry.name)).isSome) (parents : List String) :
    Extends (fun a b => a = lower entry.name ∧ ∃ p ∈ parents, lower p = b) r
      (parents.foldl (Domain.declareParent document entry) r) := by
  induction parents generalizing r with
  | nil => exact .refl agree
  | cons parent rest ih =>
    have first := agree.declareParent document parent isChild
    have later := ih first.agree (first.grows _ isChild)
    refine (first.mono ?_).trans (later.mono ?_)
    · rintro a b ⟨isHere, rfl⟩
      exact ⟨isHere, parent, .head _, rfl⟩
    · rintro a b ⟨isHere, p, member, same⟩
      exact ⟨isHere, p, .tail _ member, same⟩

theorem Agree.declareType (agree : Agree r.domain.types r.domain.hierarchy) (entry : TypedEntry) :
    Extends (fun a b => a = lower entry.name ∧ ∃ p ∈ entry.types, lower p = b) r
      (Domain.declareType document r entry) := by
  have sorted := agree.sound.sorted
  have isChild : ((r.domain.hierarchy.addType entry.name).find? (lower entry.name)).isSome := by
    rw [find?_addType sorted]
    simp
  have named : Extends (fun a b => a = lower entry.name ∧ ∃ p ∈ entry.types, lower p = b) r
      { r with domain := { r.domain with
        types := addName r.domain.types entry.name
        hierarchy := r.domain.hierarchy.addType entry.name } } := by
    refine ⟨agree.addType entry.name, fun key isType => ?_, fun a b edge => .inl ?_⟩
    · simp only [find?_addType sorted, Option.isSome_or, isType, Bool.true_or]
    · rwa [hasParent_addType sorted] at edge
  exact named.trans (named.agree.declareParents document isChild entry.types)

theorem Agree.declareTypes (agree : Agree r.domain.types r.domain.hierarchy) (entries : List TypedEntry) :
    Extends (IsBelow entries) r (entries.foldl (Domain.declareType document) r) := by
  induction entries generalizing r with
  | nil => exact .refl agree
  | cons entry rest ih =>
    have first := agree.declareType document entry
    refine (first.mono ?_).trans ((ih first.agree).mono ?_)
    · rintro a b ⟨rfl, p, member, same⟩
      exact ⟨entry, .head _, rfl, p, member, same⟩
    · rintro a b ⟨e, member, edge⟩
      exact ⟨e, .tail _ member, edge⟩

end

def IsHung (h : TypeHierarchy) (key : String) : Prop :=
  (∃ parent, h.HasParent key parent) ∨ ∃ parent, h.HasParent (lower rootType) parent

/-- To hang a type under the root keeps all edges, and gives the root no parent. -/
theorem Agree.hangUnderRoot {types : List String} {h : TypeHierarchy} (agree : Agree types h) {name : String}
    (member : name ∈ types) :
    Agree types (hangUnderRoot h name) ∧ (∀ a b, h.HasParent a b → (hangUnderRoot h name).HasParent a b) ∧
      (∀ b, (hangUnderRoot h name).HasParent (lower rootType) b → h.HasParent (lower rootType) b) ∧
      (sameName name rootType = false → IsHung (hangUnderRoot h name) (lower name)) := by
  rw [Domain.hangUnderRoot]
  split
  case isFalse keeps =>
    refine ⟨agree, fun _ _ => id, fun _ => id, fun inner => .inl ?_⟩
    by_contra bare
    exact keeps (by simp [parents_isEmpty.mpr (not_exists.mp bare), inner])
  case isTrue hangs =>
    obtain ⟨bare, inner⟩ := Bool.and_eq_true_iff.mp hangs
    cases added : h.addEdge? name rootType with
    | none =>
      -- only a way from the root to the type stands against the edge
      refine ⟨agree, fun _ _ => id, fun _ => id, fun inner => .inr ?_⟩
      rcases (addEdge?_eq_none_iff agree.sound.closed).mp added with same | way
      · simp [inner] at same
      · obtain ⟨parent, edge, _⟩ := TransGen.head'_iff.mp way
        exact ⟨parent, edge⟩
    | some after =>
      have gains := agree.sound.gains_of_addEdge? added
      have agree' := agree.addEdge? added (agree.isSome_of_mem member)
      rw [if_pos (sameName_refl rootType)] at agree'
      refine ⟨agree', fun a b edge => (gains.edges a b).mpr (.inl edge), fun b edge => ?_, fun _ => .inl ?_⟩
      · refine ((gains.edges _ b).mp edge).resolve_right ?_
        rintro ⟨same, _⟩
        simp [sameName_iff.mpr same.symm] at inner
      · exact ⟨lower rootType, (gains.edges _ _).mpr (.inr ⟨rfl, rfl⟩)⟩

theorem IsHung.mono {h h' : TypeHierarchy} {key : String} (hung : IsHung h key)
    (edges : ∀ a b, h.HasParent a b → h'.HasParent a b) : IsHung h' key :=
  hung.imp (fun ⟨parent, edge⟩ => ⟨parent, edges _ _ edge⟩) fun ⟨parent, edge⟩ => ⟨parent, edges _ _ edge⟩

theorem Agree.hangTypes {types : List String} {h : TypeHierarchy} (agree : Agree types h) {names : List String}
    (inside : names ⊆ types) :
    Agree types (names.foldl Domain.hangUnderRoot h) ∧
      (∀ a b, h.HasParent a b → (names.foldl Domain.hangUnderRoot h).HasParent a b) ∧
      (∀ b, (names.foldl Domain.hangUnderRoot h).HasParent (lower rootType) b → h.HasParent (lower rootType) b) ∧
      ∀ name ∈ names, sameName name rootType = false → IsHung (names.foldl Domain.hangUnderRoot h) (lower name) := by
  induction names generalizing h with
  | nil => exact ⟨agree, fun _ _ => id, fun _ => id, List.forall_mem_nil _⟩
  | cons name rest ih =>
    obtain ⟨member, inside'⟩ := List.cons_subset.mp inside
    obtain ⟨first, keeps, top, hung⟩ := agree.hangUnderRoot member
    obtain ⟨later, keeps', top', hung'⟩ := ih first inside'
    refine ⟨later, fun a b edge => keeps' a b (keeps a b edge), fun b edge => top b (top' b edge), ?_⟩
    exact List.forall_mem_cons.mpr ⟨fun inner => (hung inner).mono keeps', hung'⟩

end Domain

/-- The sections that list the types of a domain. -/
def Tree.typesSections (tree : Tree) : List Node :=
  (tree.define?.elim [] fun define => define.significant.filter Node.isBracket).filter (·.hasName ":types")

namespace Domain

open TypeHierarchy

structure ShowsTypes (sections : List Node) (d : Domain) : Prop where
  agree : Agree d.types d.hierarchy
  inner : ∀ name ∈ d.types, sameName name rootType = false
  hung : ∀ name ∈ d.types, IsHung d.hierarchy (lower name)
  origin : ∀ parent, d.hierarchy.HasParent (lower rootType) parent →
    ∃ part ∈ sections.filter (·.hasName ":types"), IsBelow (TypedEntry.readList part.arguments) (lower rootType) parent

theorem ShowsTypes.start {d : Domain} (types : d.types = []) (hierarchy : d.hierarchy = TypeHierarchy.addType {} rootType) :
    ShowsTypes [] d := by
  have sorted := IsSound.empty.sorted
  have agree : Agree [] (TypeHierarchy.addType {} rootType) := by
    refine ⟨IsSound.empty.addType rootType, by decide, .nil, fun key notRoot => ?_⟩
    rw [find?_name_addType sorted, if_neg notRoot.symm]
    rfl
  refine ⟨?_, ?_, ?_, fun parent edge => ?_⟩
  · rwa [types, hierarchy]
  · simp [types]
  · simp [types]
  · rw [hierarchy, hasParent_addType sorted] at edge
    cases edge

theorem ShowsTypes.congr {sections sections' : List Node} {d d' : Domain} (shows : ShowsTypes sections d)
    (types : d'.types = d.types) (hierarchy : d'.hierarchy = d.hierarchy) (longer : sections ⊆ sections') :
    ShowsTypes sections' d' := by
  refine ⟨?_, ?_, ?_, fun parent edge => ?_⟩
  · rw [types, hierarchy]
    exact shows.agree
  · rw [types]
    exact shows.inner
  · rw [types, hierarchy]
    exact shows.hung
  · rw [hierarchy] at edge
    obtain ⟨part, isPart, below⟩ := shows.origin parent edge
    exact ⟨part, List.filter_subset _ longer isPart, below⟩

theorem ShowsTypes.readTypes (document : Document) {sections : List Node} {r : Reading}
    (shows : ShowsTypes sections r.domain) {part : Node} (named : part.hasName ":types" = true) :
    ShowsTypes (sections ++ [part]) (readTypes document r part).domain := by
  have declared := shows.agree.declareTypes document (TypedEntry.readList part.arguments)
  obtain ⟨agree, keeps, top, hung⟩ := declared.agree.hangTypes (List.Subset.refl _)
  refine ⟨agree.filter_inner, fun name member => ?_, fun name member => ?_, fun parent edge => ?_⟩
  · simpa using (List.mem_filter.mp member).2
  · obtain ⟨isType, inner⟩ := List.mem_filter.mp member
    exact hung name isType (by simpa using inner)
  · rcases declared.edges _ _ (top parent edge) with old | below
    · obtain ⟨earlier, isPart, below⟩ := shows.origin parent old
      exact ⟨earlier, List.filter_subset _ (List.subset_append_left _ _) isPart, below⟩
    · exact ⟨part, by simp [named], below⟩

theorem ShowsTypes.readSection (document : Document) (tree : Tree) {sections : List Node} {r : Reading}
    (shows : ShowsTypes sections r.domain) (part : Node) :
    ShowsTypes (sections ++ [part]) (readSection document tree r part).domain := by
  have longer : sections ⊆ sections ++ [part] := List.subset_append_left _ _
  unfold Domain.readSection
  split
  case h_3 isName =>
    have named : part.hasName ":types" = true := by
      rw [Node.hasName_iff, isName]
      rfl
    let spanned : Reading :=
      { r with domain := { r.domain with sections := { r.domain.sections with types := some part.span } } }
    have shows' : ShowsTypes sections spanned.domain := shows.congr rfl rfl (List.Subset.refl _)
    exact shows'.readTypes document named
  case h_8 => split <;> exact shows.congr rfl rfl longer
  all_goals exact shows.congr rfl rfl longer

theorem showsTypes_ofTree? {document : Document} {tree : Tree} {d : Domain} {issues : List Issue}
    (read : ofTree? document tree = some (d, issues)) :
    ∃ sections, sections.filter (·.hasName ":types") = tree.typesSections ∧ ShowsTypes sections d := by
  simp only [ofTree?, Option.bind_eq_bind, Option.bind_eq_some_iff] at read
  obtain ⟨define, isDefine, header, _, read⟩ := read
  cases read
  refine ⟨define.significant.filter Node.isBracket, by rw [Tree.typesSections, isDefine]; rfl, ?_⟩
  induction define.significant.filter Node.isBracket using List.reverseRecOn with
  | nil => exact .start rfl rfl
  | append_singleton nodes part ih =>
    rw [List.foldl_concat]
    exact ih.readSection document tree part

theorem ShowsTypes.perm_types {sections : List Node} {d : Domain} (shows : ShowsTypes sections d) :
    d.types.Perm (d.hierarchy.types.filter (!sameName · rootType)) := by
  have listed : d.types.Nodup := shows.agree.distinct.imp fun {a b} differs same => by
    rw [same, sameName_refl] at differs
    cases differs
  have distinct : d.hierarchy.types.Nodup :=
    List.pairwise_map.mpr (shows.agree.sound.sorted.keys.imp fun before same => before.ne (congrArg lower same))
  refine (List.perm_ext_iff_of_nodup listed (distinct.filter _)).mpr fun name => ?_
  rw [List.mem_filter, Bool.not_eq_true']
  constructor
  · intro member
    have inner := shows.inner name member
    exact ⟨(shows.agree.mem_types_iff inner).mp member, inner⟩
  · rintro ⟨member, inner⟩
    exact (shows.agree.mem_types_iff inner).mpr member

theorem ShowsTypes.isSubtype {sections : List Node} {d : Domain} (shows : ShowsTypes sections d)
    (top : ∀ parent, ¬ d.hierarchy.HasParent (lower rootType) parent) {name : String} (member : name ∈ d.types) :
    d.hierarchy.isSubtype name rootType = true := by
  have sound := shows.agree.sound
  rw [sound.isSubtype_iff_reflTransGen]
  obtain ⟨highest, way, isHighest⟩ := sound.exists_top (lower name)
  have isRoot : highest = lower rootType := by
    by_contra notRoot
    have isType : (d.hierarchy.find? highest).isSome := by
      rcases reflTransGen_iff_eq_or_transGen.mp way with rfl | way
      · exact shows.agree.isSome_of_mem member
      · exact (sound.isSome_of_transGen way).2
    have listed := congrArg Option.isSome (shows.agree.names highest notRoot)
    rw [Option.isSome_map, isType] at listed
    obtain ⟨other, isListed, same⟩ := List.find?_isSome.mp listed.symm
    have isOther : lower other = highest := by simpa using same
    rcases isOther ▸ shows.hung other isListed with ⟨parent, edge⟩ | ⟨parent, edge⟩
    · exact isHighest parent edge
    · exact top parent edge
  rwa [isRoot] at way

/-- Whatever the sections of a text say, the types of its domain have names of their own, none of them that of the root,
and they are the types of the hierarchy in the same spelling, the root apart. All of them are below the root, unless a
section gives the root a parent that is not refused. -/
theorem declared_types_agree {cs : List Char} {d : Domain} {issues : List Issue}
    (read : ofTree? ⟨cs⟩ (Tree.build cs) = some (d, issues)) :
    d.types.Pairwise (sameName · · = false) ∧ (∀ name ∈ d.types, sameName name rootType = false) ∧
      d.types.Perm (d.hierarchy.types.filter (!sameName · rootType)) ∧
      ((∀ part ∈ (Tree.build cs).typesSections, ∀ entry ∈ TypedEntry.readList part.arguments,
          sameName entry.name rootType = true →
            ∀ parent ∈ entry.types, ¬ d.hierarchy.HasParent (lower rootType) (lower parent)) →
        ∀ name ∈ d.types, d.hierarchy.isSubtype name rootType = true) := by
  obtain ⟨sections, areSections, shows⟩ := showsTypes_ofTree? read
  refine ⟨shows.agree.distinct, shows.inner, shows.perm_types, fun bare name member => ?_⟩
  refine shows.isSubtype (fun parent edge => ?_) member
  obtain ⟨part, isPart, entry, isEntry, isRoot, written, isWritten, rfl⟩ := shows.origin parent edge
  exact bare part (areSections ▸ isPart) entry isEntry (sameName_iff.mpr isRoot) written isWritten edge

theorem declared_types_agree_refused :
    let cs := "(define (domain d) (:types a - (either B c) c - a b)\n(:types Object - object f - (either A G) e))".toList
    ∃ d issues, ofTree? ⟨cs⟩ (Tree.build cs) = some (d, issues) ∧ d.types = ["a", "B", "c", "f", "G", "e"] ∧
      issues.length = 2 ∧ d.hierarchy.types = ["a", "B", "c", "e", "f", "G", "object"] ∧
      ∀ name ∈ d.types, d.hierarchy.isSubtype name rootType = true := by
  intro cs
  have known : (ofTree? ⟨cs⟩ (Tree.build cs)).any (fun r => r.1.types == ["a", "B", "c", "f", "G", "e"] &&
      r.2.length == 2 && r.1.hierarchy.types == ["a", "B", "c", "e", "f", "G", "object"] &&
      r.1.hierarchy.parentKeys (lower rootType) == []) = true := by
    simp only [cs, String.reduceToList]
    decide +kernel
  clear_value cs
  obtain ⟨⟨d, issues⟩, read, shown⟩ := (Option.any_eq_true _ _).mp known
  simp only [Bool.and_eq_true, beq_iff_eq] at shown
  obtain ⟨⟨⟨types, refused⟩, hierarchy⟩, top⟩ := shown
  refine ⟨d, issues, read, types, refused, hierarchy, (declared_types_agree read).2.2.2 ?_⟩
  intro part _ entry _ _ parent _ edge
  rw [HasParent, top] at edge
  cases edge

end Domain
end PddlAssist
