import Mathlib.Data.List.Nodup
import PddlAssist.Proofs.Distinct
import PddlAssist.TypedList

namespace PddlAssist.ObjectGroup

open Text

/-- The names of a list, each with every type that it has. -/
def pairs (entries : List TypedEntry) : List (String × String) :=
  entries.flatMap fun entry => entry.types.map (entry.name, ·)

theorem mem_pairs {entries : List TypedEntry} {name typeName : String} :
    (name, typeName) ∈ pairs entries ↔ ∃ entry ∈ entries, entry.name = name ∧ typeName ∈ entry.types := by
  simp only [pairs, List.mem_flatMap, List.mem_map, Prod.mk.injEq]
  constructor
  · rintro ⟨entry, member, typeName, isType, rfl, rfl⟩
    exact ⟨entry, member, rfl, isType⟩
  · rintro ⟨entry, member, rfl, isType⟩
    exact ⟨entry, member, typeName, isType, rfl, rfl⟩

theorem group_eq (entries : List TypedEntry) :
    group entries = (pairs entries).foldl (fun groups pair => add pair.1 pair.2 groups) [] := by
  rw [group, pairs, List.foldl_flatMap]
  simp only [List.foldl_map]

/-- The types that have a group. -/
def keys (groups : List ObjectGroup) : List String := groups.map (lower ·.typeName)

/-- What the groups list, regardless of the case of types. -/
def listed (groups : List ObjectGroup) : List (String × String) :=
  groups.flatMap fun g => g.objects.map (·, lower g.typeName)

@[simp] theorem listed_cons (g : ObjectGroup) (rest : List ObjectGroup) :
    listed (g :: rest) = g.objects.map (·, lower g.typeName) ++ listed rest := List.flatMap_cons

section

variable {name typeName : String} {groups : List ObjectGroup}

theorem add_new (new : lower typeName ∉ keys groups) : add name typeName groups = groups ++ [⟨typeName, [name]⟩] := by
  induction groups with
  | nil => rfl
  | cons g rest ih =>
    simp only [keys, List.map_cons, List.mem_cons, not_or] at new
    have other : ¬sameName g.typeName typeName = true := fun same => new.1 (sameName_iff.mp same).symm
    rw [add, if_neg other, ih new.2, List.cons_append]

theorem add_known (known : lower typeName ∈ keys groups) (distinct : (keys groups).Nodup) :
    add name typeName groups = groups.map fun g =>
      if sameName g.typeName typeName then ⟨g.typeName, g.objects ++ [name]⟩ else g := by
  induction groups with
  | nil => cases known
  | cons g rest ih =>
    simp only [keys, List.map_cons, List.mem_cons, List.nodup_cons] at known distinct
    by_cases same : sameName g.typeName typeName = true
    · have others : ∀ h ∈ rest, ¬sameName h.typeName typeName = true := by
        intro h member sameOther
        refine distinct.1 (List.mem_map.mpr ⟨h, member, ?_⟩)
        rw [sameName_iff.mp sameOther, sameName_iff.mp same]
      have kept : rest.map (fun g => if sameName g.typeName typeName then ⟨g.typeName, g.objects ++ [name]⟩ else g) =
          rest := by
        rw [List.map_congr_left fun h member => if_neg (others h member), List.map_id']
      rw [add, if_pos same, List.map_cons, if_pos same, kept]
    · have later : lower typeName ∈ keys rest :=
        known.resolve_left fun equal => same (sameName_iff.mpr equal.symm)
      rw [add, if_neg same, List.map_cons, if_neg same, ih later distinct.2]

theorem listed_add : (listed (add name typeName groups)).Perm (listed groups ++ [(name, lower typeName)]) := by
  induction groups with
  | nil => exact .refl _
  | cons g rest ih =>
    rw [add]
    split
    case isTrue same =>
      rw [listed_cons, listed_cons, List.map_append, List.map_singleton, sameName_iff.mp same, List.append_assoc,
        List.append_assoc]
      exact .append_left _ List.perm_append_comm
    case isFalse =>
      rw [listed_cons, listed_cons, List.append_assoc]
      exact .append_left _ ih

end

/-- The groups of some pairs of a name and a type. -/
structure Groups (pairs : List (String × String)) (groups : List ObjectGroup) : Prop where
  keys : keys groups = (pairs.map (lower ·.2)).eraseDups
  objects : ∀ g ∈ groups, g.objects = (pairs.filter (sameName g.typeName ·.2)).map (·.1)
  listed : (listed groups).Perm (pairs.map fun pair => (pair.1, lower pair.2))

namespace Groups

variable {pairs : List (String × String)} {groups : List ObjectGroup}

theorem nodup (isGroups : Groups pairs groups) : (ObjectGroup.keys groups).Nodup :=
  isGroups.keys ▸ List.nodup_eraseDups _

theorem distinct (isGroups : Groups pairs groups) :
    groups.Pairwise fun left right => sameName left.typeName right.typeName = false := by
  have nodup := isGroups.nodup
  rw [ObjectGroup.keys, List.nodup_iff_pairwise_ne, List.pairwise_map] at nodup
  exact nodup.imp fun apart => Bool.eq_false_iff.mpr fun same => apart (sameName_iff.mp same)

theorem nonempty (isGroups : Groups pairs groups) {g : ObjectGroup} (member : g ∈ groups) : g.objects ≠ [] := by
  have isKey : lower g.typeName ∈ ObjectGroup.keys groups := List.mem_map_of_mem member
  rw [isGroups.keys, List.mem_eraseDups, List.mem_map] at isKey
  obtain ⟨pair, isPair, same⟩ := isKey
  rw [isGroups.objects g member]
  refine List.ne_nil_of_mem (List.mem_map_of_mem (List.mem_filter.mpr ⟨isPair, ?_⟩))
  exact sameName_iff.mpr same.symm

theorem add (isGroups : Groups pairs groups) (pair : String × String) :
    Groups (pairs ++ [pair]) (ObjectGroup.add pair.1 pair.2 groups) := by
  have isType : lower pair.2 ∈ ObjectGroup.keys groups ↔ lower pair.2 ∈ pairs.map (lower ·.2) := by
    rw [isGroups.keys, List.mem_eraseDups]
  refine ⟨?keys, ?objects, ?listed⟩
  case keys =>
    rw [List.map_append, List.map_singleton, List.eraseDups_concat, ← isGroups.keys]
    by_cases known : lower pair.2 ∈ ObjectGroup.keys groups
    · rw [if_pos (isType.mp known), add_known known isGroups.nodup]
      simp only [ObjectGroup.keys, List.map_map]
      refine List.map_congr_left fun g _ => ?_
      simp only [Function.comp_apply]
      split <;> rfl
    · rw [if_neg (mt isType.mpr known), add_new known]
      simp [ObjectGroup.keys]
  case objects =>
    intro g member
    rw [List.filter_append, List.map_append]
    by_cases known : lower pair.2 ∈ ObjectGroup.keys groups
    · rw [add_known known isGroups.nodup] at member
      obtain ⟨h, isGroup, rfl⟩ := List.mem_map.mp member
      split
      case isTrue same => simp [isGroups.objects h isGroup, same]
      case isFalse other => simp [isGroups.objects h isGroup, other]
    · rw [add_new known] at member
      rcases List.mem_append.mp member with old | new
      · have other : sameName g.typeName pair.2 = false := by
          refine Bool.eq_false_iff.mpr fun same => known ?_
          rw [← sameName_iff.mp same]
          exact List.mem_map_of_mem old
        simp [isGroups.objects g old, other]
      · have first : pairs.filter (sameName pair.2 ·.2) = [] := by
          refine List.filter_eq_nil_iff.mpr fun earlier isPair same => known (isType.mpr ?_)
          exact List.mem_map.mpr ⟨earlier, isPair, (sameName_iff.mp same).symm⟩
        cases List.mem_singleton.mp new
        simp [first, sameName_refl]
  case listed =>
    rw [List.map_append]
    exact listed_add.trans (isGroups.listed.append_right _)

theorem foldl (isGroups : Groups pairs groups) (more : List (String × String)) :
    Groups (pairs ++ more) (more.foldl (fun groups pair => ObjectGroup.add pair.1 pair.2 groups) groups) := by
  induction more generalizing pairs groups with
  | nil => rwa [List.append_nil]
  | cons pair more ih =>
    have later := ih (isGroups.add pair)
    rwa [List.append_assoc] at later

end Groups

theorem groups_group (entries : List TypedEntry) : Groups (pairs entries) (group entries) := by
  have empty : Groups [] [] := ⟨rfl, by simp, .refl _⟩
  rw [group_eq]
  exact empty.foldl (pairs entries)

section

variable {entries : List TypedEntry} {name : String}

theorem exists_entry_of_has {g : ObjectGroup} (member : g ∈ group entries) (has : g.has name = true) :
    ∃ entry ∈ entries, sameName entry.name name = true ∧ ∃ typeName ∈ entry.types, sameName g.typeName typeName = true := by
  obtain ⟨object, isObject, same⟩ := List.any_eq_true.mp has
  rw [(groups_group entries).objects g member, List.mem_map] at isObject
  obtain ⟨pair, isPair, rfl⟩ := isObject
  rw [List.mem_filter] at isPair
  obtain ⟨entry, isEntry, isName, isType⟩ := mem_pairs.mp isPair.1
  exact ⟨entry, isEntry, isName ▸ same, pair.2, isType, isPair.2⟩

theorem typeOf?_eq_none (unknown : ∀ entry ∈ entries, sameName entry.name name = false) :
    typeOf? (group entries) name = none := by
  rw [typeOf?, Option.map_eq_none_iff, List.find?_eq_none]
  intro g member has
  obtain ⟨entry, isEntry, same, _⟩ := exists_entry_of_has member has
  rw [unknown entry isEntry] at same
  cases same

theorem typeOf?_eq_some (distinct : entries.Pairwise fun left right => sameName left.name right.name = false)
    {entry : TypedEntry} (member : entry ∈ entries) {typeName : String} (isType : entry.types = [typeName])
    (named : sameName entry.name name = true) :
    ∃ found, typeOf? (group entries) name = some found ∧ sameName found typeName = true := by
  have grouped : (entry.name, lower typeName) ∈ listed (group entries) := by
    refine (groups_group entries).listed.mem_iff.mpr (List.mem_map.mpr ⟨(entry.name, typeName), ?_, rfl⟩)
    exact mem_pairs.mpr ⟨entry, member, rfl, by simp [isType]⟩
  simp only [listed, List.mem_flatMap, List.mem_map, Prod.mk.injEq] at grouped
  obtain ⟨g, isGroup, object, isObject, isEntry, _⟩ := grouped
  have has : g.has name = true := List.any_eq_true.mpr ⟨object, isObject, isEntry ▸ named⟩
  have isSome : ((group entries).find? (·.has name)).isSome = true := List.find?_isSome.mpr ⟨g, isGroup, has⟩
  obtain ⟨found, isFound⟩ := Option.isSome_iff_exists.mp isSome
  refine ⟨found.typeName, by rw [typeOf?, isFound, Option.map_some], ?_⟩
  -- the entry that put the name into the group that was found can only be this one
  have foundHas : found.has name = true := by simpa using List.find?_some isFound
  obtain ⟨other, isOther, same, otherType, isOtherType, sameType⟩ :=
    exists_entry_of_has (List.mem_of_find?_eq_some isFound) foundHas
  have nodup : (entries.map (lower ·.name)).Nodup := by
    rw [List.nodup_iff_pairwise_ne, List.pairwise_map]
    exact distinct.imp fun apart same => Bool.eq_false_iff.mp apart (sameName_iff.mpr same)
  have isSame : other = entry :=
    List.inj_on_of_nodup_map nodup isOther member ((sameName_iff.mp same).trans (sameName_iff.mp named).symm)
  rw [isSame, isType, List.mem_singleton] at isOtherType
  rwa [isOtherType] at sameType

end

/-- There is one group for each type, in the order in which the types first occur, and the groups list every object
under its types and nothing else, each in the order of the entries. The type of an object that has one type is found. -/
theorem objects_keep_their_types (entries : List TypedEntry) :
    (group entries).Pairwise (fun left right => sameName left.typeName right.typeName = false) ∧
      (group entries).map (lower ·.typeName) = ((pairs entries).map (lower ·.2)).eraseDups ∧
      (∀ g ∈ group entries, g.objects ≠ []) ∧
      ((group entries).flatMap fun g => g.objects.map (·, lower g.typeName)).Perm
        ((pairs entries).map fun pair => (pair.1, lower pair.2)) ∧
      (∀ g ∈ group entries, g.objects = ((pairs entries).filter (sameName g.typeName ·.2)).map (·.1)) ∧
      (entries.Pairwise (fun left right => sameName left.name right.name = false) →
        (∀ entry ∈ entries, entry.types.length = 1) → ∀ name,
          (∀ entry ∈ entries, sameName entry.name name = true → ∃ typeName found, entry.types = [typeName] ∧
            typeOf? (group entries) name = some found ∧ sameName found typeName = true) ∧
          ((∀ entry ∈ entries, sameName entry.name name = false) → typeOf? (group entries) name = none)) := by
  have isGroups := groups_group entries
  refine ⟨isGroups.distinct, isGroups.keys, fun g => isGroups.nonempty, isGroups.listed, isGroups.objects, ?_⟩
  intro distinct single name
  refine ⟨fun entry member named => ?_, typeOf?_eq_none⟩
  obtain ⟨typeName, isType⟩ := List.length_eq_one_iff.mp (single entry member)
  obtain ⟨found, isFound, same⟩ := typeOf?_eq_some distinct member isType named
  exact ⟨typeName, found, isType, isFound, same⟩

theorem objects_keep_their_types_truck :
    let entries : List TypedEntry := [⟨"a", ⟨0, 1⟩, ["Truck"]⟩, ⟨"b", ⟨4, 5⟩, ["loc"]⟩, ⟨"T1", ⟨9, 11⟩, ["truck"]⟩]
    group entries = [⟨"Truck", ["a", "T1"]⟩, ⟨"loc", ["b"]⟩] ∧
      (∃ typeName found, ["truck"] = [typeName] ∧ typeOf? (group entries) "t1" = some found ∧
        sameName found typeName = true) ∧
      typeOf? (group entries) "t2" = none := by
  intro entries
  have looked := (objects_keep_their_types entries).2.2.2.2.2 (by decide) (by decide)
  exact ⟨by decide, (looked "t1").1 ⟨"T1", ⟨9, 11⟩, ["truck"]⟩ (by decide) (by decide), (looked "t2").2 (by decide)⟩

end PddlAssist.ObjectGroup
