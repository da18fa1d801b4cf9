import PddlAssist.Proofs.Symbol.Places
import PddlAssist.Proofs.Symbol.Tear

namespace PddlAssist

open Text PddlAssist.Symbol

theorem startsWithName_congr {name other : List Char} (same : name.map Char.toLower = other.map Char.toLower)
    (cs : List Char) : startsWithName name cs = startsWithName other cs := by
  have transfer {left right : List Char} (same : left.map Char.toLower = right.map Char.toLower)
      (starts : startsWithName left cs = true) : startsWithName right cs = true := by
    obtain ⟨written, rest, rfl, spelled⟩ := startsWithName_cases starts
    exact startsWithName_append (spelled.trans same) rest
  exact Bool.eq_iff_iff.mpr ⟨transfer same, transfer same.symm⟩

theorem occurrences_congr {name other : String} (same : sameName name other = true) (cs : List Char) (scope : Span) :
    occurrences cs scope name = occurrences cs scope other := by
  have letters := sameName_iff_map.mp same
  have long : name.toList.length = other.toList.length := by simpa using congrArg List.length letters
  have wide : width name.toList = width other.toList := width_of_map_toLower letters
  have found (head : Occurrence.Head) :
      occurrencesFrom name.toList scope head cs = occurrencesFrom other.toList scope head cs := by
    induction cs generalizing head with
    | nil => rfl
    | cons c cs ih => simp only [occurrencesFrom, ih, startsWithName_congr letters, long, wide]
  simp only [occurrences, isEmpty_of_lower (sameName_iff.mp same), found]

namespace Domain

variable {document : Document}

theorem searchType_congr {name other : String} (same : lower name = lower other) (d : Domain) :
    d.searchType name document = d.searchType other document := by
  simp only [searchType, occurrences_congr (sameName_iff.mpr same)]

/-- What is remembered is what a search finds. -/
structure Recalls (d : Domain) (document : Document) : Prop where
  places : ∀ var ∈ d.allVariables, ∀ location, var.location = some location →
    location = d.searchVariable var document
  typePlaces : ∀ entry ∈ d.typeLocations, ∀ name, lower name = entry.1 → entry.2 = d.searchType name document

namespace Recalls

variable {d : Domain}

theorem of_forget (new : d.forget = d) : d.Recalls document where
  places var member location remembered := by
    rw [← new, allVariables_forget] at member
    obtain ⟨v, -, rfl⟩ := List.mem_map.mp member
    cases remembered
  typePlaces entry member := by
    rw [← new] at member
    cases member

theorem locate (recalls : d.Recalls document) (n : Nat) : (d.locate n document).2.Recalls document := by
  rw [Domain.locate]
  split
  · exact recalls
  · rename_i var isVariable
    split
    · exact recalls
    · refine ⟨fun v member location remembered => ?_, recalls.typePlaces⟩
      -- the search looks at nothing that the answer changes
      rw [allVariables_modify] at member
      obtain ⟨m, isMember⟩ := List.getElem?_of_mem member
      rw [getElem?_modifyVariable, Option.map_eq_some_iff] at isMember
      obtain ⟨v', isMember, rfl⟩ := isMember
      by_cases here : m = n
      · rw [here, isVariable] at isMember
        cases isMember
        rw [if_pos here] at remembered ⊢
        exact (Option.some.inj remembered).symm
      · rw [if_neg here] at remembered ⊢
        exact recalls.places v' (List.mem_of_getElem? isMember) location remembered

theorem locateType (recalls : d.Recalls document) (name : String) :
    (d.locateType name document).2.Recalls document := by
  rw [Domain.locateType]
  split
  · exact recalls
  · refine ⟨recalls.places, fun entry member other same => ?_⟩
    rcases List.mem_append.mp member with known | isNew
    · exact recalls.typePlaces entry known other same
    · obtain rfl := List.mem_singleton.mp isNew
      exact searchType_congr same.symm d

theorem locate_fst (recalls : d.Recalls document) {n : Nat} {var : Variable}
    (isVariable : d.allVariables[n]? = some var) : (d.locate n document).1 = d.searchVariable var document := by
  simp only [Domain.locate, isVariable]
  split
  · rename_i location remembered
    exact recalls.places var (List.mem_of_getElem? isVariable) location remembered
  · rfl

theorem locateType_fst (recalls : d.Recalls document) (name : String) :
    (d.locateType name document).1 = d.searchType name document := by
  rw [Domain.locateType]
  split
  · rename_i key location known
    have isKey := List.find?_some known
    exact recalls.typePlaces _ (List.mem_of_find?_eq_some known) name (by simpa using (beq_iff_eq.mp isKey).symm)
  · rfl

end Recalls
end Domain

namespace Workspace

theorem lasting_recalls :
    Lasting fun file => file.status ≠ .dirty → ∀ d, file.domain? = some d → d.Recalls file.document where
  read reader uri version text _ d isDomain := by
    have new := SourceFile.forget_read reader uri version text
    rw [SourceFile.kind_of_domain? isDomain, FileKind.forget, FileKind.domain.injEq] at new
    exact .of_forget new
  dirty _ dirty clean := absurd dirty clean
  status _ _ recalls clean _ := recalls clean
  asked _ _ recalls asked clean d isDomain := by
    cases asked with
    | locate known n =>
      cases isDomain
      exact (recalls clean _ known).locate n
    | locateType known name =>
      cases isDomain
      exact (recalls clean _ known).locateType name

end Workspace
end PddlAssist
