import PddlAssist.Workspace
import Std.Data.TreeMap.Lemmas

namespace PddlAssist

open Std (TreeMap)

/-- The folder of an address and the address itself. -/
def Uri.key (uri : Uri) : String × String := (uri.folder, uri.text)

theorem values_eq_map_toList {β : Type} (t : TreeMap String β) : t.values = t.toList.map Prod.snd := by
  rw [TreeMap.values, TreeMap.toList, Std.DTreeMap.values, Std.DTreeMap.Const.toList,
    Std.DTreeMap.Internal.Impl.values_eq_map_snd, Std.DTreeMap.Internal.Impl.Const.toList_eq_toListModel_map]
  simp

theorem mem_values_iff {β : Type} {t : TreeMap String β} {value : β} :
    value ∈ t.values ↔ ∃ key : String, t[key]? = some value := by
  rw [values_eq_map_toList]
  constructor
  · intro member
    obtain ⟨⟨key, found⟩, listed, rfl⟩ := List.mem_map.mp member
    exact ⟨key, TreeMap.mem_toList_iff_getElem?_eq_some.mp listed⟩
  · rintro ⟨key, found⟩
    exact List.mem_map.mpr ⟨(key, value), TreeMap.mem_toList_iff_getElem?_eq_some.mpr found, rfl⟩

namespace Workspace

def stored? (w : Workspace) (key : String × String) : Option SourceFile :=
  (w.folders.getD key.1 ∅).get? key.2

theorem find?_eq_stored? (w : Workspace) (uri : Uri) : w.find? uri = w.stored? uri.key := rfl

theorem stored?_eq_some_iff {w : Workspace} {key : String × String} {file : SourceFile} :
    w.stored? key = some file ↔
      ∃ folder : Folder, w.folders[key.1]? = some folder ∧ folder[key.2]? = some file := by
  rw [stored?, TreeMap.getD_eq_getD_getElem?, TreeMap.get?_eq_getElem?]
  cases w.folders[key.1]? <;> simp

theorem mem_filesIn_iff {w : Workspace} {folder : String} {file : SourceFile} :
    file ∈ w.filesIn folder ↔ ∃ name : String, w.stored? (folder, name) = some file := by
  simp only [filesIn, mem_values_iff, stored?, TreeMap.get?_eq_getElem?]

theorem mem_files_iff {w : Workspace} {file : SourceFile} :
    file ∈ w.files ↔ ∃ key, w.stored? key = some file := by
  simp only [files, List.mem_flatMap, mem_values_iff, stored?_eq_some_iff, Prod.exists]
  constructor
  · rintro ⟨folder, ⟨name, isFolder⟩, address, isFile⟩
    exact ⟨name, address, folder, isFolder, isFile⟩
  · rintro ⟨name, address, folder, isFolder, isFile⟩
    exact ⟨folder, ⟨name, isFolder⟩, address, isFile⟩

@[simp] theorem stored?_emit (w : Workspace) (event : WorkspaceEvent) (key : String × String) :
    (w.emit event).stored? key = w.stored? key := rfl

@[simp] theorem find?_emit (w : Workspace) (event : WorkspaceEvent) (uri : Uri) :
    (w.emit event).find? uri = w.find? uri := rfl

theorem stored?_put (w : Workspace) (file : SourceFile) (key : String × String) :
    (w.put file).stored? key = if file.uri.key = key then some file else w.stored? key := by
  obtain ⟨folder, name⟩ := key
  simp only [stored?, put, Uri.key, TreeMap.getD_insert, Std.LawfulEqCmp.compare_eq_iff_eq,
    TreeMap.get?_eq_getElem?, Prod.mk.injEq]
  by_cases sameFolder : file.uri.folder = folder
  · subst sameFolder
    simp [TreeMap.getElem?_insert]
  · simp [sameFolder]

theorem stored?_remove (w : Workspace) (uri : Uri) (key : String × String) :
    (w.remove uri).2.stored? key = if uri.key = key then none else w.stored? key := by
  simp only [remove]
  split
  case isFalse absent =>
    split
    case isTrue same =>
      subst same
      simpa [contains, find?_eq_stored?] using absent
    case isFalse => rfl
  case isTrue =>
    obtain ⟨folder, name⟩ := key
    by_cases sameFolder : uri.folder = folder
    · subst sameFolder
      have rest : ((w.folders.getD uri.folder ∅).erase uri.text)[name]? =
          if uri.text = name then none else (w.folders.getD uri.folder ∅)[name]? := by
        simp only [TreeMap.getElem?_erase, Std.LawfulEqCmp.compare_eq_iff_eq]
      simp only [stored?, Uri.key, emit, TreeMap.get?_eq_getElem?, Prod.mk.injEq, true_and, ← rest]
      split
      case isTrue empty =>
        rw [TreeMap.getD_erase_self]
        have nothing := TreeMap.isEmpty_iff_forall_not_mem.mp empty name
        rw [TreeMap.getElem?_eq_none nothing]
        simp
      case isFalse => rw [TreeMap.getD_insert_self]
    · simp only [stored?, Uri.key, emit, Prod.mk.injEq, sameFolder, false_and, if_false]
      split
      · simp only [TreeMap.getD_erase, Std.LawfulEqCmp.compare_eq_iff_eq, sameFolder, if_false]
      · simp only [TreeMap.getD_insert, Std.LawfulEqCmp.compare_eq_iff_eq, sameFolder, if_false]

/-- Every file lies under its own address, and no folder is empty. -/
structure Orderly (w : Workspace) : Prop where
  keyed : ∀ {key : String × String} {file : SourceFile}, w.stored? key = some file → file.uri.key = key
  inhabited : ∀ {name : String} {folder : Folder}, w.folders[name]? = some folder → folder.isEmpty = false

namespace Orderly

theorem fresh (reader : FileReader) : Orderly { reader } where
  keyed {key file} found := by simp [stored?, TreeMap.get?_eq_getElem?] at found
  inhabited {name folder} found := by simp at found

theorem emit {w : Workspace} (orderly : Orderly w) (event : WorkspaceEvent) : Orderly (w.emit event) :=
  ⟨orderly.keyed, orderly.inhabited⟩

theorem put {w : Workspace} (orderly : Orderly w) (file : SourceFile) : Orderly (w.put file) where
  keyed {key other} found := by
    rw [stored?_put] at found
    split at found
    case isTrue same => cases found; exact same
    case isFalse => exact orderly.keyed found
  inhabited {name folder} found := by
    simp only [Workspace.put, TreeMap.getElem?_insert] at found
    split at found
    · cases found
      exact TreeMap.isEmpty_insert
    · exact orderly.inhabited found

theorem remove {w : Workspace} (orderly : Orderly w) (uri : Uri) : Orderly (w.remove uri).2 where
  keyed {key file} found := by
    rw [stored?_remove] at found
    split at found
    · cases found
    · exact orderly.keyed found
  inhabited {name folder} found := by
    simp only [Workspace.remove] at found
    split at found
    · simp only [Workspace.emit] at found
      split at found
      · rw [TreeMap.getElem?_erase] at found
        split at found
        · cases found
        · exact orderly.inhabited found
      case isFalse left =>
        rw [TreeMap.getElem?_insert] at found
        split at found
        · cases found
          exact Bool.eq_false_iff.mpr left
        · exact orderly.inhabited found
    · exact orderly.inhabited found

theorem find?_key {w : Workspace} (orderly : Orderly w) {uri : Uri} {file : SourceFile}
    (found : w.find? uri = some file) : file.uri.key = uri.key := orderly.keyed found

theorem find?_of_stored? {w : Workspace} (orderly : Orderly w) {key : String × String} {file : SourceFile}
    (found : w.stored? key = some file) : w.find? file.uri = some file := by
  rw [find?_eq_stored?, orderly.keyed found, found]

theorem find?_uri {w : Workspace} (orderly : Orderly w) {uri : Uri} {file : SourceFile}
    (found : w.find? uri = some file) : w.find? file.uri = some file := by
  rw [find?_eq_stored?] at found
  exact orderly.find?_of_stored? found

end Orderly
end Workspace
end PddlAssist
