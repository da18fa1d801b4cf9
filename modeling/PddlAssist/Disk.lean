import PddlAssist.SourceFile

namespace PddlAssist

open Text

structure Disk where
  files : List (String × Bytes) := []
  deriving Repr, Inhabited

namespace Disk

def read? (d : Disk) (path : String) : Option (List Char) := (d.files.lookup path).bind decode?

def write (d : Disk) (path : String) (bytes : Bytes) : Disk :=
  ⟨(d.files.filter (·.1 != path)) ++ [(path, bytes)]⟩

def delete (d : Disk) (path : String) : Disk := ⟨d.files.filter (·.1 != path)⟩

/-- The name of a file directly inside a folder; the folder is empty or ends in a slash. -/
def nameIn? (folder path : String) : Option String :=
  if folder.toList.isPrefixOf path.toList then
    let name := path.toList.drop folder.toList.length
    if name.isEmpty || name.contains '/' then none else some (String.ofList name)
  else none

def scan (d : Disk) (folder : String) : List String :=
  let names := (d.files.filterMap fun (path, _) => nameIn? folder path).mergeSort (· ≤ ·)
  names.filterMap fun name =>
    if FileFormat.isSupported (Uri.ofPath ("/" ++ name)) then some (folder ++ name) else none

end Disk
end PddlAssist
