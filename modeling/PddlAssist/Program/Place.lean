import PddlAssist.Program

namespace PddlAssist

open Text

/-- Files by path. A path that does not begin with a slash starts in the folder of the command. -/
abbrev Files := List (String × Bytes)

inductive Place where
  | folder
  | file (bytes : Bytes)
  deriving DecidableEq, Repr, Inhabited

namespace Place

def systemFolders : List String :=
  ["", "/", "/bin", "/boot", "/dev", "/etc", "/home", "/lib", "/lib64", "/media", "/mnt", "/opt",
   "/proc", "/root", "/run", "/sbin", "/srv", "/sys", "/tmp", "/usr", "/usr/bin", "/usr/lib",
   "/usr/local", "/usr/local/bin", "/usr/sbin", "/usr/share", "/var", "/var/log", "/var/tmp"]

/-- Files that every machine has and that are no programs. Nothing is known of their contents. -/
def systemFiles : List String :=
  ["/dev/null", "/etc/group", "/etc/hostname", "/etc/hosts", "/etc/os-release", "/etc/passwd",
   "/etc/resolv.conf", "/etc/shadow"]

def maxNameLength : Nat := 255

def isTooLong (name : String) : Bool := maxNameLength < name.utf8ByteSize

def pathOf (root : String) (names : List String) : String := root ++ "/".intercalate names

def fileAt? (files : Files) (path : String) : Option Bytes :=
  (files.lookup path).or (if systemFiles.contains path then some [] else none)

def isFolder (files : Files) (path : String) : Bool :=
  systemFolders.contains path || files.any fun (other, _) =>
    (path ++ "/").toList.isPrefixOf other.toList

def walk (files : Files) (root : String) (done : List String) :
    List String → Except PathError Place
  | [] => .ok .folder
  | name :: rest =>
    if name = "" || name = "." then walk files root done rest
    else if name = ".." then walk files root done.dropLast rest
    else if isTooLong name then .error .nameTooLong
    else
      let path := pathOf root (done ++ [name])
      match fileAt? files path with
      | some bytes => if rest.isEmpty then .ok (.file bytes) else .error .notFolder
      | none =>
        if isFolder files path then walk files root (done ++ [name]) rest else .error .missing

def find (files : Files) (path : String) : Except PathError Place :=
  match path.toList with
  | [] => .error .missing
  | '/' :: rest => walk files "/" [] ((String.ofList rest).splitOn "/")
  | _ => walk files "" [] (path.splitOn "/")

def read (files : Files) (path : String) : Except PathError Bytes :=
  match find files path with
  | .ok (.file bytes) => .ok bytes
  | .ok .folder => .error .isFolder
  | .error e => .error e

end Place
end PddlAssist
