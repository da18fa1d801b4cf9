import PddlAssist.Uri

namespace PddlAssist.Uri

open Text

def slash : UInt8 := 0x2F

def filePath? (u : Uri) : Option Bytes :=
  if u.hasSegments && u.host?.all (· == .localhost) then some (Percent.decode u.path.toList)
  else none

def pathNames (path : Bytes) : List Bytes :=
  (path.splitOnP (· = slash)).filter fun name => !name.isEmpty && name != Text.encode ['.']

def pathOfNames? (names : List Bytes) : Option String :=
  (decode? (names.flatMap (slash :: ·))).map String.ofList

def localFile? (u : Uri) : Option String :=
  u.filePath?.bind fun path =>
    if path.getLast? == some slash then none else pathOfNames? (pathNames path)

def localFolder? (u : Uri) : Option String :=
  u.filePath?.bind fun path =>
    match pathNames path with
    | [] => none
    | names => (pathOfNames? names.dropLast).map (· ++ "/")

def ofPath (path : String) : Uri :=
  { scheme := "file"
    authority := some {}
    path := String.ofList (Percent.encode Percent.fileNameReserved path.toList) }

end PddlAssist.Uri
