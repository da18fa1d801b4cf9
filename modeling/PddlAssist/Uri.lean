import PddlAssist.Uri.Host

namespace PddlAssist

open Text

structure Uri where
  scheme : String
  authority : Option Uri.Authority
  path : String
  query : Option String := none
  fragment : Option String := none
  deriving DecidableEq, Repr, Inhabited

namespace Uri

/-- A path that begins with two slashes is kept apart from an authority by a dot. -/
def text (u : Uri) : String :=
  let beforePath :=
    match u.authority with
    | some a => "//" ++ a.text
    | none => if ['/', '/'].isPrefixOf u.path.toList then "/." else ""
  u.scheme ++ ":" ++ beforePath ++ u.path ++ u.query.elim "" ("?" ++ ·) ++
    u.fragment.elim "" ("#" ++ ·)

def impliedPorts : List (String × Option Nat) :=
  [("file", none), ("http", some 80), ("https", some 443), ("ws", some 80), ("wss", some 443),
   ("ftp", some 21)]

def isSpecial (scheme : String) : Bool := (impliedPorts.lookup scheme).isSome

def isSchemeChar (c : Char) : Bool := c.isAlphanum || c == '+' || c == '-' || c == '.'

def splitScheme? (cs : List Char) : Option (String × List Char) :=
  let scheme := cs.takeWhile isSchemeChar
  match scheme, cs.drop scheme.length with
  | c :: _, ':' :: rest => if c.isAlpha then some (lower (String.ofList scheme), rest) else none
  | _, _ => none

def splitAtChar (stop : Char → Bool) (cs : List Char) : List Char × List Char :=
  (cs.takeWhile (!stop ·), cs.dropWhile (!stop ·))

def splitPath (isSlash : Char → Bool) : List Char → List (List Char)
  | [] => [[]]
  | c :: cs =>
    if isSlash c then [] :: splitPath isSlash cs
    else
      match splitPath isSlash cs with
      | [] => [[c]]
      | s :: rest => (c :: s) :: rest

def singleDots : List String := [".", "%2e"]

def doubleDots : List String := ["..", ".%2e", "%2e.", "%2e%2e"]

def isDrive : List Char → Bool
  | [letter, c] => letter.isAlpha && (c == ':' || c == '|')
  | _ => false

def driveName (segment : List Char) : List Char := segment.take 1 ++ [':']

/-- Follows the segments of a path; `done` are those that stay, last first. A dot or two at the end of
the path leave an empty segment behind, and two dots do not lead out of a drive. If `drives` holds, a
first segment that names a drive is written with a colon. -/
def resolve (drives : Bool) (done : List (List Char)) : List (List Char) → List (List Char)
  | [] => done.reverse
  | segment :: rest =>
    let word := lower (String.ofList segment)
    if doubleDots.contains word then
      let left := if done.head?.any isDrive then done else done.tail
      if rest.isEmpty then ([] :: left).reverse else resolve drives left rest
    else if singleDots.contains word then
      if rest.isEmpty then ([] :: done).reverse else resolve drives done rest
    else if drives && done.isEmpty && isDrive segment then resolve drives [driveName segment] rest
    else resolve drives (Percent.encode Percent.pathReserved segment :: done) rest

def joinPath (segments : List (List Char)) : List Char := segments.flatMap ('/' :: ·)

def isAnySlash (c : Char) : Bool := c == '/' || c == '\\'

def segments (isSlash : Char → Bool) (drives : Bool) (cs : List Char) : List (List Char) :=
  let inner := if cs.head?.any isSlash then cs.drop 1 else cs
  resolve drives [] (splitPath isSlash inner)

def filePath (segments : List (List Char)) : String :=
  String.ofList ('/' :: (joinPath segments).dropWhile (· == '/'))

/-- What follows `file:`. A drive takes the place of a host. -/
def readFile (cs : List Char) : Except UriError (Authority × String) :=
  match cs with
  | a :: b :: rest =>
    if isAnySlash a && isAnySlash b then do
      let (hostText, path) := splitAtChar isAnySlash rest
      if isDrive hostText then return ({}, filePath (segments isAnySlash true rest))
      let host ← if hostText.isEmpty then pure none else (Host.ofWeb hostText).map some
      if host.all (· == .localhost) then
        return ({}, filePath (segments isAnySlash false path))
      let found := segments isAnySlash true path
      return ({ host := if found.head?.any isDrive then none else host }, filePath found)
    else .ok ({}, filePath (segments isAnySlash true cs))
  | _ => .ok ({}, filePath (segments isAnySlash true cs))

def readWeb (scheme : String) (isFollowed : Bool) (cs : List Char) :
    Except UriError (Authority × String) := do
  let (authorityText, path) := splitAtChar isAnySlash (cs.dropWhile isAnySlash)
  let implied := (impliedPorts.lookup scheme).getD none
  let (authority, _) ← Authority.read true implied (isFollowed || !path.isEmpty) authorityText
  return (authority, String.ofList (joinPath (segments isAnySlash false path)))

/-- Any other address. It may have no authority, and its path may be no path of segments. -/
def readOther (isFollowed : Bool) (cs : List Char) :
    Except UriError (Option Authority × String) := do
  let isSlash (c : Char) : Bool := c == '/'
  let pathText (path : List Char) : String :=
    String.ofList (joinPath (segments isSlash false path))
  match cs with
  | '/' :: '/' :: rest =>
    let (authorityText, path) := splitAtChar isSlash rest
    let (authority, left) ←
      Authority.read false none (isFollowed || !path.isEmpty) authorityText
    let path := left ++ path
    return (some authority, if path.isEmpty then "" else pathText path)
  | '/' :: _ => return (none, pathText cs)
  | _ => return (none, String.ofList (Percent.encode [] cs))

def strip (cs : List Char) : List Char :=
  let isPadding (c : Char) : Bool := c.toNat ≤ 0x20
  let inner := ((cs.dropWhile isPadding).reverse.dropWhile isPadding).reverse
  inner.filter fun c => c != '\t' && c != '\n' && c != '\r'

def isPathEnd (c : Char) : Bool := c == '?' || c == '#'

def readTail (special : Bool) (cs : List Char) : Option String × Option String :=
  let reserved := Percent.queryReserved ++ if special then ['\''] else []
  let query (q : List Char) : String := String.ofList (Percent.encode reserved q)
  let fragment (f : List Char) : String := String.ofList (Percent.encode Percent.fragmentReserved f)
  match cs with
  | '?' :: rest =>
    match splitAtChar (· == '#') rest with
    | (q, '#' :: f) => (some (query q), some (fragment f))
    | (q, _) => (some (query q), none)
  | '#' :: f => (none, some (fragment f))
  | _ => (none, none)

def parse (s : String) : Except UriError Uri :=
  match splitScheme? (strip s.toList) with
  | none => .error .noScheme
  | some (scheme, rest) => do
    let (main, tail) := splitAtChar isPathEnd rest
    let (query, fragment) := readTail (isSpecial scheme) tail
    let isFollowed := !tail.isEmpty
    let (authority, path) ←
      if scheme = "file" then do
        let (authority, path) ← readFile main
        pure (some authority, path)
      else if isSpecial scheme then do
        let (authority, path) ← readWeb scheme isFollowed main
        pure (some authority, path)
      else readOther isFollowed main
    return { scheme, authority, path, query, fragment }

def parse? (s : String) : Option Uri := (parse s).toOption

def host? (u : Uri) : Option Host := u.authority.bind Authority.host

def port? (u : Uri) : Option Nat :=
  (u.authority.bind Authority.port).or ((impliedPorts.lookup u.scheme).getD none)

def hasSegments (u : Uri) : Bool := u.path.toList.head? == some '/'

def fileName (u : Uri) : String :=
  String.ofList (u.path.toList.reverse.takeWhile (· != '/')).reverse

def folderPath (u : Uri) : String :=
  if u.scheme = "file" && isDrive u.fileName.toList && u.fileName.toList.getLast? == some ':' then
    u.path ++ "/"
  else if u.path.isEmpty then "/"
  else String.ofList (u.path.toList.reverse.dropWhile (· != '/')).reverse

/-- The address of the folder that holds the file; an address that is no path is its own folder. -/
def folder (u : Uri) : String :=
  if u.hasSegments || u.authority.isSome then
    { u with path := u.folderPath, query := none, fragment := none : Uri }.text
  else u.text

def before (a b : Uri) : Bool := a.text < b.text

end Uri
end PddlAssist
