import PddlAssist.HostName
import PddlAssist.Text.Case
import PddlAssist.Uri.Address
import PddlAssist.Uri.Percent

namespace PddlAssist

inductive UriError where
  | noScheme
  | emptyHost
  | badName
  | badNameCharacter
  | badPort
  | badIpv4
  | badIpv6
  deriving DecidableEq, Repr, Inhabited

namespace UriError

def label : UriError → String
  | noScheme => "RelativeUrlWithoutBase"
  | emptyHost => "EmptyHost"
  | badName => "IdnaError"
  | badNameCharacter => "InvalidDomainCharacter"
  | badPort => "InvalidPort"
  | badIpv4 => "InvalidIpv4Address"
  | badIpv6 => "InvalidIpv6Address"

def message : UriError → String
  | noScheme => "relative URL without a base"
  | emptyHost => "empty host"
  | badName => "invalid international domain name"
  | badNameCharacter => "invalid domain character"
  | badPort => "invalid port number"
  | badIpv4 => "invalid IPv4 address"
  | badIpv6 => "invalid IPv6 address"

end UriError

namespace Uri

inductive Host where
  | name (text : String)
  | ipv4 (address : Ipv4)
  | ipv6 (address : Ipv6)
  deriving DecidableEq, Repr, Inhabited

namespace Host

def text : Host → String
  | name text => text
  | ipv4 address => String.ofList address.text
  | ipv6 address => "[" ++ String.ofList address.text ++ "]"

def localhost : Host := .name "localhost"

def bracketed (cs : List Char) : Except UriError Host :=
  if cs.getLast? == some ']' then
    (Ipv6.ofText? cs.dropLast).elim (.error .badIpv6) (.ok <| .ipv6 ·)
  else .error .badIpv6

def ofWeb (cs : List Char) : Except UriError Host :=
  match cs with
  | '[' :: rest => bracketed rest
  | _ =>
    match HostName.toAscii? (Percent.decode cs) with
    | none => .error .badName
    | some [] => .error .emptyHost
    | some known =>
      if Ipv4.isMeant known then (Ipv4.ofText? known).elim (.error .badIpv4) (.ok <| .ipv4 ·)
      else .ok (.name (String.ofList known))

def refused : List Char :=
  ['\x00', '\t', '\n', '\r', ' ', '#', '/', ':', '<', '>', '?', '@', '[', '\\', ']', '^', '|']

def ofOther (cs : List Char) : Except UriError (Option Host) :=
  match cs with
  | [] => .ok none
  | '[' :: rest => (bracketed rest).map some
  | _ =>
    if cs.any refused.contains then .error .badNameCharacter
    else .ok (some (.name (String.ofList (Percent.encode [] cs))))

end Host

structure Authority where
  user : String := ""
  host : Option Host := none
  port : Option Nat := none
  deriving DecidableEq, Repr, Inhabited

namespace Authority

def text (a : Authority) : String :=
  (if a.user.isEmpty then "" else a.user ++ "@") ++ a.host.elim "" Host.text ++
    a.port.elim "" fun n => ":" ++ toString n

def userText (cs : List Char) : String :=
  let name := cs.takeWhile (· != ':')
  let password := (cs.drop name.length).drop 1
  let coded (part : List Char) : List Char := Percent.encode Percent.userReserved part
  String.ofList (coded name ++ if password.isEmpty then [] else ':' :: coded password)

def splitUser (cs : List Char) : Option (List Char) × List Char :=
  if cs.contains '@' then
    let rest := (cs.reverse.takeWhile (· != '@')).reverse
    (some (cs.take (cs.length - rest.length - 1)), rest)
  else (none, cs)

/-- The host and what follows it; a colon inside square brackets does not end the host. -/
def splitHost (inside : Bool) : List Char → List Char × List Char
  | [] => ([], [])
  | c :: rest =>
    if c = ':' && !inside then ([], c :: rest)
    else
      let inside := if c = '[' then true else if c = ']' then false else inside
      let (host, after) := splitHost inside rest
      (c :: host, after)

def readPort (implied : Option Nat) (cs : List Char) : Except UriError (Option Nat × List Char) :=
  match cs with
  | ':' :: digits =>
    let number := digits.takeWhile Char.isDigit
    let rest := digits.drop number.length
    let n := Decimal.digitsValue number
    if 65535 < n || !(rest.isEmpty || rest.head? == some '\\') then .error .badPort
    else .ok (if number.isEmpty || implied == some n then none else some n, rest)
  | _ => .ok (none, cs)

/-- Reads an authority. The host of a web address may not be missing. `isFollowed` says whether the
address goes on after it. Text behind the port is left over. -/
def read (isWeb : Bool) (implied : Option Nat) (isFollowed : Bool) (cs : List Char) :
    Except UriError (Authority × List Char) := do
  let (user, rest) := splitUser cs
  if user == some [] && rest.isEmpty && isFollowed then throw .emptyHost
  let (hostText, after) := splitHost false rest
  let host ←
    if isWeb then if hostText.isEmpty then throw .emptyHost else (Host.ofWeb hostText).map some
    else Host.ofOther hostText
  if host.isNone && !after.isEmpty then throw .emptyHost
  let (port, left) ← readPort implied after
  let user := user.elim "" userText
  if host.isNone && !user.isEmpty then throw .emptyHost
  return ({ user, host, port }, left)

end Authority
end Uri
end PddlAssist
