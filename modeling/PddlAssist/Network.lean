import PddlAssist.Json
import PddlAssist.Uri

namespace PddlAssist

inductive Method where
  | get
  | post
  deriving DecidableEq, Repr, Inhabited

structure Request where
  method : Method
  url : String
  body : Option Json := none
  seconds : Nat := 60
  deriving Repr, Inhabited

inductive Reply where
  | response (status : Nat) (body : String)
  | failure (reason : String)
  deriving DecidableEq, Repr, Inhabited

namespace Reply

def unreachable : Reply :=
  .failure "Connection Failed: Connect error: Network is unreachable (os error 101)"

def unresolved (name : String) (port : Nat) : Reply :=
  .failure ("Dns Failed: resolve dns name '" ++ name ++ ":" ++ toString port ++
    "': failed to lookup address information: Temporary failure in name resolution")

def late : Reply := .failure "Network Error: timed out reading response"

def unknownScheme (scheme : String) : Reply :=
  .failure ("Unknown Scheme: unknown scheme '" ++ scheme ++ "'")

def isResponse : Reply → Bool
  | response .. => true
  | failure _ => false

def body (url : String) : Reply → Except String String
  | response status body =>
    if 400 ≤ status then .error (url ++ ": status code " ++ toString status) else .ok body
  | failure reason => .error (url ++ ": " ++ reason)

end Reply

/-- What a service answers is not known here: a network says what comes back for each request. -/
structure Network where
  answer : Nat → Uri → Request → Reply
  exchanges : List (Request × Reply) := []

namespace Network

/-- Only the machine itself is known, and not even that can be reached. -/
def offline : Network where
  answer := fun _ uri request =>
    let near := if request.seconds = 0 then .late else .unreachable
    match uri.host? with
    | some (.name name) =>
      if uri.host? = some .localhost then near else .unresolved name (uri.port?.getD 0)
    | _ => near

def received (n : Network) : List Request :=
  (n.exchanges.filter (·.2.isResponse)).map (·.1)

def target (request : Request) : Except UriError Uri := do
  let uri ← Uri.parse request.url
  if uri.host?.isNone then throw .emptyHost
  return uri

def endOfTime : Nat := Nat.pow 2 63 - 1

def schemes : List String := ["http", "https"]

def send (n : Network) (request : Request) : Except String String × Network :=
  match target request with
  | .error e => (.error ("Bad URL: failed to parse URL: " ++ e.label ++ ": " ++ e.message), n)
  | .ok uri =>
    if endOfTime ≤ request.seconds then (.error "Network Error: Request deadline overflowed", n)
    else
      let reply :=
        if schemes.contains uri.scheme then n.answer n.exchanges.length uri request
        else .unknownScheme uri.scheme
      (reply.body uri.text, { n with exchanges := n.exchanges ++ [(request, reply)] })

end Network
end PddlAssist
