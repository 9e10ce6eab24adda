import ServicePlane.Net.SocketAddress

/-!
# The network around the plane

What is at the addresses, and what connecting to one or listening on one comes to. A host may have
no route at all: then it reaches nothing, itself included, while listening works as ever.

Two things are for the system to decide, and a `Network` has them as parts of it: which addresses a
host name has (`Network.lookup`), and whether a listener gets the address that it asks for
(`Network.bind`). `Network.empty` is the network of a host that knows no names and lets everybody
have its own addresses.
-/

namespace ServicePlane

/-- What is at an address. -/
inductive EndpointState where
  /-- Somebody listens and accepts connections. -/
  | accepting
  /-- Nobody listens; connections are refused. -/
  | refusing
  /-- Somebody listens and never answers. -/
  | silent
  deriving DecidableEq, Repr

/-- The addresses at which something is, each with what is there. -/
abbrev Endpoints := List (SocketAddress × EndpointState)

namespace Endpoints

/-- What is at an address; where nothing is known to be, connections are refused. -/
def stateAt (es : Endpoints) (a : SocketAddress) : EndpointState :=
  ((es.find? fun e => e.1 == a).map (·.2)).getD .refusing

def remove (es : Endpoints) (a : SocketAddress) : Endpoints :=
  es.filter fun e => e.1 != a

def put (es : Endpoints) (a : SocketAddress) (state : EndpointState) : Endpoints :=
  (a, state) :: es.remove a

/-- Whether a listener at this address would meet another one. -/
def isTaken (es : Endpoints) (a : SocketAddress) : Bool :=
  es.any fun e => e.1.conflicts a && e.2 != .refusing

end Endpoints

/-- Why an address cannot be used. -/
inductive NetworkError where
  | noPort
  | badPort
  | unknownHost
  /-- The host is known, but has no address. -/
  | noAddress
  | unreachable
  | refused
  | addressInUse
  | addressNotAvailable
  /-- Anything else that the system reports, with its wording and its structural description. -/
  | other (text description : String)
  deriving DecidableEq, Repr

namespace NetworkError

def message : NetworkError → String
  | noPort => "invalid socket address"
  | badPort => "invalid port value"
  | unknownHost => "failed to lookup address information: Name or service not known"
  | noAddress => "could not resolve to any address"
  | unreachable => "Network is unreachable (os error 101)"
  | refused => "Connection refused (os error 111)"
  | addressInUse => "Address already in use (os error 98)"
  | addressNotAvailable => "Cannot assign requested address (os error 99)"
  | other text _ => text

/-- The structural description of an error. -/
def describe : NetworkError → String
  | noPort => "Error \x7b kind: InvalidInput, message: \"invalid socket address\" \x7d"
  | badPort => "Error \x7b kind: InvalidInput, message: \"invalid port value\" \x7d"
  | unknownHost =>
      "Custom \x7b kind: Uncategorized, error: \"failed to lookup address information: " ++
        "Name or service not known\" \x7d"
  | noAddress => "Custom \x7b kind: InvalidInput, error: \"could not resolve to any address\" \x7d"
  | unreachable =>
      "Os \x7b code: 101, kind: NetworkUnreachable, message: \"Network is unreachable\" \x7d"
  | refused =>
      "Os \x7b code: 111, kind: ConnectionRefused, message: \"Connection refused\" \x7d"
  | addressInUse => "Os \x7b code: 98, kind: AddrInUse, message: \"Address already in use\" \x7d"
  | addressNotAvailable =>
      "Os \x7b code: 99, kind: AddrNotAvailable, " ++
        "message: \"Cannot assign requested address\" \x7d"
  | other _ description => description

end NetworkError

/-- The network of a host: what is at the addresses, and what the system decides. -/
structure Network where
  endpoints : Endpoints
  /-- Whether the host has a route to any address. -/
  routed : Bool
  /-- The addresses of a host name with a port, in the order in which they are to be tried, or why
  there are none. -/
  lookup : (host : String) → (port : Nat) → Except NetworkError (List SocketAddress)
  /-- The address that a listener gets that asks for this one, or why it gets none. Where it asks
  for no particular port, the system finds one. -/
  bind : Endpoints → SocketAddress → Except NetworkError SocketAddress

/-- What an attempt to connect comes to. -/
inductive Connection where
  | established (peer : SocketAddress)
  | failed (error : NetworkError)
  /-- No answer ever comes. -/
  | unanswered
  deriving DecidableEq, Repr

def Connection.isEstablished : Connection → Bool
  | established _ => true
  | _ => false

namespace Network

/-! ## A host by itself -/

/-- The ports that the system finds for listeners that ask for none. -/
def ownPorts : List Nat :=
  List.range' 32768 28232

/-- A listener gets every address of the host that nobody else has. -/
def bindOwn (es : Endpoints) (a : SocketAddress) : Except NetworkError SocketAddress :=
  if !a.isLocal then .error .addressNotAvailable
  else if a.port = 0 then
    match ownPorts.find? fun port => !es.isTaken (a.withPort port) with
    | some port => .ok (a.withPort port)
    | none => .error .addressInUse
  else if es.isTaken a then .error .addressInUse
  else .ok a

/-- A network without endpoints, of a host that knows no other host. -/
def empty : Network where
  endpoints := []
  routed := true
  lookup := fun _ _ => .error .unknownHost
  bind := bindOwn

/-! ## Names -/

/-- The number of a port as a text; a plus sign may lead. -/
def port? (text : List Char) : Option Nat :=
  let digits := match text with
    | '+' :: rest => rest
    | _ => text
  match SocketAddress.readNumber 10 none true 65535 digits with
  | some (port, []) => some port
  | _ => none

/-- The addresses a text stands for: an address stands for itself, and of a host and a port the
system knows the addresses. -/
def resolve (n : Network) (text : String) : Except NetworkError (List SocketAddress) :=
  match SocketAddress.parse? text with
  | some a => .ok [a]
  | none =>
      -- The port stands behind the last colon; it is looked at before the host.
      let reversed := text.toList.reverse
      match reversed.dropWhile (· ≠ ':') with
      | [] => .error .noPort
      | _ :: host =>
          match port? (reversed.takeWhile (· ≠ ':')).reverse with
          | some port => n.lookup (String.ofList host.reverse) port
          | none => .error .badPort

/-! ## Endpoints -/

/-- Put something at an address. A silent endpoint is one whose waiting connections fill its queue;
making it takes connections, and those take a route. -/
def occupy (n : Network) (a : SocketAddress) (state : EndpointState) :
    Except NetworkError Network :=
  if state = .silent && !n.routed then .error .unreachable
  else .ok { n with endpoints := n.endpoints.put a state }

/-- Connect to an address. -/
def connectTo (n : Network) (a : SocketAddress) : Connection :=
  if n.routed then
    match n.endpoints.stateAt a with
    | .accepting => .established a
    | .refusing => .failed .refused
    | .silent => .unanswered
  else
    .failed .unreachable

/-- Connect to the first of some addresses that lets one. Behind an address that gives no answer
none is tried, and when all fail, the last one tells why. -/
def connectFirst (n : Network) : List SocketAddress → Connection
  | [] => .failed .noAddress
  | [a] => n.connectTo a
  | a :: rest =>
      match n.connectTo a with
      | .failed _ => n.connectFirst rest
      | outcome => outcome

/-- Connect to what a text stands for. -/
def connect (n : Network) (text : String) : Connection :=
  match n.resolve text with
  | .error e => .failed e
  | .ok addresses => n.connectFirst addresses

/-- Listen at an address: the address that the listener got, and the network with the listener.
Listening takes no route, so it does not matter whether the host has one. -/
def listenAt (n : Network) (a : SocketAddress) : Except NetworkError (SocketAddress × Network) :=
  (n.bind n.endpoints a).map fun own =>
    (own, { n with endpoints := n.endpoints.put own .accepting })

/-- Listen at the first of some addresses that lets one. When all fail, the last one tells why. -/
def listenFirst (n : Network) : List SocketAddress → Except NetworkError (SocketAddress × Network)
  | [] => .error .noAddress
  | [a] => n.listenAt a
  | a :: rest =>
      match n.listenAt a with
      | .error _ => n.listenFirst rest
      | .ok listener => .ok listener

/-- Listen at what a text stands for. -/
def listen (n : Network) (text : String) : Except NetworkError (SocketAddress × Network) :=
  match n.resolve text with
  | .error e => .error e
  | .ok addresses => n.listenFirst addresses

/-- End the listening at an address. -/
def close (n : Network) (a : SocketAddress) : Network :=
  { n with endpoints := n.endpoints.remove a }

end Network

end ServicePlane
