import ServicePlane.CommandLine.Arguments
import ServicePlane.Http.Message
import ServicePlane.Http.Url
import ServicePlane.Json.Printer
import ServicePlane.Text.Quoted

/-!
# The operator's program

The program turns a command into one request to the operator interface and shows the answer. It
succeeds only when the answer does.

* `OperatorCall.parse` — the call that arguments ask for;
* `OperatorCall.request` — the address and the request of a call;
* `OperatorCall.conclude` — what the program makes of the answer;
* `OperatorCall.operate` — a whole run, with whoever answers the request.
-/

namespace ServicePlane

open Http

/-- What an operator asks for. -/
inductive OperatorCommand where
  /-- The summary of the plane. -/
  | status
  /-- The views of all services. -/
  | services
  /-- Set the override of a service. The words are sent as they are. -/
  | setOverride (service mode : String)
  /-- A check cycle. -/
  | check
  deriving DecidableEq, Repr

/-- A command with the address of the plane and the operator's key. -/
structure OperatorCall where
  url : String
  key : String
  command : OperatorCommand
  deriving DecidableEq, Repr

/-- Why the program fails. -/
inductive OperatorError where
  /-- The key cannot stand in a header. -/
  | unusableKey
  /-- The address is none, or the request was not answered, or the answer is no value. -/
  | noAnswer
  /-- The request was refused with this status. -/
  | refused (status : Nat)
  deriving DecidableEq, Repr

/-- What a run of the program comes to. -/
inductive OperatorOutcome where
  /-- The arguments make no call. -/
  | stopped (reason : ArgumentStop)
  | failed (error : OperatorError)
  /-- The call is done, and this is shown. -/
  | done (shown : Json)
  deriving Repr

namespace OperatorOutcome

def exitCode : OperatorOutcome → UInt8
  | stopped reason => reason.exitCode
  | failed _ => 1
  | done _ => 0

end OperatorOutcome

def statusName : Nat → String
  | 400 => "Bad Request"
  | 401 => "Unauthorized"
  | 404 => "Not Found"
  | 405 => "Method Not Allowed"
  | 415 => "Unsupported Media Type"
  | 422 => "Unprocessable Entity"
  | 503 => "Service Unavailable"
  | _ => "Unknown"

namespace OperatorError

/-- The structural description of an error, where the program itself words it. -/
def describe? : OperatorError → Option String
  | unusableKey => some "InvalidHeaderValue"
  | noAnswer => none
  | refused status =>
      some (Text.quoted s!"admin API returned status {status} {statusName status}")

end OperatorError

namespace OperatorCall

/-! ## Arguments -/

def options : List OptionSpec :=
  [⟨'u', "url", true⟩, ⟨'k', "key", true⟩]

/-- The address that is used unless another one is given. -/
def standardUrl : String := "http://localhost:8081"

/-- The key that is used unless another one is given. -/
def standardKey : String := "CHANGE_ME_IN_PRODUCTION"

/-- The names of the commands, each with the number of its arguments. -/
def commands : List (String × Nat) :=
  [("status", 0), ("services", 0), ("override", 2), ("check", 0)]

/-- Why a request for help about a command is not run. -/
def helpAbout : List String → ArgumentStop
  | [] => .help
  | [name] =>
      if name = "help" || commands.any fun c => c.1 == name then .help else .misuse
  | _ => .misuse

def commandOf (name : String) (words : List String) : Except ArgumentStop OperatorCommand := do
  let most ←
    match commands.lookup name with
    | some n => Except.ok n
    | none => .error .misuse
  let given ← Arguments.readPlain most words
  match name, given with
  | "status", [] => return .status
  | "services", [] => return .services
  | "override", [service, mode] => return .setOverride service mode
  | "check", [] => return .check
  | _, _ => throw .misuse

/-- The call that arguments ask for. -/
def parse (arguments : List String) : Except ArgumentStop OperatorCall := do
  let given ← Arguments.read options [] arguments
  match given.rest with
  | name :: words =>
      -- Behind two hyphens nothing is a command.
      if given.escaped then throw .misuse
      if name = "help" then throw (helpAbout words)
      return {
        url := (given.values.lookup "url").getD standardUrl
        key := (given.values.lookup "key").getD standardKey
        command := ← commandOf name words }
  | [] => throw .misuse

/-! ## The request -/

/-- Whether a key can stand in a header. -/
def isUsableKey (key : String) : Bool :=
  key.toList.all fun c => c = '\t' || (0x20 ≤ c.toNat && c.toNat ≠ 0x7F)

/-- The path of a command, from behind the address of the plane. -/
def path : OperatorCommand → String
  | .status => "/admin/status"
  | .services => "/admin/services"
  | .setOverride service _ => s!"/admin/services/{service}/override"
  | .check => "/admin/health/check"

def method : OperatorCommand → String
  | .status => "GET"
  | .services => "GET"
  | .setOverride _ _ => "PUT"
  | .check => "POST"

/-- The content that a command sends, if it sends any. -/
def content? : OperatorCommand → Option Json
  | .setOverride _ mode => some (.object [("mode", .text mode)])
  | _ => none

/-- The address to connect to, and the request. -/
def request (call : OperatorCall) : Except OperatorError (String × Request) :=
  if !isUsableKey call.key then .error .unusableKey
  else
    match Url.parse? (call.url ++ path call.command) with
    | none => .error .noAnswer
    | some u =>
        -- The plane does not speak the secure protocol.
        if u.secure then .error .noAnswer
        else
          let content := content? call.command
          let headers := [("authorization", "Bearer " ++ call.key)] ++
            (content.map fun _ => ("content-type", "application/json")).toList
          .ok (u.address,
            { method := method call.command
              target := u.target
              headers := headers.map fun h => (h.1, Text.bytes h.2)
              body := (content.map fun v => Text.bytes v.render).getD [] })

/-- What the program makes of an answer: the value that it shows, or the error. -/
def conclude : Option Response → Except OperatorError Json
  | none => .error .noAnswer
  | some r =>
      if !r.isSuccess then .error (.refused r.status)
      else
        match r.body with
        | .json v => .ok v
        | _ => .error .noAnswer

/-! ## The run -/

/-- A run with these arguments. A request goes to whoever is at an address, and what that is may
change by it. -/
def operate {σ : Type} (answer : String → Request → σ → Option Response × σ)
    (arguments : List String) (w : σ) : OperatorOutcome × σ :=
  match parse arguments with
  | .error reason => (.stopped reason, w)
  | .ok call =>
      match call.request with
      | .error e => (.failed e, w)
      | .ok (address, request) =>
          let (response, w) := answer address request w
          match conclude response with
          | .error e => (.failed e, w)
          | .ok v => (.done v, w)

end OperatorCall

end ServicePlane
