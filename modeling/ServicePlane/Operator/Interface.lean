import ServicePlane.Http.MediaType
import ServicePlane.Http.Percent
import ServicePlane.Http.Router
import ServicePlane.Json.Decode
import ServicePlane.Operator.Summary

/-!
# The operator interface

An operator reads the state of the plane, sets overrides and asks for check cycles. Every request
has to carry the operator's key; without it nothing is told, not even whether a path exists.

A request to set an override can be at fault in several ways. The service in its path is looked at
first, then the type of its content, then the content.
-/

namespace ServicePlane

open Http

namespace Plane

def operatorLog (level : LogLevel) (part message : String) (fields : List (LogField × String)) :
    Notice :=
  .logged ⟨level, "control_plane::admin::" ++ part, message, fields⟩

/-! ## Authentication -/

def isAuthorized (key : String) (request : Request) : Bool :=
  request.headerText? "authorization" == some ("Bearer " ++ key)

/-! ## Handlers -/

def getStatus : Handler Plane :=
  fun _ _ p => (.ofJson p.systemStatus.toJson, p)

def getServices : Handler Plane :=
  fun _ _ p => (.ofJson (.array (p.views.map ServiceView.toJson)), p)

def serviceOfPart? (part : String) : Option Service :=
  (percentDecoded? part).bind Service.ofName?

/-- The status that refuses content. -/
def refusalStatus : ReadError → Nat
  | .faulty _ => 400
  | _ => 422

def hasJsonBody (request : Request) : Bool :=
  (((request.headerText? "content-type").bind MediaType.parse?).map MediaType.isJson).getD false

/-- How many bytes of content are taken at most. -/
def contentLimit : Nat := 2097152

/-- The mode that a request asks for, or the status that refuses the request. -/
def requestedMode (request : Request) : Except Nat OverrideMode :=
  -- Content of another type is not even looked at, and too much of it is not read to the end.
  if !hasJsonBody request then .error 415
  else if contentLimit < request.body.length then .error 413
  else
    match Json.decodeBytes OverrideRequest.ofDocument request.body with
    | .ok r => .ok r.mode
    | .error e => .error (refusalStatus e)

/-- Set the override of a service; tell its view after the change. -/
def putOverride : Handler Plane :=
  fun request texts p =>
    match serviceOfPart? (texts.headD "") with
    | none => (.ofStatus 400, p)
    | some s =>
        match requestedMode request with
        | .error status => (.ofStatus status, p)
        | .ok mode =>
            let (changed, p) := p.setOverride s mode
            let p :=
              if changed then
                p.tell [operatorLog .info "handlers" "Override applied via admin API"
                  [(.service, s.name)]]
              else p
            (.ofJson (p.view s).toJson, p)

/-- Run a check cycle; tell its results. -/
def postCheck : Handler Plane :=
  fun _ _ p =>
    let (results, p) := p.triggerCheck
    (.ofJson (.array (results.map CheckResult.toJson)), p)

def operatorRoutes : Router Plane :=
  let path (parts : List PathPart) := PathPart.exactly "" :: .exactly "admin" :: parts
  [⟨"GET", path [.exactly "status"], getStatus⟩,
    ⟨"GET", path [.exactly "services"], getServices⟩,
    ⟨"PUT", path [.exactly "services", .anything, .exactly "override"], putOverride⟩,
    ⟨"POST", path [.exactly "health", .exactly "check"], postCheck⟩]

def serveOperator (p : Plane) (key : String) (request : Request) : Response × Plane :=
  Router.finish request
    (if isAuthorized key request then operatorRoutes.respond request p
    else
      (.ofStatus 401,
        p.tell [operatorLog .warn "auth" "Rejected unauthenticated admin request" []]))

end Plane

end ServicePlane
