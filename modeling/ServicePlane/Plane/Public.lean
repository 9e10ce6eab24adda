import ServicePlane.Http.Router
import ServicePlane.Plane.Control

/-!
# The interface for everybody

Two probes, and a guard for other interfaces. Liveness says that the process runs. Readiness depends
on services, and is refused while one of them is not available. A guarded interface refuses every
request, whatever its path, while a service that it depends on is not available.
-/

namespace ServicePlane

open Http

def ServiceUnavailable.response (u : ServiceUnavailable) : Response where
  status := 503
  retryAfter := some (toString u.retryAfterSeconds)
  body := .json (.object
    [("unavailableServices", .array (u.services.map fun s => .text s.name)),
      ("retryAfterSeconds", .nat u.retryAfterSeconds)])

namespace Plane

def probeStatus (status : String) : Response :=
  .ofJson (.object [("status", .text status)])

def live : Handler Plane :=
  fun _ _ p => (probeStatus "alive", p)

/-- Say whether the services are available on which readiness depends. -/
def ready (gate : Gate) (services : List Service) : Handler Plane :=
  fun _ _ p =>
    match p.checkGate gate services with
    | (.ok (), p) => (probeStatus "ready", p)
    | (.error u, p) => (u.response, p)

def publicRoutes (gate : Gate) (services : List Service) : Router Plane :=
  [⟨"GET", [.exactly "", .exactly "health", .exactly "live"], live⟩,
    ⟨"GET", [.exactly "", .exactly "health", .exactly "ready"], ready gate services⟩]

def servePublic (p : Plane) (gate : Gate) (services : List Service) (request : Request) :
    Response × Plane :=
  Router.finish request ((publicRoutes gate services).respond request p)

/-- Answer a request by routes that depend on services. -/
def serveGuarded (p : Plane) (gate : Gate) (services : List Service) (routes : Router Plane)
    (request : Request) : Response × Plane :=
  Router.finish request
    (match p.checkGate gate services with
      | (.ok (), p) => routes.respond request p
      | (.error u, p) => (u.response, p))

end Plane

end ServicePlane
