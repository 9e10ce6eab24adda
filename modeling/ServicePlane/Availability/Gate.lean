import ServicePlane.Availability.Registry

/-!
# The availability gate

Requests name the services they depend on. The gate lets a request pass when all of them are
available, and otherwise rejects it with the ones that are not and the time after which a retry
makes sense.
-/

namespace ServicePlane

/-- The rejection of a request: what is not available, and when to retry. -/
structure ServiceUnavailable where
  services : List Service
  retryAfterSeconds : Nat
  deriving DecidableEq, Repr

namespace ServiceUnavailable

def message (u : ServiceUnavailable) : String :=
  let names := ", ".intercalate (u.services.map Service.name)
  s!"service(s) unavailable: {names}; retry after {u.retryAfterSeconds}s"

end ServiceUnavailable

/-- A gate, with the time in milliseconds that it suggests to wait before a retry. -/
structure Gate where
  retryAfter : Nat
  deriving DecidableEq, Repr

namespace Gate

def standard : Gate where
  retryAfter := 30000

/-- The suggested time in whole seconds, and at least one. -/
def retryAfterSeconds (g : Gate) : Nat :=
  max (g.retryAfter / 1000) 1

/-- Let a request pass that depends on these services, or reject it. Every service of the rejection
is counted. -/
def check (g : Gate) (r : AvailabilityRegistry) (required : List Service) :
    Except ServiceUnavailable Unit × Telemetry :=
  match r.unavailable required with
  | [] => (.ok (), [])
  | s :: rest =>
      let missing := s :: rest
      (.error ⟨missing, g.retryAfterSeconds⟩,
        missing.map (fun s => .measured (.count (.gateRejections s))) ++
          [.logged ⟨.debug, "control_plane::availability::gate",
            "Request rejected by availability gate", []⟩])

end Gate

end ServicePlane
