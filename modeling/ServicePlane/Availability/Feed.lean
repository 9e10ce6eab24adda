import ServicePlane.Service

/-!
# The feed of availability changes

Every change of a service's health signal or override is published once. Subscribers read the
changes that came after their subscription; one that falls behind by more than the feed keeps
learns how many it has missed and goes on with the oldest one kept.
-/

namespace ServicePlane

/-- A change of the state of a service. -/
inductive AvailabilityEvent where
  /-- The health signal of a service has flipped. -/
  | healthChanged (service : Service) (healthy : Bool) (error : Option String)
  /-- The override of a service is another one. -/
  | overrideChanged (service : Service) (previous current : OverrideMode)
  deriving DecidableEq, Repr

namespace AvailabilityEvent

def service : AvailabilityEvent → Service
  | healthChanged s _ _ => s
  | overrideChanged s _ _ => s

end AvailabilityEvent

/-- All that was published, and for each subscriber how much of it is behind that subscriber. -/
structure Feed where
  published : List AvailabilityEvent
  positions : List Nat
  deriving DecidableEq, Repr

/-- What a subscriber receives. -/
inductive Delivery where
  | event (event : AvailabilityEvent)
  /-- So many older events are lost. -/
  | lagged (missed : Nat)
  deriving DecidableEq, Repr

namespace Feed

/-- How many events the feed keeps for its subscribers. -/
def capacity : Nat := 64

/-- A feed without events and subscribers. -/
def empty : Feed where
  published := []
  positions := []

def publish (f : Feed) (e : AvailabilityEvent) : Feed :=
  { f with published := f.published ++ [e] }

/-- A new subscriber, which receives what is published from now on; its index. -/
def subscribe (f : Feed) : Nat × Feed :=
  (f.positions.length, { f with positions := f.positions ++ [f.published.length] })

/-- What a subscriber at a position has to receive. -/
def pending (f : Feed) (position : Nat) : List Delivery :=
  let oldest := f.published.length - capacity
  -- Of what this subscriber has not seen yet, everything before the oldest kept event is lost.
  if position < oldest then
    .lagged (oldest - position) :: (f.published.drop oldest).map .event
  else
    (f.published.drop position).map .event

/-- Everything a subscriber has to receive; afterwards it is up to date. -/
def drain (f : Feed) (subscriber : Nat) : List Delivery × Feed :=
  match f.positions[subscriber]? with
  | none => ([], f)
  | some position =>
      (f.pending position,
        { f with positions := f.positions.set subscriber f.published.length })

end Feed

end ServicePlane
