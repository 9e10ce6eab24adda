import ServicePlane.Proofs.Monitor.OwnCycle

/-!
# A cycle is recorded as a whole

A cycle calls its checks when it begins, and its results are recorded when the last of them is done.
What a call of a user does to the cycles is told here as a list of events, read off the planes that
the call goes through, and these events account for everything that has happened to the registry and
to the checks.

* `CycleEvent`, `eventsAlong` — what becomes of the cycles, and what else the registry is told;
* `AllOrNothing` — each cycle that has begun is recorded or dropped before there is another one;
* `Accounts` — the events say which checks were called and what the registry has taken;
* `Along.accounts` — they do so for every call;
* `eventsAlong_start_of_stopped` — the events of a start.
-/

namespace ServicePlane

/-! ## Events -/

/-- What becomes of cycles, and what else the registry is told. -/
inductive CycleEvent where
  /-- A cycle has called the checks of these services. -/
  | began (f : CycleInFlight) (services : List Service)
  /-- The results of a cycle have been given to the registry. -/
  | recorded (f : CycleInFlight) (time : Nat)
  /-- A cycle in flight has been dropped. -/
  | dropped (f : CycleInFlight)
  /-- A user has told the registry something. -/
  | told (call : AvailabilityCall)
  deriving DecidableEq, Repr

namespace CycleEvent

/-- What the registry takes with an event. -/
def updates : CycleEvent → List AvailabilityCall
  | began _ _ => []
  | recorded f time => f.results.map (CheckResult.update time)
  | dropped _ => []
  | told call => [call]

/-- Whether an event calls the check of a service. -/
def callsCheck (s : Service) : CycleEvent → Bool
  | began _ services => decide (s ∈ services)
  | recorded _ _ => false
  | dropped _ => false
  | told _ => false

end CycleEvent

/-- From a cycle in flight, or none, some events lead to another one, or none. No cycle begins
before the last one has been recorded or dropped, each has one result for each of its services, and
all of them are recorded at one time when it is over. -/
inductive AllOrNothing :
    Option CycleInFlight → List CycleEvent → Option CycleInFlight → Prop where
  | nil (flight : Option CycleInFlight) : AllOrNothing flight [] flight
  | began {f : CycleInFlight} {services : List Service} {rest : List CycleEvent}
      {last : Option CycleInFlight} (hservices : f.results.map CheckResult.service = services)
      (hnodup : services.Nodup) (hrest : AllOrNothing (some f) rest last) :
      AllOrNothing none (.began f services :: rest) last
  | recorded {f : CycleInFlight} {time : Nat} {rest : List CycleEvent}
      {last : Option CycleInFlight} (hover : f.endsAt ≤ time)
      (hrest : AllOrNothing none rest last) :
      AllOrNothing (some f) (.recorded f time :: rest) last
  | dropped {f : CycleInFlight} {rest : List CycleEvent} {last : Option CycleInFlight}
      (hrest : AllOrNothing none rest last) : AllOrNothing (some f) (.dropped f :: rest) last
  | told {flight last : Option CycleInFlight} {call : AvailabilityCall} {rest : List CycleEvent}
      (hrest : AllOrNothing flight rest last) :
      AllOrNothing flight (.told call :: rest) last

theorem AllOrNothing.append {first middle last : Option CycleInFlight}
    {events later : List CycleEvent} (h : AllOrNothing first events middle)
    (hlater : AllOrNothing middle later last) : AllOrNothing first (events ++ later) last := by
  induction h with
  | nil flight =>
      exact hlater
  | began hservices hnodup _ ih =>
      exact .began hservices hnodup (ih hlater)
  | recorded hover _ ih =>
      exact .recorded hover (ih hlater)
  | dropped _ ih =>
      exact .dropped (ih hlater)
  | told _ ih =>
      exact .told (ih hlater)

namespace Plane

variable {p q r : Plane} {events later : List CycleEvent} {way : List Moment}
  {goal : Plane → Bool} {limit : Option Nat} {steps : Nat}

/-- What has happened between a plane and the next one on its way. -/
def eventsOf (p : Plane) (m : Moment) : List CycleEvent :=
  match m.cause, p.monitor.flight, m.plane.monitor.flight with
  | .told call, _, _ => [.told call]
  | .clock, none, some f => [.began f p.monitor.registered]
  | .clock, some f, none => [.recorded f p.now]
  | .force, some f, none => [.dropped f]
  | _, _, _ => []

/-- What has happened on the way of a plane. -/
def eventsAlong (p : Plane) : List Moment → List CycleEvent
  | [] => []
  | m :: rest => p.eventsOf m ++ m.plane.eventsAlong rest

theorem eventsAlong_cons (p : Plane) (m : Moment) (rest : List Moment) :
    p.eventsAlong (m :: rest) = p.eventsOf m ++ m.plane.eventsAlong rest :=
  rfl

theorem eventsAlong_append (p : Plane) (way later : List Moment) :
    p.eventsAlong (way ++ later) =
      p.eventsAlong way ++ (p.reached way).eventsAlong later := by
  induction way generalizing p with
  | nil =>
      rfl
  | cons m rest ih =>
      simp [eventsAlong, ih]

theorem eventsAlong_singleton (p : Plane) (m : Moment) : p.eventsAlong [m] = p.eventsOf m :=
  List.append_nil _

/-- Nothing has happened to cycles if the same one is in flight. -/
theorem eventsOf_of_flight {m : Moment} (hcause : ∀ call, m.cause ≠ .told call)
    (hflight : m.plane.monitor.flight = p.monitor.flight) : p.eventsOf m = [] := by
  rw [eventsOf, hflight]
  cases hc : m.cause with
  | told call =>
      exact absurd hc (hcause call)
  | _ =>
      cases p.monitor.flight <;> rfl

theorem flight_land (p : Plane) (f : CycleInFlight) : (p.land f).monitor.flight = none := by
  rw [land_eq]
  simp only [Monitor.landed]
  cases f.owner <;> rfl

theorem eventsOf_land {f : CycleInFlight} (hflight : p.monitor.flight = some f) :
    p.eventsOf ⟨.clock, p.land f⟩ = [.recorded f p.now] := by
  rw [eventsOf, hflight, flight_land]

theorem eventsOf_depart {owner : CycleOwner} {waiting : List CycleOwner}
    (hfree : p.monitor.flight = none) :
    p.eventsOf ⟨.clock, { p with monitor := { p.monitor with queue := waiting } }.beginCycle owner⟩ =
      [.began ({ p with monitor := { p.monitor with queue := waiting } }.cycle owner)
        p.monitor.registered] := by
  rw [eventsOf, hfree, beginCycle_eq]

/-! ## Events account for what has happened -/

/-- Some events account for what has become of a plane. -/
structure Accounts (p : Plane) (events : List CycleEvent) (q : Plane) : Prop where
  whole : AllOrNothing p.monitor.flight events q.monitor.flight
  registry_eq : q.registry = p.registry.performAll (events.flatMap CycleEvent.updates)
  calls_eq : ∀ s, q.calls.get s = p.calls.get s + events.countP (CycleEvent.callsCheck s)

namespace Accounts

theorem of_eq (hflight : q.monitor.flight = p.monitor.flight) (hregistry : q.registry = p.registry)
    (hcalls : q.calls = p.calls) : p.Accounts [] q where
  whole := by
    rw [hflight]
    exact .nil _
  registry_eq := hregistry
  calls_eq := by
    intro s
    rw [hcalls]
    rfl

theorem append (h : p.Accounts events q) (hlater : q.Accounts later r) :
    p.Accounts (events ++ later) r where
  whole := h.whole.append hlater.whole
  registry_eq := by
    rw [List.flatMap_append, AvailabilityRegistry.performAll_append, ← h.registry_eq]
    exact hlater.registry_eq
  calls_eq := by
    intro s
    calc
      r.calls.get s
          = q.calls.get s + later.countP (CycleEvent.callsCheck s) := hlater.calls_eq s
      _ = p.calls.get s + events.countP (CycleEvent.callsCheck s) +
            later.countP (CycleEvent.callsCheck s) := by rw [h.calls_eq s]
      _ = p.calls.get s + (events ++ later).countP (CycleEvent.callsCheck s) := by
            rw [List.countP_append, Nat.add_assoc]

end Accounts

/-- A cycle that is recorded gives the registry its results, and calls no check. -/
theorem accounts_land {f : CycleInFlight} (hflight : p.monitor.flight = some f)
    (hover : f.endsAt ≤ p.now) : p.Accounts [.recorded f p.now] (p.land f) where
  whole := by
    rw [hflight, flight_land]
    exact .recorded hover (.nil none)
  registry_eq := by
    rw [land_eq]
    simp [CycleEvent.updates]
  calls_eq := by
    intro s
    rw [land_eq]
    rfl

/-- A cycle that begins calls each registered check once, and the registry does not see it. -/
theorem accounts_beginCycle {owner : CycleOwner} (hfree : p.monitor.flight = none) :
    p.Accounts [.began (p.cycle owner) p.monitor.registered] (p.beginCycle owner) where
  whole := by
    rw [hfree, beginCycle_eq]
    exact .began (service_cycleResults p) p.monitor.registered_nodup (.nil _)
  registry_eq := by
    rw [beginCycle_eq]
    rfl
  calls_eq := by
    intro s
    have hcalled : (p.beginCycle owner).calls.get s =
        p.calls.get s + if s ∈ p.monitor.registered then 1 else 0 := by
      rw [beginCycle_eq]
      exact PerService.get_ofFn _ s
    by_cases hs : s ∈ p.monitor.registered <;> simp [CycleEvent.callsCheck, hcalled, hs]

theorem Happens.accounts (h : p.Happens q) (hsound : p.monitor.Sound) :
    p.Accounts (p.eventsOf ⟨.clock, q⟩) q := by
  have hsame : q.monitor.flight = p.monitor.flight → p.eventsOf ⟨.clock, q⟩ = [] :=
    eventsOf_of_flight (m := ⟨.clock, q⟩) fun _ hcause => Cause.noConfusion hcause
  cases h with
  | landing hflight hover =>
      rw [eventsOf_land hflight]
      exact accounts_land hflight hover
  | @departing owner waiting hfree hqueue =>
      let first := { p with monitor := { p.monitor with queue := waiting } }
      have haccounts : first.Accounts [.began (first.cycle owner) first.monitor.registered]
          (first.beginCycle owner) := accounts_beginCycle hfree
      rw [eventsOf_depart hfree]
      exact ⟨haccounts.whole, haccounts.registry_eq, haccounts.calls_eq⟩
  | @retiring l wakeAt hloop hasked hsleeps =>
      -- A sleeping loop has no cycle that could be dropped with it.
      have hflight : (p.monitor.abort l.id).flight = p.monitor.flight := by
        rw [hsound.abort_of_sleeping hloop hsleeps]
      rw [hsame hflight]
      exact .of_eq hflight rfl rfl
  | waking hloop hsleeps hdue =>
      rw [hsame rfl]
      exact .of_eq rfl rfl rfl
  | passing hquiet hdeadline =>
      rw [hsame rfl]
      exact .of_eq rfl rfl rfl

theorem Leads.accounts {m : Moment} (h : p.Leads m) (hsound : p.monitor.Sound) :
    p.Accounts (p.eventsOf m) m.plane := by
  cases h with
  | clock hnext =>
      exact hnext.accounts hsound
  | user hafter hflight hregistry hcalls =>
      rw [eventsOf_of_flight (fun _ hcause => Cause.noConfusion hcause) hflight]
      exact .of_eq hflight hregistry hcalls
  | told call hmonitor hregistry hcalls =>
      exact {
        whole := by
          rw [hmonitor]
          exact .told (.nil _)
        registry_eq := hregistry
        calls_eq := by
          intro s
          rw [hcalls]
          rfl }
  | @force q hafter hflight hregistry hcalls =>
      by_cases hsame : q.monitor.flight = p.monitor.flight
      · rw [eventsOf_of_flight (fun _ hcause => Cause.noConfusion hcause) hsame]
        exact .of_eq hsame hregistry hcalls
      · have hfree : q.monitor.flight = none := hflight.resolve_left hsame
        rw [hfree] at hsame
        rcases Option.ne_none_iff_exists'.1 (Ne.symm hsame) with ⟨f, hf⟩
        have hevents : p.eventsOf ⟨.force, q⟩ = [.dropped f] := by
          rw [eventsOf, hf, hfree]
        rw [hevents]
        exact {
          whole := by
            rw [hf, hfree]
            exact .dropped (.nil none)
          registry_eq := hregistry
          calls_eq := by
            intro s
            rw [hcalls]
            rfl }

theorem Along.accounts (h : p.Along way) (hsound : p.monitor.Sound) :
    p.Accounts (p.eventsAlong way) (p.reached way) := by
  induction h with
  | nil p =>
      exact .of_eq rfl rfl rfl
  | cons hlead hrest ih =>
      exact (hlead.accounts hsound).append (ih (hlead.sound hsound))

theorem along_courses (h : p.monitor.AtRest) (calls : List PlaneCall) :
    p.Along (p.courses calls) := by
  induction calls generalizing p with
  | nil =>
      exact .nil p
  | cons call rest ih =>
      refine (along_course h call).append ?_
      rw [reached_course]
      exact ih (atRest_perform h call)

/-! ## The events of a start -/

theorem eventsAlong_user (p q : Plane) (rest : List Moment) :
    p.eventsAlong (⟨.user, q⟩ :: rest) = q.eventsAlong rest := by
  have hnone : p.eventsOf ⟨.user, q⟩ = [] := by
    rw [eventsOf]
  rw [eventsAlong_cons, hnone]
  rfl

/-- In its turn a cycle begins, and is recorded. -/
theorem eventsAlong_turn (h : p.monitor.AtRest) (hstopped : p.monitor.running = false)
    (count : Nat) :
    (p.requestCycles (count + 1)).2.eventsAlong (p.turn count) =
      [.began p.ownCycle p.monitor.registered, .recorded p.ownCycle p.ownCycle.endsAt] := by
  have hfree : (p.requestCycles (count + 1)).2.monitor.flight = none :=
    h.flight_of_stopped hstopped
  have hbegan : (p.requestCycles (count + 1)).2.eventsOf
      ⟨.clock, (p.departed.requestCycles count).2⟩ =
        [.began p.ownCycle p.monitor.registered] := by
    rw [eventsOf, hfree]
    rfl
  have hwaits : (p.departed.requestCycles count).2.eventsOf
      ⟨.clock, (p.due.requestCycles count).2⟩ = [] :=
    eventsOf_of_flight (fun _ hcause => Cause.noConfusion hcause) rfl
  have hrecorded : (p.due.requestCycles count).2.eventsOf
      ⟨.clock, (p.cycled.requestCycles count).2⟩ =
        [.recorded p.ownCycle p.ownCycle.endsAt] := by
    rw [eventsOf, cycled_eq]
    rfl
  rw [turn, eventsAlong_cons, hbegan, eventsAlong_append, eventsAlong_singleton]
  by_cases htime : p.cycleTime = 0
  · rw [if_pos htime, reached_nil, ← due_of_instant htime, hrecorded]
    rfl
  · rw [if_neg htime, eventsAlong_singleton, hwaits, reached_cons, reached_nil, hrecorded]
    rfl

/-- A caller of a stopped monitor has a cycle of its own, and there is no other one. -/
theorem eventsAlong_cyclesCourse_of_stopped (h : q.monitor.AtRest)
    (hstopped : q.monitor.running = false) :
    p.eventsAlong (q.cyclesCourse 1) =
      [.began q.ownCycle q.monitor.registered, .recorded q.ownCycle (q.now + q.cycleTime)] := by
  rw [cyclesCourse_of_stopped h hstopped, eventsAlong_user]
  exact eventsAlong_turn h hstopped 0

theorem eventsAlong_start_of_stopped (h : p.monitor.AtRest)
    (hstopped : p.monitor.running = false) :
    p.eventsAlong (p.course .start) =
      [.began p.ownCycle p.monitor.registered, .recorded p.ownCycle (p.now + p.cycleTime)] := by
  have hcourse : p.course .start = p.announced.cyclesCourse 1 ++ [⟨.user, p.start⟩] := by
    rw [course, hasLoop_eq h, hstopped]
    rfl
  have hown := eventsAlong_cyclesCourse_of_stopped (p := p) (q := p.announced) h hstopped
  rw [hcourse, eventsAlong_append, hown, eventsAlong_user]
  rfl

theorem eventsAlong_start_of_running (h : p.monitor.AtRest) (hrunning : p.monitor.running = true) :
    p.eventsAlong (p.course .start) = [] := by
  have hcourse : p.course .start = [⟨.user, p.start⟩] := by
    rw [course, hasLoop_eq h, hrunning]
    rfl
  rw [hcourse, eventsAlong_user]
  rfl

end Plane

end ServicePlane
