import ServicePlane.Proofs.Availability.Publication
import ServicePlane.Proofs.Availability.Transitions
import ServicePlane.Proofs.Telemetry.Series

/-!
# Announced changes

Every event that a registry publishes is announced by two measurements: a transition is counted, and
the gauge of the service takes its availability. They are taken after the change, so all events of
one call are announced with the availability after the whole call.

* `AvailabilityRegistry.Announces` — what is told on the way from one registry to another measures
  the events published on that way;
* `announces_updateHealth`, `announces_setOverride`, `announces_markAvailable` — no call tells more;
* `Transitions.balance`, `Transitions.countP_overrides` — what events say about the signals before
  and after them;
* `Reconciled`, `Reconciled.announces` — measurements that agree with a registry go on to agree.
-/

namespace ServicePlane

/-- Whether a series is one of those that announcements record. -/
def Metric.tellsAvailability : Metric → Bool
  | serviceAvailable _ => true
  | serviceTransitions _ _ _ => true
  | _ => false

/-! ## What events add up to -/

namespace AvailabilityEvent

/-- The series in which an event is counted, by the availability of its service after it. -/
def series (available : Bool) : AvailabilityEvent → Metric
  | healthChanged s healthy _ => .serviceTransitions s .health healthy
  | overrideChanged s _ _ => .serviceTransitions s .override available

def overrides (s : Service) : AvailabilityEvent → Bool
  | healthChanged _ _ _ => false
  | overrideChanged u _ _ => u = s

end AvailabilityEvent

namespace Transitions

open AvailabilityEvent

variable {table last : PerService Signals} {events : List AvailabilityEvent} {s : Service}

theorem get_enter (e : AvailabilityEvent) (table : PerService Signals) (s : Service) :
    (e.enter table).get s = if s = e.service then e.applyTo (table.get s) else table.get s := by
  by_cases hs : s = e.service
  · rw [if_pos hs, hs, get_enter_self]
  · rw [if_neg hs, get_enter_of_ne hs]

theorem healthy_enter_overrideChanged (u : Service) (previous current : OverrideMode) :
    (((overrideChanged u previous current).enter table).get s).healthy =
      (table.get s).healthy := by
  rw [get_enter]
  split <;> rfl

theorem override_enter_healthChanged (u : Service) (healthy : Bool) (error : Option String) :
    (((healthChanged u healthy error).enter table).get s).override = (table.get s).override := by
  rw [get_enter]
  split <;> rfl

/-- The signals told of a service lead from the one it had to the one it has. -/
theorem balance (h : Transitions table events last) (s : Service) :
    (polarities s events).count true + (table.get s).healthy.toNat =
      (polarities s events).count false + (last.get s).healthy.toNat := by
  induction h with
  | none table =>
      simp [polarities]
  | @cons table last e rest hchange hrest ih =>
      cases e with
      | healthChanged u healthy error =>
          by_cases hu : u = s
          · subst hu
            have hbefore : (table.get u).healthy = !healthy := hchange
            have hafter : (((healthChanged u healthy error).enter table).get u).healthy = healthy :=
              congrArg Signals.healthy (get_enter_self (healthChanged u healthy error) table)
            have htold : polarities u (healthChanged u healthy error :: rest) =
                healthy :: polarities u rest := by
              simp [polarities]
            rw [hafter] at ih
            rw [htold, hbefore]
            -- The signal goes up once and the count with it, or down once.
            cases healthy with
            | true =>
                rw [Bool.toNat_true] at ih
                rw [List.count_cons_self, List.count_cons_of_ne Bool.false_ne_true.symm,
                  Bool.not_true, Bool.toNat_false]
                omega
            | false =>
                rw [Bool.toNat_false] at ih
                rw [List.count_cons_self, List.count_cons_of_ne Bool.false_ne_true,
                  Bool.not_false, Bool.toNat_true]
                omega
          · have hne : s ≠ (healthChanged u healthy error).service := fun h => hu h.symm
            have htold : polarities s (healthChanged u healthy error :: rest) =
                polarities s rest := by
              simp [polarities, hu]
            rw [get_enter_of_ne hne] at ih
            rw [htold]
            exact ih
      | overrideChanged u previous current =>
          rw [healthy_enter_overrideChanged] at ih
          exact ih

/-- If no service has two events, those of the override of a service count whether it is another
one. -/
theorem countP_overrides (h : Transitions table events last)
    (hnodup : (events.map AvailabilityEvent.service).Nodup) (s : Service) :
    events.countP (overrides s) =
      if (last.get s).override = (table.get s).override then 0 else 1 := by
  induction h with
  | none table =>
      simp
  | @cons table last e rest hchange hrest ih =>
      have hparts := List.nodup_cons.1 hnodup
      have hlater := ih hparts.2
      rw [List.countP_cons, hlater]
      cases e with
      | healthChanged u healthy error =>
          rw [override_enter_healthChanged]
          simp [overrides]
      | overrideChanged u previous current =>
          by_cases hu : u = s
          · subst hu
            -- This is the only event of its service, so its mode is the one that stays.
            have hkept : last.get u = ((overrideChanged u previous current).enter table).get u :=
              hrest.get_eq_of_notMem hparts.1
            have hmode : ((overrideChanged u previous current).enter table).get u =
                { table.get u with override := current } := get_enter_self _ table
            have hbefore : (table.get u).override = previous := hchange.1
            have hchanged : current ≠ (table.get u).override := by
              rw [hbefore]
              exact hchange.2.symm
            simp [overrides, hkept, hmode, hchanged]
          · have hne : s ≠ (overrideChanged u previous current).service := fun h => hu h.symm
            rw [get_enter_of_ne hne]
            simp [overrides, hu]

end Transitions

/-! ## What is measured -/

namespace AvailabilityRegistry

open AvailabilityEvent

variable {r r' : AvailabilityRegistry} {told : Telemetry} {events : List AvailabilityEvent}
  {s : Service} {m : Metric} {x : Measurement}

/-- The two measurements of an event. -/
def recordings (r : AvailabilityRegistry) (e : AvailabilityEvent) : List Measurement :=
  [.count (e.series (r.isAvailable e.service)),
    .gauge (.serviceAvailable e.service) (if r.isAvailable e.service then 1 else 0)]

theorem measurements_announcement (r : AvailabilityRegistry) (e : AvailabilityEvent) :
    Telemetry.measurements (r.announcement e) = r.recordings e := by
  cases e with
  | healthChanged u healthy error =>
      cases healthy <;> rfl
  | overrideChanged u previous current =>
      rfl

/-- What is told on the way from one registry to another measures exactly the events published on
that way, with the availabilities at its end. -/
def Announces (r : AvailabilityRegistry) (told : Telemetry) (r' : AvailabilityRegistry) : Prop :=
  ∃ events, r.Publishes events r' ∧ told.measurements = events.flatMap r'.recordings

/-- The events that a call publishes are those that have come to the feed. -/
theorem announces_of_feed (events : List AvailabilityEvent)
    (hpublishes : ∃ events, r.Publishes events r')
    (hfeed : r'.feed.published = r.feed.published ++ events)
    (htold : told.measurements = events.flatMap r'.recordings) : r.Announces told r' := by
  rcases hpublishes with ⟨published, hpublished⟩
  have hboth : r.feed.published ++ published = r.feed.published ++ events := by
    rw [← hfeed, hpublished.feed_eq]
  have hsame : published = events := List.append_cancel_left hboth
  rw [hsame] at hpublished
  exact ⟨events, hpublished, htold⟩

theorem measurements_notify (r : AvailabilityRegistry) (e : AvailabilityEvent) :
    Telemetry.measurements (r.notify e).2 = [e].flatMap (r.notify e).1.recordings := by
  rw [List.flatMap_singleton]
  exact measurements_announcement r e

theorem measurements_notifyAll (r : AvailabilityRegistry) (events : List AvailabilityEvent) :
    Telemetry.measurements (r.notifyAll events).2 = events.flatMap r.recordings := by
  induction events generalizing r with
  | nil =>
      rfl
  | cons e rest ih =>
      have hrest : Telemetry.measurements ((r.notify e).1.notifyAll rest).2 =
          rest.flatMap r.recordings := ih (r.notify e).1
      calc
        Telemetry.measurements (r.notifyAll (e :: rest)).2
            = Telemetry.measurements
                (r.announcement e ++ ((r.notify e).1.notifyAll rest).2) := rfl
        _ = r.recordings e ++ rest.flatMap r.recordings := by
            rw [Telemetry.measurements_append, measurements_announcement, hrest]
        _ = (e :: rest).flatMap r.recordings := rfl

/-- A call that notifies one event, and changes the feed in no other way. -/
theorem announces_notify {changed : AvailabilityRegistry} {e : AvailabilityEvent}
    (hpublishes : ∃ events, r.Publishes events (changed.notify e).1)
    (hfeed : changed.feed = r.feed) : r.Announces (changed.notify e).2 (changed.notify e).1 := by
  refine announces_of_feed [e] hpublishes ?_ (measurements_notify changed e)
  rw [← hfeed]
  rfl

/-- A call that tells nothing and leaves the feed alone. -/
theorem announces_nothing (hpublishes : ∃ events, r.Publishes events r')
    (hfeed : r'.feed = r.feed) : r.Announces [] r' := by
  refine announces_of_feed [] hpublishes ?_ rfl
  rw [hfeed, List.append_nil]

theorem announces_updateHealth (r : AvailabilityRegistry) (now : Nat) (s : Service)
    (healthy : Bool) (error : Option String) :
    r.Announces (r.updateHealth now s healthy error).2.1
      (r.updateHealth now s healthy error).1 := by
  have hpublishes := publishes_updateHealth (r := r) now s healthy error
  -- Either the result flips the signal, and this is the one event, or only the status is replaced.
  let counted := (r.status s).counted now healthy error
  by_cases hflips : counted.flips r.thresholds healthy = true
  · let changed := (r.setStatus s { counted with healthy := healthy }).publish s
    let e := AvailabilityEvent.healthChanged s healthy counted.lastError
    have hupdate : r.updateHealth now s healthy error =
        ((changed.notify e).1, (changed.notify e).2, some e) := by
      rw [updateHealth]
      exact if_pos hflips
    rw [hupdate] at hpublishes ⊢
    exact announces_notify hpublishes rfl
  · have hupdate : r.updateHealth now s healthy error = (r.setStatus s counted, [], none) := by
      rw [updateHealth]
      exact if_neg hflips
    rw [hupdate] at hpublishes ⊢
    exact announces_nothing hpublishes rfl

theorem announces_setOverride (r : AvailabilityRegistry) (s : Service) (mode : OverrideMode) :
    r.Announces (r.setOverride s mode).2.1 (r.setOverride s mode).1 := by
  have hpublishes := publishes_setOverride (r := r) s mode
  by_cases hmode : (r.status s).override = mode
  · have hset : r.setOverride s mode = (r, [], false) := by
      rw [setOverride]
      exact if_pos hmode
    rw [hset] at hpublishes ⊢
    exact announces_nothing hpublishes rfl
  · let changed := (r.setStatus s { r.status s with override := mode }).publish s
    let e := AvailabilityEvent.overrideChanged s (r.status s).override mode
    have hset : r.setOverride s mode = ((changed.notify e).1, (changed.notify e).2, true) := by
      rw [setOverride]
      exact if_neg hmode
    rw [hset] at hpublishes ⊢
    exact announces_notify hpublishes rfl

/-- All marks come before the first event is notified, so each event is announced with what all of
them have made available. -/
theorem announces_markAvailable (r : AvailabilityRegistry) (services : List Service) :
    r.Announces (r.markAvailable services).2 (r.markAvailable services).1 := by
  let presumed := (r.presume services).1
  let events := (r.presume services).2
  have hfeed : (r.markAvailable services).1.feed.published = r.feed.published ++ events := by
    rw [markAvailable_eq, foldl_publish, feed_presume]
  have hflags : (r.markAvailable services).1.recordings = presumed.recordings := by
    rw [markAvailable_eq]
    rfl
  refine announces_of_feed events (publishes_markAvailable services) hfeed ?_
  rw [hflags]
  exact measurements_notifyAll presumed events

/-! ## What the series show -/

theorem count_health_recordings (s : Service) (healthy : Bool) :
    (events.flatMap r.recordings).count (.count (.serviceTransitions s .health healthy)) =
      (polarities s events).count healthy := by
  induction events with
  | nil =>
      rfl
  | cons e rest ih =>
      rw [List.flatMap_cons, List.count_append, ih]
      cases e with
      | healthChanged u told error =>
          by_cases hu : u = s
          · simp [recordings, series, polarities, hu, List.count_cons, Nat.add_comm]
          · simp [recordings, series, polarities, hu]
      | overrideChanged u previous current =>
          simp [recordings, series, polarities]

theorem count_override_recordings (s : Service) :
    (events.flatMap r.recordings).count (.count (.serviceTransitions s .override true)) +
        (events.flatMap r.recordings).count (.count (.serviceTransitions s .override false)) =
      events.countP (overrides s) := by
  induction events with
  | nil =>
      rfl
  | cons e rest ih =>
      rw [List.flatMap_cons, List.count_append, List.count_append, List.countP_cons, ← ih]
      cases e with
      | healthChanged u told error =>
          simp [recordings, series, overrides]
      | overrideChanged u previous current =>
          by_cases hu : u = s
          · subst hu
            cases havailable : r.isAvailable u <;>
              simp [recordings, series, overrides, AvailabilityEvent.service, havailable] <;> omega
          · simp [recordings, series, overrides, hu]

theorem eq_count_of_mem_recordings {cause : TransitionCause} {available : Bool}
    (h : x ∈ events.flatMap r.recordings)
    (hmetric : x.metric = .serviceTransitions s cause available) :
    x = .count (.serviceTransitions s cause available) := by
  rcases List.mem_flatMap.1 h with ⟨e, _, hx⟩
  rw [recordings, List.mem_cons, List.mem_singleton] at hx
  rcases hx with rfl | rfl
  · exact congrArg Measurement.count hmetric
  · cases hmetric

theorem counter_announces {cause : TransitionCause} {available : Bool} (t : Telemetry)
    (h : told.measurements = events.flatMap r.recordings) :
    Telemetry.counter (t ++ told) (.serviceTransitions s cause available) =
      t.counter (.serviceTransitions s cause available) +
        (events.flatMap r.recordings).count (.count (.serviceTransitions s cause available)) := by
  rw [← h]
  refine Telemetry.counter_append fun x hx hmetric => ?_
  rw [h] at hx
  exact eq_count_of_mem_recordings hx hmetric

/-- The gauge of a service with an event takes its availability, the others stay as they are. -/
theorem valueOf?_announces (t : Telemetry) (h : told.measurements = events.flatMap r.recordings) :
    Telemetry.valueOf? (t ++ told) (.serviceAvailable s) =
      if s ∈ events.map AvailabilityEvent.service then some (if r.isAvailable s then 1 else 0)
      else t.valueOf? (.serviceAvailable s) := by
  have hsame : ∀ x ∈ events.flatMap r.recordings, x.metric = .serviceAvailable s →
      x = .gauge (.serviceAvailable s) (if r.isAvailable s then 1 else 0) := by
    intro x hx hmetric
    rcases List.mem_flatMap.1 hx with ⟨e, _, hmem⟩
    rw [recordings, List.mem_cons, List.mem_singleton] at hmem
    rcases hmem with rfl | rfl
    · cases e <;> cases hmetric
    · injection hmetric with hservice
      rw [hservice]
  have hevent : (∃ x ∈ events.flatMap r.recordings, x.metric = .serviceAvailable s) ↔
      s ∈ events.map AvailabilityEvent.service := by
    constructor
    · rintro ⟨x, hx, hmetric⟩
      rcases List.mem_flatMap.1 hx with ⟨e, he, hmem⟩
      rw [hsame x hx hmetric, recordings, List.mem_cons, List.mem_singleton] at hmem
      rcases hmem with hmem | hmem
      · cases hmem
      · injection hmem with hgauge hvalue
        injection hgauge with hservice
        exact List.mem_map.2 ⟨e, he, hservice.symm⟩
    · intro hs
      rcases List.mem_map.1 hs with ⟨e, he, rfl⟩
      exact ⟨_, List.mem_flatMap.2 ⟨e, he, .tail _ (.head _)⟩, rfl⟩
  rw [Telemetry.valueOf?, Telemetry.measurements_append, h,
    Measurement.valueOf?_append_gauge hsame]
  simp only [hevent]
  rfl

/-! ## Agreement -/

/-- The series of a service agree with a registry in which the override of the service has been
changed so often. -/
structure Reconciled (r : AvailabilityRegistry) (t : Telemetry) (s : Service) (changes : Nat) :
    Prop where
  published : r.Published
  gauge_eq : t.valueOf? (.serviceAvailable s) = some (if r.isAvailable s then 1 else 0) ∨
    (t.valueOf? (.serviceAvailable s) = none ∧ r.isAvailable s = false)
  health_eq : t.counter (.serviceTransitions s .health true) =
    t.counter (.serviceTransitions s .health false) + (r.status s).healthy.toNat
  overrides_eq : t.counter (.serviceTransitions s .override true) +
    t.counter (.serviceTransitions s .override false) = changes

namespace Reconciled

variable {t : Telemetry} {changes : Nat}

theorem new (thresholds : Thresholds) (s : Service) :
    (AvailabilityRegistry.new thresholds).Reconciled [] s 0 where
  published := Published.new thresholds
  gauge_eq := .inr ⟨rfl, isAvailable_new thresholds⟩
  health_eq := by
    rw [status_new]
    rfl
  overrides_eq := rfl

/-- What is told about a call keeps the agreement; the override has been changed once more if it is
another one. -/
theorem announces (h : r.Reconciled t s changes) (hannounces : r.Announces told r')
    (hpublished : r'.Published) :
    r'.Reconciled (t ++ told) s
      (changes + if (r'.status s).override = (r.status s).override then 0 else 1) := by
  rcases hannounces with ⟨events, hevents, htold⟩
  refine ⟨hpublished, ?_, ?_, ?_⟩
  · rw [valueOf?_announces t htold]
    by_cases hs : s ∈ events.map AvailabilityEvent.service
    · rw [if_pos hs]
      exact .inl rfl
    · -- Without an event the signals are the same, and so is what they make available.
      have hsignals := hevents.transitions.get_eq_of_notMem hs
      rw [get_signals, get_signals, Signals.mk.injEq] at hsignals
      have havailable : r'.isAvailable s = r.isAvailable s := by
        rw [hpublished, h.published, Status.isAvailable, Status.isAvailable, hsignals.1,
          hsignals.2]
      rw [if_neg hs, havailable]
      exact h.gauge_eq
  · have hbalance := hevents.transitions.balance s
    rw [get_signals, get_signals] at hbalance
    have hbefore := h.health_eq
    rw [counter_announces t htold, counter_announces t htold, count_health_recordings,
      count_health_recordings]
    simp only at hbalance
    omega
  · have hchanged := hevents.transitions.countP_overrides hevents.nodup s
    rw [get_signals, get_signals] at hchanged
    have hsum := @count_override_recordings r' events s
    have hbefore := h.overrides_eq
    rw [counter_announces t htold, counter_announces t htold]
    rw [← hchanged]
    omega

/-- Measurements of other series do not matter. -/
theorem unrelated (h : r.Reconciled t s changes)
    (htold : ∀ x ∈ told.measurements, x.metric.tellsAvailability = false) :
    r.Reconciled (t ++ told) s changes := by
  have hother : ∀ m : Metric, m.tellsAvailability = true →
      ∀ x ∈ told.measurements, x.metric ≠ m := by
    intro m hm x hx hmetric
    have hfalse := htold x hx
    rw [hmetric, hm] at hfalse
    cases hfalse
  have hcounter : ∀ cause available,
      Telemetry.counter (t ++ told) (.serviceTransitions s cause available) =
        t.counter (.serviceTransitions s cause available) := by
    intro cause available
    rw [Telemetry.counter, Telemetry.valueOf?_append_of_unrelated (hother _ rfl)]
    rfl
  refine ⟨h.published, ?_, ?_, ?_⟩
  · rw [Telemetry.valueOf?_append_of_unrelated (hother _ rfl)]
    exact h.gauge_eq
  · rw [hcounter, hcounter]
    exact h.health_eq
  · rw [hcounter, hcounter]
    exact h.overrides_eq

end Reconciled

end AvailabilityRegistry

end ServicePlane
