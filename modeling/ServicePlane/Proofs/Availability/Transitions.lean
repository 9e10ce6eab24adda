import Mathlib.Data.List.Chain
import Mathlib.Data.List.Nodup
import ServicePlane.Proofs.Availability.Calls

/-!
# Events as transitions of a table

The events of a registry speak about two things of each service: its health signal and its override.
This file reads events as changes of the table of both, and shows that a call publishes exactly the
changes that it makes.

* `AvailabilityRegistry.signals`, `replay` — the table, and what events make of one;
* `Transitions before events after` — each event changes the table at which it arrives, as it says,
  and all of them lead from one table to the other;
* `publishes_perform` — what a call publishes are the transitions of its table, at most one for each
  service.

A reset returns all services to their initial state and publishes nothing; it is left out.
-/

namespace ServicePlane

/-! ## The table -/

/-- What events tell of a service. -/
structure Signals where
  healthy : Bool
  override : OverrideMode
  deriving DecidableEq, Repr

namespace AvailabilityRegistry

/-- The health signal and the override of each service. -/
def signals (r : AvailabilityRegistry) : PerService Signals :=
  .ofFn fun s => ⟨(r.status s).healthy, (r.status s).override⟩

@[simp]
theorem get_signals (r : AvailabilityRegistry) (s : Service) :
    r.signals.get s = ⟨(r.status s).healthy, (r.status s).override⟩ :=
  PerService.get_ofFn _ s

end AvailabilityRegistry

namespace AvailabilityEvent

/-- What an event makes of the signals of its service. -/
def applyTo : AvailabilityEvent → Signals → Signals
  | healthChanged _ healthy _, x => { x with healthy := healthy }
  | overrideChanged _ _ current, x => { x with override := current }

/-- What an event makes of a table. -/
def enter (e : AvailabilityEvent) (table : PerService Signals) : PerService Signals :=
  table.set e.service (e.applyTo (table.get e.service))

/-- An event says what has changed: a signal that was the other one, or a mode that was the previous
one and not the current one. -/
def Changes : AvailabilityEvent → Signals → Prop
  | healthChanged _ healthy _, x => x.healthy = !healthy
  | overrideChanged _ previous current, x => x.override = previous ∧ previous ≠ current

theorem applyTo_ne {e : AvailabilityEvent} {x : Signals} (h : e.Changes x) : e.applyTo x ≠ x := by
  intro hsame
  cases e with
  | healthChanged s healthy error =>
      have hhealthy : healthy = x.healthy := congrArg Signals.healthy hsame
      have hother : x.healthy = !healthy := h
      rw [← hhealthy] at hother
      cases healthy <;> cases hother
  | overrideChanged s previous current =>
      have hcurrent : current = x.override := congrArg Signals.override hsame
      exact h.2 (h.1.symm.trans hcurrent.symm)

theorem get_enter_of_ne {e : AvailabilityEvent} {table : PerService Signals} {s : Service}
    (h : s ≠ e.service) : (e.enter table).get s = table.get s := by
  rw [enter, PerService.get_set, if_neg h]

theorem get_enter_self (e : AvailabilityEvent) (table : PerService Signals) :
    (e.enter table).get e.service = e.applyTo (table.get e.service) :=
  PerService.get_set_self table e.service _

end AvailabilityEvent

open AvailabilityEvent

/-- What some events make of a table, one after the other. -/
def replay (table : PerService Signals) (events : List AvailabilityEvent) : PerService Signals :=
  events.foldl (fun t e => e.enter t) table

/-! ## Transitions -/

/-- Each event changes the table at which it arrives, and all of them lead to the last table. -/
inductive Transitions :
    PerService Signals → List AvailabilityEvent → PerService Signals → Prop where
  | none (table : PerService Signals) : Transitions table [] table
  | cons {table last : PerService Signals} {e : AvailabilityEvent} {rest : List AvailabilityEvent} :
      e.Changes (table.get e.service) → Transitions (e.enter table) rest last →
        Transitions table (e :: rest) last

namespace Transitions

variable {table middle last : PerService Signals} {events later : List AvailabilityEvent}

theorem append (h : Transitions table events middle) (hlater : Transitions middle later last) :
    Transitions table (events ++ later) last := by
  induction h with
  | none table =>
      exact hlater
  | cons hchange hrest ih =>
      exact .cons hchange (ih hlater)

theorem replay_eq (h : Transitions table events last) : replay table events = last := by
  induction h with
  | none table =>
      rfl
  | cons hchange hrest ih =>
      exact ih

/-- The event after some others changes the table that these have led to. -/
theorem changes_replay {before after : List AvailabilityEvent} {e : AvailabilityEvent}
    (h : Transitions table (before ++ e :: after) last) :
    e.Changes ((replay table before).get e.service) := by
  -- The table is general here: each event moves it on before the next one is looked at.
  induction before generalizing table with
  | nil =>
      cases h with
      | cons hchange hrest =>
          exact hchange
  | cons first before ih =>
      cases h with
      | cons hchange hrest =>
          exact ih hrest

/-- Services without an event keep their signals. -/
theorem get_eq_of_notMem {s : Service} (h : Transitions table events last)
    (hs : s ∉ events.map AvailabilityEvent.service) : last.get s = table.get s := by
  induction h with
  | none table =>
      rfl
  | cons hchange hrest ih =>
      have hself := List.ne_of_not_mem_cons hs
      exact (ih (List.not_mem_of_not_mem_cons hs)).trans (get_enter_of_ne hself)

/-- If no service has two events, those of a service count whether its signals have changed. -/
theorem countP_service (h : Transitions table events last)
    (hnodup : (events.map AvailabilityEvent.service).Nodup) (s : Service) :
    events.countP (fun e => e.service = s) = if last.get s = table.get s then 0 else 1 := by
  induction h with
  | none table =>
      simp
  | @cons table last e rest hchange hrest ih =>
      have hparts := List.nodup_cons.1 hnodup
      have hlater := ih hparts.2
      by_cases hs : e.service = s
      · subst hs
        -- This is the only event of its service, so what it has changed stays changed.
        have hkept : last.get e.service = (e.enter table).get e.service :=
          hrest.get_eq_of_notMem hparts.1
        have hchanged : last.get e.service ≠ table.get e.service := by
          rw [hkept, get_enter_self]
          exact applyTo_ne hchange
        rw [hkept] at hchanged
        simp [hlater, hkept, hchanged]
      · have hother : (e.enter table).get s = table.get s := get_enter_of_ne fun h => hs h.symm
        simpa [hs, hother] using hlater

end Transitions

/-! ## The health signal in events -/

/-- The health signals that events tell of a service, in order. -/
def polarities (s : Service) (events : List AvailabilityEvent) : List Bool :=
  events.filterMap fun
    | .healthChanged u healthy _ => if u = s then some healthy else none
    | .overrideChanged _ _ _ => none

/-- The signals told of a service alternate, and the first is not the one it had. -/
theorem Transitions.alternate {table last : PerService Signals} {events : List AvailabilityEvent}
    (h : Transitions table events last) (s : Service) :
    ((table.get s).healthy :: polarities s events).IsChain (· ≠ ·) := by
  induction h with
  | none table =>
      exact .singleton _
  | @cons table last e rest hchange hrest ih =>
      cases e with
      | healthChanged u healthy error =>
          by_cases hu : u = s
          · subst hu
            have hbefore : (table.get u).healthy = !healthy := hchange
            have hafter : ((AvailabilityEvent.healthChanged u healthy error).enter table).get u =
                { table.get u with healthy := healthy } := get_enter_self _ table
            rw [hafter] at ih
            simpa [polarities, hbefore] using ih
          · have hkept : ((AvailabilityEvent.healthChanged u healthy error).enter table).get s =
                table.get s := get_enter_of_ne fun h => hu h.symm
            rw [hkept] at ih
            simpa [polarities, hu] using ih
      | overrideChanged u previous current =>
          -- An override says nothing about health, even that of its own service.
          have hkept : (((AvailabilityEvent.overrideChanged u previous current).enter table).get
              s).healthy = (table.get s).healthy := by
            by_cases hu : s = u
            · subst hu
              have hafter :
                  ((AvailabilityEvent.overrideChanged s previous current).enter table).get s =
                    { table.get s with override := current } := get_enter_self _ table
              rw [hafter]
            · have hother : s ≠ (AvailabilityEvent.overrideChanged u previous current).service := hu
              exact congrArg Signals.healthy (get_enter_of_ne hother)
          rw [hkept] at ih
          exact ih

/-! ## What calls publish -/

namespace AvailabilityRegistry

variable {r : AvailabilityRegistry} {s : Service}

/-- These events have been published on the way from one registry to the other. They are the
transitions of the table, and no service has two of them. -/
structure Publishes (r : AvailabilityRegistry) (events : List AvailabilityEvent)
    (r' : AvailabilityRegistry) : Prop where
  feed_eq : r'.feed = { r.feed with published := r.feed.published ++ events }
  transitions : Transitions r.signals events r'.signals
  nodup : (events.map AvailabilityEvent.service).Nodup

theorem foldl_publish (f : Feed) (events : List AvailabilityEvent) :
    events.foldl Feed.publish f = { f with published := f.published ++ events } := by
  induction events generalizing f with
  | nil =>
      simp
  | cons e rest ih =>
      have hrest := ih (f.publish e)
      simpa [Feed.publish] using hrest

/-- A table whose entries have changed for one service only. -/
theorem signals_eq_set {r' : AvailabilityRegistry} {x : Signals}
    (hself : r'.signals.get s = x) (hother : ∀ u, u ≠ s → r'.signals.get u = r.signals.get u) :
    r'.signals = r.signals.set s x := by
  apply PerService.ext_get
  intro u
  by_cases hu : u = s
  · subst hu
    rw [PerService.get_set_self]
    exact hself
  · rw [PerService.get_set, if_neg hu]
    exact hother u hu

theorem Publishes.none_of_eq {r' : AvailabilityRegistry} (hfeed : r'.feed = r.feed)
    (hsignals : r'.signals = r.signals) : r.Publishes [] r' where
  feed_eq := by
    simpa using hfeed
  transitions := by
    rw [hsignals]
    exact .none r.signals
  nodup := .nil

/-- A call that changes one service and notifies this change. -/
theorem Publishes.single {r' : AvailabilityRegistry} {e : AvailabilityEvent}
    (hfeed : r'.feed = r.feed.publish e) (hchange : e.Changes (r.signals.get e.service))
    (hsignals : r'.signals = e.enter r.signals) : r.Publishes [e] r' where
  feed_eq := hfeed
  transitions := by
    rw [hsignals]
    exact .cons hchange (.none _)
  nodup := List.nodup_singleton _

theorem publishes_updateHealth (now : Nat) (s : Service) (healthy : Bool) (error : Option String) :
    ∃ events, r.Publishes events (r.updateHealth now s healthy error).1 := by
  have hother : ∀ u, u ≠ s →
      (r.updateHealth now s healthy error).1.signals.get u = r.signals.get u := by
    intro u hu
    simp [status_updateHealth, hu]
  have hself : (r.updateHealth now s healthy error).1.signals.get s =
      ⟨((r.status s).recorded r.thresholds now healthy error).healthy, (r.status s).override⟩ := by
    simp [status_updateHealth, Status.recorded_override]
  rcases updateHealth_cases r now s healthy error with
    ⟨hflips, hregistry, _⟩ | ⟨hflips, hregistry, _⟩
  · have hsignal : ((r.status s).recorded r.thresholds now healthy error).healthy = healthy := by
      rw [Status.recorded_healthy, if_pos hflips]
    have hbefore : (r.status s).healthy = !healthy := by
      rw [← @Status.counted_healthy (r.status s) now healthy error]
      exact Status.healthy_of_flips hflips
    let event := AvailabilityEvent.healthChanged s healthy
      ((r.status s).recorded r.thresholds now healthy error).lastError
    refine ⟨[event], .single ?_ ?_ ?_⟩
    · rw [hregistry]
      rfl
    · rw [get_signals]
      exact hbefore
    · refine signals_eq_set (hself.trans ?_) hother
      rw [hsignal, get_signals]
      rfl
  · have hsignal : ((r.status s).recorded r.thresholds now healthy error).healthy =
        (r.status s).healthy := by
      simp [Status.recorded_healthy, hflips]
    refine ⟨[], .none_of_eq ?_ ?_⟩
    · rw [hregistry]
      rfl
    · apply PerService.ext_get
      intro u
      by_cases hu : u = s
      · subst hu
        rw [hself, hsignal, get_signals]
      · exact hother u hu

theorem publishes_setOverride (s : Service) (mode : OverrideMode) :
    ∃ events, r.Publishes events (r.setOverride s mode).1 := by
  have hother : ∀ u, u ≠ s → (r.setOverride s mode).1.signals.get u = r.signals.get u := by
    intro u hu
    simp [status_setOverride, hu]
  have hself : (r.setOverride s mode).1.signals.get s = ⟨(r.status s).healthy, mode⟩ := by
    simp [status_setOverride]
  by_cases hmode : (r.status s).override = mode
  · have hsame : (r.setOverride s mode).1 = r := by
      simp [setOverride, hmode]
    exact ⟨[], .none_of_eq (by rw [hsame]) (by rw [hsame])⟩
  · refine ⟨[.overrideChanged s (r.status s).override mode], .single ?_ ?_ ?_⟩
    · simp [setOverride, hmode, notify]
      rfl
    · rw [get_signals]
      exact ⟨rfl, hmode⟩
    · refine signals_eq_set (hself.trans ?_) hother
      rw [get_signals]
      rfl

theorem get_signals_presumed (r : AvailabilityRegistry) (s u : Service) :
    ((r.setStatus s (r.status s).presumed).publish s).signals.get u =
      if u = s then ⟨true, (r.status s).override⟩ else r.signals.get u := by
  by_cases hu : u = s
  · simp [hu, Status.presumed]
  · simp [hu]

theorem signals_presumed_of_healthy (h : (r.status s).healthy = true) :
    ((r.setStatus s (r.status s).presumed).publish s).signals = r.signals := by
  apply PerService.ext_get
  intro u
  rw [get_signals_presumed]
  by_cases hu : u = s
  · simp [hu, h]
  · rw [if_neg hu]

theorem signals_presumed_eq_enter :
    ((r.setStatus s (r.status s).presumed).publish s).signals =
      (AvailabilityEvent.healthChanged s true none).enter r.signals := by
  have hself : ((r.setStatus s (r.status s).presumed).publish s).signals.get s =
      ⟨true, (r.status s).override⟩ := by
    rw [get_signals_presumed, if_pos rfl]
  have hother : ∀ u, u ≠ s →
      ((r.setStatus s (r.status s).presumed).publish s).signals.get u = r.signals.get u := by
    intro u hu
    rw [get_signals_presumed, if_neg hu]
  refine signals_eq_set (hself.trans ?_) hother
  rw [get_signals]
  rfl

/-- The events of services that are taken to be healthy. Each is about a service that was not, so a
repetition in the list adds none. -/
theorem transitions_presume (services : List Service) :
    Transitions r.signals (r.presume services).2 (r.presume services).1.signals ∧
      ((r.presume services).2.map AvailabilityEvent.service).Nodup ∧
      ∀ u ∈ (r.presume services).2.map AvailabilityEvent.service, (r.status u).healthy = false := by
  induction services generalizing r with
  | nil =>
      refine ⟨.none r.signals, .nil, ?_⟩
      intro u hu
      cases hu
  | cons s rest ih =>
      let next := (r.setStatus s (r.status s).presumed).publish s
      obtain ⟨htransitions, hnodup, hunhealthy⟩ := ih (r := next)
      have hnext : ∀ u, next.status u = if u = s then (r.status s).presumed else r.status u := by
        intro u
        exact status_setStatus r s u _
      -- Once it is taken to be healthy, a service has no event further on in the list.
      have hnot : s ∉ (next.presume rest).2.map AvailabilityEvent.service := by
        intro hs
        have hsignal := hunhealthy s hs
        simp [hnext, Status.presumed] at hsignal
      have hbefore : ∀ u ∈ (next.presume rest).2.map AvailabilityEvent.service,
          (r.status u).healthy = false := by
        intro u hu
        have hne : u ≠ s := fun h => hnot (h ▸ hu)
        have hsignal := hunhealthy u hu
        simpa [hnext, hne] using hsignal
      have hevents : (r.presume (s :: rest)).2 =
          if (r.status s).healthy then (next.presume rest).2
          else .healthChanged s true none :: (next.presume rest).2 := rfl
      have hregistry : (r.presume (s :: rest)).1 = (next.presume rest).1 := rfl
      rw [hevents, hregistry]
      cases hsignal : (r.status s).healthy with
      | true =>
          have hsame : next.signals = r.signals := signals_presumed_of_healthy hsignal
          rw [hsame] at htransitions
          exact ⟨htransitions, hnodup, hbefore⟩
      | false =>
          have hentered : next.signals =
              (AvailabilityEvent.healthChanged s true none).enter r.signals :=
            signals_presumed_eq_enter
          have hchange : (AvailabilityEvent.healthChanged s true none).Changes
              (r.signals.get s) := by
            rw [get_signals]
            exact hsignal
          rw [hentered] at htransitions
          refine ⟨.cons hchange htransitions, List.nodup_cons.2 ⟨hnot, hnodup⟩, ?_⟩
          intro u hu
          rcases List.mem_cons.1 hu with hself | hrest
          · rw [hself]
            exact hsignal
          · exact hbefore u hrest

theorem feed_presume (services : List Service) : (r.presume services).1.feed = r.feed := by
  induction services generalizing r with
  | nil =>
      rfl
  | cons s rest ih =>
      exact ih (r := (r.setStatus s (r.status s).presumed).publish s)

theorem publishes_markAvailable (services : List Service) :
    ∃ events, r.Publishes events (r.markAvailable services).1 := by
  obtain ⟨htransitions, hnodup, _⟩ := transitions_presume (r := r) services
  refine ⟨(r.presume services).2, ?_, ?_, hnodup⟩
  · rw [markAvailable_eq, foldl_publish, feed_presume]
  · have hsignals : (r.markAvailable services).1.signals = (r.presume services).1.signals := by
      rw [markAvailable_eq]
      rfl
    rw [hsignals]
    exact htransitions

/-- Every call but a reset publishes the transitions that it makes. -/
theorem publishes_perform (r : AvailabilityRegistry) {call : AvailabilityCall}
    (h : call ≠ .reset) : ∃ events, r.Publishes events (r.perform call) := by
  cases call with
  | updateHealth now s healthy error =>
      exact publishes_updateHealth now s healthy error
  | setOverride s mode =>
      exact publishes_setOverride s mode
  | markAvailable services =>
      exact publishes_markAvailable services
  | markAllAvailable =>
      exact publishes_markAvailable Service.all
  | reset =>
      exact absurd rfl h

end AvailabilityRegistry

end ServicePlane
