import ServicePlane.Proofs.Availability.Transitions

/-!
# What a subscriber learns

A subscriber that reads its feed often enough loses nothing, and what it reads is all that it needs
to follow the signals of the services.

* `FeedStep`, `followAll`, `deliveries` — calls on a registry, new subscribers and readings of the
  feed in any order, and what one subscriber receives meanwhile;
* `deliveries_drained` — it receives all that has been published since it was last up to date;
* `transitions_notified_once` — from these events it rebuilds the current table, and each of them
  is a transition that has happened.
-/

namespace ServicePlane

/-! ## Steps -/

/-- What happens to a registry and its feed. -/
inductive FeedStep where
  | call (call : AvailabilityCall)
  | subscribe
  | drain (subscriber : Nat)
  deriving DecidableEq, Repr

/-- How many events a subscriber has not received yet. -/
def Feed.undelivered (f : Feed) (subscriber : Nat) : Nat :=
  match f.positions[subscriber]? with
  | none => 0
  | some position => f.published.length - position

namespace AvailabilityRegistry

def follow (r : AvailabilityRegistry) : FeedStep → AvailabilityRegistry
  | .call c => r.perform c
  | .subscribe => r.subscribe.2
  | .drain subscriber => (r.drain subscriber).2

def followAll (r : AvailabilityRegistry) (steps : List FeedStep) : AvailabilityRegistry :=
  steps.foldl follow r

/-- What a subscriber receives during some steps. -/
def deliveries (r : AvailabilityRegistry) (subscriber : Nat) : List FeedStep → List Delivery
  | [] => []
  | step :: rest =>
      let received := if step = .drain subscriber then (r.drain subscriber).1 else []
      received ++ (r.follow step).deliveries subscriber rest

/-- How many of some steps change the signals of a service. -/
def changes (r : AvailabilityRegistry) (s : Service) : List FeedStep → Nat
  | [] => 0
  | step :: rest =>
      let changed := if (r.follow step).signals.get s = r.signals.get s then 0 else 1
      changed + (r.follow step).changes s rest

variable {r : AvailabilityRegistry} {i position : Nat}

theorem signals_drain (r : AvailabilityRegistry) (i : Nat) : (r.drain i).2.signals = r.signals :=
  rfl

theorem published_drain (r : AvailabilityRegistry) (i : Nat) :
    (r.drain i).2.feed.published = r.feed.published := by
  simp only [drain, Feed.drain]
  split <;> rfl

/-! ## What is published -/

/-- A step publishes the transitions that it makes. -/
theorem transitions_follow (r : AvailabilityRegistry) {step : FeedStep}
    (h : step ≠ .call .reset) :
    ∃ events, (r.follow step).feed.published = r.feed.published ++ events ∧
      Transitions r.signals events (r.follow step).signals ∧
      (events.map AvailabilityEvent.service).Nodup := by
  cases step with
  | call c =>
      have hcall : c ≠ .reset := fun hc => h (congrArg FeedStep.call hc)
      obtain ⟨events, hpublishes⟩ := r.publishes_perform hcall
      have hfeed := congrArg Feed.published hpublishes.feed_eq
      exact ⟨events, hfeed, hpublishes.transitions, hpublishes.nodup⟩
  | subscribe =>
      exact ⟨[], (List.append_nil _).symm, .none r.signals, .nil⟩
  | drain j =>
      have hpublished : (r.drain j).2.feed.published = r.feed.published ++ [] := by
        rw [published_drain, List.append_nil]
      exact ⟨[], hpublished, .none r.signals, .nil⟩

/-- Steps publish the transitions that they make, for each service as many as there are. -/
theorem transitions_followAll (r : AvailabilityRegistry) {steps : List FeedStep}
    (h : .call .reset ∉ steps) :
    ∃ events, (r.followAll steps).feed.published = r.feed.published ++ events ∧
      Transitions r.signals events (r.followAll steps).signals ∧
      ∀ s, events.countP (fun e => e.service = s) = r.changes s steps := by
  induction steps generalizing r with
  | nil =>
      exact ⟨[], (List.append_nil _).symm, .none r.signals, fun s => rfl⟩
  | cons step rest ih =>
      have hstep : step ≠ .call .reset := fun hs => h (hs ▸ List.mem_cons_self)
      have hrest : .call .reset ∉ rest := fun hr => h (List.mem_cons_of_mem _ hr)
      -- What the first step publishes comes before all that the others publish.
      obtain ⟨now, hnow, hchanged, hnodup⟩ := r.transitions_follow hstep
      obtain ⟨later, hlater, hchanges, hcount⟩ := ih (r.follow step) hrest
      have hall : ((r.follow step).followAll rest).feed.published =
          r.feed.published ++ (now ++ later) := by
        rw [hlater, hnow, List.append_assoc]
      refine ⟨now ++ later, hall, hchanged.append hchanges, ?_⟩
      intro s
      have hfirst := hchanged.countP_service hnodup s
      rw [List.countP_append, hfirst, hcount s]
      rfl

/-! ## What is received -/

/-- A subscriber whose unread events are all kept receives these. -/
theorem drain_of_kept (hposition : r.feed.positions[i]? = some position)
    (hkept : r.feed.undelivered i ≤ Feed.capacity) :
    (r.drain i).1 = (r.feed.published.drop position).map .event := by
  have hunread : r.feed.published.length - position ≤ Feed.capacity := by
    simpa [Feed.undelivered, hposition] using hkept
  have hnotLost : ¬ position < r.feed.published.length - Feed.capacity := by
    omega
  simp [drain, Feed.drain, hposition, Feed.pending, hnotLost]

theorem position_drain (hposition : r.feed.positions[i]? = some position) :
    (r.drain i).2.feed.positions[i]? = some r.feed.published.length := by
  have hlt : i < r.feed.positions.length := (List.getElem?_eq_some_iff.1 hposition).1
  simp [drain, Feed.drain, hlt]

/-- Only its own reading moves a subscriber. -/
theorem position_follow {step : FeedStep} (hposition : r.feed.positions[i]? = some position)
    (hstep : step ≠ .drain i) (hreset : step ≠ .call .reset) :
    (r.follow step).feed.positions[i]? = some position := by
  cases step with
  | call c =>
      have hcall : c ≠ .reset := fun hc => hreset (congrArg FeedStep.call hc)
      obtain ⟨events, hpublishes⟩ := r.publishes_perform hcall
      have hpositions := congrArg Feed.positions hpublishes.feed_eq
      exact (congrArg (fun positions => positions[i]?) hpositions).trans hposition
  | subscribe =>
      have hlt : i < r.feed.positions.length := (List.getElem?_eq_some_iff.1 hposition).1
      exact (List.getElem?_append_left hlt).trans hposition
  | drain j =>
      have hother : j ≠ i := fun h => hstep (congrArg FeedStep.drain h)
      simp only [follow, drain, Feed.drain]
      split
      · exact hposition
      · exact (List.getElem?_set_ne hother).trans hposition

/-- A subscriber that never has more unread events than the feed keeps has received, after a last
reading, all that was published behind its position. -/
theorem deliveries_drained {steps : List FeedStep}
    (hposition : r.feed.positions[i]? = some position)
    (hbehind : position ≤ r.feed.published.length) (hreset : .call .reset ∉ steps)
    (hkept : ∀ n, (r.followAll (steps.take n)).feed.undelivered i ≤ Feed.capacity) :
    r.deliveries i (steps ++ [.drain i]) =
      ((r.followAll steps).feed.published.drop position).map .event := by
  -- The position moves with each reading, so it is general in this induction.
  induction steps generalizing r position with
  | nil =>
      have hlast := drain_of_kept hposition (hkept 0)
      simpa [deliveries, followAll] using hlast
  | cons step rest ih =>
      have hstep : step ≠ .call .reset := fun hs => hreset (hs ▸ List.mem_cons_self)
      have hrest : .call .reset ∉ rest := fun hr => hreset (List.mem_cons_of_mem _ hr)
      have hkeptLater : ∀ n, ((r.follow step).followAll (rest.take n)).feed.undelivered i ≤
          Feed.capacity := fun n => hkept (n + 1)
      obtain ⟨now, hnow, _, _⟩ := r.transitions_follow hstep
      by_cases hown : step = .drain i
      · subst hown
        -- What was unread before is received now, and the rest is published after it.
        let next := r.follow (.drain i)
        have hnextPosition : next.feed.positions[i]? = some r.feed.published.length :=
          position_drain hposition
        have hnextPublished : next.feed.published = r.feed.published := published_drain r i
        have hnextBehind : r.feed.published.length ≤ next.feed.published.length := by
          rw [hnextPublished]
        obtain ⟨later, hpublished, _, _⟩ := next.transitions_followAll hrest
        have hall : (next.followAll rest).feed.published = r.feed.published ++ later := by
          rw [hpublished, hnextPublished]
        have hreceived := drain_of_kept hposition (hkept 0)
        have hlater := ih hnextPosition hnextBehind hrest hkeptLater
        rw [hall, List.drop_left] at hlater
        calc
          r.deliveries i (.drain i :: rest ++ [.drain i])
              = (r.drain i).1 ++ next.deliveries i (rest ++ [.drain i]) := by
                simp [deliveries, next]
          _ = (r.feed.published.drop position).map .event ++ later.map .event := by
                rw [hreceived, hlater]
          _ = ((next.followAll rest).feed.published.drop position).map .event := by
                rw [hall, List.drop_append_of_le_length hbehind, List.map_append]
      -- Whatever else happens, the subscriber stays where it is and only has more to read.
      · have hnext := position_follow hposition hown hstep
        have hlonger : position ≤ (r.follow step).feed.published.length := by
          rw [hnow, List.length_append]
          omega
        have hlater := ih hnext hlonger hrest hkeptLater
        have hnothing : r.deliveries i (step :: rest ++ [.drain i]) =
            (r.follow step).deliveries i (rest ++ [.drain i]) := by
          simp [deliveries, hown]
        exact hnothing.trans hlater

/-! ## What a subscriber knows -/

/-- A subscriber that never has more than 64 unread events receives, up to a last reading, events
only. Replayed over the table as it was when the subscriber came, they give the current table; the
health signals told of a service alternate, from the one it had; an override is told with the mode
before it and another one after it; and of each service there is one event for each change. -/
theorem transitions_notified_once (r : AvailabilityRegistry) (steps : List FeedStep)
    (hreset : .call .reset ∉ steps)
    (hkept : ∀ n, (r.subscribe.2.followAll (steps.take n)).feed.undelivered r.subscribe.1 ≤ 64) :
    let subscriber := r.subscribe.1
    let start := r.subscribe.2
    ∃ events : List AvailabilityEvent,
      start.deliveries subscriber (steps ++ [.drain subscriber]) = events.map .event ∧
      replay start.signals events = (start.followAll (steps ++ [.drain subscriber])).signals ∧
      (∀ s, ((start.status s).healthy :: polarities s events).IsChain (· ≠ ·)) ∧
      (∀ before s previous current after,
        events = before ++ .overrideChanged s previous current :: after →
          previous ≠ current ∧ previous = ((replay start.signals before).get s).override) ∧
      ∀ s, events.countP (fun e => e.service = s) = start.changes s steps := by
  intro subscriber start
  have hposition : start.feed.positions[subscriber]? = some r.feed.published.length := by
    simp [start, subscriber, subscribe, Feed.subscribe]
  obtain ⟨events, hpublished, htransitions, hcount⟩ := start.transitions_followAll hreset
  have hreceived := deliveries_drained hposition le_rfl hreset hkept
  have hlast : (start.followAll (steps ++ [.drain subscriber])).signals =
      (start.followAll steps).signals := by
    rw [followAll, List.foldl_append]
    exact signals_drain (start.followAll steps) subscriber
  refine ⟨events, ?_, ?_, ?_, ?_, hcount⟩
  · have hnew : (start.followAll steps).feed.published.drop r.feed.published.length = events := by
      rw [hpublished]
      exact List.drop_left
    rw [hreceived, hnew]
  · rw [hlast]
    exact htransitions.replay_eq
  · intro s
    have halternate := htransitions.alternate s
    rwa [get_signals] at halternate
  · rintro before s previous current after rfl
    have hchange := htransitions.changes_replay
    exact ⟨hchange.2, hchange.1.symm⟩

/-- The database is marked twice in one list and then lost, its override comes and goes, and another
subscriber comes and reads in between. -/
def watchedChanges : List FeedStep :=
  [.call (.markAvailable [.database, .cache, .database]),
    .subscribe,
    .call (.setOverride .database .forceEnable),
    .call (.setOverride .database .forceEnable),
    .call (.updateHealth 10 .database false (some "refused")),
    .drain 0,
    .drain 1,
    .call (.setOverride .database .noOverride),
    .call (.updateHealth 20 .cache true none)]

theorem transitions_notified_once_watched :
    let start := (new (.ofConfigured 1 1)).subscribe.2
    .call .reset ∉ watchedChanges ∧
    (∀ n, (start.followAll (watchedChanges.take n)).feed.undelivered 0 ≤ 64) ∧
    ∃ events : List AvailabilityEvent,
      start.deliveries 0 (watchedChanges ++ [.drain 0]) = events.map .event ∧
      replay start.signals events =
        (start.followAll (watchedChanges ++ [.drain 0])).signals ∧
      events.countP (fun e => e.service = .database) = 4 ∧
      events.countP (fun e => e.service = .cache) = 1 := by
  have hreset : .call .reset ∉ watchedChanges := by
    decide
  have hshort : ∀ n ≤ watchedChanges.length,
      ((new (.ofConfigured 1 1)).subscribe.2.followAll (watchedChanges.take n)).feed.undelivered
        (new (.ofConfigured 1 1)).subscribe.1 ≤ 64 := by
    decide +kernel
  have hkept : ∀ n,
      ((new (.ofConfigured 1 1)).subscribe.2.followAll (watchedChanges.take n)).feed.undelivered
        (new (.ofConfigured 1 1)).subscribe.1 ≤ 64 := by
    intro n
    by_cases hn : n ≤ watchedChanges.length
    · exact hshort n hn
    · rw [List.take_of_length_le (by omega), ← List.take_length (l := watchedChanges)]
      exact hshort _ le_rfl
  obtain ⟨events, hreceived, hreplay, _, _, hcount⟩ :=
    transitions_notified_once (new (.ofConfigured 1 1)) watchedChanges hreset hkept
  exact ⟨hreset, hkept, events, hreceived, hreplay, (hcount .database).trans (by decide +kernel),
    (hcount .cache).trans (by decide +kernel)⟩

end AvailabilityRegistry

end ServicePlane
