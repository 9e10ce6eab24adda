import Mathlib.Data.List.Nodup
import ServicePlane.Proofs.Monitor.Cycle
import ServicePlane.Proofs.Plane.Happenings

/-!
# Turns of a monitor

A cycle belongs to a caller or to a background loop, and who cannot begin one waits for a turn.
This file says how those who have or want a turn fit the loops and the requests of a monitor, and
that this stays so while the clock runs.

* `Monitor.owners` — who has the turn and who waits for it, in order;
* `Monitor.Sound` — nobody is there twice; the loops among them are the ones that are alive and do
  not sleep, the callers are the ones without results; and there is at most one loop;
* `Plane.Happens.sound` — everything that happens by itself keeps this;
* `Plane.Onward` — what it leaves alone.
-/

namespace ServicePlane

namespace Monitor

variable {m : Monitor} {f : CycleInFlight} {l : MonitorLoop}

/-- Who has the turn and who waits for it, in order. -/
def owners (m : Monitor) : List CycleOwner :=
  (m.flight.map (·.owner)).toList ++ m.queue

theorem owners_of_flight (h : m.flight = some f) : m.owners = f.owner :: m.queue := by
  rw [owners, h]
  rfl

theorem owners_of_free (h : m.flight = none) : m.owners = m.queue := by
  rw [owners, h]
  rfl

theorem owners_abort (m : Monitor) (id : Nat) :
    (m.abort id).owners = m.owners.filter (· != .loop id) := by
  rw [owners, owners, List.filter_append]
  cases hflight : m.flight with
  | none =>
      simp [abort, hflight]
  | some f =>
      by_cases hf : f.owner = .loop id <;> simp [abort, hflight, hf, Option.filter]

/-- Only the cycle of the loop that ends is dropped. -/
theorem flight_abort (m : Monitor) (id : Nat) :
    (m.abort id).flight = m.flight ∨ (m.abort id).flight = none := by
  rw [abort]
  cases hflight : m.flight with
  | none =>
      exact .inl rfl
  | some f =>
      by_cases howner : f.owner = .loop id
      · exact .inr (by simp [Option.filter, howner])
      · exact .inl (by simp [Option.filter, howner])

/-- How the turns of a monitor fit its loops and the requests that it has taken. -/
structure Sound (m : Monitor) : Prop where
  owners_nodup : m.owners.Nodup
  loop_mem_iff : ∀ id, .loop id ∈ m.owners ↔ ∃ l ∈ m.loops, l.id = id ∧ l.phase = .cycling
  caller_mem_iff : ∀ t, .caller t ∈ m.owners ↔ t < m.nextTicket ∧ t ∉ m.delivered.map Prod.fst
  delivered_lt : ∀ t ∈ m.delivered.map Prod.fst, t < m.nextTicket
  one_loop : m.loops.length ≤ 1

namespace Sound

theorem new (settings : MonitorSettings) : (Monitor.new settings).Sound where
  owners_nodup := .nil
  loop_mem_iff := by
    simp [Monitor.new, owners]
  caller_mem_iff := by
    simp [Monitor.new, owners]
  delivered_lt := by
    simp [Monitor.new]
  one_loop := Nat.zero_le 1

/-- What a monitor checks, publishes and will stop does not matter for the turns. -/
theorem of_eq {m' : Monitor} (h : m.Sound) (howners : m'.owners = m.owners)
    (hloops : m'.loops = m.loops) (hticket : m'.nextTicket = m.nextTicket)
    (hdelivered : m'.delivered = m.delivered) : m'.Sound where
  owners_nodup := howners ▸ h.owners_nodup
  loop_mem_iff := by
    rw [howners, hloops]
    exact h.loop_mem_iff
  caller_mem_iff := by
    rw [howners, hticket, hdelivered]
    exact h.caller_mem_iff
  delivered_lt := by
    rw [hticket, hdelivered]
    exact h.delivered_lt
  one_loop := hloops ▸ h.one_loop

theorem loops_eq (h : m.Sound) (hloop : l ∈ m.loops) : m.loops = [l] := by
  have hone := h.one_loop
  cases hloops : m.loops with
  | nil =>
      rw [hloops] at hloop
      cases hloop
  | cons first rest =>
      rw [hloops] at hone hloop
      have hrest : rest = [] := by
        simpa using hone
      subst hrest
      rw [List.mem_singleton.1 hloop]

theorem loops_cases (h : m.Sound) : m.loops = [] ∨ ∃ l, m.loops = [l] := by
  cases hloops : m.loops with
  | nil =>
      exact .inl rfl
  | cons l rest =>
      have hmem : l ∈ m.loops := by
        rw [hloops]
        exact List.mem_cons_self
      exact .inr ⟨l, hloops ▸ h.loops_eq hmem⟩

/-- A sleeping loop has no turn and does not wait for one. -/
theorem not_owner_of_sleeping {wakeAt : Nat} (h : m.Sound) (hloop : l ∈ m.loops)
    (hsleeps : l.phase = .sleeping wakeAt) : .loop l.id ∉ m.owners := by
  intro howner
  rcases (h.loop_mem_iff l.id).1 howner with ⟨other, hother, _, hcycling⟩
  rw [h.loops_eq hloop, List.mem_singleton] at hother
  rw [hother, hsleeps] at hcycling
  cases hcycling

/-- A sleeping loop that ends takes no turn away. -/
theorem abort_of_sleeping {wakeAt : Nat} (h : m.Sound) (hloop : l ∈ m.loops)
    (hsleeps : l.phase = .sleeping wakeAt) : m.abort l.id = { m with loops := [] } := by
  have hnot := h.not_owner_of_sleeping hloop hsleeps
  rw [owners, List.mem_append, not_or] at hnot
  have hqueue : m.queue.filter (fun o => o != .loop l.id) = m.queue := by
    rw [List.filter_eq_self]
    intro o ho
    have hne : o ≠ .loop l.id := fun hsame => hnot.2 (hsame ▸ ho)
    simpa using hne
  have hflight : m.flight.filter (fun f => f.owner != .loop l.id) = m.flight := by
    cases hf : m.flight with
    | none =>
        rfl
    | some f =>
        have hne : f.owner ≠ .loop l.id := by
          intro hsame
          apply hnot.1
          simp [hf, hsame]
        simp [Option.filter, hne]
  rw [Monitor.abort, hqueue, hflight, h.loops_eq hloop]
  simp

/-- A loop that has the turn does not sleep. -/
theorem cycling_of_owner (h : m.Sound) {id : Nat} (howner : .loop id ∈ m.owners) :
    ∃ l, m.loops = [l] ∧ l.id = id ∧ l.phase = .cycling := by
  rcases (h.loop_mem_iff id).1 howner with ⟨l, hloop, hid, hcycling⟩
  exact ⟨l, h.loops_eq hloop, hid, hcycling⟩

/-- A monitor without loops has no loop among its owners. -/
theorem not_loop_of_nil (h : m.Sound) (hloops : m.loops = []) (id : Nat) :
    .loop id ∉ m.owners := by
  intro howner
  rcases (h.loop_mem_iff id).1 howner with ⟨l, hloop, _⟩
  rw [hloops] at hloop
  cases hloop

theorem queue_nodup (h : m.Sound) : m.queue.Nodup :=
  (List.nodup_append.1 h.owners_nodup).2.1

/-- Those who wait are the owners but the one that has the turn. -/
theorem mem_queue_iff (h : m.Sound) (hflight : m.flight = some f) (o : CycleOwner) :
    o ∈ m.queue ↔ o ∈ m.owners ∧ o ≠ f.owner := by
  have howners : m.owners = f.owner :: m.queue := owners_of_flight hflight
  have hnodup := h.owners_nodup
  rw [howners] at hnodup
  have hnot : f.owner ∉ m.queue := (List.nodup_cons.1 hnodup).1
  rw [howners, List.mem_cons]
  constructor
  · intro ho
    exact ⟨.inr ho, fun hsame => hnot (hsame ▸ ho)⟩
  · rintro ⟨hsame | ho, hne⟩
    · exact absurd hsame hne
    · exact ho

/-- A caller whose cycle has landed has its results. -/
theorem landed_caller {ticket : Nat} (h : m.Sound) (hflight : m.flight = some f)
    (howner : f.owner = .caller ticket) :
    ({ m with
      flight := none
      delivered := m.delivered ++ [(ticket, f.results)] } : Monitor).Sound where
  owners_nodup := h.queue_nodup
  loop_mem_iff := by
    intro id
    refine (h.mem_queue_iff hflight (.loop id)).trans ?_
    rw [howner, h.loop_mem_iff id]
    simp
  caller_mem_iff := by
    intro t
    refine (h.mem_queue_iff hflight (.caller t)).trans ?_
    rw [howner, h.caller_mem_iff t]
    simp [and_assoc]
  delivered_lt := by
    have howned : .caller ticket ∈ m.owners := by
      rw [owners_of_flight hflight, howner]
      exact List.mem_cons_self
    intro t ht
    rw [List.map_append, List.mem_append] at ht
    rcases ht with hbefore | hnow
    · exact h.delivered_lt t hbefore
    · rw [List.mem_singleton.1 hnow]
      exact ((h.caller_mem_iff ticket).1 howned).1
  one_loop := h.one_loop

/-- A loop whose cycle has landed sleeps. -/
theorem landed_loop {id : Nat} (h : m.Sound) (hflight : m.flight = some f)
    (howner : f.owner = .loop id) (wakeAt : Nat) :
    ({ m with flight := none }.mapLoop id fun l =>
      { l with phase := .sleeping wakeAt }).Sound := by
  have howned : .loop id ∈ m.owners := by
    rw [owners_of_flight hflight, howner]
    exact List.mem_cons_self
  rcases h.cycling_of_owner howned with ⟨l, hloops, hid, _⟩
  have hsleeps : ({ m with flight := none }.mapLoop id fun l =>
      { l with phase := .sleeping wakeAt }).loops = [{ l with phase := .sleeping wakeAt }] := by
    simp [mapLoop, hloops, hid]
  constructor
  · exact h.queue_nodup
  · intro id'
    -- It was the only loop, so none waits and none is cycling now.
    rw [hsleeps]
    constructor
    · intro hqueued
      rcases (h.mem_queue_iff hflight (.loop id')).1 hqueued with ⟨howns, hne⟩
      rcases (h.loop_mem_iff id').1 howns with ⟨other, hother, hid', _⟩
      rw [hloops, List.mem_singleton] at hother
      refine absurd ?_ hne
      rw [howner, ← hid', hother, hid]
    · rintro ⟨other, hother, _, hcycling⟩
      rw [List.mem_singleton.1 hother] at hcycling
      cases hcycling
  · intro t
    refine (h.mem_queue_iff hflight (.caller t)).trans ?_
    rw [howner, h.caller_mem_iff t]
    simp [mapLoop]
  · exact h.delivered_lt
  · rw [hsleeps]
    exact Nat.le_refl _

/-- A cycle that has landed gives its turn away. -/
theorem landed (h : m.Sound) (hflight : m.flight = some f) (now : Nat) :
    (m.landed f now).Sound := by
  rw [Monitor.landed]
  cases howner : f.owner with
  | caller ticket =>
      exact h.landed_caller hflight howner
  | loop id =>
      exact h.landed_loop hflight howner _

/-- Ending a loop takes its turn away. -/
theorem abort (h : m.Sound) (id : Nat) : (m.abort id).Sound where
  owners_nodup := by
    rw [owners_abort]
    exact h.owners_nodup.filter _
  loop_mem_iff := by
    intro id'
    rw [owners_abort, List.mem_filter, h.loop_mem_iff id']
    constructor
    · rintro ⟨⟨l, hloop, hid, hcycling⟩, hother⟩
      have hne : l.id ≠ id := by
        intro hl
        simp [← hid, hl] at hother
      exact ⟨l, List.mem_filter.2 ⟨hloop, by simpa using hne⟩, hid, hcycling⟩
    · rintro ⟨l, hloop, hid, hcycling⟩
      rcases List.mem_filter.1 hloop with ⟨hmem, hne⟩
      have hother : id' ≠ id := by
        rw [← hid]
        simpa using hne
      exact ⟨⟨l, hmem, hid, hcycling⟩, by simpa using hother⟩
  caller_mem_iff := by
    intro t
    rw [owners_abort, List.mem_filter]
    simpa [Monitor.abort] using h.caller_mem_iff t
  delivered_lt := h.delivered_lt
  one_loop := Nat.le_trans (List.length_filter_le _ _) h.one_loop

/-- A loop that wakes waits for its turn behind all others. -/
theorem woken {wakeAt : Nat} (h : m.Sound) (hloop : l ∈ m.loops)
    (hsleeps : l.phase = .sleeping wakeAt) :
    ({ m.mapLoop l.id (fun l => { l with phase := .cycling }) with
      queue := m.queue ++ [.loop l.id] } : Monitor).Sound := by
  have hloops := h.loops_eq hloop
  have hafter : ({ m.mapLoop l.id (fun l => { l with phase := .cycling }) with
      queue := m.queue ++ [.loop l.id] } : Monitor).owners = m.owners ++ [.loop l.id] :=
    (List.append_assoc _ _ _).symm
  have hcycling : ({ m.mapLoop l.id (fun l => { l with phase := .cycling }) with
      queue := m.queue ++ [.loop l.id] } : Monitor).loops = [{ l with phase := .cycling }] := by
    simp [mapLoop, hloops]
  constructor
  · rw [hafter]
    refine List.nodup_append.2 ⟨h.owners_nodup, List.nodup_singleton _, ?_⟩
    -- A sleeping loop is not there yet, so nobody is there twice.
    intro o ho o' ho' hsame
    rw [hsame, List.mem_singleton.1 ho'] at ho
    exact h.not_owner_of_sleeping hloop hsleeps ho
  · intro id
    rw [hafter, hcycling, List.mem_append, h.loop_mem_iff id, hloops]
    simp [hsleeps, eq_comm]
  · intro t
    rw [hafter, List.mem_append, h.caller_mem_iff t]
    simp [mapLoop]
  · exact h.delivered_lt
  · rw [hcycling]
    exact Nat.le_refl _

end Sound

end Monitor

namespace Plane

variable {p q r : Plane}

/-! ## What keeps the turns in order -/

theorem Happens.sound (h : p.Happens q) (hsound : p.monitor.Sound) : q.monitor.Sound := by
  cases h with
  | landing hflight hover =>
      rw [land_eq]
      exact hsound.landed hflight p.now
  | departing hfree hqueue =>
      rw [beginCycle_eq]
      refine hsound.of_eq ?_ rfl rfl rfl
      -- The first in the queue goes on to have the turn.
      rw [Monitor.owners_of_free hfree, hqueue]
      rfl
  | retiring hloop hasked hsleeps =>
      exact hsound.abort _
  | waking hloop hsleeps hdue =>
      exact hsound.woken hloop hsleeps
  | passing hquiet hdeadline =>
      exact hsound

/-! ## What is left alone -/

/-- What stays as it is while the clock runs. Nobody new asks for a turn, and only a loop that was
asked to stop ends. -/
structure Onward (p q : Plane) : Prop where
  now_le : p.now ≤ q.now
  settings_eq : q.monitor.settings = p.monitor.settings
  running_eq : q.monitor.running = p.monitor.running
  handle_eq : q.monitor.handle = p.monitor.handle
  nextTicket_eq : q.monitor.nextTicket = p.monitor.nextTicket
  caller_mem : ∀ t, .caller t ∈ q.monitor.owners → .caller t ∈ p.monitor.owners
  loop_mem : ∀ l ∈ q.monitor.loops, ∃ l' ∈ p.monitor.loops,
    l'.id = l.id ∧ l'.stopRequested = l.stopRequested
  ids_eq : (∀ l ∈ p.monitor.loops, l.stopRequested = false) →
    q.monitor.loops.map (·.id) = p.monitor.loops.map (·.id)

namespace Onward

theorem refl (p : Plane) : p.Onward p where
  now_le := Nat.le_refl p.now
  settings_eq := rfl
  running_eq := rfl
  handle_eq := rfl
  nextTicket_eq := rfl
  caller_mem := fun _ h => h
  loop_mem := fun l hl => ⟨l, hl, rfl, rfl⟩
  ids_eq := fun _ => rfl

/-- Nobody was asked to stop meanwhile. -/
theorem unasked (h : p.Onward q) (hunasked : ∀ l ∈ p.monitor.loops, l.stopRequested = false) :
    ∀ l ∈ q.monitor.loops, l.stopRequested = false := by
  intro l hl
  rcases h.loop_mem l hl with ⟨l', hl', _, hsame⟩
  rw [← hsame]
  exact hunasked l' hl'

theorem trans (h : p.Onward q) (h' : q.Onward r) : p.Onward r where
  now_le := Nat.le_trans h.now_le h'.now_le
  settings_eq := h'.settings_eq.trans h.settings_eq
  running_eq := h'.running_eq.trans h.running_eq
  handle_eq := h'.handle_eq.trans h.handle_eq
  nextTicket_eq := h'.nextTicket_eq.trans h.nextTicket_eq
  caller_mem := fun t ht => h.caller_mem t (h'.caller_mem t ht)
  loop_mem := by
    intro l hl
    rcases h'.loop_mem l hl with ⟨l', hl', hid', hasked'⟩
    rcases h.loop_mem l' hl' with ⟨l'', hl'', hid'', hasked''⟩
    exact ⟨l'', hl'', hid''.trans hid', hasked''.trans hasked'⟩
  ids_eq := fun hunasked => (h'.ids_eq (h.unasked hunasked)).trans (h.ids_eq hunasked)

/-- A change of the phase of one loop. -/
theorem mapLoop_phase {m : Monitor} {id : Nat} {phase : LoopPhase} :
    (∀ l ∈ (m.mapLoop id fun l => { l with phase := phase }).loops, ∃ l' ∈ m.loops,
      l'.id = l.id ∧ l'.stopRequested = l.stopRequested) ∧
    (m.mapLoop id fun l => { l with phase := phase }).loops.map (·.id) = m.loops.map (·.id) := by
  constructor
  · intro l hl
    rcases List.mem_map.1 hl with ⟨l', hl', rfl⟩
    refine ⟨l', hl', ?_⟩
    split <;> exact ⟨rfl, rfl⟩
  · rw [Monitor.mapLoop, List.map_map]
    apply List.map_congr_left
    intro l _
    by_cases hid : l.id = id <;> simp [hid]

end Onward

theorem Happens.onward (h : p.Happens q) : p.Onward q := by
  cases h with
  | @landing f hflight hover =>
      have howners : p.monitor.owners = f.owner :: p.monitor.queue :=
        Monitor.owners_of_flight hflight
      rw [land_eq, Monitor.landed]
      cases f.owner with
      | caller ticket =>
          exact { Onward.refl p with
            caller_mem := fun t ht => howners ▸ List.mem_cons_of_mem _ ht }
      | loop id =>
          exact { Onward.refl p with
            caller_mem := fun t ht => howners ▸ List.mem_cons_of_mem _ ht
            loop_mem := Onward.mapLoop_phase.1
            ids_eq := fun _ => Onward.mapLoop_phase.2 }
  | @departing owner waiting hfree hqueue =>
      have howners : p.monitor.owners = owner :: waiting :=
        (Monitor.owners_of_free hfree).trans hqueue
      rw [beginCycle_eq]
      exact { Onward.refl p with caller_mem := fun t ht => howners ▸ ht }
  -- Only here a loop ends, and only because it was asked to.
  | @retiring l wakeAt hloop hasked hsleeps =>
      have howners := Monitor.owners_abort p.monitor l.id
      exact { Onward.refl p with
        caller_mem := fun t ht => (List.mem_filter.1 (howners ▸ ht)).1
        loop_mem := fun l' hl' => ⟨l', (List.mem_filter.1 hl').1, rfl, rfl⟩
        ids_eq := fun hunasked => by
          rw [hunasked l hloop] at hasked
          cases hasked }
  | @waking l wakeAt hloop hsleeps hdue =>
      refine { Onward.refl p with
        caller_mem := ?_
        loop_mem := Onward.mapLoop_phase.1
        ids_eq := fun _ => Onward.mapLoop_phase.2 }
      intro t ht
      have hmem : .caller t ∈ p.monitor.owners ++ [.loop l.id] := by
        rw [Monitor.owners, List.append_assoc]
        exact ht
      simpa using hmem
  | passing hquiet hdeadline =>
      exact { Onward.refl p with now_le := Nat.le_max_left _ _ }

/-! ## The clock -/

/-- What can be done at an instant takes no time. -/
theorem now_of_tick (h : p.tick? = some q) : q.now = p.now := by
  have hnext : p.Happens q := happens_of_tick h
  cases hnext with
  | landing hflight hover =>
      rw [land_eq]
  | departing hfree hqueue =>
      rw [beginCycle_eq]
  | retiring hloop hasked hsleeps =>
      rfl
  | waking hloop hsleeps hdue =>
      rfl
  | passing hquiet hdeadline =>
      rw [hquiet] at h
      cases h

theorem now_le_of_next {last : Nat} (h : p.next? (some last) = some q) (hnow : p.now ≤ last) :
    q.now ≤ last := by
  rw [next?] at h
  split at h
  · rename_i q' htick
    cases h
    rw [now_of_tick htick]
    exact hnow
  · split at h
    · cases h
    · rename_i t hdeadline
      split at h
      · rename_i hwithin
        cases h
        have ht : t ≤ last := by
          simpa [within] using hwithin
        exact Nat.max_le.2 ⟨hnow, ht⟩
      · cases h

section RunSteps

variable {goal : Plane → Bool} {limit : Option Nat} {steps : Nat}

theorem sound_runSteps (h : p.monitor.Sound) : (runSteps goal limit steps p).monitor.Sound :=
  runSteps_induction (fun _ _ hsound hnext => (happens_of_next hnext).sound hsound) h

theorem onward_runSteps (p : Plane) : p.Onward (runSteps goal limit steps p) :=
  runSteps_induction (fun _ _ hkept hnext => hkept.trans (happens_of_next hnext).onward) (.refl p)

/-- The clock stops at the limit of a run. -/
theorem now_runSteps_le {last : Nat} (h : p.now ≤ last) :
    (runSteps goal (some last) steps p).now ≤ last :=
  runSteps_induction (P := fun q => q.now ≤ last) (fun _ _ hnow hnext => now_le_of_next hnext hnow)
    h

end RunSteps

end Plane

end ServicePlane
