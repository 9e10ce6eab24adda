import ServicePlane.Proofs.Monitor.Recording

/-!
# What drops a cycle, and what is left of it

A cycle in flight ends with its loop, when the loop is aborted by a stop whose grace is over, or
with its monitor. Nothing of it is recorded then, and nothing of it is recorded later: what is left
is a stopped monitor, to which nothing happens by itself, and a start finds it as any other.

* `dropped_by_call` — no other call drops a cycle;
* `recorded_by_advance` — a cycle in flight is recorded if it is only given its time;
* `performAll_advance_of_stopped` — nothing happens to a stopped monitor by itself;
* `cycles_all_or_nothing` — all of it, for any calls.
-/

namespace ServicePlane

namespace Plane

variable {p q : Plane} {way : List Moment} {goal : Plane → Bool} {limit : Option Nat}
  {steps : Nat} {f : CycleInFlight}

/-! ## What drops a cycle -/

theorem calm_moments : ∀ m ∈ moments goal limit steps p, m.cause = .clock := by
  induction steps generalizing p with
  | zero =>
      intro m hm
      cases hm
  | succ steps ih =>
      intro m hm
      rw [moments] at hm
      split at hm
      · cases hm
      · split at hm
        · rcases List.mem_cons.1 hm with rfl | hm
          · rfl
          · exact ih m hm
        · cases hm

theorem calm_cyclesCourse (p : Plane) (count : Nat) :
    ∀ m ∈ p.cyclesCourse count, m.cause ≠ .force := by
  intro m hm
  rcases List.mem_cons.1 hm with rfl | hm
  · exact Cause.noConfusion
  · rw [calm_moments m hm]
    exact Cause.noConfusion

theorem calm_awaitedCourse (p : Plane) (id : Nat) :
    ∀ m ∈ p.awaitedCourse id, m.cause ≠ .force := by
  intro m hm
  rcases List.mem_cons.1 hm with rfl | hm
  · exact Cause.noConfusion
  · split at hm
    · rw [calm_moments m hm]
      exact Cause.noConfusion
    · cases hm

/-- Only force drops a cycle, and only one that is in flight. -/
theorem dropped_mem_eventsOf {m : Moment} (h : .dropped f ∈ p.eventsOf m) :
    m.cause = .force ∧ p.monitor.flight = some f := by
  rw [eventsOf] at h
  split at h
  · simp at h
  · simp at h
  · simp at h
  · rename_i g hcause hflight hfree
    have hsame : f = g := by
      simpa using h
    exact ⟨hcause, hsame ▸ hflight⟩
  · cases h

theorem not_dropped_of_calm (hcalm : ∀ m ∈ way, m.cause ≠ .force) :
    .dropped f ∉ p.eventsAlong way := by
  induction way generalizing p with
  | nil =>
      intro hdropped
      cases hdropped
  | cons m rest ih =>
      intro hdropped
      rcases List.mem_append.1 hdropped with hnow | hlater
      · exact hcalm m List.mem_cons_self (dropped_mem_eventsOf hnow).1
      · exact ih (fun m' hm' => hcalm m' (List.mem_cons_of_mem m hm')) hlater

/-- All calls but a stop and a replacement go their way without force. -/
theorem calm_course {call : PlaneCall} (hstop : call ≠ .stop) (hreplace : call ≠ .replaceMonitor) :
    ∀ m ∈ p.course call, m.cause ≠ .force := by
  have huser : ∀ (q : Plane), ∀ m ∈ [(⟨.user, q⟩ : Moment)], m.cause ≠ .force := by
    intro q m hm
    rw [List.mem_singleton.1 hm]
    exact Cause.noConfusion
  have hclock : ∀ (goal : Plane → Bool) (limit : Option Nat) (steps : Nat),
      ∀ m ∈ moments goal limit steps p, m.cause ≠ .force := by
    intro goal limit steps m hm
    rw [calm_moments m hm]
    exact Cause.noConfusion
  cases call with
  | stop =>
      exact absurd rfl hstop
  | replaceMonitor =>
      exact absurd rfl hreplace
  | runCycles count =>
      exact calm_cyclesCourse p count
  | triggerCheck =>
      exact calm_cyclesCourse _ 1
  | start =>
      rw [course]
      split
      · exact huser _
      · intro m hm
        rcases List.mem_append.1 hm with hm | hm
        · exact calm_cyclesCourse _ 1 m hm
        · exact huser _ m hm
  | settle =>
      exact hclock _ _ _
  | advance milliseconds =>
      intro m hm
      rcases List.mem_append.1 hm with hm | hm
      · exact hclock _ _ _ m hm
      · exact huser _ m hm
  | registerCheck s check =>
      exact huser _
  | changeNetwork network =>
      exact huser _
  | _ =>
      intro m hm
      rw [List.mem_singleton.1 hm]
      exact Cause.noConfusion

/-- A cycle in flight while a stop waits is that of the loop which the stop waits for. -/
theorem owner_of_awaited {id : Nat} (h : p.monitor.AtRest) (hhandle : p.monitor.handle = some id)
    (hflight : (p.awaited id).monitor.flight = some f) : f.owner = .loop id := by
  have howned : f.owner ∈ (p.awaited id).monitor.owners := by
    rw [Monitor.owners_of_flight hflight]
    exact List.mem_cons_self
  cases howner : f.owner with
  | caller t =>
      rw [howner] at howned
      exact absurd ((onward_awaited p id).caller_mem t howned) (h.no_caller t)
  | loop id' =>
      rw [howner] at howned
      have hsound := sound_awaited h.sound id
      rcases hsound.cycling_of_owner howned with ⟨l, hloops, hid, _⟩
      have hmem : l ∈ (p.awaited id).monitor.loops := by
        rw [hloops]
        exact List.mem_singleton_self l
      rw [← hid, id_of_mem_awaited h hhandle hmem]

/-- A cycle that a stop drops is that of the loop, which has not ended when the grace is over. -/
theorem dropped_by_stop (h : p.monitor.AtRest)
    (hdropped : .dropped f ∈ p.eventsAlong (p.course .stop)) :
    p.stop.2.now = p.now + p.monitor.settings.grace ∧
      ∃ id, p.monitor.handle = some id ∧ f.owner = .loop id ∧
        (p.awaited id).monitor.flight = some f := by
  rw [course] at hdropped
  cases hhandle : p.monitor.handle with
  | none =>
      rw [hhandle] at hdropped
      cases hdropped
  | some id =>
      simp only [hhandle] at hdropped
      rw [eventsAlong_append, List.mem_append] at hdropped
      rcases hdropped with hbefore | hlast
      · exact absurd hbefore (not_dropped_of_calm (calm_awaitedCourse p id))
      · rw [reached_awaitedCourse, eventsAlong_singleton] at hlast
        rcases dropped_mem_eventsOf hlast with ⟨hcause, hflight⟩
        have halive : (p.awaited id).monitor.isAlive id = true := by
          by_contra hended
          simp [hended] at hcause
        have hnow : p.stop.2.now = p.now + p.monitor.settings.grace := by
          rcases (stop_cases p hhandle).2 with ⟨_, hstop⟩ | ⟨hended, _⟩
          · rw [hstop]
          · rw [halive] at hended
            cases hended
        exact ⟨hnow, id, rfl, owner_of_awaited h hhandle hflight, hflight⟩

theorem dropped_by_call (h : p.monitor.AtRest) (call : PlaneCall)
    (hdropped : .dropped f ∈ p.eventsAlong (p.course call)) :
    (call = .replaceMonitor ∧ p.monitor.flight = some f) ∨
      (call = .stop ∧ p.stop.2.now = p.now + p.monitor.settings.grace ∧
        ∃ id, p.monitor.handle = some id ∧ f.owner = .loop id ∧
          (p.awaited id).monitor.flight = some f) := by
  by_cases hstop : call = .stop
  · subst hstop
    exact .inr ⟨rfl, dropped_by_stop h hdropped⟩
  · by_cases hreplace : call = .replaceMonitor
    · subst hreplace
      have hnow : .dropped f ∈ p.eventsOf ⟨.force, p.replaceMonitor⟩ := by
        rw [← eventsAlong_singleton]
        exact hdropped
      exact .inl ⟨rfl, (dropped_mem_eventsOf hnow).2⟩
    · exact absurd hdropped (not_dropped_of_calm (calm_course hstop hreplace))

/-! ## A cycle that is given its time -/

/-- Between the calls a cycle in flight is that of the loop, which then neither sleeps nor wakes. -/
theorem cycling_of_flight (h : p.monitor.AtRest) (hflight : p.monitor.flight = some f) :
    ∀ l ∈ p.monitor.loops, l.phase = .cycling := by
  have howned : f.owner ∈ p.monitor.owners := by
    rw [Monitor.owners_of_flight hflight]
    exact List.mem_cons_self
  cases howner : f.owner with
  | caller t =>
      rw [howner] at howned
      exact absurd howned (h.no_caller t)
  | loop id =>
      rw [howner] at howned
      rcases h.sound.cycling_of_owner howned with ⟨l, hloops, _, hphase⟩
      intro l' hl'
      rw [hloops, List.mem_singleton] at hl'
      rw [hl']
      exact hphase

/-- A cycle in flight is recorded when the clock is let run until its end. -/
theorem recorded_by_advance {milliseconds : Nat} (h : p.monitor.AtRest)
    (hflight : p.monitor.flight = some f) (hends : f.endsAt ≤ p.now + milliseconds) :
    ∃ time, f.endsAt ≤ time ∧ time ≤ p.now + milliseconds ∧
      .recorded f time ∈ p.eventsAlong (p.course (.advance milliseconds)) := by
  have hsteps : ∃ steps, p.stepsFor milliseconds = steps + 2 := by
    refine ⟨p.stepsFor milliseconds - 2, ?_⟩
    rw [stepsFor]
    omega
  rcases hsteps with ⟨steps, hsteps⟩
  rw [course, hsteps, eventsAlong_append]
  -- Either it is over at once, or the clock jumps to its end first.
  by_cases hover : f.endsAt ≤ p.now
  · refine ⟨p.now, hover, Nat.le_add_right _ _, List.mem_append_left _ ?_⟩
    rw [moments_succ_of_next rfl (next_of_over hflight hover), eventsAlong_cons,
      eventsOf_land hflight]
    exact List.mem_append_left _ (List.mem_singleton_self _)
  · have hpending : p.now < f.endsAt := Nat.not_le.1 hover
    have hwithin : within (some (p.now + milliseconds)) f.endsAt = true := decide_eq_true hends
    have hnext := next_of_waiting hflight hpending (cycling_of_flight h hflight) hwithin
    let ended := { p with now := f.endsAt }
    have hlands : ended.next? (some (p.now + milliseconds)) = some (ended.land f) :=
      next_of_over (p := ended) hflight (Nat.le_refl f.endsAt)
    have hrecorded : ended.eventsOf ⟨.clock, ended.land f⟩ = [.recorded f f.endsAt] :=
      eventsOf_land (p := ended) hflight
    refine ⟨f.endsAt, Nat.le_refl _, hends, List.mem_append_left _ ?_⟩
    rw [moments_succ_of_next rfl hnext, moments_succ_of_next rfl hlands, eventsAlong_cons,
      eventsAlong_cons, hrecorded]
    exact List.mem_append_right _ (List.mem_append_left _ (List.mem_singleton_self _))

/-! ## Nothing happens to a stopped monitor -/

theorem next_of_stopped (h : p.monitor.AtRest) (hstopped : p.monitor.running = false) :
    p.next? limit = none := by
  have hloops := h.loops_of_stopped hstopped
  have hflight := h.flight_of_stopped hstopped
  have hqueue := h.queue_of_stopped hstopped
  have hquiet : p.tick? = none := by
    simp [tick?, land?, depart?, retire?, wake?, hloops, hflight, hqueue]
  have hdeadline : p.nextDeadline = none := by
    rw [nextDeadline, hloops, hflight]
    rfl
  rw [next?, hquiet, hdeadline]

theorem runSteps_of_stopped (h : p.monitor.AtRest) (hstopped : p.monitor.running = false) :
    runSteps goal limit steps p = p := by
  cases steps with
  | zero =>
      rfl
  | succ steps =>
      rw [runSteps_succ, next_of_stopped h hstopped]
      split <;> rfl

theorem advance_of_stopped (h : p.monitor.AtRest) (hstopped : p.monitor.running = false)
    (milliseconds : Nat) : p.advance milliseconds = { p with now := p.now + milliseconds } := by
  rw [advance, runSteps_of_stopped h hstopped]

theorem performAll_advance_of_stopped (h : p.monitor.AtRest)
    (hstopped : p.monitor.running = false) (spans : List Nat) :
    p.performAll (spans.map .advance) = { p with now := p.now + spans.sum } := by
  induction spans generalizing p with
  | nil =>
      rfl
  | cons span rest ih =>
      have hfirst : p.perform (.advance span) = { p with now := p.now + span } :=
        advance_of_stopped h hstopped span
      have hrest := ih (p := { p with now := p.now + span }) h hstopped
      calc
        p.performAll ((span :: rest).map .advance)
            = (p.perform (.advance span)).performAll (rest.map .advance) := rfl
        _ = { p with now := p.now + span }.performAll (rest.map .advance) := by rw [hfirst]
        _ = { p with now := p.now + span + rest.sum } := hrest
        _ = { p with now := p.now + (span :: rest).sum } := by rw [List.sum_cons, Nat.add_assoc]

/-- A stop and a replacement leave a stopped monitor. -/
theorem stopped_of_ended (h : p.monitor.AtRest) {call : PlaneCall}
    (hcall : call = .stop ∨ call = .replaceMonitor) :
    (p.perform call).monitor.running = false := by
  rcases hcall with rfl | rfl
  · exact stopped_stop h
  · rfl

/-! ## All or nothing -/

/-- Whatever is asked of a plane, the events of its cycles account for all that its registry has
taken from them and for all calls of its checks: each cycle is recorded as a whole, or dropped. Only
a stop that runs past its grace drops one, that of its loop, or a replacement of the monitor; a
cycle in flight is recorded in time otherwise. Afterwards no passing of time changes anything, and a
later start has its own cycle and no other. -/
theorem cycles_all_or_nothing (network : Network) (t : Thresholds) (settings : MonitorSettings)
    (calls : List PlaneCall) :
    let start := new network t settings
    let p := start.performAll calls
    let events := start.eventsAlong (start.courses calls)
    start.reached (start.courses calls) = p ∧
    AllOrNothing none events p.monitor.flight ∧
    p.registry = start.registry.performAll (events.flatMap CycleEvent.updates) ∧
    (∀ s, p.calls.get s = events.countP (CycleEvent.callsCheck s)) ∧
    (∀ call f, .dropped f ∈ p.eventsAlong (p.course call) →
      (call = .replaceMonitor ∧ p.monitor.flight = some f) ∨
      (call = .stop ∧ p.stop.2.now = p.now + p.monitor.settings.grace ∧
        ∃ id, p.monitor.handle = some id ∧ f.owner = .loop id ∧
          (p.awaited id).monitor.flight = some f)) ∧
    (∀ f milliseconds, p.monitor.flight = some f → f.endsAt ≤ p.now + milliseconds →
      ∃ time, f.endsAt ≤ time ∧ time ≤ p.now + milliseconds ∧
        .recorded f time ∈ p.eventsAlong (p.course (.advance milliseconds))) ∧
    ∀ call, call = .stop ∨ call = .replaceMonitor →
      let q := p.perform call
      (∀ spans : List Nat,
        q.performAll (spans.map .advance) = { q with now := q.now + spans.sum }) ∧
      ∀ later,
        let q' := q.performAll later
        q'.monitor.running = false →
          q'.eventsAlong (q'.course .start) =
            [.began q'.ownCycle q'.monitor.registered,
              .recorded q'.ownCycle (q'.now + q'.cycleTime)] := by
  intro start p events
  have hstart : start.monitor.AtRest := .new settings
  have hrest : p.monitor.AtRest := atRest_performAll hstart calls
  have haccounts : start.Accounts events p := by
    have hall := (along_courses hstart calls).accounts hstart.sound
    rw [reached_courses] at hall
    exact hall
  refine ⟨reached_courses start calls, haccounts.whole, haccounts.registry_eq, ?_, ?_, ?_, ?_⟩
  · intro s
    have hnever : start.calls.get s = 0 := PerService.get_ofFn _ s
    rw [haccounts.calls_eq s, hnever, Nat.zero_add]
  · intro call f
    exact dropped_by_call hrest call
  · intro f milliseconds hflight hends
    exact recorded_by_advance hrest hflight hends
  · intro call hcall q
    have hq : q.monitor.AtRest := atRest_perform hrest call
    have hstopped : q.monitor.running = false := stopped_of_ended hrest hcall
    refine ⟨performAll_advance_of_stopped hq hstopped, ?_⟩
    intro later q' hstopped'
    exact eventsAlong_start_of_stopped (atRest_performAll hq later) hstopped'

end Plane

end ServicePlane
