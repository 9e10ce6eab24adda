import ServicePlane.Proofs.Monitor.Waiting
import ServicePlane.Proofs.Plane.RegistryCalls

/-!
# Between the calls

When a call has been awaited nobody waits any more, and the three things that tell whether a
monitor is running agree: the published state, the handle of its loop, and the loop itself.

* `Monitor.AtRest` — how a monitor is between the calls;
* `stop_cases` — the two ways in which the wait for a loop ends;
* `stopped_stop` — a stop leaves the monitor stopped, and without a loop;
* `atRest_perform`, `atRest_performAll` — every call leaves the monitor like that.
-/

namespace ServicePlane

namespace Monitor

variable {m : Monitor}

/-- How a monitor is between the calls of its users. -/
structure AtRest (m : Monitor) : Prop where
  sound : m.Sound
  no_caller : ∀ t, .caller t ∉ m.owners
  ids_eq : m.loops.map (·.id) = m.handle.toList
  running_eq : m.running = m.handle.isSome
  unasked : ∀ l ∈ m.loops, l.stopRequested = false

namespace AtRest

theorem new (settings : MonitorSettings) : (Monitor.new settings).AtRest where
  sound := .new settings
  no_caller := by
    simp [Monitor.new, owners]
  ids_eq := rfl
  running_eq := rfl
  unasked := by
    simp [Monitor.new]

/-- A monitor with a handle has the loop of that handle. -/
theorem loop_of_handle {id : Nat} (h : m.AtRest) (hhandle : m.handle = some id) :
    ∃ l, m.loops = [l] ∧ l.id = id := by
  have hids : m.loops.map (·.id) = [id] := by
    rw [h.ids_eq, hhandle]
    rfl
  rcases List.map_eq_singleton_iff.1 hids with ⟨l, hloops, hid⟩
  exact ⟨l, hloops, hid⟩

theorem isAlive_of_handle {id : Nat} (h : m.AtRest) (hhandle : m.handle = some id) :
    m.isAlive id = true := by
  rcases h.loop_of_handle hhandle with ⟨l, hloops, hid⟩
  simp [isAlive, hloops, hid]

theorem handle_of_stopped (h : m.AtRest) (hstopped : m.running = false) : m.handle = none := by
  rw [h.running_eq] at hstopped
  simpa using hstopped

theorem loops_of_stopped (h : m.AtRest) (hstopped : m.running = false) : m.loops = [] := by
  have hids := h.ids_eq
  rw [h.handle_of_stopped hstopped] at hids
  exact List.map_eq_nil_iff.1 hids

/-- Nobody has a turn in a stopped monitor, and nobody waits for one. -/
theorem owners_of_stopped (h : m.AtRest) (hstopped : m.running = false) : m.owners = [] := by
  rw [List.eq_nil_iff_forall_not_mem]
  intro o
  cases o with
  | caller t =>
      exact h.no_caller t
  | loop id =>
      exact h.sound.not_loop_of_nil (h.loops_of_stopped hstopped) id

theorem flight_of_stopped (h : m.AtRest) (hstopped : m.running = false) : m.flight = none := by
  have howners := h.owners_of_stopped hstopped
  rw [owners, List.append_eq_nil_iff] at howners
  simpa using howners.1

theorem queue_of_stopped (h : m.AtRest) (hstopped : m.running = false) : m.queue = [] := by
  have howners := h.owners_of_stopped hstopped
  rw [owners, List.append_eq_nil_iff] at howners
  exact howners.2

/-- A monitor is running if and only if it has a loop, and then it has one. -/
theorem running_iff (h : m.AtRest) : m.running = true ↔ m.loops.length = 1 := by
  have hlength : m.loops.length = m.handle.toList.length := by
    rw [← h.ids_eq, List.length_map]
  rw [hlength, h.running_eq]
  cases m.handle <;> simp

/-- What a monitor checks does not matter. -/
theorem with_checks (h : m.AtRest) (checks : PerService (Option Check)) :
    ({ m with checks := checks } : Monitor).AtRest where
  sound := h.sound.of_eq rfl rfl rfl rfl
  no_caller := h.no_caller
  ids_eq := h.ids_eq
  running_eq := h.running_eq
  unasked := h.unasked

end AtRest

namespace Sound

/-- Callers that ask at the same time wait in order. -/
theorem requested (h : m.Sound) (count : Nat) :
    ({ m with
      queue := m.queue ++ (List.range' m.nextTicket count).map .caller
      nextTicket := m.nextTicket + count } : Monitor).Sound := by
  have howners : ({ m with
      queue := m.queue ++ (List.range' m.nextTicket count).map .caller
      nextTicket := m.nextTicket + count } : Monitor).owners =
        m.owners ++ (List.range' m.nextTicket count).map .caller :=
    (List.append_assoc _ _ _).symm
  have hissued : ∀ t, CycleOwner.caller t ∈ (List.range' m.nextTicket count).map .caller ↔
      m.nextTicket ≤ t ∧ t < m.nextTicket + count := by
    intro t
    simp [List.mem_range'_1]
  constructor
  · rw [howners]
    refine List.nodup_append.2 ⟨h.owners_nodup, ?_, ?_⟩
    · have hinjective : Function.Injective CycleOwner.caller :=
        fun _ _ hsame => CycleOwner.caller.inj hsame
      exact List.Nodup.map hinjective List.nodup_range'
    · rintro o hbefore o' hnow rfl
      rcases List.mem_map.1 hnow with ⟨t, ht, rfl⟩
      have hlt := ((h.caller_mem_iff t).1 hbefore).1
      have hge := (List.mem_range'_1.1 ht).1
      omega
  · intro id
    rw [howners, List.mem_append, ← h.loop_mem_iff id]
    simp
  · intro t
    rw [howners, List.mem_append, h.caller_mem_iff t, hissued t]
    constructor
    -- Numbers of new requests are above those of all that have been given results.
    · rintro (⟨hlt, hnot⟩ | ⟨hge, hlt⟩)
      · exact ⟨Nat.lt_add_right count hlt, hnot⟩
      · refine ⟨hlt, fun hgiven => ?_⟩
        have hless := h.delivered_lt t hgiven
        omega
    · rintro ⟨hlt, hnot⟩
      by_cases hold : t < m.nextTicket
      · exact .inl ⟨hold, hnot⟩
      · exact .inr ⟨Nat.not_lt.1 hold, hlt⟩
  · intro t ht
    exact Nat.lt_add_right count (h.delivered_lt t ht)
  · exact h.one_loop

/-- Whether a loop was asked to stop does not matter for the turns. -/
theorem asked (h : m.Sound) (id : Nat) :
    ({ m with handle := none }.mapLoop id fun l => { l with stopRequested := true }).Sound where
  owners_nodup := h.owners_nodup
  loop_mem_iff := by
    intro id'
    refine (h.loop_mem_iff id').trans ?_
    simp only [mapLoop, List.mem_map, exists_exists_and_eq_and]
    apply exists_congr
    intro l
    split <;> exact Iff.rfl
  caller_mem_iff := h.caller_mem_iff
  delivered_lt := h.delivered_lt
  one_loop := by
    rw [mapLoop, List.length_map]
    exact h.one_loop

/-- A monitor whose loop has ended is stopped. -/
theorem atRest_ended (h : m.Sound) (hcaller : ∀ t, .caller t ∉ m.owners) (hloops : m.loops = [])
    (hhandle : m.handle = none) : ({ m with running := false } : Monitor).AtRest where
  sound := h.of_eq rfl rfl rfl rfl
  no_caller := hcaller
  ids_eq := by
    rw [hloops, hhandle]
    rfl
  running_eq := by
    rw [hhandle]
    rfl
  unasked := by
    simp [hloops]

/-- A loop that begins by sleeping has no turn. -/
theorem launched (h : m.Sound) (hloops : m.loops = []) (wakeAt : Nat) :
    ({ m with
      loops := [⟨m.nextLoop, .sleeping wakeAt, false⟩]
      nextLoop := m.nextLoop + 1
      handle := some m.nextLoop
      running := true } : Monitor).Sound where
  owners_nodup := h.owners_nodup
  loop_mem_iff := by
    intro id
    have hnot : .loop id ∉ m.owners := h.not_loop_of_nil hloops id
    simpa [owners] using hnot
  caller_mem_iff := h.caller_mem_iff
  delivered_lt := h.delivered_lt
  one_loop := Nat.le_refl 1

end Sound

end Monitor

namespace Plane

variable {p q : Plane} {id : Nat}

/-! ## Waiting -/

theorem Onward.atRest (h : p.Onward q) (hrest : p.monitor.AtRest) (hsound : q.monitor.Sound) :
    q.monitor.AtRest where
  sound := hsound
  no_caller := fun t ht => hrest.no_caller t (h.caller_mem t ht)
  ids_eq := by
    rw [h.ids_eq hrest.unasked, h.handle_eq]
    exact hrest.ids_eq
  running_eq := by
    rw [h.running_eq, h.handle_eq]
    exact hrest.running_eq
  unasked := h.unasked hrest.unasked

theorem atRest_runSteps {goal : Plane → Bool} {limit : Option Nat} {steps : Nat}
    (h : p.monitor.AtRest) : (runSteps goal limit steps p).monitor.AtRest :=
  (onward_runSteps p).atRest h (sound_runSteps h.sound)

theorem hasLoop_eq (h : p.monitor.AtRest) : p.hasLoop = p.monitor.running := by
  rw [hasLoop, h.running_eq]
  cases hhandle : p.monitor.handle with
  | none =>
      rfl
  | some id =>
      exact h.isAlive_of_handle hhandle

/-! ## Cycles for callers -/

/-- Nobody waits any more when those who asked have their results. -/
theorem atRest_runCycles (h : p.monitor.AtRest) (count : Nat) :
    (p.runCycles count).2.monitor.AtRest := by
  let tickets := List.range' p.monitor.nextTicket count
  let asked := (p.requestCycles count).2
  let after := runSteps (areDelivered tickets) none (asked.stepsFor 0) asked
  have hsound : asked.monitor.Sound := h.sound.requested count
  have hdone : areDelivered tickets after = true := by
    refine areDelivered_runSteps hsound ?_ (patience_le_stepsFor hsound)
    intro t ht
    exact (List.mem_range'_1.1 ht).2
  have hafter : after.monitor.Sound := sound_runSteps hsound
  have honward : asked.Onward after := onward_runSteps asked
  have hids : ∀ l ∈ asked.monitor.loops, l.stopRequested = false := h.unasked
  change after.monitor.AtRest
  exact {
    sound := hafter
    no_caller := by
      intro t ht
      have hnot := ((hafter.caller_mem_iff t).1 ht).2
      -- Whoever waits now has waited from the start: before the call, or because of it.
      have hasked : .caller t ∈ p.monitor.owners ++ tickets.map .caller := by
        rw [Monitor.owners, List.append_assoc]
        exact honward.caller_mem t ht
      rcases List.mem_append.1 hasked with hold | hnew
      · exact h.no_caller t hold
      · have hmem : t ∈ tickets := by
          simpa using hnew
        exact hnot (areDelivered_iff.1 hdone t hmem)
    ids_eq := by
      rw [honward.ids_eq hids, honward.handle_eq]
      exact h.ids_eq
    running_eq := by
      rw [honward.running_eq, honward.handle_eq]
      exact h.running_eq
    unasked := honward.unasked hids }

/-! ## Start -/

theorem start_of_running (h : p.monitor.AtRest) (hrunning : p.monitor.running = true) :
    p.start = p.tell [monitorLog .debug "Health monitor already running" []] := by
  rw [start, hasLoop_eq h, hrunning]
  rfl

/-- The plane as a start tells about itself, before its cycle. -/
def announced (p : Plane) : Plane :=
  p.tell [monitorLog .info "Health monitor starting" []]

/-- The loop that a start adds once its cycle is over. -/
def launched (p : Plane) : Plane :=
  { p with
    monitor := { p.monitor with
      loops := p.monitor.loops ++
        [⟨p.monitor.nextLoop, .sleeping (p.now + p.monitor.settings.interval), false⟩]
      nextLoop := p.monitor.nextLoop + 1
      handle := some p.monitor.nextLoop
      running := true } }

theorem start_of_stopped (h : p.monitor.AtRest) (hstopped : p.monitor.running = false) :
    p.start = (p.announced.runCycles 1).2.launched := by
  rw [start, hasLoop_eq h, hstopped]
  rfl

theorem loops_runCycles_of_stopped (h : p.monitor.AtRest) (hstopped : p.monitor.running = false)
    (count : Nat) : (p.runCycles count).2.monitor.loops = [] := by
  have honward : (p.requestCycles count).2.Onward (p.runCycles count).2 := onward_runSteps _
  have hids := honward.ids_eq h.unasked
  have hnone : (p.requestCycles count).2.monitor.loops = [] := h.loops_of_stopped hstopped
  rw [hnone] at hids
  exact List.map_eq_nil_iff.1 hids

theorem atRest_start (h : p.monitor.AtRest) : p.start.monitor.AtRest := by
  cases hrunning : p.monitor.running with
  | true =>
      rw [start_of_running h hrunning]
      exact h
  | false =>
      have hannounced : p.announced.monitor.AtRest := h
      have hcycled := atRest_runCycles hannounced 1
      have hloops := loops_runCycles_of_stopped hannounced hrunning 1
      rw [start_of_stopped h hrunning, launched, hloops]
      exact {
        sound := hcycled.sound.launched hloops _
        no_caller := hcycled.no_caller
        ids_eq := rfl
        running_eq := rfl
        unasked := by
          simp }

/-! ## Stop -/

/-- The plane when its loop has been asked to stop. -/
def askedToStop (p : Plane) (id : Nat) : Plane :=
  { p with
    monitor := { p.monitor with handle := none }.mapLoop id fun l =>
      { l with stopRequested := true } }

/-- The plane when a stop does not wait any longer. -/
def awaited (p : Plane) (id : Nat) : Plane :=
  if p.now < p.now + p.monitor.settings.grace then
    runSteps (fun p => !p.monitor.isAlive id) (some (p.now + p.monitor.settings.grace - 1))
      ((p.askedToStop id).stepsFor p.monitor.settings.grace) (p.askedToStop id)
  else p.askedToStop id

/-- Either the loop has not ended when the grace is over, and is aborted at that time; or it has
ended by itself. -/
theorem stop_cases (p : Plane) (h : p.monitor.handle = some id) :
    p.stop.1 = true ∧
    (((p.awaited id).monitor.isAlive id = true ∧
        p.stop.2 = { p.awaited id with
          now := p.now + p.monitor.settings.grace
          monitor := { (p.awaited id).monitor.abort id with running := false }
          telemetry := p.stop.2.telemetry }) ∨
      ((p.awaited id).monitor.isAlive id = false ∧
        p.stop.2 = { p.awaited id with
          monitor := { (p.awaited id).monitor with running := false }
          telemetry := p.stop.2.telemetry })) := by
  have hstop : p.stop = (true,
      { ({ p with monitor := { p.monitor with handle := none } }.stopLoop id) with
        monitor := { ({ p with monitor := { p.monitor with handle := none } }.stopLoop id).monitor
          with running := false } }) := by
    rw [stop, h]
  rw [hstop]
  refine ⟨rfl, ?_⟩
  have hwaits : { p with monitor := { p.monitor with handle := none } }.stopLoop id =
      if (p.awaited id).monitor.isAlive id then
        { p.awaited id with
          now := p.now + p.monitor.settings.grace
          monitor := (p.awaited id).monitor.abort id }.tell
            [monitorLog .warn "Health monitor did not stop in time, aborting" []]
      else (p.awaited id).tell [monitorLog .info "Health monitor stopped" []] := rfl
  cases halive : (p.awaited id).monitor.isAlive id with
  | true =>
      rw [hwaits, halive]
      exact .inl ⟨rfl, rfl⟩
  | false =>
      rw [hwaits, halive]
      exact .inr ⟨rfl, rfl⟩

theorem stop_of_stopped (h : p.monitor.AtRest) (hstopped : p.monitor.running = false) :
    p.stop = (false, p) := by
  rw [stop, h.handle_of_stopped hstopped]

theorem sound_awaited (h : p.monitor.Sound) (id : Nat) : (p.awaited id).monitor.Sound := by
  have hasked : (p.askedToStop id).monitor.Sound := h.asked id
  rw [awaited]
  split
  · exact sound_runSteps hasked
  · exact hasked

theorem onward_awaited (p : Plane) (id : Nat) : (p.askedToStop id).Onward (p.awaited id) := by
  rw [awaited]
  split
  · exact onward_runSteps _
  · exact .refl _

/-- Only the loop that is asked to stop can be there at the end of the wait. -/
theorem id_of_mem_awaited {l : MonitorLoop} (h : p.monitor.AtRest)
    (hhandle : p.monitor.handle = some id) (hloop : l ∈ (p.awaited id).monitor.loops) :
    l.id = id := by
  rcases h.loop_of_handle hhandle with ⟨own, hloops, hid⟩
  rcases (onward_awaited p id).loop_mem l hloop with ⟨l', hl', hsame, _⟩
  have hown : l'.id = id := by
    simp only [askedToStop, Monitor.mapLoop, hloops, List.map_cons, List.map_nil,
      List.mem_singleton] at hl'
    rw [hl']
    split <;> exact hid
  rw [← hsame, hown]

/-- A stop that finds a running monitor leaves it stopped, and without a loop. -/
theorem stopped_of_stop (h : p.monitor.AtRest) (hhandle : p.monitor.handle = some id) :
    p.stop.2.monitor.AtRest ∧ p.stop.2.monitor.running = false := by
  have hsound := sound_awaited h.sound id
  have honward := onward_awaited p id
  have hnone : (p.awaited id).monitor.handle = none := honward.handle_eq
  have hcaller : ∀ t, .caller t ∉ (p.awaited id).monitor.owners :=
    fun t ht => h.no_caller t (honward.caller_mem t ht)
  -- Aborted or ended, no loop is left: the only one there was is the one that was asked to stop.
  rcases (stop_cases p hhandle).2 with ⟨_, hstop⟩ | ⟨hended, hstop⟩
  · have hloops : ((p.awaited id).monitor.abort id).loops = [] := by
      simp only [Monitor.abort, List.filter_eq_nil_iff]
      intro l hl
      simpa using id_of_mem_awaited h hhandle hl
    have hcallerAborted : ∀ t, .caller t ∉ ((p.awaited id).monitor.abort id).owners := by
      intro t ht
      rw [Monitor.owners_abort] at ht
      exact hcaller t (List.mem_filter.1 ht).1
    rw [hstop]
    exact ⟨(hsound.abort id).atRest_ended hcallerAborted hloops hnone, rfl⟩
  · have hloops : (p.awaited id).monitor.loops = [] := by
      rw [List.eq_nil_iff_forall_not_mem]
      intro l hl
      have halive : (p.awaited id).monitor.isAlive id = true := by
        rw [Monitor.isAlive, List.any_eq_true]
        exact ⟨l, hl, by simpa using id_of_mem_awaited h hhandle hl⟩
      rw [hended] at halive
      cases halive
    rw [hstop]
    exact ⟨hsound.atRest_ended hcaller hloops hnone, rfl⟩

theorem atRest_stop (h : p.monitor.AtRest) : p.stop.2.monitor.AtRest := by
  cases hhandle : p.monitor.handle with
  | none =>
      rw [stop, hhandle]
      exact h
  | some id =>
      exact (stopped_of_stop h hhandle).1

/-- A stop leaves a stopped monitor. -/
theorem stopped_stop (h : p.monitor.AtRest) : p.stop.2.monitor.running = false := by
  cases hhandle : p.monitor.handle with
  | none =>
      have hstopped : p.monitor.running = false := by
        rw [h.running_eq, hhandle]
        rfl
      rw [stop_of_stopped h hstopped]
      exact hstopped
  | some id =>
      exact (stopped_of_stop h hhandle).2

/-! ## All calls -/

theorem atRest_perform (h : p.monitor.AtRest) (call : PlaneCall) :
    (p.perform call).monitor.AtRest := by
  cases call with
  | updateHealth s healthy error =>
      exact h
  | setOverride s mode =>
      exact h
  | markAvailable services =>
      exact h
  | markAllAvailable =>
      exact h
  | reset =>
      exact h
  | registerCheck s check =>
      exact h.with_checks _
  | runCycles count =>
      exact atRest_runCycles h count
  | triggerCheck =>
      have htold : (p.tell [monitorLog .info "Manual health check triggered" []]).monitor.AtRest :=
        h
      exact atRest_runCycles htold 1
  | start =>
      exact atRest_start h
  | stop =>
      exact atRest_stop h
  | replaceMonitor =>
      exact .new p.monitor.settings
  | settle =>
      exact atRest_runSteps h
  | advance milliseconds =>
      exact atRest_runSteps h
  | changeNetwork network =>
      exact h

theorem atRest_performAll (h : p.monitor.AtRest) (calls : List PlaneCall) :
    (p.performAll calls).monitor.AtRest := by
  induction calls generalizing p with
  | nil =>
      exact h
  | cons call rest ih =>
      exact ih (atRest_perform h call)

end Plane

end ServicePlane
