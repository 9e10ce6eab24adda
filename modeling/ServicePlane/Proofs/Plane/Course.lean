import ServicePlane.Proofs.Monitor.Rest

/-!
# The course of a call

A call that waits lets the clock run, and what happens meanwhile is not to be seen in the plane that
it leaves. This file keeps all planes that a call goes through, each with what has led to it.

* `moments`, `course`, `courses` — the planes of a run, of a call, and of some calls;
* `reached_course` — the last of them is the plane that the call leaves;
* `Leads`, `Along` — what each cause can do to a plane;
* `along_course` — the planes of a call follow each other like that.
-/

namespace ServicePlane

/-- What makes a plane change. -/
inductive Cause where
  /-- It happens by itself while the clock runs. -/
  | clock
  /-- A user does something, but not to the registry. -/
  | user
  /-- A user tells the registry something. -/
  | told (call : AvailabilityCall)
  /-- A loop is ended by force: by a stop whose grace is over, or together with its monitor. -/
  | force
  deriving DecidableEq, Repr

/-- A plane on the way, and what has led to it. -/
structure Moment where
  cause : Cause
  plane : Plane

namespace Plane

variable {p q : Plane} {goal : Plane → Bool} {limit : Option Nat} {steps : Nat}
  {before later : List Moment}

/-! ## Courses -/

/-- The planes that a run goes through. -/
def moments (goal : Plane → Bool) (limit : Option Nat) : (steps : Nat) → Plane → List Moment
  | 0, _ => []
  | steps + 1, p =>
      if goal p then []
      else
        match p.next? limit with
        | some q => ⟨.clock, q⟩ :: moments goal limit steps q
        | none => []

/-- Callers ask for cycles, and wait. -/
def cyclesCourse (p : Plane) (count : Nat) : List Moment :=
  let (tickets, asked) := p.requestCycles count
  ⟨.user, asked⟩ :: moments (areDelivered tickets) none (asked.stepsFor 0) asked

/-- The loop is asked to stop, and is waited for. -/
def awaitedCourse (p : Plane) (id : Nat) : List Moment :=
  let deadline := p.now + p.monitor.settings.grace
  let asked := p.askedToStop id
  ⟨.user, asked⟩ ::
    if p.now < deadline then
      moments (fun p => !p.monitor.isAlive id) (some (deadline - 1))
        (asked.stepsFor p.monitor.settings.grace) asked
    else []

/-- The planes that a call goes through. -/
def course (p : Plane) (call : PlaneCall) : List Moment :=
  match call with
  | .updateHealth s healthy error =>
      [⟨.told (.updateHealth p.now s healthy error), p.perform call⟩]
  | .setOverride s mode => [⟨.told (.setOverride s mode), p.perform call⟩]
  | .markAvailable services => [⟨.told (.markAvailable services), p.perform call⟩]
  | .markAllAvailable => [⟨.told .markAllAvailable, p.perform call⟩]
  | .reset => [⟨.told .reset, p.perform call⟩]
  | .registerCheck _ _ => [⟨.user, p.perform call⟩]
  | .changeNetwork _ => [⟨.user, p.perform call⟩]
  | .runCycles count => p.cyclesCourse count
  | .triggerCheck =>
      (p.tell [monitorLog .info "Manual health check triggered" []]).cyclesCourse 1
  | .start =>
      if p.hasLoop then [⟨.user, p.start⟩]
      else p.announced.cyclesCourse 1 ++ [⟨.user, p.start⟩]
  | .stop =>
      match p.monitor.handle with
      | none => []
      | some id =>
          let cause := if (p.awaited id).monitor.isAlive id then Cause.force else .user
          p.awaitedCourse id ++ [⟨cause, p.stop.2⟩]
  | .replaceMonitor => [⟨.force, p.replaceMonitor⟩]
  | .settle => moments (fun _ => false) (some p.now) (p.stepsFor 0) p
  | .advance milliseconds =>
      moments (fun _ => false) (some (p.now + milliseconds)) (p.stepsFor milliseconds) p ++
        [⟨.user, p.advance milliseconds⟩]

/-- The planes that some calls go through, one call after the other. -/
def courses (p : Plane) : List PlaneCall → List Moment
  | [] => []
  | call :: rest => p.course call ++ (p.perform call).courses rest

/-! ## Where a course leads -/

/-- The last plane on the way. -/
def reached (p : Plane) (way : List Moment) : Plane :=
  way.foldl (fun _ m => m.plane) p

@[simp]
theorem reached_nil (p : Plane) : p.reached [] = p :=
  rfl

@[simp]
theorem reached_cons (p : Plane) (m : Moment) (rest : List Moment) :
    p.reached (m :: rest) = m.plane.reached rest :=
  rfl

theorem reached_append (p : Plane) (before later : List Moment) :
    p.reached (before ++ later) = (p.reached before).reached later :=
  List.foldl_append

theorem moments_succ_of_next (hgoal : goal p = false) (hnext : p.next? limit = some q) :
    moments goal limit (steps + 1) p = ⟨.clock, q⟩ :: moments goal limit steps q := by
  simp [moments, hgoal, hnext]

theorem moments_of_goal (hgoal : goal p = true) : moments goal limit steps p = [] := by
  cases steps with
  | zero =>
      rfl
  | succ steps =>
      simp [moments, hgoal]

theorem reached_moments : p.reached (moments goal limit steps p) = runSteps goal limit steps p := by
  induction steps generalizing p with
  | zero =>
      rfl
  | succ steps ih =>
      cases hgoal : goal p with
      | true =>
          simp [moments, runSteps, hgoal]
      | false =>
          cases hnext : p.next? limit with
          | some q =>
              have hrest := ih (p := q)
              simp [moments, runSteps_succ, hgoal, hnext, hrest]
          | none =>
              simp [moments, runSteps_succ, hgoal, hnext]

theorem reached_cyclesCourse (p : Plane) (count : Nat) :
    p.reached (p.cyclesCourse count) = (p.runCycles count).2 :=
  reached_moments

theorem reached_awaitedCourse (p : Plane) (id : Nat) :
    p.reached (p.awaitedCourse id) = p.awaited id := by
  rw [awaitedCourse, awaited]
  split
  · exact reached_moments
  · rfl

theorem reached_concat (p : Plane) (way : List Moment) (m : Moment) :
    p.reached (way ++ [m]) = m.plane := by
  rw [reached_append]
  rfl

theorem reached_course (p : Plane) (call : PlaneCall) :
    p.reached (p.course call) = p.perform call := by
  cases call with
  | runCycles count =>
      exact reached_cyclesCourse p count
  | triggerCheck =>
      exact reached_cyclesCourse _ 1
  | start =>
      rw [course]
      split
      · rfl
      · exact reached_concat _ _ _
  | stop =>
      rw [course, perform]
      cases hhandle : p.monitor.handle with
      | none =>
          rw [stop, hhandle]
          rfl
      | some id =>
          exact reached_concat _ _ _
  | settle =>
      exact reached_moments
  | advance milliseconds =>
      exact reached_concat _ _ _
  | _ =>
      rfl

theorem reached_courses (p : Plane) (calls : List PlaneCall) :
    p.reached (p.courses calls) = p.performAll calls := by
  induction calls generalizing p with
  | nil =>
      rfl
  | cons call rest ih =>
      rw [courses, reached_append, reached_course, ih]
      rfl

/-! ## What each cause can do -/

/-- A plane goes over to another one by a cause. Whatever is done by users or by force leaves the
cycle in flight as it is, or drops it. -/
inductive Leads (p : Plane) : Moment → Prop where
  | clock {q : Plane} (hnext : p.Happens q) : Leads p ⟨.clock, q⟩
  | user {q : Plane} (hsound : q.monitor.Sound) (hflight : q.monitor.flight = p.monitor.flight)
      (hregistry : q.registry = p.registry) (hcalls : q.calls = p.calls) : Leads p ⟨.user, q⟩
  | told {q : Plane} (call : AvailabilityCall) (hmonitor : q.monitor = p.monitor)
      (hregistry : q.registry = p.registry.perform call) (hcalls : q.calls = p.calls) :
      Leads p ⟨.told call, q⟩
  | force {q : Plane} (hsound : q.monitor.Sound)
      (hflight : q.monitor.flight = p.monitor.flight ∨ q.monitor.flight = none)
      (hregistry : q.registry = p.registry) (hcalls : q.calls = p.calls) : Leads p ⟨.force, q⟩

/-- Planes that follow each other. -/
inductive Along : Plane → List Moment → Prop where
  | nil (p : Plane) : Along p []
  | cons {p : Plane} {m : Moment} {rest : List Moment} :
      p.Leads m → Along m.plane rest → Along p (m :: rest)

theorem Leads.sound {m : Moment} (h : p.Leads m) (hsound : p.monitor.Sound) :
    m.plane.monitor.Sound := by
  cases h with
  | clock hnext =>
      exact hnext.sound hsound
  | user hafter hflight hregistry hcalls =>
      exact hafter
  | told call hmonitor hregistry hcalls =>
      rw [hmonitor]
      exact hsound
  | force hafter hflight hregistry hcalls =>
      exact hafter

namespace Along

theorem single {m : Moment} (h : p.Leads m) : p.Along [m] :=
  .cons h (.nil _)

theorem append (h : p.Along before) (hlater : (p.reached before).Along later) :
    p.Along (before ++ later) := by
  induction h with
  | nil p =>
      exact hlater
  | cons hlead hrest ih =>
      exact .cons hlead (ih hlater)

theorem sound (h : p.Along later) (hsound : p.monitor.Sound) :
    ∀ m ∈ later, m.plane.monitor.Sound := by
  induction h with
  | nil p =>
      intro m hm
      cases hm
  | @cons p first rest hlead hrest ih =>
      have hfirst := hlead.sound hsound
      intro m hm
      rcases List.mem_cons.1 hm with rfl | hm
      · exact hfirst
      · exact ih hfirst m hm

end Along

theorem along_moments : p.Along (moments goal limit steps p) := by
  induction steps generalizing p with
  | zero =>
      exact .nil p
  | succ steps ih =>
      rw [moments]
      split
      · exact .nil p
      · split
        · rename_i q hnext
          exact .cons (.clock (happens_of_next hnext)) ih
        · exact .nil p

theorem along_cyclesCourse (h : p.monitor.AtRest) (count : Nat) : p.Along (p.cyclesCourse count) :=
  .cons (.user (h.sound.requested count) rfl rfl rfl) along_moments

theorem along_awaitedCourse (h : p.monitor.AtRest) (id : Nat) : p.Along (p.awaitedCourse id) := by
  refine .cons (.user (h.sound.asked id) rfl rfl rfl) ?_
  split
  · exact along_moments
  · exact .nil _

theorem along_start (h : p.monitor.AtRest) : p.Along (p.course .start) := by
  have hsound : p.start.monitor.Sound := (atRest_start h).sound
  rw [course]
  cases hrunning : p.monitor.running with
  | true =>
      rw [hasLoop_eq h, hrunning, if_pos rfl]
      rw [start_of_running h hrunning] at hsound ⊢
      exact .single (.user hsound rfl rfl rfl)
  | false =>
      have hnoted : p.Along (p.announced.cyclesCourse 1) :=
        .cons (.user (h.sound.requested 1) rfl rfl rfl) along_moments
      -- After the cycle only the loop is added.
      have hlast : (p.reached (p.announced.cyclesCourse 1)).Leads ⟨.user, p.start⟩ := by
        have hcycled : p.reached (p.announced.cyclesCourse 1) = (p.announced.runCycles 1).2 :=
          reached_cyclesCourse p.announced 1
        rw [start_of_stopped h hrunning] at hsound ⊢
        rw [hcycled]
        exact .user hsound rfl rfl rfl
      rw [hasLoop_eq h, hrunning]
      exact .append hnoted (.single hlast)

theorem along_stop (h : p.monitor.AtRest) : p.Along (p.course .stop) := by
  rw [course]
  cases hhandle : p.monitor.handle with
  | none =>
      exact .nil p
  | some id =>
      have hsound : p.stop.2.monitor.Sound := (atRest_stop h).sound
      -- The last step is by force if the loop is still there when the wait is over.
      refine .append (along_awaitedCourse h id) (.single ?_)
      rw [reached_awaitedCourse]
      rcases (stop_cases p hhandle).2 with ⟨halive, hstop⟩ | ⟨hended, hstop⟩
      · rw [halive, if_pos rfl]
        rw [hstop] at hsound ⊢
        exact .force hsound ((p.awaited id).monitor.flight_abort id) rfl rfl
      · rw [hended]
        rw [hstop] at hsound ⊢
        exact .user hsound rfl rfl rfl

/-- All planes that a call goes through follow each other. -/
theorem along_course (h : p.monitor.AtRest) (call : PlaneCall) : p.Along (p.course call) := by
  cases call with
  | updateHealth s healthy error =>
      exact .single (.told _ rfl rfl rfl)
  | setOverride s mode =>
      exact .single (.told _ rfl rfl rfl)
  | markAvailable services =>
      exact .single (.told _ rfl rfl rfl)
  | markAllAvailable =>
      exact .single (.told _ rfl rfl rfl)
  | reset =>
      exact .single (.told _ rfl rfl rfl)
  | registerCheck s check =>
      exact .single (.user (h.with_checks _).sound rfl rfl rfl)
  | changeNetwork network =>
      exact .single (.user h.sound rfl rfl rfl)
  | runCycles count =>
      exact along_cyclesCourse h count
  | triggerCheck =>
      -- The note about it is no step of its own.
      exact .cons (.user (h.sound.requested 1) rfl rfl rfl) along_moments
  | start =>
      exact along_start h
  | stop =>
      exact along_stop h
  | replaceMonitor =>
      exact .single (.force (.new _) (.inr rfl) rfl rfl)
  | settle =>
      exact along_moments
  | advance milliseconds =>
      refine .append along_moments ?_
      rw [reached_moments]
      exact .single (.user (sound_runSteps h.sound) rfl rfl rfl)

end Plane

end ServicePlane
