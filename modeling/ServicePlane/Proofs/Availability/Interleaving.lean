import ServicePlane.Proofs.Availability.Hysteresis
import ServicePlane.Proofs.Availability.Publication

/-!
# Interleaved calls

Checks and marks tell a service about its health, operators tell it about its override, and other
services are told about theirs in between. How all of that is interleaved does not matter: a service
keeps two things, each of which changes and answers by its own inputs only.

* `outputs` — what a machine gives out on the way through some inputs;
* `AvailabilityRegistry.Listens` — a part of a registry that goes through its own inputs as a
  machine of its own;
* `listens_health`, `listens_override` — the two parts of a service;
* `interleavings_agree` — two runs that tell a service the same agree about it.
-/

namespace ServicePlane

/-! ## Machines -/

section Machines

variable {σ ι ω : Type} {step : σ → ι → σ} {output : σ → ι → List ω}

/-- What comes out of a machine on the way through some inputs. -/
def outputs (step : σ → ι → σ) (output : σ → ι → List ω) : σ → List ι → List ω
  | _, [] => []
  | x, i :: rest => output x i ++ outputs step output (step x i) rest

theorem outputs_append (x : σ) (first later : List ι) :
    outputs step output x (first ++ later) =
      outputs step output x first ++ outputs step output (first.foldl step x) later := by
  induction first generalizing x with
  | nil =>
      rfl
  | cons i rest ih =>
      simp [outputs, ih]

end Machines

/-! ## What a service is told -/

/-- What tells a service about its health: a result, or a mark. -/
inductive HealthCall where
  | result (healthy : Bool) (error : Option String)
  | mark
  deriving DecidableEq, Repr

namespace AvailabilityCall

/-- What a call tells a service about its health. A service is marked as often as it is listed. -/
def healthCalls (s : Service) : AvailabilityCall → List HealthCall
  | .updateHealth _ u healthy error => if u = s then [.result healthy error] else []
  | .markAvailable services => .replicate (services.count s) .mark
  | .markAllAvailable => .replicate (Service.all.count s) .mark
  | _ => []

/-- The modes that a call sets for a service. -/
def modes (s : Service) : AvailabilityCall → List OverrideMode
  | .setOverride u mode => if u = s then [mode] else []
  | _ => []

end AvailabilityCall

namespace Status

variable {x y : Status} {t : Thresholds}

/-- What a status says about health: everything but the override and the time of the last check. -/
def healthPart (x : Status) : Status :=
  { x with override := .noOverride, lastCheck := none }

theorem eq_of_parts (hhealth : x.healthPart = y.healthPart) (hmode : x.override = y.override) :
    y = { x with lastCheck := y.lastCheck } := by
  calc
    y = { y.healthPart with override := y.override, lastCheck := y.lastCheck } := rfl
    _ = { x.healthPart with override := x.override, lastCheck := y.lastCheck } := by
        rw [hhealth, hmode]
    _ = { x with lastCheck := y.lastCheck } := rfl

/-- Neither the override nor any time has a part in what a result does to the health. -/
theorem healthPart_recorded (now : Nat) (healthy : Bool) (error : Option String) :
    (x.recorded t now healthy error).healthPart =
      (x.healthPart.recorded t 0 healthy error).healthPart := by
  rw [recorded_eq, recorded_eq]
  cases healthy <;> rfl

/-- The health of a service after it is told something. -/
def heard (t : Thresholds) (x : Status) : HealthCall → Status
  | .result healthy error => (x.recorded t 0 healthy error).healthPart
  | .mark => x.presumed

/-- A service that is marked several times is marked. -/
theorem foldl_heard_marks (n : Nat) :
    (List.replicate n HealthCall.mark).foldl (heard t) x = if n = 0 then x else x.presumed := by
  induction n generalizing x with
  | zero =>
      rfl
  | succ n ih =>
      rw [List.replicate_succ, List.foldl_cons, ih]
      split <;> rfl

end Status

namespace AvailabilityRegistry

variable {r : AvailabilityRegistry} {s : Service} {t : Thresholds}

/-! ## Parts of a registry -/

/-- A part of a registry that goes on, and answers, as a machine that gets its own inputs only. A
reset is no input. -/
structure Listens {σ ι ω : Type} (part : AvailabilityRegistry → σ)
    (own : AvailabilityCall → List ι) (reply : AvailabilityRegistry → AvailabilityCall → List ω)
    (step : σ → ι → σ) (output : σ → ι → List ω) : Prop where
  part_perform : ∀ (r : AvailabilityRegistry) (call : AvailabilityCall), call ≠ .reset →
    part (r.perform call) = (own call).foldl step (part r)
  reply_eq : ∀ (r : AvailabilityRegistry) (call : AvailabilityCall),
    reply r call = outputs step output (part r) (own call)

namespace Listens

variable {σ ι ω : Type} {part : AvailabilityRegistry → σ} {own : AvailabilityCall → List ι}
  {reply : AvailabilityRegistry → AvailabilityCall → List ω} {step : σ → ι → σ}
  {output : σ → ι → List ω} {calls calls' : List AvailabilityCall}

theorem part_performAll (h : Listens part own reply step output) (hcalls : .reset ∉ calls)
    (r : AvailabilityRegistry) :
    part (r.performAll calls) = (calls.flatMap own).foldl step (part r) := by
  induction calls generalizing r with
  | nil =>
      rfl
  | cons call rest ih =>
      rw [List.mem_cons, not_or] at hcalls
      have hcall : part (r.perform call) = (own call).foldl step (part r) :=
        h.part_perform r call fun hreset => hcalls.1 hreset.symm
      rw [List.flatMap_cons, List.foldl_append, ← hcall]
      exact ih hcalls.2 (r.perform call)

theorem outputs_eq (h : Listens part own reply step output) (hcalls : .reset ∉ calls)
    (r : AvailabilityRegistry) :
    outputs perform reply r calls = outputs step output (part r) (calls.flatMap own) := by
  induction calls generalizing r with
  | nil =>
      rfl
  | cons call rest ih =>
      rw [List.mem_cons, not_or] at hcalls
      have hcall : part (r.perform call) = (own call).foldl step (part r) :=
        h.part_perform r call fun hreset => hcalls.1 hreset.symm
      rw [List.flatMap_cons, outputs_append, ← hcall, ← h.reply_eq, ← ih hcalls.2 (r.perform call)]
      rfl

/-- Two runs with the same inputs for a part agree about it. -/
theorem agree (h : Listens part own reply step output) (hcalls : .reset ∉ calls)
    (hcalls' : .reset ∉ calls') (hsame : calls.flatMap own = calls'.flatMap own)
    {r r' : AvailabilityRegistry} (hpart : part r = part r') :
    part (r.performAll calls) = part (r'.performAll calls') ∧
      outputs perform reply r calls = outputs perform reply r' calls' := by
  rw [h.part_performAll hcalls, h.part_performAll hcalls', h.outputs_eq hcalls,
    h.outputs_eq hcalls', hsame, hpart]
  exact ⟨rfl, rfl⟩

end Listens

/-! ## The health of a service -/

/-- What a call returns, if it is a health result for this service. -/
def eventReply (s : Service) (r : AvailabilityRegistry) :
    AvailabilityCall → List (Option AvailabilityEvent)
  | .updateHealth now u healthy error =>
      if u = s then [(r.updateHealth now u healthy error).2.2] else []
  | _ => []

/-- What the health results for a service return, in order. -/
def returnedEvents (r : AvailabilityRegistry) (s : Service) (calls : List AvailabilityCall) :
    List (Option AvailabilityEvent) :=
  outputs perform (eventReply s) r calls

/-- What decides how the health of a service goes on. -/
def healthState (s : Service) (r : AvailabilityRegistry) : Thresholds × Status :=
  (r.thresholds, (r.status s).healthPart)

def hear (x : Thresholds × Status) (call : HealthCall) : Thresholds × Status :=
  (x.1, x.2.heard x.1 call)

/-- The event that comes of telling a service something, if it is a result. -/
def heardEvent (s : Service) (x : Thresholds × Status) :
    HealthCall → List (Option AvailabilityEvent)
  | .result healthy error =>
      let after := x.2.heard x.1 (.result healthy error)
      [if after.healthy = x.2.healthy then none
        else some (.healthChanged s after.healthy after.lastError)]
  | .mark => []

theorem foldl_hear (x : Thresholds × Status) (calls : List HealthCall) :
    calls.foldl hear x = (x.1, calls.foldl (Status.heard x.1) x.2) := by
  induction calls generalizing x with
  | nil =>
      rfl
  | cons call rest ih =>
      exact ih (hear x call)

theorem healthState_updateHealth (now : Nat) (healthy : Bool) (error : Option String) :
    healthState s (r.updateHealth now s healthy error).1 =
      hear (healthState s r) (.result healthy error) := by
  rw [healthState, thresholds_updateHealth, status_updateHealth, if_pos rfl,
    Status.healthPart_recorded]
  rfl

theorem healthState_updateHealth_of_ne {u : Service} (now : Nat) (healthy : Bool)
    (error : Option String) (h : s ≠ u) :
    healthState s (r.updateHealth now u healthy error).1 = healthState s r := by
  rw [healthState, thresholds_updateHealth, status_updateHealth, if_neg h]
  rfl

theorem healthState_setOverride (u : Service) (mode : OverrideMode) :
    healthState s (r.setOverride u mode).1 = healthState s r := by
  rw [healthState, thresholds_setOverride, status_setOverride]
  split
  · rename_i hs
    rw [hs]
    rfl
  · rfl

theorem healthState_markAvailable (services : List Service) :
    healthState s (r.markAvailable services).1 =
      (List.replicate (services.count s) HealthCall.mark).foldl hear (healthState s r) := by
  rw [foldl_hear, Status.foldl_heard_marks, healthState, thresholds_markAvailable,
    status_markAvailable]
  by_cases hs : s ∈ services
  · have hcount : services.count s ≠ 0 := fun h => List.count_eq_zero.1 h hs
    rw [if_pos hs, if_neg hcount]
    rfl
  · rw [if_neg hs, if_pos (List.count_eq_zero.2 hs)]
    rfl

/-- A result returns the event that its service makes of it. -/
theorem updateHealth_heardEvent (now : Nat) (healthy : Bool) (error : Option String) :
    [(r.updateHealth now s healthy error).2.2] =
      heardEvent s (healthState s r) (.result healthy error) := by
  -- Whether there is an event, and which, is told by the status before and behind the result.
  have hafter : ((r.updateHealth now s healthy error).1.status s).healthPart =
      (r.status s).healthPart.heard r.thresholds (.result healthy error) :=
    congrArg Prod.snd (healthState_updateHealth now healthy error)
  rw [updateHealth_event, heardEvent, healthState, ← hafter]
  rfl

/-- Marks return nothing. -/
theorem outputs_marks (n : Nat) (x : Thresholds × Status) :
    outputs hear (heardEvent s) x (.replicate n .mark) = [] := by
  induction n generalizing x with
  | zero =>
      rfl
  | succ n ih =>
      exact ih (hear x .mark)

/-- The health of a service goes on by what the service is told about it. -/
theorem listens_health (s : Service) :
    Listens (healthState s) (AvailabilityCall.healthCalls s) (eventReply s) hear
      (heardEvent s) where
  part_perform := by
    intro r call hreset
    cases call with
    | updateHealth now u healthy error =>
        rw [AvailabilityCall.healthCalls]
        split
        · rename_i hu
          rw [hu]
          exact healthState_updateHealth now healthy error
        · rename_i hu
          exact healthState_updateHealth_of_ne now healthy error (Ne.symm hu)
    | setOverride u mode =>
        exact healthState_setOverride u mode
    | markAvailable services =>
        exact healthState_markAvailable services
    | markAllAvailable =>
        exact healthState_markAvailable Service.all
    | reset =>
        exact absurd rfl hreset
  reply_eq := by
    intro r call
    cases call with
    | updateHealth now u healthy error =>
        rw [AvailabilityCall.healthCalls, eventReply]
        split
        · rename_i hu
          rw [hu, updateHealth_heardEvent, outputs, outputs, List.append_nil]
        · rfl
    | setOverride u mode =>
        rfl
    | markAvailable services =>
        exact (outputs_marks _ _).symm
    | markAllAvailable =>
        exact (outputs_marks _ _).symm
    | reset =>
        rfl

/-! ## The override of a service -/

/-- What a call returns, if it sets the override of this service. -/
def changeReply (s : Service) (r : AvailabilityRegistry) : AvailabilityCall → List Bool
  | .setOverride u mode => if u = s then [(r.setOverride u mode).2.2] else []
  | _ => []

/-- What the overrides of a service return, in order. -/
def returnedChanges (r : AvailabilityRegistry) (s : Service) (calls : List AvailabilityCall) :
    List Bool :=
  outputs perform (changeReply s) r calls

theorem setOverride_changed (r : AvailabilityRegistry) (s : Service) (mode : OverrideMode) :
    (r.setOverride s mode).2.2 = decide ((r.status s).override ≠ mode) := by
  rw [setOverride]
  split
  · rename_i hsame
    simp [hsame]
  · rename_i hother
    simp [hother]

/-- The override of a service goes on by the modes that are set for the service. -/
theorem listens_override (s : Service) :
    Listens (fun r => (r.status s).override) (AvailabilityCall.modes s) (changeReply s)
      (fun _ mode => mode) (fun before mode => [decide (before ≠ mode)]) where
  part_perform := by
    intro r call hreset
    cases call with
    | updateHealth now u healthy error =>
        by_cases hu : s = u
        · subst hu
          simp [perform, status_updateHealth, Status.recorded_override, AvailabilityCall.modes]
        · simp [perform, status_updateHealth, AvailabilityCall.modes, hu]
    | setOverride u mode =>
        by_cases hu : u = s
        · subst hu
          simp [perform, status_setOverride, AvailabilityCall.modes]
        · have hs : ¬ s = u := fun h => hu h.symm
          simp [perform, status_setOverride, AvailabilityCall.modes, hu, hs]
    | markAvailable services =>
        by_cases hs : s ∈ services <;>
          simp [perform, status_markAvailable, AvailabilityCall.modes, hs, Status.presumed]
    | markAllAvailable =>
        by_cases hs : s ∈ Service.all <;>
          simp [perform, markAllAvailable, status_markAvailable, AvailabilityCall.modes, hs,
            Status.presumed]
    | reset =>
        exact absurd rfl hreset
  reply_eq := by
    intro r call
    cases call with
    | setOverride u mode =>
        by_cases hu : u = s
        · subst hu
          simp [changeReply, AvailabilityCall.modes, outputs, setOverride_changed]
        · simp [changeReply, AvailabilityCall.modes, outputs, hu]
    | _ =>
        rfl

/-! ## Two runs -/

theorem Fresh.published {start : AvailabilityRegistry} (h : start.Fresh t) : start.Published := by
  cases h with
  | new =>
      exact .new t
  | reset h =>
      exact .reset _

/-- Two runs that begin with the same thresholds, and tell a service the same about its health and
set the same modes for it, each in the same order, may differ in anything else: the results return
the same events, the overrides return the same, and at the end the service has the same status, the
time of its last check aside, and the same availability. -/
theorem interleavings_agree {start start' : AvailabilityRegistry}
    {calls calls' : List AvailabilityCall} (hstart : start.Fresh t) (hstart' : start'.Fresh t)
    (hcalls : .reset ∉ calls) (hcalls' : .reset ∉ calls') (s : Service)
    (hhealth : calls.flatMap (AvailabilityCall.healthCalls s) =
      calls'.flatMap (AvailabilityCall.healthCalls s))
    (hmodes : calls.flatMap (AvailabilityCall.modes s) =
      calls'.flatMap (AvailabilityCall.modes s)) :
    let r := start.performAll calls
    let r' := start'.performAll calls'
    start.returnedEvents s calls = start'.returnedEvents s calls' ∧
      start.returnedChanges s calls = start'.returnedChanges s calls' ∧
      r'.status s = { r.status s with lastCheck := (r'.status s).lastCheck } ∧
      r.isAvailable s = r'.isAvailable s := by
  intro r r'
  have hsame : start.status s = start'.status s := by
    rw [hstart.status_eq, hstart'.status_eq]
  have hstate : healthState s start = healthState s start' := by
    rw [healthState, healthState, hstart.thresholds_eq, hstart'.thresholds_eq, hsame]
  rcases (listens_health s).agree hcalls hcalls' hhealth hstate with ⟨hparts, hevents⟩
  rcases (listens_override s).agree hcalls hcalls' hmodes (congrArg Status.override hsame) with
    ⟨hmode, hchanges⟩
  -- The two parts leave nothing of the status but the time of the last check.
  have hstatus : r'.status s = { r.status s with lastCheck := (r'.status s).lastCheck } :=
    Status.eq_of_parts (congrArg Prod.snd hparts) hmode
  refine ⟨hevents, hchanges, hstatus, ?_⟩
  calc
    r.isAvailable s = (r.status s).isAvailable := hstart.published.performAll calls s
    _ = (r'.status s).isAvailable := by
        rw [hstatus]
        rfl
    _ = r'.isAvailable s := (hstart'.published.performAll calls' s).symm

/-- The database recovers and fails while an operator takes it away; the cache is marked. -/
def maskedRecovery : List AvailabilityCall :=
  [.updateHealth 1 .database true none,
    .setOverride .database .forceDisable,
    .updateHealth 2 .cache false (some "refused"),
    .markAvailable [.database, .cache, .database],
    .updateHealth 3 .database false (some "timed out"),
    .setOverride .cache .forceEnable,
    .updateHealth 4 .database false (some "refused"),
    .setOverride .database .noOverride]

/-- The same for the database, with both overrides before any result. -/
def overridesFirst : List AvailabilityCall :=
  [.setOverride .database .forceDisable,
    .setOverride .database .noOverride,
    .updateHealth 10 .database true none,
    .markAvailable [.database],
    .updateHealth 20 .cache true none,
    .markAvailable [.cache, .database],
    .updateHealth 30 .database false (some "timed out"),
    .updateHealth 40 .database false (some "refused")]

/-- A service that is disabled meanwhile recovers and fails as it would have otherwise. -/
theorem interleavings_agree_masked :
    let start := new (.ofConfigured 2 1)
    let start' := start.markAllAvailable.1.reset
    let r := start.performAll maskedRecovery
    let r' := start'.performAll overridesFirst
    start.Fresh (.ofConfigured 2 1) ∧ start'.Fresh (.ofConfigured 2 1) ∧
      maskedRecovery.flatMap (AvailabilityCall.healthCalls .database) =
        [.result true none, .mark, .mark, .result false (some "timed out"),
          .result false (some "refused")] ∧
      maskedRecovery.flatMap (AvailabilityCall.modes .database) =
        [.forceDisable, .noOverride] ∧
      start'.returnedEvents .database overridesFirst =
        [some (.healthChanged .database true none), none,
          some (.healthChanged .database false (some "refused"))] ∧
      start'.returnedChanges .database overridesFirst = [true, true] ∧
      r'.status .database = { r.status .database with lastCheck := some 40 } ∧
      r'.isAvailable .database = false := by
  intro start start' r r'
  have hstart : start.Fresh (.ofConfigured 2 1) := .new
  have hstart' : start'.Fresh (.ofConfigured 2 1) := .reset (thresholds_markAvailable Service.all)
  obtain ⟨hevents, hchanges, hstatus, havailable⟩ :=
    interleavings_agree hstart hstart' (by decide : .reset ∉ maskedRecovery)
      (by decide : .reset ∉ overridesFirst) .database (by decide) (by decide)
  refine ⟨hstart, hstart', by decide, by decide, hevents.symm.trans ?_, hchanges.symm.trans ?_,
    hstatus.trans ?_, havailable.symm.trans ?_⟩
  · decide +kernel
  · decide +kernel
  · decide +kernel
  · decide +kernel

end AvailabilityRegistry

end ServicePlane
