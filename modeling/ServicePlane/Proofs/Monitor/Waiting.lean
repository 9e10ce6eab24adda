import Mathlib.Algebra.GroupWithZero.Nat
import Mathlib.Data.List.DropRight
import ServicePlane.Proofs.Monitor.Turns

/-!
# Everybody who waits has a turn

Whoever asks for a cycle gets its results: not because the clock is given many steps, but because
each step brings the turn nearer. `Plane.patience` counts what can still come first. It looks at
the queue only as far as the last caller in it; a loop behind all callers delays nobody.

* `Happens.patience_lt` — all that happens while a caller waits brings it down;
* `patience_le_stepsFor` — the steps that a run is given are enough at any time;
* `areDelivered_runSteps` — so everybody who asked has results in the end.
-/

namespace ServicePlane

/-! ## What can come first -/

namespace CycleOwner

def isLoop : CycleOwner → Bool
  | .caller _ => false
  | .loop _ => true

/-- A turn departs, its checks take their time, and it lands. A loop goes on to sleep and to wake
after that. -/
def patience : CycleOwner → Nat
  | .caller _ => 3
  | .loop _ => 5

end CycleOwner

namespace CycleInFlight

variable {f : CycleInFlight} {now later : Nat}

def patience (now : Nat) (f : CycleInFlight) : Nat :=
  (if f.endsAt ≤ now then 1 else 2) + if f.owner.isLoop then 2 else 0

theorem patience_pos : 0 < f.patience now := by
  rw [patience]
  split <;> omega

theorem patience_lt_owner : f.patience now < f.owner.patience := by
  rw [patience]
  cases f.owner with
  | caller t =>
      simp only [CycleOwner.isLoop, CycleOwner.patience]
      split <;> simp
  | loop id =>
      simp only [CycleOwner.isLoop, CycleOwner.patience]
      split <;> simp

theorem patience_le (h : now ≤ later) : f.patience later ≤ f.patience now := by
  have hover : (if f.endsAt ≤ later then 1 else 2) ≤ if f.endsAt ≤ now then 1 else 2 := by
    split <;> split <;> omega
  exact Nat.add_le_add_right hover _

theorem patience_lt (hnow : now < f.endsAt) (hlater : f.endsAt ≤ later) :
    f.patience later < f.patience now := by
  rw [patience, patience, if_pos hlater, if_neg (Nat.not_le.2 hnow)]
  omega

end CycleInFlight

namespace MonitorLoop

variable {l : MonitorLoop} {now later wakeAt : Nat}

def patience (now : Nat) (l : MonitorLoop) : Nat :=
  match l.wakeAt? with
  | some wakeAt => if wakeAt ≤ now then 1 else 2
  | none => 0

theorem patience_of_sleeping (h : l.phase = .sleeping wakeAt) :
    l.patience now = if wakeAt ≤ now then 1 else 2 := by
  rw [patience, wakeAt?, h]

theorem patience_of_cycling (h : l.phase = .cycling) : l.patience now = 0 := by
  rw [patience, wakeAt?, h]

theorem patience_le_two : l.patience now ≤ 2 := by
  rw [patience]
  split
  · split <;> omega
  · omega

theorem patience_le (h : now ≤ later) : l.patience later ≤ l.patience now := by
  rw [patience, patience]
  split
  · split <;> split <;> omega
  · exact Nat.le_refl 0

end MonitorLoop

/-- The first of a queue counts if somebody in the queue does. -/
theorem rdropWhile_cons {α : Type} {drop : α → Bool} {first : α} {rest : List α}
    (h : ∃ x ∈ first :: rest, drop x = false) :
    (first :: rest).rdropWhile drop = first :: rest.rdropWhile drop := by
  rw [List.rdropWhile, List.rdropWhile, List.reverse_cons, List.dropWhile_append]
  cases hrest : rest.reverse.dropWhile drop with
  | cons last others =>
      simp
  | nil =>
      -- Nothing is left of the rest, so it must be the first that counts.
      have hdropped : ∀ x ∈ rest, drop x = true := by
        have hall := List.dropWhile_eq_nil_iff.1 hrest
        intro x hx
        exact hall x (List.mem_reverse.2 hx)
      have hfirst : drop first = false := by
        rcases h with ⟨x, hx, hkept⟩
        rcases List.mem_cons.1 hx with rfl | hx
        · exact hkept
        · rw [hdropped x hx] at hkept
          cases hkept
      simp [hfirst]

def queuePatience (queue : List CycleOwner) : Nat :=
  ((queue.rdropWhile CycleOwner.isLoop).map CycleOwner.patience).sum

theorem queuePatience_cons {owner : CycleOwner} {waiting : List CycleOwner} {ticket : Nat}
    (h : .caller ticket ∈ owner :: waiting) :
    queuePatience (owner :: waiting) = owner.patience + queuePatience waiting := by
  rw [queuePatience, rdropWhile_cons ⟨_, h, rfl⟩, List.map_cons, List.sum_cons]
  rfl

theorem queuePatience_concat_loop (queue : List CycleOwner) (id : Nat) :
    queuePatience (queue ++ [.loop id]) = queuePatience queue := by
  rw [queuePatience, List.rdropWhile_concat_pos _ _ _ rfl]
  rfl

theorem queuePatience_le (queue : List CycleOwner) : queuePatience queue ≤ 5 * queue.length := by
  have hsum : ∀ owners : List CycleOwner,
      (owners.map CycleOwner.patience).sum ≤ 5 * owners.length := by
    intro owners
    induction owners with
    | nil =>
        exact Nat.le_refl 0
    | cons o rest ih =>
        have ho : o.patience ≤ 5 := by
          cases o <;> simp [CycleOwner.patience]
        rw [List.map_cons, List.sum_cons, List.length_cons]
        omega
  have hlength : (queue.rdropWhile CycleOwner.isLoop).length ≤ queue.length :=
    (List.rdropWhile_prefix CycleOwner.isLoop queue).length_le
  have hcounted := hsum (queue.rdropWhile CycleOwner.isLoop)
  rw [queuePatience]
  omega

def flightPatience (now : Nat) (flight : Option CycleInFlight) : Nat :=
  (flight.map (CycleInFlight.patience now)).getD 0

def loopsPatience (now : Nat) (loops : List MonitorLoop) : Nat :=
  (loops.map (MonitorLoop.patience now)).sum

@[simp]
theorem flightPatience_some (now : Nat) (f : CycleInFlight) :
    flightPatience now (some f) = f.patience now :=
  rfl

@[simp]
theorem flightPatience_none (now : Nat) : flightPatience now none = 0 :=
  rfl

@[simp]
theorem loopsPatience_nil (now : Nat) : loopsPatience now [] = 0 :=
  rfl

@[simp]
theorem loopsPatience_singleton (now : Nat) (l : MonitorLoop) :
    loopsPatience now [l] = l.patience now :=
  rfl

/-- How many things can happen before the last caller has its results. -/
def Plane.patience (p : Plane) : Nat :=
  queuePatience p.monitor.queue + flightPatience p.now p.monitor.flight +
    loopsPatience p.now p.monitor.loops

namespace Plane

variable {p q : Plane} {ticket : Nat}

/-! ## Each step brings the turn nearer -/

theorem patience_land_lt {f : CycleInFlight} (hsound : p.monitor.Sound)
    (hflight : p.monitor.flight = some f) : (p.land f).patience < p.patience := by
  rw [land_eq, Monitor.landed, patience, patience, hflight, flightPatience_some]
  cases howner : f.owner with
  | caller t =>
      have hpos : 0 < f.patience p.now := CycleInFlight.patience_pos
      simp only [flightPatience_none]
      omega
  | loop id =>
      have howned : .loop id ∈ p.monitor.owners := by
        rw [Monitor.owners_of_flight hflight, howner]
        exact List.mem_cons_self
      rcases hsound.cycling_of_owner howned with ⟨l, hloops, hid, hcycling⟩
      -- The loop is paid for until it has slept and woken: what it may still need then was counted.
      let wakes := p.now + p.monitor.settings.interval
      have hbefore : 3 ≤ f.patience p.now := by
        rw [CycleInFlight.patience, howner]
        simp only [CycleOwner.isLoop, if_true]
        split <;> omega
      have hafter : ({ p.monitor with flight := none }.mapLoop id fun l =>
          { l with phase := .sleeping wakes }).loops = [{ l with phase := .sleeping wakes }] := by
        simp [Monitor.mapLoop, hloops, hid]
      have hasleep : ({ l with phase := .sleeping wakes } : MonitorLoop).patience p.now ≤ 2 :=
        MonitorLoop.patience_le_two
      have hloop : l.patience p.now = 0 := MonitorLoop.patience_of_cycling hcycling
      have hkept : ({ p.monitor with flight := none }.mapLoop id fun l =>
          { l with phase := .sleeping wakes }).queue = p.monitor.queue := rfl
      have hfree : ({ p.monitor with flight := none }.mapLoop id fun l =>
          { l with phase := .sleeping wakes }).flight = none := rfl
      dsimp only
      rw [hafter, hkept, hfree, hloops, loopsPatience_singleton, loopsPatience_singleton,
        flightPatience_none, hloop]
      omega

/-- When the clock jumps, something is over or due that was not. -/
theorem patience_jump_lt {t : Nat} (hsound : p.monitor.Sound) (hquiet : p.tick? = none)
    (hdeadline : p.nextDeadline = some t) :
    { p with now := max p.now t }.patience < p.patience := by
  have hlater : p.now < t := now_lt_of_quiet hquiet hdeadline
  have hflights : flightPatience t p.monitor.flight ≤ flightPatience p.now p.monitor.flight := by
    cases p.monitor.flight with
    | none =>
        exact Nat.le_refl 0
    | some f =>
        exact CycleInFlight.patience_le (Nat.le_of_lt hlater)
  have hloops : loopsPatience t p.monitor.loops ≤ loopsPatience p.now p.monitor.loops := by
    rcases hsound.loops_cases with hnone | ⟨l, hone⟩
    · rw [hnone]
      exact Nat.le_refl 0
    · rw [hone]
      exact MonitorLoop.patience_le (Nat.le_of_lt hlater)
  -- The deadline is that of the cycle in flight, or that of a loop.
  have hsome : flightPatience t p.monitor.flight < flightPatience p.now p.monitor.flight ∨
      loopsPatience t p.monitor.loops < loopsPatience p.now p.monitor.loops := by
    have hmem := (nextDeadline_spec hdeadline).1
    rw [deadlines, List.mem_append] at hmem
    rcases hmem with hlanding | hwaking
    · left
      cases hflight : p.monitor.flight with
      | none =>
          simp [hflight] at hlanding
      | some f =>
          have ht : t = f.endsAt := by
            simpa [hflight] using hlanding
          exact CycleInFlight.patience_lt (ht ▸ hlater) (Nat.le_of_eq ht.symm)
    · right
      rcases List.mem_filterMap.1 hwaking with ⟨l, hloop, hwake⟩
      rw [hsound.loops_eq hloop, loopsPatience_singleton, loopsPatience_singleton]
      rw [MonitorLoop.patience, MonitorLoop.patience, hwake]
      simp [Nat.not_le.2 hlater]
  have hnow : max p.now t = t := Nat.max_eq_right (Nat.le_of_lt hlater)
  have hjumped : { p with now := max p.now t }.patience =
      queuePatience p.monitor.queue + flightPatience t p.monitor.flight +
        loopsPatience t p.monitor.loops := by
    rw [hnow]
    rfl
  rw [hjumped, patience]
  omega

theorem Happens.patience_lt (h : p.Happens q) (hsound : p.monitor.Sound)
    (hcaller : .caller ticket ∈ p.monitor.owners) : q.patience < p.patience := by
  cases h with
  | landing hflight hover =>
      exact patience_land_lt hsound hflight
  | @departing owner waiting hfree hqueue =>
      -- The caller still waits in the queue, so the first in it counts, loop or not.
      have hwaits : .caller ticket ∈ owner :: waiting := by
        rw [← hqueue, ← Monitor.owners_of_free hfree]
        exact hcaller
      let f := { p with monitor := { p.monitor with queue := waiting } }.cycle owner
      have hturn : f.patience p.now < owner.patience := CycleInFlight.patience_lt_owner
      have hafter : ({ p with monitor := { p.monitor with queue := waiting } }.beginCycle
          owner).patience =
            queuePatience waiting + f.patience p.now + loopsPatience p.now p.monitor.loops := by
        rw [beginCycle_eq]
        rfl
      rw [hafter, patience, hfree, hqueue, queuePatience_cons hwaits, flightPatience_none]
      omega
  | @retiring l wakeAt hloop hasked hsleeps =>
      have hends : p.monitor.abort l.id = { p.monitor with loops := [] } :=
        hsound.abort_of_sleeping hloop hsleeps
      have hpos : 0 < l.patience p.now := by
        rw [MonitorLoop.patience_of_sleeping hsleeps]
        split <;> omega
      rw [hends, patience, patience, hsound.loops_eq hloop, loopsPatience_singleton]
      simp only [tell, loopsPatience_nil]
      omega
  | @waking l wakeAt hloop hsleeps hdue =>
      -- The loop joins the queue behind all callers, where it is not counted.
      have hawake : (p.monitor.mapLoop l.id fun l => { l with phase := .cycling }).loops =
          [{ l with phase := .cycling }] := by
        simp [Monitor.mapLoop, hsound.loops_eq hloop]
      have hbefore : l.patience p.now = 1 := by
        rw [MonitorLoop.patience_of_sleeping hsleeps, if_pos hdue]
      have hafter : ({ l with phase := .cycling } : MonitorLoop).patience p.now = 0 :=
        MonitorLoop.patience_of_cycling rfl
      have hkept : (p.monitor.mapLoop l.id fun l => { l with phase := .cycling }).flight =
          p.monitor.flight := rfl
      rw [patience, patience]
      dsimp only
      rw [hawake, hkept, queuePatience_concat_loop, hsound.loops_eq hloop, loopsPatience_singleton,
        loopsPatience_singleton, hafter, hbefore]
      omega
  | passing hquiet hdeadline =>
      exact patience_jump_lt hsound hquiet hdeadline

/-! ## The steps are enough -/

theorem patience_le_stepsFor (hsound : p.monitor.Sound) : p.patience ≤ p.stepsFor 0 := by
  have hqueue := queuePatience_le p.monitor.queue
  have hflight : flightPatience p.now p.monitor.flight ≤ 4 := by
    cases p.monitor.flight with
    | none =>
        exact Nat.zero_le 4
    | some f =>
        have hturn : f.patience p.now < f.owner.patience := CycleInFlight.patience_lt_owner
        have howner : f.owner.patience ≤ 5 := by
          cases f.owner <;> simp [CycleOwner.patience]
        rw [flightPatience_some]
        omega
  have hloops : loopsPatience p.now p.monitor.loops ≤ 2 := by
    rcases hsound.loops_cases with hnone | ⟨l, hone⟩
    · rw [hnone]
      exact Nat.zero_le 2
    · rw [hone]
      exact MonitorLoop.patience_le_two
  rw [patience, stepsFor]
  omega

/-- While a caller waits, something is left to do or there is a deadline. -/
theorem next_of_caller (hcaller : .caller ticket ∈ p.monitor.owners) :
    ∃ q, p.next? none = some q := by
  cases htick : p.tick? with
  | some q =>
      exact ⟨q, by rw [next?, htick]⟩
  | none =>
      cases hflight : p.monitor.flight with
      | none =>
          rw [Monitor.owners_of_free hflight, queue_eq_of_quiet htick hflight] at hcaller
          cases hcaller
      | some f =>
          have hmem : f.endsAt ∈ p.deadlines := by
            simp [deadlines, hflight]
          rcases nextDeadline_isSome hmem with ⟨t, ht⟩
          exact ⟨{ p with now := max p.now t }, by simp [next?, htick, ht, within]⟩

theorem areDelivered_iff {tickets : List Nat} :
    areDelivered tickets p = true ↔ ∀ t ∈ tickets, t ∈ p.monitor.delivered.map Prod.fst := by
  simp [areDelivered]

/-- Everybody who has asked for a cycle has its results when the wait is over. -/
theorem areDelivered_runSteps {tickets : List Nat} {steps : Nat} (hsound : p.monitor.Sound)
    (hasked : ∀ t ∈ tickets, t < p.monitor.nextTicket) (hsteps : p.patience ≤ steps) :
    areDelivered tickets (runSteps (areDelivered tickets) none steps p) = true := by
  -- The invariant of the wait: turns are in order, and nobody else asks for one.
  have hkept : ∀ q r : Plane,
      (q.monitor.Sound ∧ q.monitor.nextTicket = p.monitor.nextTicket) → q.Happens r →
        r.monitor.Sound ∧ r.monitor.nextTicket = p.monitor.nextTicket := by
    rintro q r ⟨hq, hticket⟩ hnext
    exact ⟨hnext.sound hq, hnext.onward.nextTicket_eq.trans hticket⟩
  have hgoes : ∀ q : Plane,
      (q.monitor.Sound ∧ q.monitor.nextTicket = p.monitor.nextTicket) →
        areDelivered tickets q = false →
          ∃ r, q.next? none = some r ∧ r.patience < q.patience := by
    rintro q ⟨hq, hticket⟩ hwaits
    have hsome : ∃ t ∈ tickets, t ∉ q.monitor.delivered.map Prod.fst := by
      simpa [areDelivered] using hwaits
    rcases hsome with ⟨t, ht, hnot⟩
    have hcaller : .caller t ∈ q.monitor.owners :=
      (hq.caller_mem_iff t).2 ⟨hticket ▸ hasked t ht, hnot⟩
    rcases next_of_caller hcaller with ⟨r, hr⟩
    exact ⟨r, hr, (happens_of_next hr).patience_lt hq hcaller⟩
  exact runSteps_reaches patience hkept hgoes ⟨hsound, rfl⟩ hsteps

end Plane

end ServicePlane
