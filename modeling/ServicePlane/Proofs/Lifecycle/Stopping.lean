import Mathlib.Data.List.Induction
import ServicePlane.Lifecycle.StopSignal

/-!
# What stop signals tell

Signals are made, copied, awaited and let go while the coordinator is triggered or goes away, in any
order. What a signal tells depends on none of this but on the coordinator.

* `Watcher.Sound` — a wait that is under way has missed nothing;
* `Watcher.Sound.waitFor_eq` — what a sound wait comes to is decided by the value alone;
* `StopCoordinator.of calls` — what some calls make of a new coordinator;
* `Triggered calls` — the coordinator was triggered while it was there;
* `follows` — after any calls the value is what the calls say, and all waits are sound;
* `signals_agree` — what every signal tells, and that it stays so.
-/

namespace ServicePlane

universe u

/-! ## Waits -/

namespace Watcher

variable {α : Type u} {v : Watched α} {p : α → Bool} {w : Watcher}

/-- A watcher has seen no version that is still to come, and a wait that is under way has not found
what it waits for in the version it has seen. -/
structure Sound (v : Watched α) (p : α → Bool) (w : Watcher) : Prop where
  seen_le : w.seen ≤ v.version
  not_found : w.waiting = true → w.seen = v.version → p v.value = false

theorem sound_watch : v.watch.Sound v p where
  seen_le := Nat.le_refl v.version
  not_found := by
    intro hwaiting
    cases hwaiting

namespace Sound

theorem copy (h : w.Sound v p) : w.copy.Sound v p where
  seen_le := h.seen_le
  not_found := by
    intro hwaiting
    cases hwaiting

theorem giveUp (h : w.Sound v p) : w.giveUp.Sound v p where
  seen_le := h.seen_le
  not_found := by
    intro hwaiting
    cases hwaiting

/-- The version that comes with a new value is one that no watcher has seen. -/
theorem set (h : w.Sound v p) (value : α) : w.Sound (v.set value) p where
  seen_le := Nat.le_succ_of_le h.seen_le
  not_found := by
    intro _ hseen
    have hle := h.seen_le
    simp only [Watched.set] at hseen
    omega

theorem abandon (h : w.Sound v p) : w.Sound v.abandon p where
  seen_le := h.seen_le
  not_found := h.not_found

/-- A wait looks at the value, unless it has looked at it before in vain. -/
theorem found_iff (h : w.Sound v p) :
    ((!w.waiting || w.seen != v.version) && p v.value) = p v.value := by
  cases hvalue : p v.value with
  | false =>
      simp
  | true =>
      cases hwaiting : w.waiting with
      | false =>
          simp
      | true =>
          -- A wait that has looked at this version is still under way only if it looked in vain.
          have hnew : w.seen ≠ v.version := by
            intro hseen
            rw [h.not_found hwaiting hseen] at hvalue
            cases hvalue
          simp [hnew]

/-- What a wait comes to depends on the value and on whether it can still be set, not on what the
watcher has seen or for how long it has waited. -/
theorem waitFor_eq (h : w.Sound v p) :
    (v.waitFor p w).1 =
      if p v.value then .found v.value else if v.settable then .pending else .abandoned := by
  rw [Watched.waitFor, h.found_iff]
  split
  · rfl
  · split <;> rfl

theorem waitFor (h : w.Sound v p) : (v.waitFor p w).2.Sound v p := by
  rw [Watched.waitFor, h.found_iff]
  split
  · exact sound_watch
  · rename_i hvalue
    split
    · exact ⟨Nat.le_refl _, fun _ _ => by simpa using hvalue⟩
    · exact sound_watch

end Sound

end Watcher

/-! ## Calls on a coordinator and its signals -/

/-- A call on a coordinator or on one of its signals, by its number. -/
inductive StopCall where
  | subscribe
  | trigger
  | drop
  | copySignal (signal : Nat)
  | dropSignal (signal : Nat)
  | recv (signal : Nat)
  | giveUp (signal : Nat)
  deriving DecidableEq, Repr

/-- The coordinator was triggered before it went away. -/
def Triggered (calls : List StopCall) : Prop :=
  ∃ before after, calls = before ++ .trigger :: after ∧ StopCall.drop ∉ before

theorem triggered_concat {calls : List StopCall} {call : StopCall} :
    Triggered (calls ++ [call]) ↔ Triggered calls ∨ call = .trigger ∧ .drop ∉ calls := by
  constructor
  · rintro ⟨before, after, hcalls, hpresent⟩
    -- The trigger is the last call itself, or the last call comes after it.
    cases after using List.reverseRecOn with
    | nil =>
        rcases List.append_inj' hcalls rfl with ⟨rfl, hlast⟩
        exact .inr ⟨List.singleton_inj.1 hlast, hpresent⟩
    | append_singleton after last =>
        have hsplit : calls ++ [call] = (before ++ .trigger :: after) ++ [last] := by
          simpa using hcalls
        exact .inl ⟨before, after, (List.append_inj' hsplit rfl).1, hpresent⟩
  · rintro (⟨before, after, rfl, hpresent⟩ | ⟨rfl, hpresent⟩)
    · exact ⟨before, after ++ [call], by simp, hpresent⟩
    · exact ⟨calls, [], rfl, hpresent⟩

theorem Triggered.mem {calls : List StopCall} (h : Triggered calls) : .trigger ∈ calls := by
  rcases h with ⟨before, after, rfl, _⟩
  simp

theorem Triggered.append {calls : List StopCall} (h : Triggered calls) (later : List StopCall) :
    Triggered (calls ++ later) := by
  rcases h with ⟨before, after, rfl, hpresent⟩
  exact ⟨before, after ++ later, by simp, hpresent⟩

/-- Calls without a trigger do not trigger. -/
theorem triggered_append_iff {calls later : List StopCall} (h : .trigger ∉ later) :
    Triggered (calls ++ later) ↔ Triggered calls := by
  induction later using List.reverseRecOn with
  | nil =>
      rw [List.append_nil]
  | append_singleton later last ih =>
      simp only [List.mem_append, List.mem_singleton, not_or] at h
      rw [← List.append_assoc, triggered_concat, ih h.1]
      simp [Ne.symm h.2]

namespace StopCoordinator

variable {c : StopCoordinator} {calls : List StopCall} {call : StopCall} {signal : Nat}

/-- What one call makes of a coordinator and its signals. -/
def perform (c : StopCoordinator) : StopCall → StopCoordinator
  | .subscribe => c.subscribe.2
  | .trigger => c.trigger.2
  | .drop => c.drop.2
  | .copySignal signal => (c.copySignal signal).2
  | .dropSignal signal => c.dropSignal signal
  | .recv signal => (c.recv signal).2
  | .giveUp signal => c.giveUp signal

/-- What some calls make of a new coordinator. -/
def of (calls : List StopCall) : StopCoordinator :=
  calls.foldl perform new

theorem of_concat (calls : List StopCall) (call : StopCall) :
    of (calls ++ [call]) = (of calls).perform call := by
  simp [of]

/-! ## The value -/

/-- Signals come and go, and are awaited, without any effect on the value that they watch. -/
theorem triggered_perform :
    (c.perform call).triggered =
      match call with
      | .trigger => if c.present then c.triggered.set true else c.triggered
      | .drop => c.triggered.abandon
      | _ => c.triggered := by
  cases call with
  | subscribe =>
      rw [perform, subscribe]
      split <;> rfl
  | trigger =>
      rw [perform, trigger]
      split <;> rfl
  | recv signal =>
      rw [perform, recv]
      split <;> rfl
  | _ =>
      rfl

/-- Only a trigger makes the value true, and only while the coordinator is there. -/
theorem value_perform :
    (c.perform call).triggered.value = (c.triggered.value || (call = .trigger && c.present)) := by
  rw [triggered_perform]
  cases call with
  | trigger =>
      cases hpresent : c.present <;> simp [Watched.set]
  | drop =>
      simp [Watched.abandon]
  | _ =>
      simp

theorem present_perform : (c.perform call).present = (c.present && call ≠ .drop) := by
  rw [present, triggered_perform]
  cases call with
  | trigger =>
      cases hpresent : c.triggered.settable <;> simp [present, hpresent, Watched.set]
  | drop =>
      simp [Watched.abandon]
  | _ =>
      simp [present]

/-! ## Signals -/

/-- There is a signal of this number, and it was not let go. -/
def Has (c : StopCoordinator) (signal : Nat) : Prop :=
  ∃ w, c.signals[signal]? = some (some w)

theorem has_iff_isSome : c.Has signal ↔ (c.signal? signal).isSome = true := by
  rw [Has, signal?]
  cases hsignal : c.signals[signal]? with
  | none =>
      simp
  | some entry =>
      cases entry <;> simp

instance (c : StopCoordinator) (signal : Nat) : Decidable (c.Has signal) :=
  decidable_of_iff _ has_iff_isSome.symm

theorem signal?_of_has {w : Watcher} (h : c.signals[signal]? = some (some w)) :
    c.signal? signal = some w := by
  rw [signal?, h]
  rfl

theorem mem_of_signal? {w : Watcher} (h : c.signal? signal = some w) : some w ∈ c.signals :=
  List.mem_of_getElem? (Option.join_eq_some_iff.1 h)

/-- A coordinator that is there makes a signal. -/
theorem exists_subscribe (h : c.present = true) :
    ∃ signal, c.subscribe.1 = some signal ∧ c.subscribe.2.Has signal := by
  rw [subscribe, if_pos h]
  exact ⟨c.signals.length, rfl, c.triggered.watch, by simp⟩

/-- The copy of a signal is there. -/
theorem has_copySignal (h : c.Has signal) :
    (c.copySignal signal).2.Has (c.copySignal signal).1 := by
  rcases h with ⟨w, hw⟩
  exact ⟨w.copy, by simp [copySignal, signal?_of_has hw]⟩

/-- A signal is there until it is let go itself. -/
theorem Has.perform (h : c.Has signal) (hkept : call ≠ .dropSignal signal) :
    (c.perform call).Has signal := by
  rcases h with ⟨w, hw⟩
  have hlt : signal < c.signals.length := (List.getElem?_eq_some_iff.1 hw).1
  cases call with
  | subscribe =>
      cases hpresent : c.present with
      | false =>
          exact ⟨w, by simpa [StopCoordinator.perform, subscribe, hpresent] using hw⟩
      | true =>
          refine ⟨w, ?_⟩
          simp only [StopCoordinator.perform, subscribe, hpresent, if_true]
          rw [List.getElem?_append_left hlt, hw]
  | trigger =>
      cases hpresent : c.present <;>
        exact ⟨w, by simpa [StopCoordinator.perform, trigger, hpresent] using hw⟩
  | drop =>
      exact ⟨w, hw⟩
  | copySignal other =>
      refine ⟨w, ?_⟩
      simp only [StopCoordinator.perform, copySignal]
      rw [List.getElem?_append_left hlt, hw]
  | dropSignal other =>
      have hne : other ≠ signal := by
        rintro rfl
        exact hkept rfl
      exact ⟨w, by simpa [StopCoordinator.perform, dropSignal, hne] using hw⟩
  | recv other =>
      -- The place of a signal that is awaited holds what the wait makes of it.
      by_cases hsame : other = signal
      · subst hsame
        refine ⟨(c.triggered.waitFor (fun triggered => triggered) w).2, ?_⟩
        simp [StopCoordinator.perform, recv, signal?_of_has hw, hlt]
      · refine ⟨w, ?_⟩
        cases hother : c.signal? other <;>
          simpa [StopCoordinator.perform, recv, hother, hsame] using hw
  | giveUp other =>
      by_cases hsame : other = signal
      · subst hsame
        exact ⟨w.giveUp, by simp [StopCoordinator.perform, giveUp, signal?_of_has hw, hlt]⟩
      · exact ⟨w, by simpa [StopCoordinator.perform, giveUp, hsame] using hw⟩

theorem Has.append {later : List StopCall} (h : (of calls).Has signal)
    (hkept : .dropSignal signal ∉ later) : (of (calls ++ later)).Has signal := by
  induction later using List.reverseRecOn with
  | nil =>
      simpa using h
  | append_singleton later last ih =>
      simp only [List.mem_append, List.mem_singleton, not_or] at hkept
      rw [← List.append_assoc, of_concat]
      exact (ih hkept.1).perform (Ne.symm hkept.2)

/-! ## Sound waits -/

/-- All waits for signals are sound. -/
def Sound (c : StopCoordinator) : Prop :=
  ∀ w, some w ∈ c.signals → w.Sound c.triggered fun triggered => triggered

/-- A wait for a signal is over exactly when the coordinator was triggered or is gone. -/
theorem Sound.resolves_iff (h : c.Sound) (hsignal : c.Has signal) :
    c.resolves signal = true ↔ c.triggered.value = true ∨ c.present = false := by
  rcases hsignal with ⟨w, hw⟩
  have hwait := (h w (List.mem_of_getElem? hw)).waitFor_eq
  rw [resolves, recv, signal?_of_has hw]
  simp only [hwait, present]
  cases c.triggered.value <;> cases c.triggered.settable <;> simp [WaitResult.isOver]

theorem Sound.perform (h : c.Sound) (call : StopCall) : (c.perform call).Sound := by
  intro w hw
  cases call with
  | subscribe =>
      cases hpresent : c.present with
      | false =>
          simp only [StopCoordinator.perform, subscribe, hpresent] at hw ⊢
          exact h w hw
      | true =>
          simp only [StopCoordinator.perform, subscribe, hpresent, if_true, List.mem_append,
            List.mem_singleton, Option.some.injEq] at hw ⊢
          rcases hw with hw | rfl
          · exact h w hw
          · exact Watcher.sound_watch
  | trigger =>
      cases hpresent : c.present with
      | false =>
          simp only [StopCoordinator.perform, trigger, hpresent] at hw ⊢
          exact h w hw
      | true =>
          simp only [StopCoordinator.perform, trigger, hpresent] at hw ⊢
          exact (h w hw).set true
  | drop =>
      exact (h w hw).abandon
  | copySignal signal =>
      simp only [StopCoordinator.perform, copySignal, List.mem_append, List.mem_singleton] at hw ⊢
      rcases hw with hw | hcopy
      · exact h w hw
      · rcases Option.map_eq_some_iff.1 hcopy.symm with ⟨original, horiginal, rfl⟩
        exact (h original (mem_of_signal? horiginal)).copy
  | dropSignal signal =>
      rcases List.mem_or_eq_of_mem_set hw with hw | hnone
      · exact h w hw
      · cases hnone
  | recv signal =>
      cases hsignal : c.signal? signal with
      | none =>
          simp only [StopCoordinator.perform, recv, hsignal] at hw ⊢
          exact h w hw
      | some waiting =>
          simp only [StopCoordinator.perform, recv, hsignal] at hw ⊢
          rcases List.mem_or_eq_of_mem_set hw with hw | hwaited
          · exact h w hw
          · rw [Option.some.inj hwaited]
            exact (h waiting (mem_of_signal? hsignal)).waitFor
  | giveUp signal =>
      rcases List.mem_or_eq_of_mem_set hw with hw | hgiven
      · exact h w hw
      · rcases Option.map_eq_some_iff.1 hgiven.symm with ⟨waiting, hsignal, rfl⟩
        exact (h waiting (mem_of_signal? hsignal)).giveUp

/-! ## Any calls -/

/-- The coordinator is as the calls say, and its waits are sound. -/
structure Follows (calls : List StopCall) (c : StopCoordinator) : Prop where
  value_iff : c.triggered.value = true ↔ Triggered calls
  present_iff : c.present = true ↔ StopCall.drop ∉ calls
  sound : c.Sound

theorem follows (calls : List StopCall) : Follows calls (of calls) := by
  induction calls using List.reverseRecOn with
  | nil =>
      refine ⟨?_, by simp [of, new, present, Watched.of], ?_⟩
      · simp [of, new, Watched.of, Triggered]
      · intro w hw
        cases hw
  | append_singleton calls call ih =>
      rw [of_concat]
      refine ⟨?_, ?_, ih.sound.perform call⟩
      · rw [value_perform, triggered_concat, ← ih.value_iff, ← ih.present_iff]
        simp only [Bool.or_eq_true, Bool.and_eq_true, decide_eq_true_eq]
      · rw [present_perform, Bool.and_eq_true, decide_eq_true_eq, ih.present_iff, List.mem_append,
          List.mem_singleton, not_or, ne_comm]

/-- After any calls, all signals tell the same, whenever they were made and however often they were
awaited: a signal knows of a trigger exactly when the coordinator was triggered while it was there,
and a wait for it is over exactly when this has happened or the coordinator is gone. What is true
stays true, as long as the signal is there, and nothing but a trigger makes a signal know of one.
Signals can be made while the coordinator is there, and copied at any time. -/
theorem signals_agree (calls : List StopCall) :
    let c := of calls
    (.drop ∉ calls → ∃ signal, c.subscribe.1 = some signal ∧ c.subscribe.2.Has signal) ∧
      (∀ signal, c.Has signal → (c.copySignal signal).2.Has (c.copySignal signal).1) ∧
      (∀ signal, c.signalTriggered signal = true ↔ Triggered calls) ∧
      (∀ signal, c.Has signal →
        (c.resolves signal = true ↔ Triggered calls ∨ .drop ∈ calls)) ∧
      ∀ later, let c' := of (calls ++ later)
        (∀ signal, c.signalTriggered signal = true → c'.signalTriggered signal = true) ∧
          (∀ signal, c.Has signal → .dropSignal signal ∉ later →
            c'.Has signal ∧ (c.resolves signal = true → c'.resolves signal = true)) ∧
          (.trigger ∉ later → ∀ signal, c'.signalTriggered signal = c.signalTriggered signal) := by
  intro c
  have hvalue : ∀ calls signal, (of calls).signalTriggered signal = true ↔ Triggered calls :=
    fun calls _ => (follows calls).value_iff
  have hresolves : ∀ calls signal, (of calls).Has signal →
      ((of calls).resolves signal = true ↔ Triggered calls ∨ .drop ∈ calls) := by
    intro calls signal hsignal
    have hgone : (of calls).present = false ↔ .drop ∈ calls := by
      rw [← Bool.not_eq_true, (follows calls).present_iff, not_not]
    rw [(follows calls).sound.resolves_iff hsignal, (follows calls).value_iff, hgone]
  refine ⟨fun hpresent => exists_subscribe ((follows calls).present_iff.2 hpresent),
    fun _ => has_copySignal, hvalue calls, hresolves calls, fun later => ⟨?_, ?_, ?_⟩⟩
  · intro signal htriggered
    exact (hvalue _ signal).2 (((hvalue calls signal).1 htriggered).append later)
  · intro signal hsignal hkept
    have hsignal' : (of (calls ++ later)).Has signal := hsignal.append hkept
    refine ⟨hsignal', fun hover => (hresolves _ signal hsignal').2 ?_⟩
    rcases (hresolves calls signal hsignal).1 hover with htriggered | hgone
    · exact .inl (htriggered.append later)
    · exact .inr (List.mem_append_left later hgone)
  · intro hnone signal
    rw [Bool.eq_iff_iff, hvalue, hvalue, triggered_append_iff hnone]

/-- The wait for a signal and for its copy is under way until the trigger. A copy that is made when
the coordinator is gone tells the same as they do. -/
theorem signals_agree_awaited :
    let before : List StopCall := [.subscribe, .recv 0, .copySignal 0, .recv 1]
    let calls := before ++ [.trigger, .drop, .copySignal 1]
    (∀ signal ∈ [0, 1], (of before).Has signal ∧ (of before).resolves signal = false) ∧
      ∀ signal ∈ [0, 1, 2], (of calls).Has signal ∧ (of calls).resolves signal = true := by
  intro before calls
  have hmade : ∀ signal ∈ [0, 1], (of before).Has signal := by decide
  have hmade' : ∀ signal ∈ [0, 1, 2], (of calls).Has signal := by decide
  have hpending : ¬ Triggered before := fun h => absurd h.mem (by decide)
  have htriggered : Triggered calls := ⟨before, [.drop, .copySignal 1], rfl, by decide⟩
  constructor
  · intro signal hsignal
    have hover := (signals_agree before).2.2.2.1 signal (hmade signal hsignal)
    refine ⟨hmade signal hsignal, ?_⟩
    rw [← Bool.not_eq_true, hover, not_or]
    exact ⟨hpending, by decide⟩
  · intro signal hsignal
    have hover := (signals_agree calls).2.2.2.1 signal (hmade' signal hsignal)
    exact ⟨hmade' signal hsignal, hover.2 (.inl htriggered)⟩

end StopCoordinator

end ServicePlane
