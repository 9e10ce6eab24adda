import ServicePlane.Lifecycle.Watched

/-!
# The stop signal

One coordinator tells any number of signals when to stop. The signals watch a value that becomes
true when the coordinator is triggered, whether there are signals at that time or not. Waiting for a
signal also ends when the coordinator is gone.
-/

namespace ServicePlane

/-- A coordinator and the signals that were made. The coordinator is there as long as it can set the
value; its signals outlive it. -/
structure StopCoordinator where
  triggered : Watched Bool
  /-- The signals by number. One that was let go leaves its place empty. -/
  signals : List (Option Watcher)
  deriving DecidableEq, Repr

namespace StopCoordinator

/-- A coordinator without signals. -/
def new : StopCoordinator where
  triggered := .of false
  signals := []

/-- Whether the coordinator is still there. -/
def present (c : StopCoordinator) : Bool :=
  c.triggered.settable

/-- The signal of a number, if there is one and it was not let go. -/
def signal? (c : StopCoordinator) (signal : Nat) : Option Watcher :=
  c.signals[signal]?.join

/-! ## The coordinator -/

/-- Make a signal; its number, if the coordinator is there. -/
def subscribe (c : StopCoordinator) : Option Nat × StopCoordinator :=
  if c.present then
    (some c.signals.length, { c with signals := c.signals ++ [some c.triggered.watch] })
  else (none, c)

/-- Trigger the coordinator. The result says whether it is there. -/
def trigger (c : StopCoordinator) : Bool × StopCoordinator :=
  if c.present then (true, { c with triggered := c.triggered.set true }) else (false, c)

/-- Whether the coordinator was triggered, if it is there. -/
def isTriggered? (c : StopCoordinator) : Option Bool :=
  if c.present then some c.triggered.value else none

/-- Let the coordinator go. The result says whether it was there. -/
def drop (c : StopCoordinator) : Bool × StopCoordinator :=
  (c.present, { c with triggered := c.triggered.abandon })

/-! ## Signals -/

/-- Copy a signal; the number of the copy. -/
def copySignal (c : StopCoordinator) (signal : Nat) : Nat × StopCoordinator :=
  (c.signals.length, { c with signals := c.signals ++ [(c.signal? signal).map Watcher.copy] })

/-- Let a signal go. -/
def dropSignal (c : StopCoordinator) (signal : Nat) : StopCoordinator :=
  { c with signals := c.signals.set signal none }

/-- Whether a signal knows of a trigger: it reads the value itself, whatever it has seen. -/
def signalTriggered (c : StopCoordinator) (_signal : Nat) : Bool :=
  c.triggered.value

/-- Begin to wait for a signal, or go on waiting. The result says whether the wait is over, because
the coordinator was triggered or because it is gone. -/
def recv (c : StopCoordinator) (signal : Nat) : Bool × StopCoordinator :=
  match c.signal? signal with
  | none => (false, c)
  | some w =>
      let (result, w) := c.triggered.waitFor (fun triggered => triggered) w
      (result.isOver, { c with signals := c.signals.set signal (some w) })

/-- Give up the wait for a signal. -/
def giveUp (c : StopCoordinator) (signal : Nat) : StopCoordinator :=
  { c with signals := c.signals.set signal ((c.signal? signal).map Watcher.giveUp) }

/-- Whether waiting for a signal ends. -/
def resolves (c : StopCoordinator) (signal : Nat) : Bool :=
  (c.recv signal).1

end StopCoordinator

end ServicePlane
