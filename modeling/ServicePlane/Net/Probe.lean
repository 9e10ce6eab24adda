import ServicePlane.Net.Network
import ServicePlane.Text.Span

/-!
# Probes

A probe opens a connection and drops it, and gives up after a time. It takes no time to learn that
a connection is established or refused; only silence makes it wait.
-/

namespace ServicePlane

/-- What a probe comes to, and after how many milliseconds. -/
structure ProbeResult where
  outcome : Except String Unit
  duration : Nat

/-- Connect to an address, for at most so many milliseconds. -/
def probe (network : Network) (address : String) (timeout : Nat) : ProbeResult :=
  match network.connect address with
  | .established _ => ⟨.ok (), 0⟩
  | .failed e => ⟨.error s!"connect to {address} failed: {e.message}", 0⟩
  | .unanswered =>
      ⟨.error s!"connect to {address} timed out after {Text.span timeout}", timeout⟩

end ServicePlane
