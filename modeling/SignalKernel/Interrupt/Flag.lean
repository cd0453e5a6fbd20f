import SignalKernel.Interrupt.Control

/-!
# Interrupt state as a single flag

This core knows only whether interrupts are enabled, and saves and restores them as every core can:
saving tells the flag and clears it, and restoring sets it again if it was set.
-/

namespace SignalKernel

/-- Whether interrupts get through. -/
structure InterruptFlag where
  enabled : Bool := true
deriving DecidableEq

instance : InterruptControl InterruptFlag where
  enable _ := ⟨true⟩
  disable _ := ⟨false⟩
  isEnabled state := state.enabled

end SignalKernel
