import SignalKernel.SignalSet.Display
import SignalKernel.Text.Quoted

/-!
# What a thread is created with

A new thread has a name, a number of slots for pending records, and a mask to start with. Standard
signals coalesce, so 31 slots are enough for one record of each of them; the default leaves some
more for realtime signals.
-/

namespace SignalKernel

open SignalKernel.Text

/-- What a thread is created with. -/
structure ThreadConfig where
  name : String := "thread"
  pendingCapacity : Nat := 48
  initialMask : SignalSet := ∅

namespace ThreadConfig

/-- The idle thread's configuration: it is hardly ever posted to, so one slot is enough. -/
def idle : ThreadConfig where
  name := "idle"
  pendingCapacity := 1

/-- The configuration written out. -/
def display (config : ThreadConfig) : Display :=
  .record "ThreadConfig"
    [("name", .text (quoted config.name)),
      ("pending_capacity", .number config.pendingCapacity),
      ("initial_mask", config.initialMask.display)]

end ThreadConfig

end SignalKernel
