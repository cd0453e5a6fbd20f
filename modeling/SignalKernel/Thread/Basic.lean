import SignalKernel.SignalState
import SignalKernel.Thread.Config

/-!
# Threads

A thread is what signals are posted to. Besides its signal state it has the depth of its scheduler
lock, which defers preemption while it is not 0, and a cell for the last error that an entry point
reported to it.
-/

namespace SignalKernel

open SignalKernel.Text

/-- A thread. -/
structure Thread where
  id : ThreadId
  name : String
  /-- How many levels of the scheduler lock are held; a 32-bit word. -/
  lockDepth : UInt32 := 0
  signals : SignalState
  /-- The number of record slots that the thread was created with. -/
  pendingCapacity : Nat
  errno : Errno := 0

namespace Thread

/-- A new thread. Its pending capacity is what its queue made of the requested one. -/
def ofConfig (id : ThreadId) (config : ThreadConfig) : Thread :=
  let signals := SignalState.ofMask config.initialMask config.pendingCapacity
  { id, name := config.name, signals, pendingCapacity := signals.queue.capacity }

/-- The thread written out. -/
def display (thread : Thread) : Display :=
  .record "Thread"
    [("id", .number thread.id.toNat),
      ("name", .text (quoted thread.name)),
      ("lock_count", .number thread.lockDepth.toNat)]

end Thread

end SignalKernel
