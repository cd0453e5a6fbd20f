import SignalKernel.Kernel.Delivery
import SignalKernel.SignalSet.Members

/-!
# Delivering what is no longer blocked

A sweep looks once at which pending signals of a thread are not blocked and visits these in
ascending order. From each signal's list it takes records one at a time, every one in a critical
section of its own, so that interrupts are never masked for longer than one removal takes. A record
is taken only if its signal is not blocked at that moment, since a handler may have changed the
mask. No list is longer than the thread has slots, so that many records of one signal are enough.
-/

namespace SignalKernel.Kernel

variable {γ : Type}

/-- Deliver the records of one signal, the oldest first and at most `limit` of them. The result is
their number added to `delivered`. -/
def drain (sink : Sink γ) (id : ThreadId) (signal : Nat) :
    (limit delivered : Nat) → KernelM γ Nat
  | 0, delivered => pure delivered
  | limit + 1, delivered => do
      match ← withSignals id (·.takeUnblocked signal) with
      | none => pure delivered
      | some o =>
          notify (.recordTaken id o)
          dispatch sink id .deferred o
          drain sink id signal limit (delivered + 1)

/-- Deliver the records of several signals, one signal after the other and at most `limit` records
of each. The result is their number added to `delivered`. -/
def drainEach (sink : Sink γ) (id : ThreadId) (limit : Nat) :
    List Nat → (delivered : Nat) → KernelM γ Nat
  | [], delivered => pure delivered
  | signal :: rest, delivered => do
      let delivered ← drain sink id signal limit delivered
      drainEach sink id limit rest delivered

/-- Deliver every pending occurrence of a thread that is not blocked. The result is how many this
sweep delivered. -/
def sweep (sink : Sink γ) (id : ThreadId) : KernelM γ Nat := do
  let ready ← readSignals id (·.deliverable)
  if ready.isEmpty then pure 0
  else
    let limit := ((← get).thread id).pendingCapacity
    drainEach sink id limit ready.toList 0

end SignalKernel.Kernel
