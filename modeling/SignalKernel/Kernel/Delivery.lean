import SignalKernel.Kernel.Basic

/-!
# Posting and handing over

An occurrence may be posted from any context. Whether it is delivered now or queued is decided in
one critical section, so no change of the target's mask comes in between; handing it over happens
outside of it.
-/

namespace SignalKernel.Kernel

variable {γ : Type}

/-- Hand one occurrence to the sink. -/
def dispatch (sink : Sink γ) (id : ThreadId) (timing : Timing) (o : Occurrence) :
    KernelM γ Unit := do
  notify (.delivering o.signal id)
  sink id timing o

/-- The sink of a kernel without handlers: an occurrence is logged and dropped. -/
def discarding : Sink γ :=
  fun id _ o ↦ notify (.discarded o.signal id)

/-- Post an occurrence to a thread. A blocked signal becomes pending; any other is delivered before
this returns. -/
def post (sink : Sink γ) (id : ThreadId) (o : Occurrence) :
    KernelM γ (Except SignalError Fate) := do
  if !Signal.isValid o.signal then pure (.error .invalidSignal)
  else
    let outcome ← withSignals id (·.receive o)
    match outcome with
    | .error _ => pure ()
    | .ok .queued => notify (.queued o.signal id)
    | .ok .coalesced => notify (.coalesced o.signal id)
    | .ok .delivered => dispatch sink id .immediate o
    pure outcome

end SignalKernel.Kernel
