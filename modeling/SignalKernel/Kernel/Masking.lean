import SignalKernel.Kernel.Scheduling
import SignalKernel.Kernel.Sweep

/-!
# Examining and changing a thread's mask

A change of the mask holds the thread's scheduler lock from its beginning to its end, so that other
threads see the new mask and the deliveries it causes as one step. The mask itself is written in a
critical section, because interrupt handlers read it when they decide whether to queue a signal.
-/

namespace SignalKernel.Kernel

variable {γ : Type}

/-- What a call on the mask tells: the mask it found, and whether the change was made. -/
structure MaskReply where
  old : SignalSet
  outcome : Except MaskError Unit

/-- Change a mask in a mode and deliver what is no longer blocked. -/
def installMask (sink : Sink γ) (id : ThreadId) (old : SignalSet) (mode : MaskMode)
    (set : SignalSet) : KernelM γ Unit := do
  let new ← withSignals id fun signals ↦
    let changed := signals.changeMask mode set
    (changed.blocked, changed)
  notify (.maskChanged id old new mode set)
  discard (sweep sink id)

/-- What a call does between finding the mask and replying. Without a set there is nothing to
change, whatever the mode; a number that is no mode's is refused. -/
def requestMask (sink : Sink γ) (id : ThreadId) (old : SignalSet) (how : Int) :
    Option SignalSet → KernelM γ (Except MaskError Unit)
  | none => pure (.ok ())
  | some set => do
      match MaskMode.ofCode how with
      | .error error =>
          notify (.modeRefused how id)
          pure (.error error)
      | .ok mode =>
          installMask sink id old mode set
          pure (.ok ())

/-- Examine the mask of the calling thread and change it if a set is given. What the change unblocks
is delivered, the lowest signal first, before this returns. -/
def changeMask (sink : Sink γ) (id : ThreadId) (how : Int) (set : Option SignalSet) :
    KernelM γ MaskReply := do
  lockScheduler id
  let old ← readSignals id (·.blocked)
  let outcome ← requestMask sink id old how set
  unlockScheduler id
  pure ⟨old, outcome⟩

end SignalKernel.Kernel
