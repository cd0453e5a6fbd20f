/-!
# Control of a core's interrupts

Interrupts are masked around code that must not be interrupted: their state is saved and masked,
and put back afterwards. A kind of core that says how interrupts are enabled, disabled and asked for
gets saving and restoring from these three; a core that can do better brings its own.
-/

namespace SignalKernel

/-- Whether interrupts were enabled when their state was saved. -/
structure InterruptFlags where
  wereEnabled : Bool
deriving DecidableEq

/-- What can be done with the interrupt state `σ` of a core. -/
class InterruptControl (σ : Type) where
  /-- Let interrupts through. -/
  enable : σ → σ
  /-- Mask interrupts. -/
  disable : σ → σ
  /-- Interrupts get through. -/
  isEnabled : σ → Bool
  /-- Mask interrupts and tell whether they were enabled. -/
  save : σ → InterruptFlags × σ := fun state ↦ (⟨isEnabled state⟩, disable state)
  /-- Put back what was saved. -/
  restore : InterruptFlags → σ → σ :=
    fun flags state ↦ if flags.wereEnabled then enable state else state

/-- A part of a larger state, by how it is read and how it is written. -/
structure Component (τ σ : Type) where
  get : τ → σ
  set : σ → τ → τ

/-- Run a computation with interrupts masked. The interrupt state is a component of the state that
the computation works on. -/
def withoutInterrupts {τ σ α : Type} [InterruptControl σ] (component : Component τ σ)
    (body : StateM τ α) : StateM τ α := do
  let (flags, masked) := InterruptControl.save (component.get (← get))
  modify (component.set masked)
  let result ← body
  modify fun state ↦
    component.set (InterruptControl.restore flags (component.get state)) state
  pure result

end SignalKernel
