import SignalKernel.Program.Session

/-!
# Calls on interrupts, carried out

Flags are kept in one place for both cores, so flags saved on one may be restored on the other.
-/

namespace SignalKernel.Program

open SignalKernel.Kernel

/-- The second core's interrupt state as a component of the kernel's state. -/
def flagInterrupts : Component (Kernel Session) InterruptFlag where
  get kernel := kernel.client.flagCore
  set flagCore kernel := { kernel with client := { kernel.client with flagCore } }

/-- The core's interrupt depth. -/
def interruptDepth : ProgramM UInt64 := do
  pure (← get).core.interrupts.depth

/-- Whether the second core's interrupts are enabled. -/
def flagEnabled : ProgramM Bool := do
  pure (InterruptControl.isEnabled (← get).client.flagCore)

/-- Change a component of the kernel's state. -/
def modifyComponent {σ : Type} (component : Component (Kernel Session) σ) (change : σ → σ) :
    ProgramM Unit :=
  modify fun kernel ↦ component.set (change (component.get kernel)) kernel

/-- Save and mask the interrupts of a core, and keep the flags. -/
def saveFlags {σ : Type} [InterruptControl σ] (component : Component (Kernel Session) σ) :
    ProgramM InterruptFlags := do
  let (flags, masked) := InterruptControl.save (component.get (← get))
  modifyComponent component fun _ ↦ masked
  modifySession fun session ↦ { session with flags := session.flags ++ [flags] }
  pure flags

/-- Restore kept flags on a core, and answer what the core shows then. -/
def restoreFlags {σ : Type} [InterruptControl σ] (component : Component (Kernel Session) σ)
    (index : Nat) (answer : ProgramM Answer) : ProgramM Answer := do
  match (← get).client.flags[index]? with
  | none => pure .noFlags
  | some flags => do
      modifyComponent component (InterruptControl.restore flags)
      answer

/-- Carry out a call on interrupts. -/
def InterruptCall.run : InterruptCall → ProgramM Answer
  | .status => do
      let core := (← get).core
      pure (.core core.interrupts.depth (InterruptControl.isEnabled core.interrupts) core.number)
  | .enable => do
      modifyComponent interrupts InterruptControl.enable
      pure (.number (← interruptDepth).toNat)
  | .disable => do
      modifyComponent interrupts InterruptControl.disable
      pure (.number (← interruptDepth).toNat)
  | .save => do
      let flags ← saveFlags interrupts
      pure (.atDepth flags.wereEnabled (← interruptDepth))
  | .restore index =>
      restoreFlags interrupts index do
        pure (.number (← interruptDepth).toNat)
  | .enter => do
      let entered ← Kernel.enter
      modifySession fun session ↦ { session with sections := session.sections ++ [some entered] }
      pure (.atDepth entered.flags.wereEnabled (← interruptDepth))
  | .leave index => do
      match (← get).client.sections[index]? with
      | some (some entered) =>
          modifySession fun session ↦ { session with sections := session.sections.set index none }
          Kernel.leave entered
          pure (.atDepth true (← interruptDepth))
      | _ => pure (.atDepth false (← interruptDepth))
  | .addToCell value =>
      critical do
        modifySession fun session ↦ { session with cell := session.cell + value }
        let kernel ← get
        pure (.cell kernel.client.cell kernel.core.interrupts.depth)
  | .setCell value => do
      modifySession fun session ↦ { session with cell := value }
      pure (.number (← interruptDepth).toNat)
  | .flagStatus => do
      pure (.truth (← flagEnabled))
  | .flagEnable => do
      modifyComponent flagInterrupts InterruptControl.enable
      pure .done
  | .flagSave => do
      let flags ← saveFlags flagInterrupts
      pure (.flagSaved flags.wereEnabled (← flagEnabled))
  | .flagRestore index =>
      restoreFlags flagInterrupts index do
        pure (.truth (← flagEnabled))

end SignalKernel.Program
