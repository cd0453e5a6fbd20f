import SignalKernel.Interrupt.Depth

/-!
# Critical sections of a core

A critical section masks the core's interrupts and holds a lock that all cores share, so that the
same section on another core waits. The lock may be taken again by the core that owns it. A section
ends by giving back one level of the lock and then one level of the masking.
-/

namespace SignalKernel

/-- The lock that all cores share: the core that owns it, and how many times that core took it. -/
structure CoreLock where
  owner : Option UInt64 := none
  depth : UInt32 := 0
deriving DecidableEq

namespace CoreLock

/-- Take the lock for a core. While another core owns it there is no result: the core has to wait
until it is free. -/
def acquire? (lock : CoreLock) (core : UInt64) : Option CoreLock :=
  match lock.owner with
  | none => some ⟨some core, 1⟩
  | some owner => if owner = core then some ⟨some owner, lock.depth + 1⟩ else none

/-- Give one level back; with the last one the lock becomes free. -/
def release (lock : CoreLock) : CoreLock where
  owner := if lock.depth = 1 then none else lock.owner
  depth := lock.depth - 1

end CoreLock

/-- A core: its number, its interrupt state, and the lock that it shares with the others. -/
structure Core where
  number : UInt64 := 0
  interrupts : InterruptDepth := {}
  lock : CoreLock := {}
deriving DecidableEq

/-- A critical section that has been entered and not left, with the interrupt state before it. -/
structure CriticalSection where
  flags : InterruptFlags
deriving DecidableEq

namespace Core

/-- Enter a critical section. Where no other core ever takes the lock it is always free or the
core's own, and entering never waits. -/
def enter (core : Core) : CriticalSection × Core :=
  let (flags, interrupts) := InterruptControl.save core.interrupts
  (⟨flags⟩, { core with interrupts, lock := (core.lock.acquire? core.number).getD core.lock })

/-- Leave a critical section. -/
def leave (core : Core) (entered : CriticalSection) : Core :=
  { core with
    interrupts := InterruptControl.restore entered.flags core.interrupts
    lock := core.lock.release }

/-- The lock is free or the core's own, so that the core enters without waiting. -/
def MayEnter (core : Core) : Prop :=
  core.lock = {} ∨ core.lock.owner = some core.number ∧ core.lock.depth ≠ 0

/-- An empty critical section leaves no trace. -/
theorem leave_enter {core : Core} (h : core.MayEnter) : core.enter.2.leave core.enter.1 = core := by
  obtain ⟨number, interrupts, owner, depth⟩ := core
  rcases h with hfree | ⟨howner, hdepth⟩
  · cases hfree
    simp [enter, leave, CoreLock.acquire?, CoreLock.release]
  · simp only at howner hdepth
    subst howner
    simp [enter, leave, CoreLock.acquire?, CoreLock.release, hdepth]

end Core

end SignalKernel
