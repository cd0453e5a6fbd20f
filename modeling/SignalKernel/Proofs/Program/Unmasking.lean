import SignalKernel.Proofs.Kernel.Handing
import SignalKernel.Proofs.Program.Calm
import SignalKernel.Proofs.Program.Unblockable

/-!
# Changes of masks from end to end

With a sink that makes no calls of its own, what a change of a mask does can be foretold at every
point of every run that replaces no signal state: the mask it finds, the mask it leaves, what it
hands over and in which order, and what is left in the queues. The main theorem is `masks_change`.
No thread has to be at rest for that: the change may be made in the middle of a sweep.
-/

namespace SignalKernel.Program

open SignalKernel.Kernel

/-- At every point of a history, a change of a thread's mask in any mode is made as it should be,
with any sink that makes no calls of its own. -/
def MasksChange (history : List Moment) : Prop :=
  ∀ point, .passed point ∈ history → ∀ id thread,
    point.scheduler.threads.find? id = some thread →
      ∀ {γ : Type} {sink : Sink γ} {noted : γ → Handed → γ}, Sink.Notes sink noted →
        ∀ kernel : Kernel γ, kernel.scheduler = point.scheduler →
          ∀ (mode : MaskMode) (set : SignalSet),
            MaskChanged noted id thread (mode.combine thread.signals.blocked set \ .unblockable)
              kernel (Kernel.changeMask sink id mode.code (some set) kernel).1
              (Kernel.changeMask sink id mode.code (some set) kernel).2

/-- Whatever calls a program and its handlers have made, as long as none of them replaced a thread's
signal state: a change of a mask hands over exactly the records that it unblocks, in order and under
the new mask, and touches nothing else. -/
theorem masks_change (program : Program) (h : program.only SignalCall.keepsState = true) :
    MasksChange program.history := by
  intro point hpoint id thread hthread γ sink noted hsink kernel hscheduler mode set
  have hbox : point.scheduler.mailboxes id = some thread.mailbox :=
    congrArg (Option.map Thread.mailbox) hthread
  obtain ⟨hsound, -⟩ := (anyHistory.past h trivial).calm (.passed point) hpoint
  obtain ⟨history, hreached⟩ := reached_point program.every_true hpoint
  have hopen : thread.signals.Open := hreached.allSignals lasting_open id _ hbox
  rw [← hscheduler] at hthread
  exact changeMask_hands hsink hthread (hsound id _ hbox) hopen.inter_eq mode set

/-- The sink that keeps a list of what it is handed. -/
def listing : Sink (List Handed) :=
  fun id timing o ↦ modify fun kernel ↦
    { kernel with
      client := kernel.client ++ [⟨id, timing, o, (kernel.thread id).signals.blocked⟩] }

theorem notes_listing : Sink.Notes listing fun noted handed ↦ noted ++ [handed] :=
  fun _ _ _ _ ↦ ⟨rfl, rfl⟩

/-- A thread with records of three signals, two of one of them. -/
def threeSignals : Program where
  calls := [
    .scheduling (.spawn { initialMask := .ofList [10, 34, 35] }),
    .signal (.post (some 1) (.carrying 34 0 1)),
    .signal (.post (some 1) (.carrying 35 0 2)),
    .signal (.post (some 1) (.carrying 10 0 3)),
    .signal (.post (some 1) (.carrying 34 0 4))]

/-- All signals but 35 and kill are unblocked; kill is not kept in the mask either. -/
theorem masks_change_threeSignals :
    threeSignals.only SignalCall.keepsState = true ∧
      Sink.Notes listing (fun noted handed ↦ noted ++ [handed]) ∧
      (Kernel.changeMask listing 1 MaskMode.setExactly.code (some (.ofList [9, 35]))
          { scheduler := threeSignals.final.scheduler, client := [] }).2.client =
        [⟨1, .deferred, .carrying 10 0 3, .ofList [35]⟩,
          ⟨1, .deferred, .carrying 34 0 1, .ofList [35]⟩,
          ⟨1, .deferred, .carrying 34 0 4, .ofList [35]⟩] ∧
      MasksChange threeSignals.history :=
  ⟨by decide, notes_listing, by decide +kernel, masks_change threeSignals (by decide)⟩

end SignalKernel.Program
