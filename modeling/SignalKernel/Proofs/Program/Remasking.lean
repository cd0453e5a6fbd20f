import SignalKernel.Proofs.Kernel.MaskAlgebra
import SignalKernel.Proofs.Program.Unmasking

/-!
# Changes of masks in sequence

At every point of every run, changes of a thread's mask that are made one after the other combine
as sets do. The main theorem is `masks_combine`. What they take out of the queues combines too, as
long as no signal has more records than its thread was created with slots; that is so in all runs
that replace no signal state. `overfull` is a run that replaced one by another with more slots:
there a change that is made again delivers again.
-/

namespace SignalKernel.Program

open SignalKernel.Kernel

/-- No signal of a thread has more records than the thread was created with slots. -/
def Fits (thread : Thread) : Prop :=
  ∀ signal, (thread.signals.records signal).length ≤ thread.pendingCapacity

/-- At every point of a history, changes of a thread's mask combine, with any sink that makes no
calls of its own. -/
structure MasksCombine (history : List Moment) : Prop where
  masks : ∀ point, .passed point ∈ history → ∀ id thread,
    point.scheduler.threads.find? id = some thread →
      ∀ {γ : Type} {sink : Sink γ} {noted : γ → Handed → γ}, Sink.Notes sink noted →
        ∀ kernel : Kernel γ, kernel.scheduler = point.scheduler →
          MaskLaws sink kernel id thread.signals.blocked
  queues : ∀ point, .passed point ∈ history → ∀ id thread,
    point.scheduler.threads.find? id = some thread → Fits thread →
      ∀ {γ : Type} {sink : Sink γ} {noted : γ → Handed → γ}, Sink.Notes sink noted →
        ∀ kernel : Kernel γ, kernel.scheduler = point.scheduler → QueueLaws sink kernel id

/-- Whatever calls a program and its handlers have made, changes of masks combine; and all threads
fit, if none of the calls replaced a thread's signal state. -/
theorem masks_combine (program : Program) :
    MasksCombine program.history ∧
      (program.only SignalCall.keepsState = true →
        ∀ point, .passed point ∈ program.history → ∀ id thread,
          point.scheduler.threads.find? id = some thread → Fits thread) := by
  have hall {γ : Type} {point : Point} (hpoint : .passed point ∈ program.history)
      {kernel : Kernel γ} (hscheduler : kernel.scheduler = point.scheduler) : AllWell kernel := by
    intro id thread hthread
    rw [hscheduler] at hthread
    have hbox : point.scheduler.mailboxes id = some thread.mailbox :=
      congrArg (Option.map Thread.mailbox) hthread
    obtain ⟨history, hreached⟩ := reached_point program.every_true hpoint
    have hopen : thread.signals.Open := hreached.allSignals lasting_open id _ hbox
    exact ⟨hreached.sound hbox, hopen.inter_eq⟩
  refine ⟨⟨?_, ?_⟩, ?_⟩
  · intro point hpoint id thread hthread γ sink noted hsink kernel hscheduler
    exact maskLaws hsink (hall hpoint hscheduler) (hscheduler ▸ hthread)
  · intro point hpoint id thread hthread hfits γ sink noted hsink kernel hscheduler
    exact queueLaws hsink (hall hpoint hscheduler) (hscheduler ▸ hthread) hfits
  · intro hkeeps point hpoint id thread hthread
    obtain ⟨hsound, -⟩ := (anyHistory.past hkeeps trivial).calm (.passed point) hpoint
    have hbox := hsound id thread.mailbox (congrArg (Option.map Thread.mailbox) hthread)
    exact hbox.length_records_le

/-- The thread with records of three signals fits, so that all laws hold for it. To unblock 34 is to
hand over both records of 34. -/
theorem masks_combine_threeSignals :
    threeSignals.only SignalCall.keepsState = true ∧
      ∃ point ∈ points threeSignals.history, ∃ thread,
        point.scheduler.threads.find? 1 = some thread ∧ Fits thread ∧
          let kernel : Kernel (List Handed) := { scheduler := point.scheduler, client := [] }
          (masked listing 1 .unblock (.ofList [34]) kernel).client =
              [⟨1, .deferred, .carrying 34 0 1, .ofList [10, 35]⟩,
                ⟨1, .deferred, .carrying 34 0 4, .ofList [10, 35]⟩] ∧
            MaskLaws listing kernel 1 (.ofList [10, 34, 35]) ∧ QueueLaws listing kernel 1 := by
  have hrecords : ∃ point ∈ points threeSignals.history,
      (point.scheduler.threads.find? 1).map (·.signals.blocked) = some (.ofList [10, 34, 35]) ∧
        (masked listing 1 .unblock (.ofList [34])
            { scheduler := point.scheduler, client := [] }).client =
          [⟨1, .deferred, .carrying 34 0 1, .ofList [10, 35]⟩,
            ⟨1, .deferred, .carrying 34 0 4, .ofList [10, 35]⟩] := by
    decide +kernel
  obtain ⟨point, hpoint, hmask, hhanded⟩ := hrecords
  obtain ⟨thread, hthread, hblocked⟩ := Option.map_eq_some_iff.1 hmask
  have hpassed := mem_points.1 hpoint
  obtain ⟨hlaws, hkept⟩ := masks_combine threeSignals
  have hfits : Fits thread := hkept (by decide) point hpassed 1 thread hthread
  refine ⟨by decide, point, hpoint, thread, hthread, hfits, hhanded, ?_, ?_⟩
  · rw [← hblocked]
    exact hlaws.masks point hpassed 1 thread hthread notes_listing _ rfl
  · exact hlaws.queues point hpassed 1 thread hthread hfits notes_listing _ rfl

/-- A thread that was created with one slot. Its signal state was replaced by one with four, and
three of these have a record of signal 34. -/
def overfull : Program where
  calls := [
    .scheduling (.spawn { initialMask := .ofList [34], pendingCapacity := 1 }),
    .signal (.resetState (some 1) (.ofList [34]) 4),
    .signal (.sigqueue 1 34 1),
    .signal (.sigqueue 1 34 2),
    .signal (.sigqueue 1 34 3)]

/-- No sweep is in progress, and yet each time that signal 34 is unblocked one more record of it is
handed over: a call hands over as many records of a signal as the thread was created with slots. -/
theorem unblocks_again_overfull :
    ¬ ∀ point, .passed point ∈ overfull.history → ∀ id thread,
      point.scheduler.threads.find? id = some thread → id ∉ point.sweeping →
        ∀ {γ : Type} {sink : Sink γ} {noted : γ → Handed → γ}, Sink.Notes sink noted →
          ∀ kernel : Kernel γ, kernel.scheduler = point.scheduler → QueueLaws sink kernel id := by
  intro h
  have hagain : ∃ point ∈ points overfull.history,
      (point.scheduler.threads.find? 1).isSome ∧ point.sweeping = [] ∧
        let kernel : Kernel (List Handed) := { scheduler := point.scheduler, client := [] }
        (masked listing 1 .unblock (.ofList [34])
            (masked listing 1 .unblock (.ofList [34]) kernel)).client ≠
          (masked listing 1 .unblock (.ofList [34]) kernel).client := by
    decide +kernel
  obtain ⟨point, hpoint, hexists, hsweeping, hagain⟩ := hagain
  obtain ⟨thread, hthread⟩ := Option.isSome_iff_exists.1 hexists
  have hlaws := h point (mem_points.1 hpoint) 1 thread hthread
    (by rw [hsweeping]; exact List.not_mem_nil) notes_listing
    { scheduler := point.scheduler, client := [] } rfl
  exact hagain (hlaws.repeated .unblock (.ofList [34])).1

end SignalKernel.Program
