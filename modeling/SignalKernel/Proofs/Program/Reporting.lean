import SignalKernel.Proofs.Kernel.Asking
import SignalKernel.Proofs.Program.Reaching

/-!
# What callers are told

Calls that fail leave no trace but the reason, and the reason is left with the thread that made the
call. `senders_told` says this of sending a signal, at every point of every run: the threads'
signals may have been replaced, and sweeps and changes of masks may be in progress. `askers_told`
says it of calls on masks, and of those that only ask, in any state of the kernel at all.
-/

namespace SignalKernel.Program

open SignalKernel.Kernel

/-- At every point of a history, the signals that the running thread sends, plain ones and those
with a value, come to what they should. -/
def SendersTold (history : List Moment) : Prop :=
  ∀ point, .passed point ∈ history →
    ∀ {γ : Type} (kernel : Kernel γ), kernel.scheduler = point.scheduler →
      ∀ id signal value,
        let sender := some kernel.scheduler.currentThread.id
        Sends kernel id { signal, origin := .user, sender, value := 0 }
            (Kernel.kill · id signal) ∧
          Sends kernel id { signal, origin := .queue, sender, value }
            (Kernel.sigqueue · id signal value)

/-- Whatever calls a program and its handlers have made: a signal that the running thread sends is
refused exactly if the target does not exist, the number names no signal, or the target blocks the
signal and has no slot left for it. The sender is told the reason, and nothing else has happened.
Any other signal is handed over, recorded or absorbed under the sender's name. -/
theorem senders_told (program : Program) : SendersTold program.history := by
  intro point hpoint γ kernel hscheduler id signal value
  obtain ⟨history, hreached⟩ := reached_point program.every_true hpoint
  have hsound : ∀ thread, kernel.scheduler.threads.find? id = some thread →
      thread.signals.queue.Sound := by
    intro thread hthread
    rw [hscheduler] at hthread
    exact hreached.sound (congrArg (Option.map Thread.mailbox) hthread)
  exact ⟨sends (.plain signal) hsound, sends (fun sender ↦ .carrying signal sender value) hsound⟩

/-- A thread whose only slot has a record of signal 10. It has room for another occurrence of that
signal, which counts once, and takes what it does not block, but no realtime signal. -/
example :
    let program : Program := { calls := [
      .scheduling (.spawn { initialMask := .ofList [10, 34], pendingCapacity := 1 }),
      .signal (.kill 1 10)] }
    ([(2, 0), (1, 0), (1, 65), (1, 10), (1, 12), (1, 34)].map fun (id, signal) ↦
      (refusal program.final.scheduler id signal).map SignalError.errno) =
        [some 3, none, some 22, none, none, some 11] := by
  decide +kernel

/-! ## Calls on masks -/

/-- In a state of the kernel, calls on masks tell the mask that they found, and those that are
refused or only ask change nothing. -/
structure AskersTold (kernel : Kernel Session) : Prop where
  asks : ∀ id thread, kernel.scheduler.threads.find? id = some thread → ∀ how set,
    Asks kernel id thread how set
  callerAsks : ∀ how set, CallerAsks kernel how set
  /-- A program that wants the mask that was found is told it, and no other program is, whether or
  not the call is refused. -/
  wanted : ∀ id thread, kernel.scheduler.threads.find? id = some thread → ∀ how set site wantsOld,
    ∃ mask, ((SignalCall.changeMask (some id) how set wantsOld).run site kernel).1 =
      .masked (if IsRefused how set then .error .invalidMode else .ok ())
        (if wantsOld then some thread.signals.blocked else none) mask
  callerWanted : ∀ how set site wantsOld,
    ∃ errno mask, (IsRefused how set → errno = 22) ∧
      ((SignalCall.sigprocmask how set wantsOld).run site kernel).1 =
        .maskStatus (if IsRefused how set then .failed else .ok)
          (if wantsOld then some kernel.scheduler.currentThread.signals.blocked else none)
          errno mask

theorem thread_markMasked (id : ThreadId) (set : Option SignalSet) (outcome : Except MaskError Unit)
    (kernel : Kernel Session) (other : ThreadId) :
    (markMasked id set outcome kernel).2.thread other = kernel.thread other := by
  unfold markMasked
  split <;> rfl

/-- What the running thread is answered, and the error cell that is read for the answer. -/
theorem answer_sigprocmask (how : Int) (set : Option SignalSet) (site : Site) (wantsOld : Bool)
    (kernel : Kernel Session) :
    ∃ errno mask, (IsRefused how set → errno = 22) ∧
      ((SignalCall.sigprocmask how set wantsOld).run site kernel).1 =
        .maskStatus (if IsRefused how set then .failed else .ok)
          (if wantsOld then some kernel.scheduler.currentThread.signals.blocked else none)
          errno mask := by
  let caller := kernel.scheduler.currentThread
  let begun := (beginMasking caller.id (current kernel).2).2
  let changed := sigprocmask site.sink how set begun
  let marked := (markMasked caller.id set changed.1.outcome (endMasking changed.2).2).2
  have hanswer : ((SignalCall.sigprocmask how set wantsOld).run site kernel).1 =
      .maskStatus (.ofOutcome changed.1.outcome) (if wantsOld then some changed.1.old else none)
        (marked.thread caller.id).errno (readSignals caller.id (·.blocked) marked).1 := by
    simp only [SignalCall.run, run_bind, run_pure, run_get, run_whileMasking]
    rfl
  have hstatus : changed.1.outcome = if IsRefused how set then .error .invalidMode else .ok () :=
    outcome_sigprocmask site.sink how set begun
  have hold : changed.1.old = caller.signals.blocked :=
    (Kernel.callerAsks begun how set).old site.sink
  -- the error cell is read last, but what is noted after the change is not about threads
  have herrno : IsRefused how set → (marked.thread caller.id).errno = 22 := by
    intro hrefused
    have hleft : (changed.2.thread caller.id).errno = 22 :=
      errno_sigprocmask hrefused site.sink begun
    rw [thread_markMasked, Kernel.thread, scheduler_endMasking, ← Kernel.thread, hleft]
  rw [hanswer, hstatus, hold]
  refine ⟨_, (readSignals caller.id (·.blocked) marked).1, herrno, ?_⟩
  split <;> rfl

/-- In whatever state the kernel is, also in the middle of a sweep and with deliverable records: a
call on a mask tells the mask that it found; it is refused exactly if a set is given and the mode is
not known; and unless it changes the mask it leaves every thread as it was and delivers nothing. The
running thread's call leaves its error with that thread, and with no other. -/
theorem askers_told (kernel : Kernel Session) : AskersTold kernel where
  asks _ _ hthread how set := asks hthread how set
  callerAsks how set := callerAsks kernel how set
  wanted id thread hthread how set site wantsOld := by
    have hfound : (find? id kernel).1 = some thread := hthread
    have hid := (mailboxes_of_find? hthread).1
    -- looking for the thread and noting that the change begins leave the thread as it is
    have hbegun : (beginMasking id (find? id kernel).2).2.scheduler.threads.find? id =
        some thread := hthread
    simp only [SignalCall.run, onThread, run_bind, hfound, hid, run_whileMasking, run_pure,
      (asks hbegun how set).old, outcome_changeMask hbegun]
    exact ⟨_, rfl⟩
  callerWanted how set site wantsOld := answer_sigprocmask how set site wantsOld kernel

/-- Thread 1 makes a call that is refused. Thread 2 runs when the call ends, because somebody asked
for a reschedule, but the error is left with thread 1. -/
example :
    let program : Program := { calls := [
      .scheduling (.spawn { initialMask := .ofList [10] }), .scheduling (.spawn {}),
      .scheduling (.setCurrent 1), .scheduling .requestResched,
      .signal (.sigprocmask 3 (some (.ofList [10])) true)] }
    let { current, threads, .. } := program.final.scheduler
    (current, (threads.get 1).errno, (threads.get 2).errno) = (2, 22, 0) := by
  decide +kernel

end SignalKernel.Program
