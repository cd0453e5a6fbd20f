import SignalKernel.Program.Run
import SignalKernel.Proofs.Kernel.Mailboxes

/-!
# Calls that have nothing to do with signals

A part of a run is quiet if it leaves all mailboxes, the history and the handlers as they were, and
idle if moreover it changes no turn and takes or gives back no level of a lock. Calls on the log and
on interrupts are idle, and so are the calls on signals that only ask. Calls on the scheduler are
quiet, except for the creation of a thread.
-/

namespace SignalKernel.Program

open SignalKernel.Kernel

/-- The same mailboxes, the same history and the same handlers. -/
structure Quiet (kernel after : Kernel Session) : Prop where
  mailboxes : after.mailboxes = kernel.mailboxes
  history : after.client.history = kernel.client.history
  handlers : after.client.handlers = kernel.client.handlers

theorem Quiet.refl (kernel : Kernel Session) : Quiet kernel kernel :=
  ⟨rfl, rfl, rfl⟩

theorem Quiet.trans {first second third : Kernel Session} (h : Quiet first second)
    (h' : Quiet second third) : Quiet first third :=
  ⟨h'.mailboxes.trans h.mailboxes, h'.history.trans h.history, h'.handlers.trans h.handlers⟩

theorem quiet_of_alike {kernel after : Kernel Session} (h : Alike kernel after) :
    Quiet kernel after :=
  ⟨h.mailboxes, by rw [h.client], by rw [h.client]⟩

/-- The same turns and the same levels of locks as well. -/
structure Idle (kernel after : Kernel Session) : Prop extends Quiet kernel after where
  turns : kernel.scheduler.SameTurns after.scheduler
  locks : after.client.locks = kernel.client.locks
  masking : after.client.masking = kernel.client.masking

theorem Idle.refl (kernel : Kernel Session) : Idle kernel kernel :=
  ⟨.refl kernel, .refl _, rfl, rfl⟩

theorem Idle.trans {first second third : Kernel Session} (h : Idle first second)
    (h' : Idle second third) : Idle first third :=
  ⟨h.toQuiet.trans h'.toQuiet, h.turns.trans h'.turns, h'.locks.trans h.locks,
    h'.masking.trans h.masking⟩

theorem idle_of_rests {kernel after : Kernel Session} (h : Rests kernel after) :
    Idle kernel after :=
  ⟨quiet_of_alike h.toAlike, h.turns, by rw [h.client], by rw [h.client]⟩

/-- A critical section is idle if what is done in it is. -/
theorem idle_critical {α : Type} {body : ProgramM α} (h : ∀ kernel, Idle kernel (body kernel).2)
    (kernel : Kernel Session) : Idle kernel (critical body kernel).2 := by
  obtain ⟨entered, hentered, -, hleft⟩ := run_critical body kernel
  exact (idle_of_rests hentered.rests).trans ((h entered).trans (idle_of_rests hleft.rests))

/-- A call that concerns a thread is made on the same scheduler, for a thread that exists. -/
theorem run_onThread (id : Option ThreadId) (body : ThreadId → ProgramM Answer)
    (kernel : Kernel Session) :
    ∃ found, Same kernel found ∧
      (onThread id body kernel = (.noThread, found) ∨
        ∃ target box, found.mailboxes target = some box ∧
          onThread id body kernel = body target found) := by
  cases id with
  | none =>
      obtain ⟨box, hbox⟩ := mailboxes_current kernel
      exact ⟨(current kernel).2, same_readScheduler _ kernel, .inr ⟨_, box, hbox, rfl⟩⟩
  | some id =>
      refine ⟨(find? id kernel).2, same_readScheduler _ kernel, ?_⟩
      have hfound : (find? id kernel).1 = kernel.scheduler.threads.find? id := rfl
      unfold onThread
      simp only
      rw [run_bind, hfound]
      cases hfind : kernel.scheduler.threads.find? id with
      | none => exact .inl rfl
      | some thread =>
          obtain ⟨hid, hbox⟩ := mailboxes_of_find? hfind
          refine .inr ⟨thread.id, thread.mailbox, ?_, rfl⟩
          rw [hid]
          exact hbox

theorem quiet_onThread {body : ThreadId → ProgramM Answer}
    (h : ∀ id kernel, Quiet kernel (body id kernel).2) (id : Option ThreadId)
    (kernel : Kernel Session) : Quiet kernel (onThread id body kernel).2 := by
  obtain ⟨found, hfound, hrun | ⟨target, -, -, hrun⟩⟩ := run_onThread id body kernel
  · rw [hrun]
    exact quiet_of_alike hfound.rests.toAlike
  · rw [hrun]
    exact (quiet_of_alike hfound.rests.toAlike).trans (h target found)

theorem idle_onThread {body : ThreadId → ProgramM Answer}
    (h : ∀ id kernel, Idle kernel (body id kernel).2) (id : Option ThreadId)
    (kernel : Kernel Session) : Idle kernel (onThread id body kernel).2 := by
  obtain ⟨found, hfound, hrun | ⟨target, -, -, hrun⟩⟩ := run_onThread id body kernel
  · rw [hrun]
    exact idle_of_rests hfound.rests
  · rw [hrun]
    exact (idle_of_rests hfound.rests).trans (h target found)

/-! ## Calls on the log -/

theorem idle_logCall (call : LogCall) (kernel : Kernel Session) :
    Idle kernel (call.run kernel).2 := by
  cases call with
  | log record => exact idle_of_rests (same_log record kernel).rests
  | _ => exact ⟨⟨rfl, rfl, rfl⟩, .refl _, rfl, rfl⟩

/-! ## Calls on interrupts -/

theorem idle_restoreFlags {σ : Type} [InterruptControl σ]
    {component : Component (Kernel Session) σ}
    (hset : ∀ state kernel, Idle kernel (component.set state kernel)) (index : Nat)
    {answer : ProgramM Answer} (hanswer : ∀ kernel, (answer kernel).2 = kernel)
    (kernel : Kernel Session) : Idle kernel (restoreFlags component index answer kernel).2 := by
  simp only [restoreFlags, run_bind, run_get]
  cases kernel.client.flags[index]? with
  | none => exact .refl kernel
  | some flags =>
      simp only [run_bind, hanswer]
      exact hset _ kernel

theorem idle_interruptCall (call : InterruptCall) (kernel : Kernel Session) :
    Idle kernel (call.run kernel).2 := by
  cases call with
  | restore index =>
      exact idle_restoreFlags (fun _ _ ↦ ⟨⟨rfl, rfl, rfl⟩, .refl _, rfl, rfl⟩) index
        (fun _ ↦ rfl) kernel
  | flagRestore index =>
      exact idle_restoreFlags (fun _ _ ↦ ⟨⟨rfl, rfl, rfl⟩, .refl _, rfl, rfl⟩) index
        (fun _ ↦ rfl) kernel
  | leave index =>
      simp only [InterruptCall.run, run_bind, run_get]
      rcases kernel.client.sections[index]? with _ | _ | entered
      · exact .refl kernel
      · exact .refl kernel
      · exact ⟨⟨rfl, rfl, rfl⟩, .refl _, rfl, rfl⟩
  | _ => exact ⟨⟨rfl, rfl, rfl⟩, .refl _, rfl, rfl⟩

/-! ## Calls on the scheduler -/

/-- Giving a kept level of a lock back. -/
theorem quiet_unlock (index : Nat) (kernel : Kernel Session) :
    Quiet kernel ((SchedulingCall.unlock index).run kernel).2 := by
  simp only [SchedulingCall.run, run_bind, run_get]
  rcases kernel.client.locks[index]? with _ | _ | id
  · exact .refl kernel
  · exact .refl kernel
  · have hgiven : Quiet kernel (modifySession (fun session ↦
        { session with locks := session.locks.set index none }) kernel).2 := ⟨rfl, rfl, rfl⟩
    simp only [run_bind, run_pure]
    exact hgiven.trans (quiet_of_alike (alike_unlockScheduler id _))

/-- All calls on the scheduler are quiet, but the one that creates a thread. -/
theorem quiet_schedulingCall {call : SchedulingCall} (h : ∀ config, call ≠ .spawn config)
    (kernel : Kernel Session) : Quiet kernel (call.run kernel).2 := by
  cases call with
  | spawn config => exact absurd rfl (h config)
  | current => exact ⟨rfl, rfl, rfl⟩
  | setCurrent id => exact quiet_of_alike (alike_setCurrent id kernel)
  | requestResched => exact ⟨rfl, rfl, rfl⟩
  | isReschedRequested => exact .refl kernel
  | contextSwitches => exact .refl kernel
  | preemptionPoint => exact quiet_of_alike (alike_preemptionPoint kernel)
  | schedule => exact quiet_of_alike (alike_schedule kernel)
  | lock id =>
      refine quiet_onThread (fun id kernel ↦ ?_) id kernel
      have hlocked := quiet_of_alike (alike_lockScheduler id kernel)
      exact hlocked.trans ⟨rfl, rfl, rfl⟩
  | unlock index => exact quiet_unlock index kernel
  | lockDepth id => exact quiet_onThread (fun _ kernel ↦ .refl kernel) id kernel
  | describe id => exact quiet_onThread (fun _ kernel ↦ .refl kernel) id kernel

/-! ## Calls on signals -/

/-- The calls on signals that only ask, or write an error cell. -/
def SignalCall.isIdle : SignalCall → Bool
  | .sigpending | .errno _ | .setErrno .. | .state _ | .query .. => true
  | _ => false

theorem idle_signalCall {call : SignalCall} (h : call.isIdle = true) (site : Site)
    (kernel : Kernel Session) : Idle kernel (call.run site kernel).2 := by
  cases call with
  | sigpending => exact ⟨⟨rfl, rfl, rfl⟩, .refl _, rfl, rfl⟩
  | errno id => exact idle_onThread (fun _ kernel ↦ .refl kernel) id kernel
  | setErrno id code =>
      exact idle_onThread (fun id kernel ↦ idle_of_rests (rests_setErrno id code kernel)) id kernel
  | state id => exact idle_onThread (fun _ ↦ idle_critical fun kernel ↦ .refl kernel) id kernel
  | query id signal =>
      refine idle_onThread (fun id kernel ↦ ?_) id kernel
      exact idle_of_rests (same_readSignals id _ kernel).rests
  | _ => cases h

/-- Noting an event is idle. -/
theorem idle_note (event : Event) (kernel : Kernel Session) : Idle kernel (note event kernel).2 :=
  ⟨⟨rfl, rfl, rfl⟩, .refl _, rfl, rfl⟩

theorem idle_noteSent (id : ThreadId) (o : Occurrence)
    (outcome : Except SignalError (Option Fate)) (kernel : Kernel Session) :
    Idle kernel (noteSent id o outcome kernel).2 := by
  rcases outcome with (_ | _ | _) | (_ | fate)
  · exact idle_note _ kernel
  · exact idle_note _ kernel
  · exact .refl kernel
  · exact .refl kernel
  · exact idle_note _ kernel

/-! ## Marking moments -/

theorem toList_mark (moment : Moment) (kernel : Kernel Session) :
    (mark moment kernel).2.client.history.toList = kernel.client.history.toList ++ [moment] :=
  Array.toList_push

section Sent

variable {busy : List ThreadId} {kernel : Kernel Session} {id : ThreadId} {box : Mailbox}
  {o : Occurrence}

theorem markSent_of_none (h : kernel.mailboxes id = none) :
    markSent busy id o kernel = ((), kernel) := by
  unfold markSent
  rw [run_bind, run_get, mailboxes_eq_none_iff.1 h]
  rfl

theorem markSent_of_zero (h : o.signal = 0) : markSent busy id o kernel = ((), kernel) := by
  unfold markSent
  rw [run_bind, run_get, h]
  simp [run_pure]

theorem markSent_of_some (h : kernel.mailboxes id = some box) (hzero : o.signal ≠ 0) :
    markSent busy id o kernel = markPost busy id o kernel := by
  obtain ⟨thread, hthread, -⟩ := Option.map_eq_some_iff.1 h
  unfold markSent
  rw [run_bind, run_get, hthread]
  simp [hzero]

end Sent

/-! ## Changes of masks in progress -/

theorem quiet_beginMasking (id : ThreadId) (kernel : Kernel Session) :
    Quiet kernel (beginMasking id kernel).2 :=
  ⟨rfl, rfl, rfl⟩

theorem quiet_endMasking (kernel : Kernel Session) : Quiet kernel (endMasking kernel).2 :=
  ⟨rfl, rfl, rfl⟩

theorem run_whileMasking {α : Type} (id : ThreadId) (change : ProgramM α)
    (kernel : Kernel Session) :
    whileMasking id change kernel =
      ((change (beginMasking id kernel).2).1,
        (endMasking (change (beginMasking id kernel).2).2).2) :=
  rfl

end SignalKernel.Program
