import SignalKernel.Proofs.Kernel.Handing
import SignalKernel.Proofs.Pending.SharedLists

/-!
# Sending a signal

A signal that is sent to a thread is refused for one of three reasons, which are looked for in a
fixed order: `refusal` is the reason, if there is one. The main statement is `sends`. A refused
signal never reaches the sink and leaves nothing behind but the reason, in the error cell of the
thread that sent it; any other is handed over, recorded or absorbed as the target's mask and queue
decide, and no error cell changes.
-/

namespace SignalKernel

/-- A posted occurrence merges into a pending one if its signal counts once and is pending. -/
theorem SignalState.coalesces_iff {s : SignalState} (hq : s.queue.Sound) {o : Occurrence} :
    s.Coalesces o ↔ Signal.isRealtime o.signal = false ∧ o.signal ∈ s.pending :=
  and_congr_right fun _ ↦ (mem_pending hq).symm

namespace Scheduler

variable {scheduler after : Scheduler}

/-- All threads are found as they were, and the same ones run and wait. -/
structure SameThreads (scheduler after : Scheduler) : Prop where
  turns : scheduler.SameTurns after
  threads : ∀ id, after.threads.find? id = scheduler.threads.find? id

theorem SameThreads.refl (scheduler : Scheduler) : SameThreads scheduler scheduler :=
  ⟨.refl _, fun _ ↦ rfl⟩

theorem SameThreads.trans {first second third : Scheduler} (h : SameThreads first second)
    (h' : SameThreads second third) : SameThreads first third :=
  ⟨h.turns.trans h'.turns, fun id ↦ (h'.threads id).trans (h.threads id)⟩

theorem SameThreads.of_eq (h : after = scheduler) : SameThreads scheduler after :=
  h ▸ .refl after

/-- All threads are found as they were, but for a code in the error cell of one of them. -/
structure Reports (scheduler : Scheduler) (id : ThreadId) (code : Errno) (after : Scheduler) :
    Prop where
  turns : scheduler.SameTurns after
  threads : ∀ other, after.threads.find? other =
    (scheduler.threads.find? other).map fun thread ↦
      if other = id then { thread with errno := code } else thread

theorem reports_setErrno (scheduler : Scheduler) (id : ThreadId) (code : Errno) :
    scheduler.Reports id code
      (scheduler.modifyThread id fun thread ↦ { thread with errno := code }) :=
  ⟨sameTurns_modifyThread scheduler id fun _ ↦ rfl,
    fun other ↦ scheduler.threads.find?_modify id other fun _ ↦ rfl⟩

theorem SameThreads.reports {last : Scheduler} {id : ThreadId} {code : Errno}
    (h : SameThreads scheduler after) (h' : after.Reports id code last) :
    scheduler.Reports id code last :=
  ⟨h.turns.trans h'.turns, fun other ↦ by rw [h'.threads, h.threads]⟩

end Scheduler

namespace Kernel

variable {γ : Type}

/-- Why a signal that is sent to a thread is refused, if it is. Signal 0 is never posted, so nothing
but a missing thread stands in its way. -/
def refusal (scheduler : Scheduler) (id : ThreadId) (signal : Nat) : Option SignalError :=
  match scheduler.threads.find? id with
  | none => some .noSuchThread
  | some { signals, .. } =>
      if signal = 0 then none
      else if 64 < signal then some .invalidSignal
      else if signal ∈ signals.blocked ∧ signals.queue.lists.total = signals.queue.capacity ∧
          ¬ (Signal.isRealtime signal = false ∧ signal ∈ signals.pending) then some .queueFull
      else none

/-- What becomes of a sent occurrence that is not refused, whatever the sink. -/
inductive Accepted (kernel : Kernel γ) (id : ThreadId) (thread : Thread) (o : Occurrence)
    (call : Sink γ → KernelM γ (Except SignalError (Option Fate))) : Prop
  /-- It is handed to the sink, and that is all. -/
  | delivered (handed : Kernel γ) (hopen : o.signal ∉ thread.signals.blocked)
      (hthreads : kernel.scheduler.SameThreads handed.scheduler)
      (hclient : handed.client = kernel.client)
      (hrun : ∀ sink, call sink kernel =
        (.ok (some .delivered), (sink id .immediate o handed).2))
  /-- A pending occurrence of the same signal absorbs it. -/
  | coalesced (after : Kernel γ) (hblocked : o.signal ∈ thread.signals.blocked)
      (hpending : Signal.isRealtime o.signal = false ∧ o.signal ∈ thread.signals.pending)
      (hthreads : kernel.scheduler.SameThreads after.scheduler)
      (hclient : after.client = kernel.client)
      (hrun : ∀ sink, call sink kernel = (.ok (some .coalesced), after))
  /-- It is recorded behind the other records of its signal. -/
  | queued (after : Kernel γ) (left : SignalState) (hblocked : o.signal ∈ thread.signals.blocked)
      (hpending : ¬ (Signal.isRealtime o.signal = false ∧ o.signal ∈ thread.signals.pending))
      (hmask : left.blocked = thread.signals.blocked)
      (hrecords : ∀ signal, left.records signal =
        if signal = o.signal then thread.signals.records signal ++ [o]
        else thread.signals.records signal)
      (hfound : after.scheduler.threads.find? id = some { thread with signals := left })
      (hothers : ∀ other, other ≠ id →
        after.scheduler.threads.find? other = kernel.scheduler.threads.find? other)
      (hturns : kernel.scheduler.SameTurns after.scheduler)
      (hclient : after.client = kernel.client)
      (hrun : ∀ sink, call sink kernel = (.ok (some .queued), after))

/-- What a call comes to that sends an occurrence for the running thread. -/
structure Sends (kernel : Kernel γ) (id : ThreadId) (o : Occurrence)
    (call : Sink γ → KernelM γ (Except SignalError (Option Fate))) : Prop where
  /-- The call fails exactly if there is a reason for that. -/
  failed : ∀ sink error, (call sink kernel).1 = .error error ↔
    refusal kernel.scheduler id o.signal = some error
  /-- The caller sees whether it did. -/
  status : ∀ sink, (Status.ofOutcome (call sink kernel).1).code =
    if (refusal kernel.scheduler id o.signal).isSome then -1 else 0
  /-- What fails is not handed over, and all it leaves is the reason's code with the caller. -/
  refused : ∀ error, refusal kernel.scheduler id o.signal = some error →
    ∃ after, (∀ sink, call sink kernel = (.error error, after)) ∧ after.client = kernel.client ∧
      kernel.scheduler.Reports kernel.scheduler.currentThread.id
        (if error = .noSuchThread then 3 else if error = .queueFull then 11 else 22)
        after.scheduler
  /-- To test that a thread exists leaves no trace. -/
  tested : o.signal = 0 → (∃ thread, kernel.scheduler.threads.find? id = some thread) →
    ∃ core, (∀ sink, call sink kernel = (.ok none, { kernel with core })) ∧
      (kernel.core.MayEnter → core = kernel.core)
  accepted : o.signal ≠ 0 → refusal kernel.scheduler id o.signal = none →
    ∃ thread, kernel.scheduler.threads.find? id = some thread ∧ Accepted kernel id thread o call

/-! ## Posting -/

section Post

variable {kernel : Kernel γ} {id : ThreadId} {thread : Thread} {o : Occurrence}
  (hthread : kernel.scheduler.threads.find? id = some thread)
include hthread

theorem sameThreads_withSignals {α : Type} {f : SignalState → α × SignalState}
    (hkept : (f thread.signals).2 = thread.signals) :
    kernel.scheduler.SameThreads (withSignals id f kernel).2.scheduler := by
  obtain ⟨-, htook⟩ := handsOver_withSignals (fun client _ ↦ client) f hthread
  refine ⟨turns_withSignals id f kernel, fun other ↦ ?_⟩
  by_cases hother : other = id
  · rw [hother, htook.found, hkept, hthread]
  · exact htook.others other hother

/-- The sink has no part in a post that is not delivered at once. -/
theorem post_of_kept (hvalid : Signal.isValid o.signal)
    (hfate : (thread.signals.receive o).1 ≠ .ok .delivered) :
    ∃ after, Same (withSignals id (·.receive o) kernel).2 after ∧
      ∀ sink : Sink γ, post sink id o kernel = ((thread.signals.receive o).1, after) := by
  have hbox := (mailboxes_of_find? hthread).2
  have houtcome := (run_withSignals hbox (·.receive o)).1
  refine ⟨(post discarding id o kernel).2, same_post discarding hbox hvalid hfate, fun sink ↦ ?_⟩
  have hreport : (post sink id o kernel).1 = _ := post_outcome hbox hvalid
  refine Prod.ext hreport ?_
  unfold post
  rw [hvalid, Bool.not_true, if_neg Bool.false_ne_true, if_neg Bool.false_ne_true, run_bind,
    run_bind, houtcome]
  cases hreceive : (thread.mailbox.signals.receive o).1 with
  | error error => rfl
  | ok fate =>
      cases fate with
      | delivered => exact absurd hreceive hfate
      | queued => rfl
      | coalesced => rfl

end Post

/-! ## Sending -/

section Send

variable {kernel : Kernel γ} {id : ThreadId} {thread : Thread} {o : Occurrence}

theorem postTo_of_none (hnone : kernel.scheduler.threads.find? id = none) :
    ∃ after, Same kernel after ∧
      ∀ sink : Sink γ, postTo sink id o kernel = (.error .noSuchThread, after) := by
  refine ⟨(notify (.targetUnknown id) (find? id kernel).2).2,
    (same_readScheduler _ kernel).trans (same_notify _ _), fun sink ↦ ?_⟩
  have hfound : (find? id kernel).1 = none := hnone
  rw [postTo, run_bind, hfound]
  rfl

theorem postTo_of_zero (hthread : kernel.scheduler.threads.find? id = some thread)
    (hzero : o.signal = 0) (sink : Sink γ) :
    postTo sink id o kernel = (.ok none, (find? id kernel).2) := by
  have hfound : (find? id kernel).1 = some thread := hthread
  rw [postTo, run_bind, hfound]
  simp only [if_pos hzero]
  rfl

theorem postTo_of_ok (hthread : kernel.scheduler.threads.find? id = some thread)
    (hzero : o.signal ≠ 0) {sink : Sink γ} {fate : Fate} {after : Kernel γ}
    (hpost : post sink id o (find? id kernel).2 = (.ok fate, after)) :
    postTo sink id o kernel = (.ok (some fate), after) := by
  have hfound : (find? id kernel).1 = some thread := hthread
  have hid := (mailboxes_of_find? hthread).1
  rw [postTo, run_bind, hfound]
  simp only [if_neg hzero, hid]
  rw [run_bind, hpost]
  rfl

theorem postTo_of_error (hthread : kernel.scheduler.threads.find? id = some thread)
    (hzero : o.signal ≠ 0) {sink : Sink γ} {error : SignalError} {after : Kernel γ}
    (hpost : post sink id o (find? id kernel).2 = (.error error, after)) :
    postTo sink id o kernel =
      (.error error, (notify (.postRefused o.signal id error) after).2) := by
  have hfound : (find? id kernel).1 = some thread := hthread
  have hid := (mailboxes_of_find? hthread).1
  rw [postTo, run_bind, hfound]
  simp only [if_neg hzero, hid]
  rw [run_bind, hpost]
  rfl

/-- Sending is posting, and leaving the reason of a failure with the caller. -/
theorem send_of_postTo {sink : Sink γ} {occurrence : ThreadId → Occurrence}
    {outcome : Except SignalError (Option Fate)} {after : Kernel γ}
    (h : postTo sink id (occurrence kernel.scheduler.currentThread.id) (current kernel).2 =
      (outcome, after)) :
    send sink id occurrence kernel =
      (outcome, (storeErrno kernel.scheduler.currentThread.id SignalError.errno outcome
        after).2) := by
  have hcaller : (current kernel).1 = kernel.scheduler.currentThread := rfl
  simp only [send, run_bind, run_pure, hcaller, h]

/-! ## Refusals -/

section Refusal

variable {scheduler : Scheduler} {signal : Nat} {error : SignalError}

theorem refusal_of_none (hnone : scheduler.threads.find? id = none) :
    refusal scheduler id signal = some .noSuchThread := by
  rw [refusal, hnone]

theorem refusal_of_zero (hthread : scheduler.threads.find? id = some thread) :
    refusal scheduler id 0 = none := by
  rw [refusal, hthread]
  exact if_pos rfl

theorem refusal_of_invalid (hthread : scheduler.threads.find? id = some thread)
    (hlast : 64 < signal) : refusal scheduler id signal = some .invalidSignal := by
  rw [refusal, hthread]
  simp only [if_neg (Nat.ne_of_gt (Nat.zero_lt_of_lt hlast)), if_pos hlast]

/-- A signal is refused by its target exactly if its post is. -/
theorem refusal_of_valid (hthread : scheduler.threads.find? id = some thread)
    (hq : thread.signals.queue.Sound) (hvalid : Signal.isValid o.signal) :
    refusal scheduler id o.signal = some error ↔ (thread.signals.receive o).1 = .error error := by
  obtain ⟨hfirst, hlast⟩ := Signal.isValid_iff.1 hvalid
  rw [refusal, hthread, SignalState.receive_outcome hq hvalid]
  simp only [if_neg (Nat.ne_of_gt hfirst), if_neg (Nat.not_lt.2 hlast),
    SignalState.coalesces_iff hq, PendingQueue.isFull_iff_total hq]
  by_cases hblocked : o.signal ∈ thread.signals.blocked
  · rw [if_neg (not_not_intro hblocked)]
    by_cases hpending : Signal.isRealtime o.signal = false ∧ o.signal ∈ thread.signals.pending
    · rw [if_neg fun h ↦ h.2.2 hpending, if_pos hpending]
      exact iff_of_false (by simp) (by simp)
    · rw [if_neg hpending]
      by_cases hfull : thread.signals.queue.lists.total = thread.signals.queue.capacity
      · rw [if_pos ⟨hblocked, hfull, hpending⟩, if_pos hfull]
        simp
      · rw [if_neg fun h ↦ hfull h.2.1, if_neg hfull]
        exact iff_of_false (by simp) (by simp)
  · rw [if_neg fun h ↦ hblocked h.1, if_pos hblocked]
    exact iff_of_false (by simp) (by simp)

end Refusal

/-! ## What a call comes to -/

variable {occurrence : ThreadId → Occurrence}

/-- A refused post leaves its reason with the caller. -/
theorem send_of_refused (hthread : kernel.scheduler.threads.find? id = some thread)
    (hzero : (occurrence kernel.scheduler.currentThread.id).signal ≠ 0) {error : SignalError}
    {refused : Kernel γ} (hthreads : kernel.scheduler.SameThreads refused.scheduler)
    (hclient : refused.client = kernel.client)
    (hpost : ∀ sink : Sink γ, post sink id (occurrence kernel.scheduler.currentThread.id)
      (find? id (current kernel).2).2 = (.error error, refused)) :
    ∃ after, (∀ sink : Sink γ, send sink id occurrence kernel = (.error error, after)) ∧
      after.client = kernel.client ∧
      kernel.scheduler.Reports kernel.scheduler.currentThread.id error.errno after.scheduler := by
  have hread : (current kernel).2.scheduler.threads.find? id = some thread := hthread
  let noted := (notify (.postRefused (occurrence kernel.scheduler.currentThread.id).signal id
    error) refused).2
  have hnoted : Same refused noted := same_notify _ refused
  have hcaller := noted.scheduler.reports_setErrno kernel.scheduler.currentThread.id error.errno
  refine ⟨_, fun sink ↦ send_of_postTo (postTo_of_error hread hzero (hpost sink)), ?_, ?_⟩
  · exact hnoted.client.trans hclient
  · exact (hthreads.trans (.of_eq hnoted.scheduler)).reports hcaller

theorem send_of_refusal
    (hsound : ∀ thread, kernel.scheduler.threads.find? id = some thread →
      thread.signals.queue.Sound)
    {error : SignalError}
    (h : refusal kernel.scheduler id (occurrence kernel.scheduler.currentThread.id).signal =
      some error) :
    ∃ after, (∀ sink : Sink γ, send sink id occurrence kernel = (.error error, after)) ∧
      after.client = kernel.client ∧
      kernel.scheduler.Reports kernel.scheduler.currentThread.id error.errno after.scheduler := by
  let found := (find? id (current kernel).2).2
  cases hfind : kernel.scheduler.threads.find? id with
  | none =>
      rw [refusal_of_none hfind, Option.some_inj] at h
      subst h
      have hread : (current kernel).2.scheduler.threads.find? id = none := hfind
      obtain ⟨after, hafter, hrun⟩ := postTo_of_none (γ := γ)
        (o := occurrence kernel.scheduler.currentThread.id) hread
      refine ⟨_, fun sink ↦ send_of_postTo (hrun sink), hafter.client, ?_⟩
      have hcaller := after.scheduler.reports_setErrno kernel.scheduler.currentThread.id
        SignalError.noSuchThread.errno
      exact (Scheduler.SameThreads.of_eq hafter.scheduler).reports hcaller
  | some thread =>
      have hzero : (occurrence kernel.scheduler.currentThread.id).signal ≠ 0 := by
        intro hzero
        rw [hzero, refusal_of_zero hfind] at h
        cases h
      cases hvalid : Signal.isValid (occurrence kernel.scheduler.currentThread.id).signal with
      | false =>
          have hlast : 64 < (occurrence kernel.scheduler.currentThread.id).signal := by
            rw [← Bool.not_eq_true, Signal.isValid_iff] at hvalid
            omega
          rw [refusal_of_invalid hfind hlast, Option.some_inj] at h
          subst h
          have hread : kernel.scheduler.SameThreads found.scheduler := .refl _
          exact send_of_refused hfind hzero hread rfl fun _ ↦ post_of_invalid hvalid
      | true =>
          -- the post is refused for want of a slot, and leaves the target's signals as they were
          have hreceive := (refusal_of_valid hfind (hsound thread hfind) hvalid).1 h
          have hfound : found.scheduler.threads.find? id = some thread := hfind
          obtain ⟨after, hafter, hrun⟩ := post_of_kept hfound hvalid (by simp [hreceive])
          have hkept := SignalState.receive_of_ne_queued (s := thread.signals)
            (o := occurrence kernel.scheduler.currentThread.id) (by simp [hreceive])
          rw [hreceive] at hrun
          refine send_of_refused hfind hzero ?_ hafter.client hrun
          exact (sameThreads_withSignals hfound hkept).trans (.of_eq hafter.scheduler)

theorem send_of_zero (hthread : kernel.scheduler.threads.find? id = some thread)
    (hzero : (occurrence kernel.scheduler.currentThread.id).signal = 0) :
    ∃ core, (∀ sink : Sink γ,
        send sink id occurrence kernel = (.ok none, { kernel with core })) ∧
      (kernel.core.MayEnter → core = kernel.core) := by
  have hread : (current kernel).2.scheduler.threads.find? id = some thread := hthread
  refine ⟨_, fun sink ↦ send_of_postTo (postTo_of_zero hread hzero sink), fun hcore ↦ ?_⟩
  -- both critical sections are empty
  let core := kernel.core.enter.2.leave kernel.core.enter.1
  have hcore' : core = kernel.core := Core.leave_enter hcore
  show core.enter.2.leave core.enter.1 = kernel.core
  rw [hcore']
  exact hcore'

theorem send_of_accepted (hthread : kernel.scheduler.threads.find? id = some thread)
    (hq : thread.signals.queue.Sound)
    (hzero : (occurrence kernel.scheduler.currentThread.id).signal ≠ 0)
    (h : refusal kernel.scheduler id (occurrence kernel.scheduler.currentThread.id).signal =
      none) :
    Accepted kernel id thread (occurrence kernel.scheduler.currentThread.id)
      (send · id occurrence) := by
  let o := occurrence kernel.scheduler.currentThread.id
  let found := (find? id (current kernel).2).2
  have hfound : found.scheduler.threads.find? id = some thread := hthread
  have hbox : found.mailboxes id = some thread.mailbox := (mailboxes_of_find? hfound).2
  have hvalid : Signal.isValid o.signal := by
    refine Signal.isValid_iff.2 ⟨Nat.pos_of_ne_zero hzero, Nat.le_of_not_lt fun hlast ↦ ?_⟩
    rw [refusal_of_invalid hthread hlast] at h
    cases h
  have hread : (current kernel).2.scheduler.threads.find? id = some thread := hthread
  have hsent {fate : Fate} {after : Kernel γ} {sink : Sink γ}
      (hpost : post sink id o found = (.ok fate, after)) :
      send sink id occurrence kernel = (.ok (some fate), after) :=
    send_of_postTo (postTo_of_ok hread hzero hpost)
  have hfate := SignalState.receive_outcome hq hvalid
  simp only [SignalState.coalesces_iff hq] at hfate
  cases hreceive : (thread.signals.receive o).1 with
  | error error =>
      rw [(refusal_of_valid hthread hq hvalid).2 hreceive] at h
      cases h
  | ok fate =>
      rw [hreceive] at hfate
      cases fate with
      | delivered =>
          obtain ⟨handed, hhanded, hpost⟩ := post_of_open hbox hvalid hreceive
          have hkept := SignalState.receive_of_ne_queued (s := thread.signals) (o := o)
            (by simp [hreceive])
          exact .delivered handed (SignalState.not_blocked_of_delivered hreceive)
            ((sameThreads_withSignals hfound hkept).trans (.of_eq hhanded.scheduler))
            hhanded.client fun sink ↦ hsent (hpost sink)
      | coalesced =>
          obtain ⟨after, hafter, hpost⟩ := post_of_kept hfound hvalid (by simp [hreceive])
          have hkept := SignalState.receive_of_ne_queued (s := thread.signals) (o := o)
            (by simp [hreceive])
          rw [hreceive] at hpost
          obtain ⟨hblocked, hpending⟩ : o.signal ∈ thread.signals.blocked ∧
              Signal.isRealtime o.signal = false ∧ o.signal ∈ thread.signals.pending := by
            grind
          exact .coalesced after hblocked hpending
            ((sameThreads_withSignals hfound hkept).trans (.of_eq hafter.scheduler))
            hafter.client fun sink ↦ hsent (hpost sink)
      | queued =>
          obtain ⟨after, hafter, hpost⟩ := post_of_kept hfound hvalid (by simp [hreceive])
          obtain ⟨-, htook⟩ :=
            handsOver_withSignals (fun client _ ↦ client) (·.receive o) hfound
          rw [hreceive] at hpost
          have hpending : ¬ (Signal.isRealtime o.signal = false ∧
              o.signal ∈ thread.signals.pending) := by
            grind
          refine .queued after (thread.signals.receive o).2
            (SignalState.mem_blocked_of_queued hreceive) hpending
            (SignalState.blocked_receive _ o) (SignalState.records_receive hq hreceive) ?_ ?_ ?_
            hafter.client fun sink ↦ hsent (hpost sink)
          · exact (htook.same hafter).found
          · exact (htook.same hafter).others
          · exact (turns_withSignals id _ found).trans (Same.rests hafter).turns

/-- Sending comes to what the target's existence, the signal, and the target's mask and queue make
of it. -/
theorem sends (occurrence : ThreadId → Occurrence)
    (hsound : ∀ thread, kernel.scheduler.threads.find? id = some thread →
      thread.signals.queue.Sound) :
    Sends kernel id (occurrence kernel.scheduler.currentThread.id) (send · id occurrence) := by
  let o := occurrence kernel.scheduler.currentThread.id
  have hexists (hnone : refusal kernel.scheduler id o.signal = none) :
      ∃ thread, kernel.scheduler.threads.find? id = some thread := by
    cases hfind : kernel.scheduler.threads.find? id with
    | none =>
        rw [refusal_of_none hfind] at hnone
        cases hnone
    | some thread => exact ⟨thread, rfl⟩
  have haccepted (hzero : o.signal ≠ 0) (hnone : refusal kernel.scheduler id o.signal = none) :
      ∃ thread, kernel.scheduler.threads.find? id = some thread ∧
        Accepted kernel id thread o (send · id occurrence) := by
    obtain ⟨thread, hthread⟩ := hexists hnone
    exact ⟨thread, hthread, send_of_accepted hthread (hsound thread hthread) hzero hnone⟩
  have hok (sink : Sink γ) (hnone : refusal kernel.scheduler id o.signal = none) :
      ∃ fate, (send sink id occurrence kernel).1 = .ok fate := by
    by_cases hzero : o.signal = 0
    · obtain ⟨thread, hthread⟩ := hexists hnone
      obtain ⟨core, hrun, -⟩ := send_of_zero hthread hzero
      exact ⟨none, congrArg Prod.fst (hrun sink)⟩
    · obtain ⟨thread, -, haccepted⟩ := haccepted hzero hnone
      cases haccepted with
      | delivered handed _ _ _ hrun => exact ⟨_, congrArg Prod.fst (hrun sink)⟩
      | coalesced after _ _ _ _ hrun => exact ⟨_, congrArg Prod.fst (hrun sink)⟩
      | queued after left _ _ _ _ _ _ _ _ hrun => exact ⟨_, congrArg Prod.fst (hrun sink)⟩
  have herror (sink : Sink γ) {error : SignalError}
      (hsome : refusal kernel.scheduler id o.signal = some error) :
      (send sink id occurrence kernel).1 = .error error := by
    obtain ⟨after, hrun, -⟩ := send_of_refusal (γ := γ) hsound hsome
    rw [hrun]
  constructor
  case failed =>
    intro sink error
    cases hrefusal : refusal kernel.scheduler id o.signal with
    | some reason =>
        rw [herror sink hrefusal]
        simp
    | none =>
        obtain ⟨fate, hfate⟩ := hok sink hrefusal
        rw [hfate]
        exact iff_of_false (by simp) (by simp)
  case status =>
    intro sink
    cases hrefusal : refusal kernel.scheduler id o.signal with
    | some reason =>
        rw [herror sink hrefusal]
        rfl
    | none =>
        obtain ⟨fate, hfate⟩ := hok sink hrefusal
        rw [hfate]
        rfl
  case refused =>
    intro error hrefusal
    have hcode : (if error = .noSuchThread then 3 else if error = .queueFull then 11 else 22) =
        error.errno := by
      cases error <;> rfl
    rw [hcode]
    exact send_of_refusal hsound hrefusal
  case tested => exact fun hzero ⟨thread, hthread⟩ ↦ send_of_zero hthread hzero
  case accepted => exact haccepted

end Send

end Kernel

end SignalKernel
