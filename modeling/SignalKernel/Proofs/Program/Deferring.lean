import SignalKernel.Proofs.Program.Detaining

/-!
# Handlers detain the running thread

Whatever handlers do in the course of a change of the running thread's mask, as long as they leave
it to preemption points who runs, the change stays on its course. What is done to signals leaves
turns alone, so that all that matters is what handlers call. A change of a mask that a handler makes
takes a level of a lock and gives it back, and the level of the change that is in progress already
keeps the preemption point at its end from switching.
-/

namespace SignalKernel.Program

open SignalKernel.Kernel

/-! ## Signals that are handled meanwhile -/

/-- The same changes of masks are in progress. -/
def SameMasking (kernel after : Kernel Session) : Prop :=
  after.client.masking = kernel.client.masking

/-- In the course of a change, the computation detains the running thread. -/
def Detains {α : Type} (entry : Kernel Session) (m : ProgramM α) : Prop :=
  Takes (Ongoing Session.outer entry) (Ongoing Session.outer entry) SameMasking m

section Detains

variable {α β : Type} {entry : Kernel Session}

theorem detains_of_turns {m : ProgramM α}
    (hturns : ∀ kernel : Kernel Session, kernel.scheduler.SameTurns (m kernel).2.scheduler)
    (hclient : ∀ kernel, (m kernel).2.client = kernel.client) : Detains entry m :=
  fun kernel hkernel ↦ ⟨hkernel.rests (hturns kernel) (hclient kernel),
    congrArg Session.masking (hclient kernel)⟩

theorem detains_of_same {m : ProgramM α} (h : ∀ kernel, Same kernel (m kernel).2) :
    Detains entry m :=
  detains_of_turns (fun kernel ↦ (h kernel).rests.turns) fun kernel ↦ (h kernel).client

theorem detains_pure (a : α) : Detains entry (pure a : ProgramM α) :=
  detains_of_same .refl

theorem Detains.bind {m : ProgramM α} {f : α → ProgramM β} (hm : Detains entry m)
    (hf : ∀ a, Detains entry (f a)) : Detains entry (m >>= f) := by
  intro kernel hkernel
  obtain ⟨hmiddle, hmasking⟩ := hm kernel hkernel
  obtain ⟨hafter, hmasking'⟩ := hf (m kernel).1 (m kernel).2 hmiddle
  exact ⟨hafter, Eq.trans hmasking' hmasking⟩

/-- A step that goes on with what it read of the kernel. -/
theorem Detains.read {δ : Type} {part : Kernel Session → δ} {f : δ → ProgramM α}
    (h : ∀ a, Detains entry (f a)) : Detains entry (get >>= fun kernel ↦ f (part kernel)) :=
  fun kernel ↦ h (part kernel) kernel

theorem detains_notify (notice : Notice) : Detains entry (Kernel.notify notice) :=
  detains_of_same (same_notify notice)

theorem detains_readSignals (id : ThreadId) (f : SignalState → α) :
    Detains entry (readSignals id f) :=
  detains_of_same (same_readSignals id f)

theorem detains_withSignals (id : ThreadId) (f : SignalState → α × SignalState) :
    Detains entry (withSignals id f) :=
  detains_of_turns (turns_withSignals id f) fun _ ↦ rfl

section Sink

variable {sink : Sink Session} (hsink : ∀ id timing o, Detains entry (sink id timing o))
include hsink

theorem detains_dispatch (id : ThreadId) (timing : Timing) (o : Occurrence) :
    Detains entry (dispatch sink id timing o) :=
  (detains_notify _).bind fun _ ↦ hsink id timing o

theorem detains_post (id : ThreadId) (o : Occurrence) : Detains entry (post sink id o) := by
  unfold post
  split
  · exact detains_pure _
  · refine (detains_withSignals id _).bind fun outcome ↦ ?_
    rcases outcome with error | (_ | _ | _)
    · exact detains_pure _
    · exact (detains_dispatch hsink id .immediate o).bind fun _ ↦ detains_pure _
    · exact (detains_notify _).bind fun _ ↦ detains_pure _
    · exact (detains_notify _).bind fun _ ↦ detains_pure _

theorem detains_drain (id : ThreadId) (signal limit delivered : Nat) :
    Detains entry (drain sink id signal limit delivered) := by
  induction limit generalizing delivered with
  | zero => exact detains_pure _
  | succ limit ih =>
      refine (detains_withSignals id _).bind fun taken ↦ ?_
      cases taken with
      | none => exact detains_pure _
      | some o =>
          refine (detains_notify _).bind fun _ ↦ ?_
          exact (detains_dispatch hsink id .deferred o).bind fun _ ↦ ih (delivered + 1)

theorem detains_drainEach (id : ThreadId) (limit : Nat) (signals : List Nat) (delivered : Nat) :
    Detains entry (drainEach sink id limit signals delivered) := by
  induction signals generalizing delivered with
  | nil => exact detains_pure _
  | cons signal rest ih => exact (detains_drain hsink id signal limit delivered).bind ih

theorem detains_sweep (id : ThreadId) : Detains entry (sweep sink id) := by
  refine (detains_readSignals id _).bind fun ready ↦ ?_
  split
  · exact detains_pure 0
  · exact .read fun limit ↦ detains_drainEach hsink id limit ready.toList 0

theorem detains_requestMask (id : ThreadId) (old : SignalSet) (how : Int)
    (set : Option SignalSet) : Detains entry (requestMask sink id old how set) := by
  cases set with
  | none => exact detains_pure _
  | some set =>
      rw [requestMask]
      cases MaskMode.ofCode how with
      | error error => exact (detains_notify _).bind fun _ ↦ detains_pure _
      | ok mode =>
          refine Detains.bind ?_ fun _ ↦ detains_pure _
          refine (detains_withSignals id _).bind fun new ↦ (detains_notify _).bind fun _ ↦ ?_
          exact (detains_sweep hsink id).bind fun _ ↦ detains_pure ()

/-- What is sent is posted, or nothing happens. -/
theorem Ongoing.sent {id : ThreadId} {o : Occurrence} {kernel after : Kernel Session}
    {outcome : Except SignalError (Option Fate)} (h : Ongoing Session.outer entry kernel)
    (hsent : Sent sink id o kernel outcome after) :
    Ongoing Session.outer entry after ∧ SameMasking kernel after := by
  have hresting {kernel after : Kernel Session} (h : Ongoing Session.outer entry kernel)
      (hrests : Rests kernel after) :
      Ongoing Session.outer entry after ∧ SameMasking kernel after :=
    ⟨h.rests hrests.turns hrests.client, congrArg Session.masking hrests.client⟩
  cases hsent with
  | lost hnone hrests => exact hresting h hrests
  | tested hbox hzero hrests => exact hresting h hrests
  | posted hbox hzero hbefore hrests =>
      obtain ⟨hfound, hmasking⟩ := hresting h hbefore
      obtain ⟨hposted, hmasking'⟩ := detains_post hsink id o _ hfound
      obtain ⟨hafter, hmasking''⟩ := hresting hposted hrests
      exact ⟨hafter, hmasking''.trans (hmasking'.trans hmasking)⟩

end Sink

end Detains

/-! ## Calls of handlers -/

section Calls

variable {entry kernel after : Kernel Session} {levels : Session → List ThreadId}

theorem Ongoing.onCourse (h : Ongoing levels entry kernel) : OnCourse entry kernel := by
  obtain ⟨marks, hcourse, -⟩ := h
  exact ⟨marks, hcourse⟩

/-- The change in progress stays on its course until a call is over, with the same changes in
progress. -/
structure Proceeds (entry kernel after : Kernel Session) : Prop where
  onCourse : OnCourse entry after
  masking : SameMasking kernel after

theorem Proceeds.since {before : Kernel Session} (h : Proceeds entry kernel after)
    (hmasking : SameMasking before kernel) : Proceeds entry before after :=
  ⟨h.onCourse, Eq.trans h.masking hmasking⟩

theorem OnCourse.idle (h : OnCourse entry kernel) (hidle : Idle kernel after) :
    Proceeds entry kernel after := by
  obtain ⟨marks, hcourse⟩ := h
  refine ⟨⟨marks, hcourse.idle hidle.history hidle.turns hidle.locks hidle.masking ?_⟩,
    hidle.masking⟩
  rw [hidle.handlers]
  exact hcourse.handlers

theorem Proceeds.idle {last : Kernel Session} (h : Proceeds entry kernel after)
    (hidle : Idle after last) : Proceeds entry kernel last :=
  (h.onCourse.idle hidle).since h.masking

/-- A turn of the scheduler that detains the running thread. -/
theorem Ongoing.turn (h : Ongoing Session.holding entry kernel)
    (hclient : after.client = kernel.client)
    (hturn : ∀ passed holding, Standing entry.scheduler passed kernel.scheduler holding →
      Detained entry.scheduler kernel.scheduler →
        Standing entry.scheduler passed after.scheduler holding) :
    Proceeds entry kernel after := by
  obtain ⟨marks, hcourse, hsettled⟩ := h
  refine ⟨⟨marks, ?_⟩, congrArg Session.masking hclient⟩
  refine hcourse.turned (by rw [hclient]) ?_ ?_ fun hfew ↦ ?_
  · rw [hclient]
    exact hcourse.handlers
  · rw [hclient]
    exact hcourse.masking
  · rw [hclient]
    exact hturn _ _ (hcourse.standing hfew) (hcourse.detained hfew (hsettled hfew).few)

/-- A preemption point does nothing while the running thread is detained. -/
theorem Detained.preempt {entry scheduler : Scheduler} (h : Detained entry scheduler) :
    scheduler.preempt.2 = scheduler := by
  obtain ⟨depth, hdepth, hlocked⟩ := h.locked
  rw [← h.current] at hdepth
  rw [Scheduler.preempt_of_locked hdepth hlocked]

/-- A call that concerns a thread, if it is made for one that exists. -/
theorem Ongoing.onThread {body : ThreadId → ProgramM Answer}
    (hbody : ∀ {target} {kernel : Kernel Session}, Ongoing Session.holding entry kernel →
      target ∈ kernel.scheduler.ids →
        Proceeds entry kernel (body target kernel).2)
    (id : Option ThreadId) (h : Ongoing Session.holding entry kernel) :
    Proceeds entry kernel (onThread id body kernel).2 := by
  obtain ⟨found, hfound, hrun | ⟨target, box, hbox, hrun⟩⟩ := run_onThread id body kernel
  · have hread := h.rests hfound.rests.turns hfound.client
    rw [hrun]
    exact ⟨hread.onCourse, congrArg Session.masking hfound.client⟩
  · have hread := h.rests hfound.rests.turns hfound.client
    have hproceeds := hbody hread (Scheduler.mem_ids_iff_depth?.2 (depth?_of_mailboxes hbox))
    rw [hrun]
    exact hproceeds.since (congrArg Session.masking hfound.client)

/-- A level that the program takes and keeps. -/
theorem Ongoing.lockCall (h : Ongoing Session.holding entry kernel) (id : Option ThreadId) :
    Proceeds entry kernel ((SchedulingCall.lock id).run kernel).2 := by
  refine Ongoing.onThread (fun {target kernel} h htarget ↦ ?_) id h
  obtain ⟨marks, hcourse, -⟩ := h
  refine ⟨⟨marks, hcourse.turned rfl hcourse.handlers hcourse.masking fun hfew ↦ ?_⟩, rfl⟩
  refine (hcourse.standing hfew).lock htarget ?_
  show ((kernel.client.locks ++ [some target]).filterMap _ ++ _).Perm _
  rw [List.filterMap_append, List.append_assoc]
  exact List.perm_middle

/-- A kept level is given back. The level of the change is held still. -/
theorem Ongoing.unlockCall (h : Ongoing Session.holding entry kernel) (index : Nat) :
    Proceeds entry kernel ((SchedulingCall.unlock index).run kernel).2 := by
  simp only [SchedulingCall.run, run_bind, run_get]
  rcases hlock : kernel.client.locks[index]? with _ | _ | id
  · exact ⟨h.onCourse, rfl⟩
  · exact ⟨h.onCourse, rfl⟩
  · obtain ⟨marks, hcourse, hsettled⟩ := h
    let given := (modifySession (fun session ↦
      { session with locks := session.locks.set index none }) kernel).2
    obtain ⟨hscheduler, hclient⟩ := run_unlockScheduler id given
    have hleft : kernel.client.holding.Perm (id :: given.client.holding) :=
      (perm_filterMap_set hlock).append_right kernel.client.masking
    simp only [run_bind, run_pure]
    refine ⟨⟨marks, hcourse.turned ?_ ?_ ?_ fun hfew ↦ ?_⟩, ?_⟩
    · rw [hclient]
      rfl
    · rw [hclient]
      exact hcourse.handlers
    · rw [hclient]
      exact hcourse.masking
    · have hcount := hleft.count_eq entry.scheduler.current
      have hbefore := (hsettled hfew).few
      rw [List.count_cons] at hcount
      obtain ⟨hgiven, hstanding⟩ := (hcourse.standing hfew).giveBack hleft
        (List.mem_append_right _ hcourse.masking) (by omega)
      have hunlocked : given.scheduler.unlock id = kernel.scheduler.giveBack id := hgiven
      rw [hscheduler, hclient, hunlocked]
      exact hstanding
    · show (unlockScheduler id given).2.client.masking = kernel.client.masking
      rw [hclient]
      rfl

/-- Calls on the scheduler that leave turns to preemption points detain the running thread. -/
theorem Ongoing.schedulingCall (h : Ongoing Session.holding entry kernel) {call : SchedulingCall}
    (hallowed : Call.leavesTurns (.scheduling call) = true) :
    Proceeds entry kernel (call.run kernel).2 := by
  cases call with
  | spawn config =>
      have hread := same_readSignals (Kernel.spawn config kernel).1.id (·.blocked)
        (Kernel.spawn config kernel).2
      refine h.turn (hread.client.trans (mailboxes_spawn config kernel).1) ?_
      intro passed holding hstanding _
      show Standing _ _ (readSignals (Kernel.spawn config kernel).1.id (·.blocked)
        (Kernel.spawn config kernel).2).2.scheduler _
      rw [hread.scheduler, scheduler_spawn]
      exact hstanding.spawn config
  | current => exact h.onCourse.idle ⟨⟨rfl, rfl, rfl⟩, .refl _, rfl, rfl⟩
  | setCurrent id => cases hallowed
  | requestResched => exact h.turn rfl fun _ _ hstanding _ ↦ hstanding.request
  | isReschedRequested => exact ⟨h.onCourse, rfl⟩
  | contextSwitches => exact ⟨h.onCourse, rfl⟩
  | preemptionPoint =>
      refine h.turn (alike_preemptionPoint kernel).client
        fun passed holding hstanding hdetained ↦ ?_
      show Standing _ _ (Kernel.preemptionPoint kernel).2.scheduler _
      rw [(run_preemptionPoint kernel).2, hdetained.preempt]
      exact hstanding
  | schedule => cases hallowed
  | lock id => exact h.lockCall id
  | unlock index => exact h.unlockCall index
  | lockDepth id => exact h.onCourse.idle (idle_onThread (fun _ kernel ↦ .refl kernel) id kernel)
  | describe id => exact h.onCourse.idle (idle_onThread (fun _ kernel ↦ .refl kernel) id kernel)

end Calls

/-! ## Changes of masks that handlers make -/

section Masking

variable {entry kernel begun after : Kernel Session} {sink : Sink Session} {id : ThreadId}

/-- A change takes a level of the lock, which is its own. -/
theorem Ongoing.locked (h : Ongoing Session.holding entry kernel) (hid : id ∈ kernel.scheduler.ids)
    (hbegun : Same (beginMasking id kernel).2 begun) :
    Ongoing Session.outer entry (lockScheduler id begun).2 := by
  have hclient : begun.client = (beginMasking id kernel).2.client := hbegun.client
  have hscheduler : begun.scheduler = kernel.scheduler := hbegun.scheduler
  refine h.turned (fun marks hcourse ↦ ?_) ?_ ?_
  · refine hcourse.turned ?_ ?_ ?_ fun hfew ↦ ?_
    · show begun.client.history = kernel.client.history
      rw [hclient]
      rfl
    · show begun.client.handlers.every _ = true
      rw [hclient]
      exact hcourse.handlers
    · show _ ∈ begun.client.masking
      rw [hclient]
      exact List.mem_cons_of_mem id hcourse.masking
    · show Standing _ _ (begun.scheduler.lock id) begun.client.holding
      rw [hscheduler, hclient]
      exact (hcourse.standing hfew).lock hid List.perm_middle
  · show begun.scheduler.reschedRequested = kernel.scheduler.reschedRequested
    rw [hscheduler]
  · show begun.client.outer = kernel.client.holding
    rw [hclient]
    rfl

/-- It gives the level back in the end. No preemption point is passed with it, since the change that
was in progress before has one still. -/
theorem Ongoing.unlocked {outer : List ThreadId} (h : Ongoing Session.outer entry kernel)
    (hmasking : kernel.client.masking = id :: outer) (houter : entry.scheduler.current ∈ outer) :
    Ongoing Session.holding entry (endMasking (unlockScheduler id kernel).2).2 := by
  obtain ⟨marks, hcourse, hsettled⟩ := h
  obtain ⟨hscheduler, hclient⟩ := run_unlockScheduler id kernel
  let ended := (endMasking (unlockScheduler id kernel).2).2
  have hended : ended.client = { kernel.client with masking := outer } := by
    show { (unlockScheduler id kernel).2.client with
      masking := (unlockScheduler id kernel).2.client.masking.tail } = _
    rw [hclient, hmasking]
    rfl
  have hholding : ended.client.holding = kernel.client.outer := by
    rw [hended, Session.outer, hmasking]
    rfl
  have hleft : kernel.client.holding.Perm (id :: kernel.client.outer) := by
    rw [Session.holding, Session.outer, hmasking]
    exact List.perm_middle
  have hheld : entry.scheduler.current ∈ kernel.client.outer := by
    rw [Session.outer, hmasking]
    exact List.mem_append_right _ houter
  have hgiven (hfew : Few entry.scheduler.current (points marks)) :=
    (hcourse.standing hfew).giveBack hleft hheld (hsettled hfew).few
  have hturned (hfew : Few entry.scheduler.current (points marks)) :
      ended.scheduler = kernel.scheduler.giveBack id := by
    rw [scheduler_endMasking, hscheduler]
    exact (hgiven hfew).1
  refine ⟨marks, hcourse.turned ?_ ?_ ?_ fun hfew ↦ ?_, fun hfew ↦ ?_⟩
  · show ended.client.history = _
    rw [hended]
  · show ended.client.handlers.every _ = true
    rw [hended]
    exact hcourse.handlers
  · show _ ∈ ended.client.masking
    rw [hended]
    exact houter
  · show Standing _ _ ended.scheduler ended.client.holding
    rw [hturned hfew, hholding]
    exact (hgiven hfew).2
  · show Settled _ _ ended.scheduler ended.client.holding
    rw [hturned hfew, hholding]
    exact ⟨(hsettled hfew).few, (hsettled hfew).asked⟩

/-- Between the levels that a change takes and gives back, the running thread is detained. -/
theorem Ongoing.requested (hsink : ∀ id timing o, Detains entry (sink id timing o))
    (hlocked : Ongoing Session.outer entry (lockScheduler id begun).2) (how : Int)
    (set : Option SignalSet) :
    ∃ requested, Ongoing Session.outer entry requested ∧
      requested.client.masking = begun.client.masking ∧
        (changeMask sink id how set begun).2 = (unlockScheduler id requested).2 := by
  let read := readSignals id (·.blocked) (lockScheduler id begun).2
  obtain ⟨hread, hmasking⟩ := detains_readSignals id (·.blocked) _ hlocked
  obtain ⟨hrequested, hmasking'⟩ := detains_requestMask hsink id read.1 how set read.2 hread
  exact ⟨_, hrequested, hmasking'.trans hmasking, rfl⟩

/-- A change of a mask that a handler makes leaves the one in progress on its course. -/
theorem Ongoing.changeMask (h : Ongoing Session.holding entry kernel)
    (hsink : ∀ id timing o, Detains entry (sink id timing o)) (hid : id ∈ kernel.scheduler.ids)
    (hbegun : Same (beginMasking id kernel).2 begun) (how : Int) (set : Option SignalSet)
    (hafter : Rests (changeMask sink id how set begun).2 after) :
    Ongoing Session.holding entry (endMasking after).2 ∧
      SameMasking kernel (endMasking after).2 := by
  obtain ⟨marks, hcourse⟩ := h.onCourse
  obtain ⟨requested, hrequested, hmasking, hrun⟩ :=
    Ongoing.requested hsink (h.locked hid hbegun) how set
  have hbegan : requested.client.masking = id :: kernel.client.masking := by
    rw [hmasking, hbegun.client]
    rfl
  have hunlocked := hrequested.unlocked hbegan hcourse.masking
  rw [← hrun] at hunlocked
  have hended := rests_endMasking hafter
  refine ⟨hunlocked.rests hended.turns hended.client, ?_⟩
  show after.client.masking.tail = kernel.client.masking
  rw [hafter.client, hrun, (run_unlockScheduler id requested).2, hbegan]
  rfl

/-- So does one that the running thread makes. -/
theorem Ongoing.sigprocmask (h : Ongoing Session.holding entry kernel)
    (hsink : ∀ id timing o, Detains entry (sink id timing o)) (how : Int)
    (set : Option SignalSet) :
    let masked := (endMasking (Kernel.sigprocmask sink how set
      (beginMasking (current kernel).1.id kernel).2).2).2
    Ongoing Session.holding entry masked ∧ SameMasking kernel masked := by
  obtain ⟨box, hbox⟩ := mailboxes_current kernel
  let id := (current kernel).1.id
  let begun := (current (beginMasking id kernel).2).2
  let changed := Kernel.changeMask sink id how set begun
  have hbegun : Same (beginMasking id kernel).2 begun := same_readScheduler _ _
  have hid : id ∈ kernel.scheduler.ids :=
    Scheduler.mem_ids_iff_depth?.2 (depth?_of_mailboxes hbox)
  have hstored := rests_storeErrno id MaskError.errno changed.1.outcome changed.2
  rw [Kernel.sigprocmask, run_bind, run_bind, run_bind, run_pure]
  exact h.changeMask hsink hid hbegun how set hstored

end Masking

/-! ## Calls on signals -/

section Signals

variable {entry kernel : Kernel Session} {sink : Sink Session}

/-- What is true of all levels is true of those below the last one. -/
theorem Ongoing.during (h : Ongoing Session.holding entry kernel) :
    Ongoing Session.outer entry kernel := by
  obtain ⟨marks, hcourse, hsettled⟩ := h
  refine ⟨marks, hcourse, fun hfew ↦ ⟨?_, (hsettled hfew).asked⟩⟩
  have hsublist : kernel.client.outer.Sublist kernel.client.holding :=
    (List.tail_sublist kernel.client.masking).append_left _
  exact Nat.lt_of_le_of_lt (hsublist.count_le _) (hsettled hfew).few

/-- A post is marked. -/
theorem Ongoing.markPost (h : Ongoing Session.outer entry kernel) (busy : List ThreadId)
    (id : ThreadId) (o : Occurrence) :
    Ongoing Session.outer entry (markPost busy id o kernel).2 := by
  obtain ⟨marks, hcourse, hsettled⟩ := h
  let post : Post := ⟨id, o, (kernel.thread id).signals, busy⟩
  have hsilent : Silent [.posted post] := silent_posted post
  refine ⟨_, hcourse.worked (marked_mark (.posted post) kernel) hsilent (.refl _), ?_⟩
  rw [hsilent.points_append]
  exact hsettled

theorem Ongoing.markSent (h : Ongoing Session.outer entry kernel) (busy : List ThreadId)
    (id : ThreadId) (o : Occurrence) :
    Ongoing Session.outer entry (markSent busy id o kernel).2 ∧
      SameMasking kernel (Program.markSent busy id o kernel).2 := by
  rw [Program.markSent, run_bind, run_get]
  split
  · exact ⟨h.markPost busy id o, rfl⟩
  · exact ⟨h, rfl⟩

theorem OnCourse.markSwept (h : OnCourse entry kernel) (id : ThreadId) :
    OnCourse entry (markSwept id kernel).2 := by
  obtain ⟨marks, hcourse⟩ := h
  let swept : Moment := .swept id (kernel.thread id).signals
  exact ⟨_, hcourse.worked (marked_mark swept kernel) (silent_swept _ _) (.refl _)⟩

/-- A sweep is marked, if there was one. -/
theorem marked_markMasked (id : ThreadId) (set : Option SignalSet) (outcome : Except MaskError Unit)
    (kernel : Kernel Session) :
    (markMasked id set outcome kernel).2.scheduler = kernel.scheduler ∧
      ∃ silent, Silent silent ∧ Marked silent kernel (markMasked id set outcome kernel).2 := by
  have hnone : ∃ silent, Silent silent ∧ Marked silent kernel kernel :=
    ⟨[], silent_nil, marked_of_client rfl⟩
  cases set with
  | none => exact ⟨rfl, hnone⟩
  | some set =>
      cases outcome with
      | error error => exact ⟨rfl, hnone⟩
      | ok _ =>
          let swept : Moment := .swept id (kernel.thread id).signals
          exact ⟨rfl, _, silent_swept _ _, marked_mark swept kernel⟩

theorem OnCourse.markMasked (h : OnCourse entry kernel) (id : ThreadId) (set : Option SignalSet)
    (outcome : Except MaskError Unit) :
    Proceeds entry kernel (markMasked id set outcome kernel).2 := by
  obtain ⟨marks, hcourse⟩ := h
  obtain ⟨hscheduler, silent, hsilent, hmarked⟩ := marked_markMasked id set outcome kernel
  refine ⟨⟨_, hcourse.worked hmarked hsilent ?_⟩, hmarked.masking⟩
  rw [hscheduler]
  exact .refl kernel.scheduler

variable (hsink : ∀ id timing o, Detains entry (sink id timing o))
include hsink

/-- Sending, with all that is marked of it. -/
theorem Ongoing.sendCall (h : Ongoing Session.holding entry kernel) (busy : List ThreadId)
    (id : ThreadId) (occurrence : ThreadId → Occurrence) :
    let o := occurrence (current kernel).1.id
    let sent := send sink id occurrence (Program.markSent busy id o (current kernel).2).2
    Proceeds entry kernel (noteSent id o sent.1 sent.2).2 := by
  intro o sent
  have hread := same_readScheduler (·.currentThread) kernel
  have hcurrent := h.during.rests hread.rests.turns hread.client
  obtain ⟨hmarked, hmasking⟩ := hcurrent.markSent busy id o
  obtain ⟨hsent, hmasking'⟩ := Ongoing.sent hsink hmarked (run_send sink id occurrence _)
  have hnoted := hsent.onCourse.idle (idle_noteSent id o sent.1 sent.2)
  exact hnoted.since (hmasking'.trans hmasking)

/-- Calls on signals detain the running thread. -/
theorem Ongoing.signalCall (h : Ongoing Session.holding entry kernel) (busy : List ThreadId)
    (call : SignalCall) : Proceeds entry kernel (call.run ⟨sink, busy⟩ kernel).2 := by
  cases call with
  | changeMask id how set wantsOld =>
      refine Ongoing.onThread (fun {target kernel} h htarget ↦ ?_) id h
      obtain ⟨hchanged, hmasking⟩ := h.changeMask hsink htarget (.refl _) how set (.refl _)
      simp only [run_bind, run_pure, run_whileMasking]
      refine Proceeds.idle ?_ (idle_of_rests (same_readSignals target (·.blocked) _).rests)
      exact (hchanged.onCourse.markMasked target set _).since hmasking
  | sigprocmask how set wantsOld =>
      have hread := same_readScheduler (·.currentThread) kernel
      have hcurrent := h.rests hread.rests.turns hread.client
      obtain ⟨hchanged, hmasking⟩ := hcurrent.sigprocmask hsink how set
      simp only [SignalCall.run, run_bind, run_pure, run_get, run_whileMasking]
      refine Proceeds.idle ?_ (idle_of_rests
        (same_readSignals (current kernel).1.id (·.blocked) _).rests)
      exact (hchanged.onCourse.markMasked (current kernel).1.id set _).since hmasking
  | kill id signal =>
      simp only [SignalCall.run, run_bind, run_pure, run_get, Kernel.kill]
      exact h.sendCall hsink busy id (.plain signal)
  | sigqueue id signal value =>
      simp only [SignalCall.run, run_bind, run_pure, run_get, Kernel.sigqueue]
      exact h.sendCall hsink busy id fun sender ↦ .carrying signal sender value
  | post id o =>
      refine Ongoing.onThread (fun {target kernel} h htarget ↦ ?_) id h
      obtain ⟨hposted, hmasking⟩ := detains_post hsink target o _ (h.during.markPost busy target o)
      exact (hposted.onCourse.idle (idle_note _ _)).since hmasking
  | sweep id =>
      refine Ongoing.onThread (fun {target kernel} h htarget ↦ ?_) id h
      obtain ⟨hswept, hmasking⟩ := detains_sweep hsink target kernel h.during
      exact ⟨hswept.onCourse.markSwept target, hmasking⟩
  | deliver o =>
      have hread := same_readScheduler (·.currentThread) kernel
      have hcurrent := h.during.rests hread.rests.turns hread.client
      obtain ⟨hhanded, hmasking⟩ := hsink (current kernel).1.id .immediate o _ hcurrent
      exact ⟨hhanded.onCourse, hmasking⟩
  | resetState id mask capacity =>
      refine Ongoing.onThread (fun {target kernel} h htarget ↦ ?_) id h
      obtain ⟨hreset, hmasking⟩ := detains_withSignals target (fun _ ↦
        (Answer.set (SignalState.ofMask mask capacity).blocked, .ofMask mask capacity)) _ h.during
      exact ⟨hreset.onCourse, hmasking⟩
  | _ => exact h.onCourse.idle (idle_signalCall rfl _ kernel)

end Signals

/-! ## The invariant -/

/-- A sink that marks deliveries detains the running thread if what it does about them does. -/
theorem marking_detains {entry : Kernel Session} {handle : List ThreadId → Sink Session}
    (hhandle : ∀ busy id timing o, Keeps (fun _ ↦ Ongoing Session.holding entry) SameMasking busy
      (handle busy id timing o)) (busy : List ThreadId) (id : ThreadId) (timing : Timing)
    (o : Occurrence) : Detains entry (marking busy handle id timing o) := by
  intro kernel hkernel
  let delivered : Moment := .delivered (delivery kernel id timing o)
  let point : Point := ⟨kernel.scheduler, timing.sweeping id busy, kernel.client.holding⟩
  let marked := (markPoint (timing.sweeping id busy) (mark delivered kernel).2).2
  have hmarked : Marked ([delivered] ++ [.passed point]) kernel marked := by
    refine ⟨(toList_mark _ _).trans ?_, rfl, rfl, rfl⟩
    rw [toList_mark, List.append_assoc]
    rfl
  obtain ⟨marks, hcourse⟩ := hkernel.onCourse
  have hpassed : Ongoing Session.holding entry marked :=
    hcourse.passes hmarked rfl ⟨rfl, rfl⟩ rfl fun hattended hdetained ↦ by
      refine hattended.delivered hdetained.current fun hid ↦ ?_
      obtain ⟨depth, hdepth, hlocked⟩ := hdetained.locked
      rw [← hdetained.current] at hid hdepth
      show (kernel.thread id).lockDepth ≠ 0
      rw [show id = kernel.scheduler.current from hid]
      exact (Scheduler.lockDepth_currentThread hdepth).symm ▸ hlocked
  obtain ⟨hhandled, hmasking⟩ := hhandle (timing.sweeping id busy) id timing o marked hpassed
  exact ⟨hhandled.during, hmasking⟩

/-- Whatever handlers do in the course of a change, the running thread is detained. -/
def detaining (entry : Kernel Session) : RunInvariant where
  allows := Call.leavesTurns
  holds _ := Ongoing Session.holding entry
  ended _ := OnCourse entry
  leads := SameMasking
  serves _ sink := ∀ id timing o, Detains entry (sink id timing o)
  trans h h' := Eq.trans h' h
  ended_of_holds := Ongoing.onCourse
  handlers := by
    rintro busy kernel ⟨marks, hcourse⟩
    exact hcourse.handlers
  idle {kernel after} hmailboxes hhistory hturns hlocks hmasking hhandlers := by
    have hcourse (marks : List Moment) (h : Course entry marks kernel) : Course entry marks after :=
      h.idle hhistory hturns hlocks hmasking hhandlers
    refine ⟨hmasking, fun _ ↦ ⟨fun h ↦ h.turned hcourse hturns.reschedRequested ?_, ?_⟩⟩
    · rw [Session.holding, hlocks, hmasking]
      rfl
    · rintro ⟨marks, h⟩
      exact ⟨marks, hcourse marks h⟩
  point busy kernel h := by
    obtain ⟨marks, hcourse⟩ := h
    exact ⟨hcourse.point busy, rfl⟩
  scheduling hallowed kernel h := by
    have hproceeds := h.schedulingCall hallowed
    exact ⟨hproceeds.onCourse, hproceeds.masking⟩
  signal {busy _ call} hsink _ kernel h := by
    have hproceeds := h.signalCall hsink busy call
    exact ⟨hproceeds.onCourse, hproceeds.masking⟩
  marking := marking_detains

end SignalKernel.Program
