import SignalKernel.Proofs.Kernel.PlainLoop
import SignalKernel.Proofs.Program.Calm
import SignalKernel.Proofs.Program.Queueing
import SignalKernel.Proofs.Program.Sections

/-!
# Sweeps are plain loops

A sweep works from what it saw at its beginning, and bounds how often it looks at each list. With
handlers that may make any calls, it still does exactly what the plain loop does that looks afresh
before every record. The main theorem, `sweeps_plain`, says so of every thread that keeps its signal
state, at every point of every run; what is done to the signal states of other threads does not
matter.
-/

namespace SignalKernel.Program

open SignalKernel.Kernel

/-- The call leaves a thread the signal state that it has. A call that names no thread may concern
any; the call that names the one it concerns does the same. -/
def SignalCall.keepsStateOf (id : ThreadId) : SignalCall → Bool
  | .resetState none _ _ => false
  | .resetState (some other) _ _ => other != id
  | _ => true

/-! ## The thread is treated well -/

/-- Handlers leave the thread its signal state, and its mailbox was sound at all points but earlier
ones. -/
structure GoodStanding (id : ThreadId) (earlier : List Point) (session : Session) : Prop where
  handlers : session.handlers.every (Call.onSignals (SignalCall.keepsStateOf id)) = true
  points : ∀ point ∈ points session.history.toList,
    point ∈ earlier ∨ point.scheduler.mailboxes.SoundAt id

section Steps

variable {id : ThreadId} {earlier : List Point} {kernel after : Kernel Session}

/-- What leaves the mailboxes and the points alone. -/
theorem guarded_of_mailboxes (hmailboxes : after.mailboxes = kernel.mailboxes)
    (hhandlers : after.client.handlers.every (Call.onSignals (SignalCall.keepsStateOf id)) = true)
    (hpoints : points after.client.history.toList = points kernel.client.history.toList)
    (hkernel : kernel.Guarded (GoodStanding id earlier) id) :
    after.Guarded (GoodStanding id earlier) id ∧ kernel.mailboxes.DrainsAt id after.mailboxes := by
  rw [hmailboxes]
  refine ⟨⟨⟨hhandlers, ?_⟩, ?_⟩, .refl id kernel.mailboxes⟩
  · rw [hpoints]
    exact hkernel.client.points
  · rw [hmailboxes]
    exact hkernel.sound

theorem guarded_critical {α : Type} {body : ProgramM α}
    (h : ∀ kernel, Beside kernel (body kernel).2)
    (hkernel : kernel.Guarded (GoodStanding id earlier) id) :
    (critical body kernel).2.Guarded (GoodStanding id earlier) id ∧
      kernel.mailboxes.DrainsAt id (critical body kernel).2.mailboxes := by
  have hbody := h (enter kernel).2
  have hhandlers : (critical body kernel).2.client.handlers = kernel.client.handlers :=
    hbody.handlers
  refine guarded_of_mailboxes ?_ ?_ hbody.points hkernel
  · show (body (enter kernel).2).2.scheduler.mailboxes = kernel.scheduler.mailboxes
    rw [hbody.scheduler]
    rfl
  · rw [hhandlers]
    exact hkernel.client.handlers

theorem guarded_markPoint (sweeping : List ThreadId)
    (hkernel : kernel.Guarded (GoodStanding id earlier) id) :
    (markPoint sweeping kernel).2.Guarded (GoodStanding id earlier) id ∧
      kernel.mailboxes.DrainsAt id (markPoint sweeping kernel).2.mailboxes := by
  let point : Point := ⟨kernel.scheduler, sweeping, kernel.client.holding⟩
  have hmarked : (markPoint sweeping kernel).2.client.history.toList =
      kernel.client.history.toList ++ [.passed point] := toList_mark _ kernel
  refine ⟨⟨⟨hkernel.client.handlers, ?_⟩, hkernel.sound⟩, .refl id kernel.mailboxes⟩
  rw [hmarked, points_append]
  intro other hother
  rcases List.mem_append.1 hother with hbefore | hnow
  · exact hkernel.client.points other hbefore
  · cases List.mem_singleton.1 hnow
    exact .inr hkernel.sound

/-- Replacing the signal state of another thread. -/
theorem guarded_resetState {target : Option ThreadId} {mask : SignalSet} {capacity : Nat}
    (h : (SignalCall.resetState target mask capacity).keepsStateOf id = true) (site : Site) :
    Kernel.Guards (GoodStanding id earlier) id
      ((SignalCall.resetState target mask capacity).run site) := by
  cases target with
  | none => cases h
  | some other =>
      have hother : other ≠ id := bne_iff_ne.1 h
      intro kernel hkernel
      have hfound : (find? other kernel).1 = kernel.scheduler.threads.find? other := rfl
      have hread : (find? other kernel).2.Guarded (GoodStanding id earlier) id ∧ _ :=
        guards_readScheduler (·.threads.find? other) kernel hkernel
      simp only [SignalCall.run, onThread]
      rw [run_bind, hfound]
      cases hfind : kernel.scheduler.threads.find? other with
      | none => exact hread
      | some thread =>
          have hid := (mailboxes_of_find? hfind).1
          obtain ⟨hafter, hdrains⟩ := guards_withSignals (A := GoodStanding id earlier) thread.id
            (f := fun _ ↦ (Answer.set (SignalState.ofMask mask capacity).blocked,
              .ofMask mask capacity))
            (fun hsame ↦ absurd (hid.symm.trans hsame) hother) (find? other kernel).2 hread.1
          exact ⟨hafter, hread.2.trans hdrains⟩

theorem guarded_leave (index : Nat) (hkernel : kernel.Guarded (GoodStanding id earlier) id) :
    ((InterruptCall.leave index).run kernel).2.Guarded (GoodStanding id earlier) id ∧
      kernel.mailboxes.DrainsAt id ((InterruptCall.leave index).run kernel).2.mailboxes := by
  simp only [InterruptCall.run, run_bind, run_get]
  rcases kernel.client.sections[index]? with _ | _ | entered
  · exact guarded_of_mailboxes rfl hkernel.client.handlers rfl hkernel
  · exact guarded_of_mailboxes rfl hkernel.client.handlers rfl hkernel
  · exact guarded_of_mailboxes rfl hkernel.client.handlers rfl hkernel

end Steps

/-- Calls that leave a thread its signal state treat it well. -/
def guardingThread (id : ThreadId) (earlier : List Point) : Discipline where
  allows := Call.onSignals (SignalCall.keepsStateOf id)
  holds kernel := kernel.Guarded (GoodStanding id earlier) id
  leads kernel after := kernel.mailboxes.DrainsAt id after.mailboxes
  trans := Mailboxes.DrainsAt.trans
  handlers h := h.client.handlers
  apart h hhandlers := by
    refine guarded_of_mailboxes ?_ hhandlers h.points
    rw [Kernel.mailboxes, h.scheduler]
    rfl
  critical h _ := guarded_critical h
  operation h hsink := h.guards hsink
  setErrno target code := guards_of_alike fun kernel ↦
    (rests_setErrno target code kernel).toAlike
  resetState h site := guarded_resetState h site
  enter _ hkernel := guarded_of_mailboxes rfl hkernel.client.handlers rfl hkernel
  leave index _ := guarded_leave index
  point sweeping _ := guarded_markPoint sweeping

/-- Handlers that leave a thread its signal state treat it well. -/
theorem Site.Scripted.guards {site : Site} (h : site.Scripted) (id : ThreadId)
    (earlier : List Point) : site.sink.Guards (GoodStanding id earlier) id :=
  Discipline.keptBy_of_scripted (D := guardingThread id earlier) h

/-- A run of calls that leave the thread its signal state treats the thread well to the end. -/
theorem guarded_final {program : Program} {id : ThreadId}
    (h : program.only (SignalCall.keepsStateOf id) = true) :
    program.final.Guarded (GoodStanding id []) id := by
  rw [← Program.every_onSignals] at h
  have hhandlers := h
  rw [Program.every, Bool.and_eq_true] at hhandlers
  have hstart : program.blank.Guarded (GoodStanding id []) id :=
    ⟨⟨hhandlers.2, fun point hpoint ↦ absurd hpoint List.not_mem_nil⟩, Chronicle.sound_initial id⟩
  exact (Discipline.keeps_run (D := guardingThread id []) h hstart).1

/-- Wherever a program passed, the thread's mailbox was sound. -/
theorem sound_at_points {program : Program} {id : ThreadId}
    (h : program.only (SignalCall.keepsStateOf id) = true) {point : Point}
    (hpoint : .passed point ∈ program.history) : point.scheduler.mailboxes.SoundAt id :=
  ((guarded_final h).client.points point (mem_points.2 hpoint)).resolve_left List.not_mem_nil

/-! ## The theorem -/

/-- The kernel after a thread's mask was changed, before what that unblocks is swept. -/
def maskWritten (id : ThreadId) (mode : MaskMode) (set : SignalSet) (kernel : Kernel Session) :
    Kernel Session :=
  (withSignals id (fun signals ↦
    ((signals.changeMask mode set).blocked, signals.changeMask mode set)) kernel).2

/-- Sweeping a thread is the plain loop, at every point of a program's run and after its end.
Handlers may make all calls but those that replace the thread's signal state. What is counted must
not overflow until the sweep is over: the identities of threads, and the critical sections that are
entered. -/
structure SweepsPlain (program : Program) (id : ThreadId) : Prop where
  /-- At a point the core may be anything, as long as its lock is held once for each critical
  section that is kept. -/
  atPoints : ∀ point, .passed point ∈ program.history → ∀ thread,
    point.scheduler.threads.find? id = some thread →
      ∀ {site : Site}, site.Scripted → ∀ kernel : Kernel Session,
        kernel.scheduler = point.scheduler →
          kernel.client.handlers.only (SignalCall.keepsStateOf id) = true →
            kernel.core.lock = .heldBy kernel.core.number kernel.client.entered →
              (Kernel.sweep site.sink id kernel).2.scheduler.threads.spawned.length < 2 ^ 64 →
                (Kernel.sweep site.sink id kernel).2.client.sections.length < 2 ^ 32 →
                  SweepsAsLoop site.sink id kernel
  /-- The run itself leaves the core and the handlers as they should be, for the sweep that is part
  of a change of the thread's mask. -/
  afterwards : ∀ thread, program.final.scheduler.threads.find? id = some thread →
    ∀ {site : Site}, site.Scripted → ∀ mode set,
      let written := maskWritten id mode set program.final
      (Kernel.sweep site.sink id written).2.scheduler.threads.spawned.length < 2 ^ 64 →
        (Kernel.sweep site.sink id written).2.client.sections.length < 2 ^ 32 →
          SweepsAsLoop site.sink id written

/-- Whatever calls a program and its handlers make, as long as none of them replaces a thread's
signal state: sweeping this thread is the plain loop. -/
theorem sweeps_plain (program : Program) (id : ThreadId)
    (h : program.only (SignalCall.keepsStateOf id) = true) : SweepsPlain program id := by
  constructor
  case atPoints =>
    intro point hpoint thread hthread site hsite kernel hscheduler hhandlers hlock hthreads
      hsections
    obtain ⟨history, hreached⟩ := reached_point program.every_true hpoint
    have hbox : kernel.mailboxes id = some thread.mailbox := by
      rw [Kernel.mailboxes, hscheduler]
      exact congrArg (Option.map Thread.mailbox) hthread
    rw [← Handlers.every_onSignals] at hhandlers
    -- nothing is known of the points that the session has, so that they all count as earlier ones
    let earlier := points kernel.client.history.toList
    have hkernel : kernel.Guarded (GoodStanding id earlier) id := by
      refine ⟨⟨hhandlers, fun point hpoint ↦ .inl hpoint⟩, ?_⟩
      rw [Kernel.mailboxes, hscheduler]
      exact sound_at_points h hpoint
    -- the run queue comes from the run, the lock from what is said of the core
    have horderly : sectionCustody.Orderly kernel := ⟨hscheduler ▸ hreached.inOrder, hlock⟩
    have hfew : sectionCustody.Few (Kernel.sweep site.sink id kernel).2 :=
      ⟨Scheduler.length_ids_le hthreads, hsections⟩
    exact sweep_eq_plainLoop (hsite.guards id earlier) hsite.keepsOrder hkernel horderly hbox hfew
  case afterwards =>
    intro thread hthread site hsite mode set written hthreads hsections
    have hbox : program.final.mailboxes id = some thread.mailbox :=
      congrArg (Option.map Thread.mailbox) hthread
    obtain ⟨hguarded, hchanged⟩ := guarded_maskWritten (guarded_final h) hbox mode set
    have hwritten : sectionCustody.Upkeep program.final written :=
      Custody.keeps_withSignals id _ program.final
    have hfew : sectionCustody.Few (Kernel.sweep site.sink id written).2 :=
      ⟨Scheduler.length_ids_le hthreads, hsections⟩
    -- what was counted before the sweep is no more than what was counted after it
    have hbefore : sectionCustody.Few written :=
      (Custody.keeps_operation hsite.keepsOrder (.sweep id) written).few hfew
    have horderly : sectionCustody.Orderly written :=
      hwritten.orderly hbefore (order_kept program (hwritten.few hbefore))
    exact sweep_eq_plainLoop (hsite.guards id []) hsite.keepsOrder hguarded horderly hchanged hfew

/-- Signal 34 has three records and signal 35 has one when both are unblocked. The handler of the
last record of 34 blocks 35, posts it once more and unblocks it. -/
def refilled : Program where
  handlers := [(34, [[], [], [
    .signal (.changeMask (some 1) MaskMode.block.code (some (.ofList [35])) false),
    .signal (.post (some 1) (.carrying 35 0 5)),
    .signal (.changeMask (some 1) MaskMode.unblock.code (some (.ofList [35])) false)]])]
  calls := [
    .scheduling (.spawn { initialMask := .ofList [34, 35] }),
    .signal (.post (some 1) (.carrying 34 0 1)),
    .signal (.post (some 1) (.carrying 34 0 2)),
    .signal (.post (some 1) (.carrying 34 0 3)),
    .signal (.post (some 1) (.carrying 35 0 4)),
    .signal (.changeMask (some 1) MaskMode.unblock.code (some (.ofList [34, 35])) false)]

/-- The kernel at a point of the run at which one handler was taken. -/
def resumed (point : Point) : Kernel Session where
  scheduler := point.scheduler
  client := { handlers := (refilled.handlers.take 34).2 }

/-- The occurrences of the deliveries that were noted. -/
def Session.noted (session : Session) : List Occurrence :=
  session.events.toList.filterMap fun
    | .delivered delivery => some delivery.occurrence
    | _ => none

/-- In the middle of the sweep there are two more records of 34 to hand over. The handler of the
last one starts a sweep that delivers both records of 35, which the outer sweep does not count. -/
theorem sweeps_plain_refilled :
    refilled.only (SignalCall.keepsStateOf 1) = true ∧
      ∃ point ∈ points refilled.history, point.sweeping = [1] ∧
        let after := (Kernel.sweep (recorder 2 [1]) 1 (resumed point)).2
        after.client.noted = [.carrying 34 0 2, .carrying 34 0 3, .carrying 35 0 4,
          .carrying 35 0 5] ∧
        ∃ handed : List Occurrence, handed.length = 2 ∧ ∀ handed' after',
          PlainLoop (recorder 2 [1]) 1 (resumed point) handed' after' ↔
            handed' = handed ∧ after' = after := by
  obtain ⟨point, hpoint, hsweeping, hthread, hcount, hnoted, hthreads, hsections⟩ :
      ∃ point ∈ points refilled.history, point.sweeping = [1] ∧
        (point.scheduler.threads.find? 1).isSome = true ∧
        (Kernel.sweep (recorder 2 [1]) 1 (resumed point)).1 = 2 ∧
        (Kernel.sweep (recorder 2 [1]) 1 (resumed point)).2.client.noted =
          [.carrying 34 0 2, .carrying 34 0 3, .carrying 35 0 4, .carrying 35 0 5] ∧
        (Kernel.sweep (recorder 2 [1]) 1 (resumed point)).2.scheduler.threads.spawned.length <
          2 ^ 64 ∧
        (Kernel.sweep (recorder 2 [1]) 1 (resumed point)).2.client.sections.length < 2 ^ 32 := by
    decide +kernel
  obtain ⟨thread, hthread⟩ := Option.isSome_iff_exists.1 hthread
  have hscripts : (refilled.handlers.take 34).2.only (SignalCall.keepsStateOf 1) = true := by decide
  obtain ⟨handed, hlength, hloop⟩ := (sweeps_plain refilled 1 (by decide)).atPoints point
    (mem_points.1 hpoint) thread hthread (.recording 2 [1]) (resumed point) rfl hscripts rfl
    hthreads hsections
  exact ⟨by decide, point, hpoint, hsweeping, hnoted, handed, hlength.symm.trans hcount, hloop⟩

end SignalKernel.Program
