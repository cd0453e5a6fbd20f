import SignalKernel.Proofs.Program.Deferring
import SignalKernel.Proofs.Program.Depths

/-!
# Changes of the running thread's mask switch last

A change of the running thread's mask delivers everything before another thread may run. The main
theorem, `masks_switch_last`, says so at every point of every run, whatever handlers do as long as
they leave it to preemption points who runs, and in the end leave the program as many levels of the
thread's lock as they found. It says how the call ends as well: with the one switch that was asked
for, or with none.
-/

namespace SignalKernel.Program

open SignalKernel.Kernel

/-- The call is on the mask of the thread, if this is the one that runs. -/
inductive SignalCall.IsOnMaskOf (id : ThreadId) : SignalCall → Prop
  | running (how : Int) (set : Option SignalSet) (wantsOld : Bool) :
      IsOnMaskOf id (.changeMask none how set wantsOld)
  | named (how : Int) (set : Option SignalSet) (wantsOld : Bool) :
      IsOnMaskOf id (.changeMask (some id) how set wantsOld)
  | entry (how : Int) (set : Option SignalSet) (wantsOld : Bool) :
      IsOnMaskOf id (.sigprocmask how set wantsOld)

/-! ## From the beginning of a change to its end -/

section Change

variable {kernel begun requested after : Kernel Session} {marks silent : List Moment}

/-- A change of the running thread's mask begins with a level of its lock. -/
theorem ongoing_locked (hcounted : Counted kernel.scheduler kernel.client.holding)
    (hlisted : kernel.scheduler.Listed)
    (hhandlers : kernel.client.handlers.every Call.leavesTurns = true)
    (hfew : kernel.client.holding.count kernel.scheduler.current < 2 ^ 32)
    (hbegun : Same (beginMasking kernel.scheduler.current kernel).2 begun) :
    Ongoing Session.outer kernel (lockScheduler kernel.scheduler.current begun).2 := by
  have hclient : begun.client = (beginMasking kernel.scheduler.current kernel).2.client :=
    hbegun.client
  have hscheduler : begun.scheduler = kernel.scheduler := hbegun.scheduler
  refine ⟨[], ?_, fun _ ↦ ?_⟩
  · constructor
    case history =>
      show begun.client.history.toList = _
      rw [hclient, List.append_nil]
      rfl
    case handlers =>
      show begun.client.handlers.every _ = true
      rw [hclient]
      exact hhandlers
    case masking =>
      show _ ∈ begun.client.masking
      rw [hclient]
      exact List.mem_cons_self ..
    case standing =>
      intro _
      show Standing _ _ (begun.scheduler.lock kernel.scheduler.current) begun.client.holding
      rw [hscheduler, hclient]
      have hstanding : Standing kernel.scheduler [] kernel.scheduler kernel.client.holding := by
        refine ⟨hcounted, rfl, rfl, ⟨[], (List.append_nil _).symm, (List.append_nil _).symm⟩, ?_,
          fun point hpoint ↦ absurd hpoint List.not_mem_nil⟩
        rintro (hrequested | ⟨point, hpoint, -⟩)
        · exact hrequested
        · exact absurd hpoint List.not_mem_nil
      exact hstanding.lock hlisted.current List.perm_middle
    case attended => exact fun _ ↦ attended_nil kernel.scheduler
  · show Settled _ _ (begun.scheduler.lock kernel.scheduler.current) begun.client.outer
    rw [hscheduler, hclient]
    exact ⟨hfew, fun hrequested ↦ .inl hrequested⟩

end Change

/-! ## The level is given back -/

/-- How a thread's level of its own lock is given back, after some points were passed since
`before`. -/
structure Released (before : Scheduler) (passed : List Point) (after : Scheduler) : Prop where
  depth : after.depth? before.current = before.depth? before.current
  /-- If the lock was free, a request is spent: the thread runs that waits first. -/
  free : before.depth? before.current = some 0 → Asked before passed →
    after.reschedRequested = false ∧ ∃ created, after.ids = before.ids ++ created ∧
      after.current = (before.ready ++ created).head?.getD before.current ∧
        after.contextSwitches = if before.ready ++ created = [] then before.contextSwitches
          else before.contextSwitches + 1
  unasked : ¬ Asked before passed → after.reschedRequested = false ∧
    after.current = before.current ∧ after.contextSwitches = before.contextSwitches
  /-- If the lock was held, a request stays. -/
  held : before.depth? before.current ≠ some 0 → after.current = before.current ∧
    after.contextSwitches = before.contextSwitches ∧
      (after.reschedRequested = true ↔ Asked before passed)

theorem Released.of_sameTurns {before after last : Scheduler} {passed : List Point}
    (h : Released before passed after) (hturns : after.SameTurns last) :
    Released before passed last where
  depth := (hturns.depth? _).trans h.depth
  free := by
    rw [hturns.reschedRequested, hturns.current, hturns.contextSwitches,
      show last.ids = after.ids from hturns.ids]
    exact h.free
  unasked := by
    rw [hturns.reschedRequested, hturns.current, hturns.contextSwitches]
    exact h.unasked
  held := by
    rw [hturns.reschedRequested, hturns.current, hturns.contextSwitches]
    exact h.held

section Released

variable {before scheduler : Scheduler} {passed : List Point} {holding left kept : List ThreadId}
  (h : Standing before passed scheduler holding) (hsettled : Settled before passed scheduler left)
  (hbefore : Counted before kept) (hlisted : before.Listed)
  (hleft : holding.Perm (before.current :: left))
  (hkept : left.count before.current = kept.count before.current)

include h hbefore hlisted hleft hkept in
/-- As many levels are left as there were before. -/
theorem Standing.depth_unlock : (scheduler.unlock before.current).depth? before.current =
    before.depth? before.current := by
  have hheld : before.current ∈ holding := hleft.mem_iff.2 (List.mem_cons_self ..)
  obtain ⟨level, hlevel⟩ := Scheduler.mem_ids_iff_depth?.1 (h.counted.exist hheld)
  obtain ⟨depth, hdepth⟩ := hlisted.depth?
  have hgiven : (scheduler.unlock before.current).depth? before.current = some (level - 1) := by
    rw [Scheduler.depth?_unlock, Scheduler.depth?_giveBack, if_pos rfl, hlevel]
    rfl
  rw [hgiven, hdepth, (h.counted.unlock hleft).depth _ _ hgiven, hkept,
    hbefore.depth _ _ hdepth]

include h hbefore hlisted hleft hkept in
/-- With the last level comes a preemption point, which finds the lock free. -/
theorem Standing.spent_unlock (hfree : before.depth? before.current = some 0) :
    scheduler.Spent (scheduler.unlock before.current) := by
  have hgiven := h.depth_unlock hbefore hlisted hleft hkept
  rw [hfree, Scheduler.depth?_unlock, Scheduler.depth?_giveBack, if_pos rfl,
    Option.map_eq_some_iff] at hgiven
  obtain ⟨level, hlevel, hlast⟩ := hgiven
  have hone : level = 1 := by
    have hnext : level - 1 + 1 = 0 + 1 := congrArg (· + 1) hlast
    rwa [UInt32.sub_add_cancel, UInt32.zero_add] at hnext
  rw [hone] at hlevel
  exact Scheduler.spent_unlock hlevel (.inl h.current.symm)

include h hsettled hbefore hlisted hleft hkept in
/-- With any other level comes none. -/
theorem Standing.sameQueue_unlock (hheld : before.depth? before.current ≠ some 0) :
    scheduler.SameQueue (scheduler.unlock before.current) := by
  obtain ⟨depth, hdepth⟩ := hlisted.depth?
  have hfew := hsettled.few
  rw [hdepth] at hheld
  have hinner : before.current ∈ left := by
    rw [← List.count_pos_iff, hkept, Nat.pos_iff_ne_zero]
    rw [hkept] at hfew
    exact fun hnone ↦ hheld (congrArg some ((hbefore.depth_eq_iff hfew hdepth 0).2 hnone))
  rw [(h.giveBack hleft hinner hfew).1]
  exact Scheduler.sameQueue_giveBack scheduler before.current

include h hsettled hbefore hlisted hleft hkept in
theorem Standing.released : Released before passed (scheduler.unlock before.current) := by
  have hspent := h.spent_unlock hbefore hlisted hleft hkept
  have hqueue := h.sameQueue_unlock hsettled hbefore hlisted hleft hkept
  have hunasked (hnone : ¬ Asked before passed) : scheduler.reschedRequested = false :=
    Bool.eq_false_iff.2 fun hrequested ↦ hnone (hsettled.asked hrequested)
  constructor
  case depth => exact h.depth_unlock hbefore hlisted hleft hkept
  case free =>
    intro hfree hasked
    obtain ⟨created, hids, hready⟩ := h.created
    obtain ⟨hcleared, hcurrent, hswitches⟩ := hspent hfree
    rw [h.asked hasked, if_pos rfl, hready, h.current] at hcurrent
    rw [h.asked hasked, hready, h.contextSwitches] at hswitches
    refine ⟨hcleared, created, ?_, hcurrent, ?_⟩
    · rw [Scheduler.ids_of_threads (Scheduler.threads_unlock _ _), Scheduler.ids_giveBack, hids]
    · rw [hswitches]
      by_cases hwaiting : before.ready ++ created = []
      · rw [if_pos hwaiting, if_neg fun h ↦ h.2 hwaiting]
      · rw [if_neg hwaiting, if_pos ⟨rfl, hwaiting⟩]
  case unasked =>
    intro hnone
    have hnotRequested : ¬ scheduler.reschedRequested = true := Bool.eq_false_iff.1 (hunasked hnone)
    by_cases hfree : before.depth? before.current = some 0
    · obtain ⟨hcleared, hcurrent, hswitches⟩ := hspent hfree
      rw [if_neg hnotRequested] at hcurrent
      rw [if_neg fun h ↦ hnotRequested h.1] at hswitches
      exact ⟨hcleared, hcurrent.trans h.current, hswitches.trans h.contextSwitches⟩
    · have hsame := hqueue hfree
      exact ⟨hsame.reschedRequested.trans (hunasked hnone), hsame.current.trans h.current,
        hsame.contextSwitches.trans h.contextSwitches⟩
  case held =>
    intro hheld
    have hsame := hqueue hheld
    refine ⟨hsame.current.trans h.current, hsame.contextSwitches.trans h.contextSwitches, ?_⟩
    rw [hsame.reschedRequested]
    exact ⟨hsettled.asked, h.asked⟩

end Released

/-! ## Calls on the running thread's mask -/

/-- What a call on the running thread's mask marks and leaves. Everything is delivered before the
thread gives its level of the lock back. -/
structure SwitchesLast (before : Scheduler) (marks : List Moment) (after : Scheduler) : Prop
    extends Released before (points marks) after where
  /-- At each delivery the thread runs, and holds its lock if the delivery is made to it. A point
  follows. -/
  attended : Attended before marks
  /-- Wherever handlers start or made calls, the thread runs and holds its lock, and no switch was
  made. -/
  passed : ∀ point ∈ points marks, Detained before point.scheduler

/-- The call switches last, unless 2 ^ 32 levels of the running thread's lock come to be held. In
the end the program has to keep as many levels of it as before. -/
def CallSwitchesLast (kernel after : Kernel Session) : Prop :=
  ∃ marks, after.client.history.toList = kernel.client.history.toList ++ marks ∧
    (Few kernel.scheduler.current (points marks) →
      after.client.locks.count (some kernel.scheduler.current) =
          kernel.client.locks.count (some kernel.scheduler.current) →
        SwitchesLast kernel.scheduler marks after.scheduler)

/-- How many levels of a thread's lock the program keeps. -/
theorem count_filterMap_locks (locks : List (Option ThreadId)) (id : ThreadId) :
    (locks.filterMap fun lock ↦ lock).count id = locks.count (some id) :=
  List.count_filterMap

section Calls

variable {kernel begun masked last : Kernel Session} {sink : Sink Session}
  (hcounted : Counted kernel.scheduler kernel.client.holding)
  (hlisted : kernel.scheduler.Listed)
  (hhandlers : kernel.client.handlers.every Call.leavesTurns = true)
  (hfew : kernel.client.holding.count kernel.scheduler.current < 2 ^ 32)
  (hsink : ∀ id timing o, Detains kernel (sink id timing o))
include hcounted hlisted hhandlers hfew hsink

theorem callSwitchesLast_of_changeMask {silent : List Moment}
    (hbegun : Same (beginMasking kernel.scheduler.current kernel).2 begun) (how : Int)
    (set : Option SignalSet)
    (hmasked : Rests (changeMask sink kernel.scheduler.current how set begun).2 masked)
    (hsilent : Silent silent) (hmarked : Marked silent (endMasking masked).2 last)
    (hturns : masked.scheduler.SameTurns last.scheduler) : CallSwitchesLast kernel last := by
  obtain ⟨requested, ⟨marks, hcourse, hsettled⟩, hbegan, hrun⟩ := Ongoing.requested hsink
    (ongoing_locked hcounted hlisted hhandlers hfew hbegun) how set
  obtain ⟨hscheduler, hclient⟩ := run_unlockScheduler kernel.scheduler.current requested
  have hmasking : requested.client.masking = kernel.scheduler.current :: kernel.client.masking := by
    rw [hbegan, hbegun.client]
    rfl
  have hrequested : masked.client = requested.client := by rw [hmasked.client, hrun, hclient]
  have hlocks : last.client.locks = requested.client.locks := by
    rw [hmarked.locks, ← hrequested]
    rfl
  have hreleasing : (requested.scheduler.unlock kernel.scheduler.current).SameTurns
      last.scheduler := by
    have hstored := hmasked.turns
    rw [hrun, hscheduler] at hstored
    exact hstored.trans hturns
  refine ⟨marks ++ silent, ?_, fun hpassed hkept ↦ ?_⟩
  · rw [hmarked.history, ← List.append_assoc, ← hcourse.history, ← hrequested]
    rfl
  · rw [hsilent.points_append] at hpassed
    rw [hlocks] at hkept
    have hstanding := hcourse.standing hpassed
    have hleft : requested.client.holding.Perm
        (kernel.scheduler.current :: requested.client.outer) := by
      rw [Session.holding, Session.outer, hmasking]
      exact List.perm_middle
    have hsame : requested.client.outer.count kernel.scheduler.current =
        kernel.client.holding.count kernel.scheduler.current := by
      rw [Session.outer, hmasking, List.tail_cons, List.count_append, count_filterMap_locks, hkept,
        ← count_filterMap_locks, ← List.count_append]
      rfl
    have hreleased := hstanding.released (hsettled hpassed) hcounted hlisted hleft hsame
    constructor
    case toReleased =>
      rw [hsilent.points_append]
      exact hreleased.of_sameTurns hreleasing
    case attended => exact (hcourse.attended hpassed).append hsilent.deliveries
    case passed =>
      rw [hsilent.points_append]
      exact hstanding.passed

/-- The change and what is marked of it, for the thread that runs. -/
theorem callSwitchesLast_body {found : Kernel Session} (hfound : Same kernel found) (how : Int)
    (set : Option SignalSet) (wantsOld : Bool) :
    CallSwitchesLast kernel ((do
      let reply ← whileMasking kernel.scheduler.current
        (Kernel.changeMask sink kernel.scheduler.current how set)
      markMasked kernel.scheduler.current set reply.outcome
      pure (.masked reply.outcome (whenWanted wantsOld reply.old)
        (← readSignals kernel.scheduler.current (·.blocked))) : ProgramM Answer) found).2 := by
  have hbegun : Same (beginMasking kernel.scheduler.current kernel).2
      (beginMasking kernel.scheduler.current found).2 := by
    refine ⟨hfound.scheduler, ?_⟩
    show ({ found.client with masking := _ :: found.client.masking } : Session) = _
    rw [hfound.client]
    rfl
  let changed := Kernel.changeMask sink kernel.scheduler.current how set
    (beginMasking kernel.scheduler.current found).2
  obtain ⟨hscheduler, silent, hsilent, hmarked⟩ :=
    marked_markMasked kernel.scheduler.current set changed.1.outcome (endMasking changed.2).2
  have hread := same_readSignals kernel.scheduler.current (·.blocked)
    (markMasked kernel.scheduler.current set changed.1.outcome (endMasking changed.2).2).2
  simp only [run_bind, run_pure, run_whileMasking]
  refine callSwitchesLast_of_changeMask hcounted hlisted hhandlers hfew hsink hbegun how set
    (.refl _) hsilent (hmarked.of_client hread.client) ?_
  rw [hread.scheduler, hscheduler, scheduler_endMasking]
  exact .refl _

/-- The same for the entry point, which stores an error in the end. -/
theorem callSwitchesLast_sigprocmask {busy : List ThreadId} (how : Int) (set : Option SignalSet)
    (wantsOld : Bool) :
    CallSwitchesLast kernel
      ((SignalCall.sigprocmask how set wantsOld).run ⟨sink, busy⟩ kernel).2 := by
  have hcaller : (current kernel).1.id = kernel.scheduler.current := hlisted.find?_current.2
  let begun := (current (beginMasking kernel.scheduler.current (current kernel).2).2).2
  have hbegun : Same (beginMasking kernel.scheduler.current kernel).2 begun := ⟨rfl, rfl⟩
  let changed := Kernel.changeMask sink kernel.scheduler.current how set begun
  let stored := (storeErrno kernel.scheduler.current MaskError.errno changed.1.outcome changed.2).2
  obtain ⟨hscheduler, silent, hsilent, hmarked⟩ :=
    marked_markMasked kernel.scheduler.current set changed.1.outcome (endMasking stored).2
  have hread := same_readSignals kernel.scheduler.current (·.blocked)
    (markMasked kernel.scheduler.current set changed.1.outcome (endMasking stored).2).2
  have hrun : ((SignalCall.sigprocmask how set wantsOld).run ⟨sink, busy⟩ kernel).2 =
      (readSignals kernel.scheduler.current (·.blocked) (markMasked kernel.scheduler.current set
        changed.1.outcome (endMasking stored).2).2).2 := by
    have hcaller' : (current (beginMasking kernel.scheduler.current (current kernel).2).2).1.id =
        kernel.scheduler.current := hcaller
    simp only [SignalCall.run, run_bind, run_pure, run_get, run_whileMasking, Kernel.sigprocmask,
      hcaller, hcaller']
    rfl
  rw [hrun]
  refine callSwitchesLast_of_changeMask hcounted hlisted hhandlers hfew hsink hbegun how set
    (rests_storeErrno _ _ _ _) hsilent (hmarked.of_client hread.client) ?_
  rw [hread.scheduler, hscheduler, scheduler_endMasking]
  exact .refl _

theorem callSwitchesLast {busy : List ThreadId} {call : SignalCall}
    (hcall : call.IsOnMaskOf kernel.scheduler.current) :
    CallSwitchesLast kernel (call.run ⟨sink, busy⟩ kernel).2 := by
  obtain ⟨hfind, hid⟩ := hlisted.find?_current
  cases hcall with
  | running how set wantsOld =>
      have hcaller : (current kernel).1.id = kernel.scheduler.current := hid
      have hread : Same kernel (current kernel).2 := same_readScheduler _ kernel
      simp only [SignalCall.run, onThread]
      rw [run_bind, hcaller]
      exact callSwitchesLast_body hcounted hlisted hhandlers hfew hsink hread how set wantsOld
  | named how set wantsOld =>
      have hfound : (find? kernel.scheduler.current kernel).1 =
          some kernel.scheduler.currentThread := hfind
      have hread : Same kernel (find? kernel.scheduler.current kernel).2 :=
        same_readScheduler _ kernel
      simp only [SignalCall.run, onThread]
      rw [run_bind, hfound]
      simp only [hid]
      exact callSwitchesLast_body hcounted hlisted hhandlers hfew hsink hread how set wantsOld
  | entry how set wantsOld =>
      exact callSwitchesLast_sigprocmask hcounted hlisted hhandlers hfew hsink how set wantsOld

end Calls

/-- The sinks of programs detain the running thread. -/
theorem Site.Scripted.detains {site : Site} (h : site.Scripted) (entry : Kernel Session)
    (id : ThreadId) (timing : Timing) (o : Occurrence) : Detains entry (site.sink id timing o) :=
  h.serves (detaining entry) id timing o

/-- At every point of a history, a call on the running thread's mask switches last, with any mode,
valid or not, and with a set or without one. Handlers may make all calls but those that make a
thread run directly. -/
def MasksSwitchLast (history : List Moment) : Prop :=
  ∀ point, .passed point ∈ history → point.holding.count point.scheduler.current < 2 ^ 32 →
    ∀ {site : Site}, site.Scripted → ∀ kernel : Kernel Session,
      kernel.scheduler = point.scheduler → kernel.client.holding = point.holding →
        kernel.client.handlers.every Call.leavesTurns = true →
          ∀ call : SignalCall, call.IsOnMaskOf point.scheduler.current →
            CallSwitchesLast kernel (call.run site kernel).2

/-- Whatever calls a program and its handlers make: a change of the running thread's mask delivers
before it reschedules. -/
theorem masks_switch_last (program : Program) : MasksSwitchLast program.history := by
  intro point hpoint hfew site hsite kernel hscheduler hholding hhandlers call hcall
  obtain ⟨history, hreached⟩ := reached_point program.every_true hpoint
  have hcounted := hreached.counted
  have hlisted := hreached.listed
  rw [← hscheduler] at hfew hcall hlisted hcounted
  rw [← hholding] at hfew hcounted
  exact callSwitchesLast hcounted hlisted hhandlers hfew (hsite.detains kernel) hcall

/-- A thread runs that blocks two signals, and each of them has a record. -/
def blocksTwo : Program where
  calls := [
    .scheduling (.spawn { initialMask := .ofList [34, 35] }),
    .scheduling .requestResched,
    .scheduling .preemptionPoint,
    .signal (.kill 1 34),
    .signal (.kill 1 35)]

/-- The handler of the first record asks for a reschedule and creates a thread, passes preemption
points and changes the mask itself. -/
def restless : Handlers :=
  [(34, [[
    .scheduling .requestResched,
    .scheduling (.spawn {}),
    .scheduling .preemptionPoint,
    .scheduling (.lock none),
    .scheduling (.unlock 0),
    .signal (.sigprocmask MaskMode.block.code (some (.ofList [36])) false)]])]

/-- The kernel at a point of the run, with handlers to start. -/
def restlessAt (point : Point) : Kernel Session where
  scheduler := point.scheduler
  client := { handlers := restless }

/-- Both signals are unblocked in one call. -/
def unblocked (point : Point) : Kernel Session :=
  ((SignalCall.changeMask none MaskMode.unblock.code (some (.ofList [34, 35])) false).run
    ⟨recorder 1 [], []⟩ (restlessAt point)).2

/-- Both records are delivered while the first thread runs. Then the second one runs. -/
theorem masks_switch_last_restless :
    ∃ point ∈ points blocksTwo.history, point.scheduler.current = 1 ∧
      (unblocked point).client.history.toList.filterMap (fun
          | .delivered delivery => some (delivery.occurrence.signal, delivery.current)
          | _ => none) = [(34, 1), (35, 1)] ∧
        (unblocked point).scheduler.current = 2 ∧
          SwitchesLast point.scheduler (unblocked point).client.history.toList
            (unblocked point).scheduler := by
  obtain ⟨point, hpoint, hrunning, hholding, hdeliveries, hnext, hfew, hkept⟩ :
      ∃ point ∈ points blocksTwo.history, point.scheduler.current = 1 ∧ point.holding = [] ∧
        (unblocked point).client.history.toList.filterMap (fun
          | .delivered delivery => some (delivery.occurrence.signal, delivery.current)
          | _ => none) = [(34, 1), (35, 1)] ∧
        (unblocked point).scheduler.current = 2 ∧
        (∀ passed ∈ points (unblocked point).client.history.toList,
          passed.holding.count 1 < 2 ^ 32) ∧
        (unblocked point).client.locks.count (some 1) = 0 := by
    decide +kernel
  refine ⟨point, hpoint, hrunning, hdeliveries, hnext, ?_⟩
  have hnone : point.holding.count point.scheduler.current < 2 ^ 32 := by
    rw [hholding, List.count_nil]
    decide
  have hallowed : restless.every Call.leavesTurns = true := by decide
  obtain ⟨marks, hmarks, hlast⟩ := masks_switch_last blocksTwo point (mem_points.1 hpoint) hnone
    (.recording 1 []) (restlessAt point) rfl hholding.symm hallowed _ (.running _ _ _)
  rw [show marks = (unblocked point).client.history.toList from hmarks.symm] at hlast
  refine hlast ?_ ?_
  · show Few point.scheduler.current _
    rw [hrunning]
    exact hfew
  · show (unblocked point).client.locks.count (some point.scheduler.current) = 0
    rw [hrunning]
    exact hkept

end SignalKernel.Program
