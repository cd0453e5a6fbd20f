import SignalKernel.Kernel.Entry

/-!
# Whose turn it is

Whose turn it is to run depends on the run queue and on the depths of the threads' scheduler locks,
and not on anything else that threads have: two schedulers have the `SameTurns` if they differ in
signals and error cells only. This module says what the operations of the scheduler do to the
depths and to the turns, and that each operation of the kernel on the scheduler is one of these.
-/

namespace SignalKernel

/-- What the scheduler needs to know of a thread. -/
def Thread.turn (thread : Thread) : ThreadId × UInt32 :=
  (thread.id, thread.lockDepth)

namespace Scheduler

variable {scheduler after : Scheduler} {id other : ThreadId} {change : Thread → Thread}

/-- The depth of a thread's scheduler lock. -/
def depth? (scheduler : Scheduler) (id : ThreadId) : Option UInt32 :=
  (scheduler.threads.find? id).map Thread.lockDepth

/-- The same threads run, wait and hold locks. Signals and error cells may differ. -/
structure SameTurns (scheduler after : Scheduler) : Prop where
  threads : after.threads.toList.map Thread.turn = scheduler.threads.toList.map Thread.turn
  ready : after.ready = scheduler.ready
  current : after.current = scheduler.current
  reschedRequested : after.reschedRequested = scheduler.reschedRequested
  contextSwitches : after.contextSwitches = scheduler.contextSwitches
  nextId : after.nextId = scheduler.nextId

theorem SameTurns.refl (scheduler : Scheduler) : SameTurns scheduler scheduler :=
  ⟨rfl, rfl, rfl, rfl, rfl, rfl⟩

theorem SameTurns.trans {first second third : Scheduler} (h : SameTurns first second)
    (h' : SameTurns second third) : SameTurns first third where
  threads := h'.threads.trans h.threads
  ready := h'.ready.trans h.ready
  current := h'.current.trans h.current
  reschedRequested := h'.reschedRequested.trans h.reschedRequested
  contextSwitches := h'.contextSwitches.trans h.contextSwitches
  nextId := h'.nextId.trans h.nextId

/-- The depth is found among what the scheduler knows. -/
theorem depth?_eq (scheduler : Scheduler) (id : ThreadId) : scheduler.depth? id =
    ((scheduler.threads.toList.map Thread.turn).find? fun turn ↦ turn.1 == id).map Prod.snd := by
  rw [List.find?_map, Option.map_map]
  rfl

theorem SameTurns.depth? (h : SameTurns scheduler after) (id : ThreadId) :
    after.depth? id = scheduler.depth? id := by
  rw [depth?_eq, depth?_eq, h.threads]

theorem SameTurns.ids (h : SameTurns scheduler after) :
    after.threads.toList.map Thread.id = scheduler.threads.toList.map Thread.id := by
  have hfst := congrArg (List.map Prod.fst) h.threads
  rwa [List.map_map, List.map_map] at hfst

/-- A change of a thread that keeps its identity and its lock keeps the turns. -/
theorem sameTurns_modifyThread (scheduler : Scheduler) (id : ThreadId)
    (h : ∀ thread, (change thread).turn = thread.turn) :
    SameTurns scheduler (scheduler.modifyThread id change) where
  threads := by
    rw [modifyThread, ThreadTable.toList_modify, List.map_map]
    apply List.map_congr_left
    intro thread _
    simp only [Function.comp_apply]
    split
    · exact h thread
    · rfl
  ready := rfl
  current := rfl
  reschedRequested := rfl
  contextSwitches := rfl
  nextId := rfl

/-- A change of one thread's lock shows in the depth of this thread's lock only. -/
theorem depth?_modifyThread (scheduler : Scheduler) (id other : ThreadId) (f : UInt32 → UInt32)
    (hid : ∀ thread, (change thread).id = thread.id)
    (hdepth : ∀ thread, (change thread).lockDepth = f thread.lockDepth) :
    (scheduler.modifyThread id change).depth? other =
      if other = id then (scheduler.depth? other).map f else scheduler.depth? other := by
  rw [Scheduler.depth?, modifyThread, ThreadTable.find?_modify _ _ _ hid, Option.map_map,
    Scheduler.depth?]
  split
  · rw [Option.map_map]
    exact Option.map_congr fun thread _ ↦ hdepth thread
  · rfl

/-- The thread that runs is found under its identity, if there is one. -/
theorem lockDepth_currentThread {depth : UInt32}
    (h : scheduler.depth? scheduler.current = some depth) :
    scheduler.currentThread.lockDepth = depth := by
  obtain ⟨thread, hthread, rfl⟩ := Option.map_eq_some_iff.1 h
  rw [currentThread, ThreadTable.get, hthread]
  rfl

/-! ## Levels of the scheduler lock -/

/-- Take one more level of a thread's scheduler lock. -/
def lock (scheduler : Scheduler) (id : ThreadId) : Scheduler :=
  scheduler.modifyThread id fun thread ↦ { thread with lockDepth := thread.lockDepth + 1 }

/-- Give one level of a thread's scheduler lock back, without a preemption point. -/
def giveBack (scheduler : Scheduler) (id : ThreadId) : Scheduler :=
  scheduler.modifyThread id fun thread ↦ { thread with lockDepth := thread.lockDepth - 1 }

/-- Give one level back. With the last level comes a preemption point. -/
def unlock (scheduler : Scheduler) (id : ThreadId) : Scheduler :=
  if (scheduler.threads.get id).lockDepth = 1 then (scheduler.giveBack id).preempt.2
  else scheduler.giveBack id

theorem depth?_lock (scheduler : Scheduler) (id other : ThreadId) :
    (scheduler.lock id).depth? other =
      if other = id then (scheduler.depth? other).map (· + 1) else scheduler.depth? other := by
  unfold lock
  exact depth?_modifyThread scheduler id other (· + 1) (fun _ ↦ rfl) fun _ ↦ rfl

theorem depth?_giveBack (scheduler : Scheduler) (id other : ThreadId) :
    (scheduler.giveBack id).depth? other =
      if other = id then (scheduler.depth? other).map (· - 1) else scheduler.depth? other := by
  unfold giveBack
  exact depth?_modifyThread scheduler id other (· - 1) (fun _ ↦ rfl) fun _ ↦ rfl

/-! ## Turns -/

theorem depth?_of_threads (h : after.threads = scheduler.threads) (id : ThreadId) :
    after.depth? id = scheduler.depth? id := by
  rw [Scheduler.depth?, Scheduler.depth?, h]

@[simp] theorem threads_setCurrent (scheduler : Scheduler) (id : ThreadId) :
    (scheduler.setCurrent id).2.threads = scheduler.threads := by
  unfold setCurrent
  split <;> rfl

@[simp] theorem threads_rotate (scheduler : Scheduler) :
    scheduler.rotate.2.threads = scheduler.threads := by
  unfold rotate
  split <;> rfl

@[simp] theorem threads_preempt (scheduler : Scheduler) :
    scheduler.preempt.2.threads = scheduler.threads := by
  unfold preempt
  split
  · exact threads_rotate _
  · rfl

theorem rotate_of_ready_cons {next : ThreadId} {waiting : List ThreadId}
    (h : scheduler.ready = next :: waiting) :
    scheduler.rotate = (some ⟨scheduler.current, next⟩,
      { scheduler with
        ready := scheduler.requeue waiting
        current := next
        contextSwitches := scheduler.contextSwitches + 1 }) := by
  unfold rotate
  rw [h]

@[simp] theorem threads_unlock (scheduler : Scheduler) (id : ThreadId) :
    (scheduler.unlock id).threads = (scheduler.giveBack id).threads := by
  unfold unlock
  split
  · exact threads_preempt _
  · rfl

theorem depth?_unlock (scheduler : Scheduler) (id other : ThreadId) :
    (scheduler.unlock id).depth? other = (scheduler.giveBack id).depth? other :=
  depth?_of_threads (threads_unlock scheduler id) other

end Scheduler

namespace Kernel

variable {γ : Type}

/-! ## The kernel's operations on the scheduler -/

/-- The same scheduler and the same client. The core and the log may differ. -/
structure Same (kernel after : Kernel γ) : Prop where
  scheduler : after.scheduler = kernel.scheduler
  client : after.client = kernel.client

theorem Same.refl (kernel : Kernel γ) : Same kernel kernel :=
  ⟨rfl, rfl⟩

theorem Same.trans {first second third : Kernel γ} (h : Same first second)
    (h' : Same second third) : Same first third :=
  ⟨h'.scheduler.trans h.scheduler, h'.client.trans h.client⟩

theorem same_log (record : Record) (kernel : Kernel γ) : Same kernel (log record kernel).2 := by
  show Same kernel
    ((if kernel.logger.buffers record.level then critical (modifyLogger (·.log record))
      else modifyLogger (·.log record)) kernel).2
  split
  · exact ⟨rfl, rfl⟩
  · exact ⟨rfl, rfl⟩

theorem same_notify (notice : Notice) (kernel : Kernel γ) : Same kernel (notify notice kernel).2 :=
  same_log notice.record kernel

theorem same_notifySwitch (switch : Option Switch) (kernel : Kernel γ) :
    Same kernel (notifySwitch switch kernel).2 := by
  cases switch with
  | none => exact .refl kernel
  | some switch => exact same_notify _ kernel

theorem scheduler_spawn (config : ThreadConfig) (kernel : Kernel γ) :
    (spawn config kernel).2.scheduler = (kernel.scheduler.spawn config).2 :=
  (same_notify _ _).scheduler

theorem run_schedule (kernel : Kernel γ) :
    (schedule kernel).1 = kernel.scheduler.rotate.1 ∧
      (schedule kernel).2.scheduler = kernel.scheduler.rotate.2 :=
  ⟨rfl, (same_notifySwitch _ _).scheduler⟩

theorem run_preemptionPoint (kernel : Kernel γ) :
    (preemptionPoint kernel).1 = kernel.scheduler.preempt.1 ∧
      (preemptionPoint kernel).2.scheduler = kernel.scheduler.preempt.2 :=
  ⟨rfl, (same_notifySwitch _ _).scheduler⟩

theorem run_unlockScheduler (id : ThreadId) (kernel : Kernel γ) :
    (unlockScheduler id kernel).2.scheduler = kernel.scheduler.unlock id ∧
      (unlockScheduler id kernel).2.client = kernel.client := by
  let given := (modifyThread id (fun thread ↦
    { thread with lockDepth := thread.lockDepth - 1 }) kernel).2
  show (((if (kernel.scheduler.threads.get id).lockDepth = 1 then discard preemptionPoint
      else pure ()) : KernelM γ Unit) given).2.scheduler = kernel.scheduler.unlock id ∧
    (((if (kernel.scheduler.threads.get id).lockDepth = 1 then discard preemptionPoint
      else pure ()) : KernelM γ Unit) given).2.client = kernel.client
  unfold Scheduler.unlock
  split
  · exact ⟨(run_preemptionPoint given).2, (same_notifySwitch _ _).client⟩
  · exact ⟨rfl, rfl⟩

end Kernel

end SignalKernel
