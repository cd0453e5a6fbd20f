import SignalKernel.Proofs.Kernel.Congruence

/-!
# Work at another depth

How deep interrupts are masked makes no difference to what operations do. `Blind` computations do
the same at two depths: they return the same, and leave the depths as far apart as they were. What
the client keeps may differ as far as a relation allows, for instance in the depths at which
occurrences were delivered. All work is blind if its sink is, and then it does the same in an
interrupt handler.
-/

namespace SignalKernel

/-- The core with interrupts masked deeper by `offset`. -/
def Core.raise (offset : UInt64) (core : Core) : Core :=
  { core with interrupts := ⟨core.interrupts.depth + offset⟩ }

namespace Core

theorem enter_raise (offset : UInt64) (core : Core) :
    (core.raise offset).enter.2 = core.enter.2.raise offset :=
  congrArg (fun depth ↦ { core.enter.2 with interrupts := ⟨depth⟩ })
    (InterruptDepth.add_one_offset core.interrupts.depth offset)

/-- The depth is restored by a level, whatever the flags say. -/
theorem leave_raise (offset : UInt64) (core : Core) (entered entered' : CriticalSection) :
    (core.raise offset).leave entered' = (core.leave entered).raise offset :=
  congrArg (fun depth ↦ { core.leave entered with interrupts := ⟨depth⟩ })
    (InterruptDepth.sub_one_offset core.interrupts.depth offset)

end Core

namespace Kernel

variable {γ α β δ : Type} {offset : UInt64} {R : γ → γ → Prop}

/-- The same kernel deeper by `offset`, and with a client that is related. -/
structure Deeper (offset : UInt64) (R : γ → γ → Prop) (kernel deeper : Kernel γ) : Prop where
  core : deeper.core = kernel.core.raise offset
  scheduler : deeper.scheduler = kernel.scheduler
  logger : deeper.logger = kernel.logger
  client : R kernel.client deeper.client

/-- The computation does the same where interrupts are masked deeper by `offset`. -/
def Blind (offset : UInt64) (R : γ → γ → Prop) (m : KernelM γ α) : Prop :=
  ∀ kernel deeper, Deeper offset R kernel deeper →
    (m deeper).1 = (m kernel).1 ∧ Deeper offset R (m kernel).2 (m deeper).2

namespace Blind

theorem pure (a : α) : Blind offset R (Pure.pure a) :=
  fun _ _ h ↦ ⟨rfl, h⟩

theorem bind {m : KernelM γ α} {f : α → KernelM γ β} (hm : Blind offset R m)
    (hf : ∀ a, Blind offset R (f a)) : Blind offset R (m >>= f) := by
  intro kernel deeper h
  obtain ⟨hresult, hmiddle⟩ := hm kernel deeper h
  show (f (m deeper).1 (m deeper).2).1 = (f (m kernel).1 (m kernel).2).1 ∧
    Deeper offset R (f (m kernel).1 (m kernel).2).2 (f (m deeper).1 (m deeper).2).2
  rw [hresult]
  exact hf _ _ _ hmiddle

/-- A step that depends on the scheduler alone and changes nothing else. -/
theorem of_scheduler {m : KernelM γ α} (f : Scheduler → α × Scheduler)
    (hm : ∀ kernel, m kernel =
      ((f kernel.scheduler).1, { kernel with scheduler := (f kernel.scheduler).2 })) :
    Blind offset R m := by
  intro kernel deeper h
  rw [hm, hm, h.scheduler]
  exact ⟨rfl, h.core, rfl, h.logger, h.client⟩

/-- A step that goes on with what it read of the scheduler. -/
theorem read (part : Scheduler → δ) {f : δ → KernelM γ α} (hf : ∀ a, Blind offset R (f a)) :
    Blind offset R (get >>= fun kernel ↦ f (part kernel.scheduler)) := by
  intro kernel deeper h
  show (f (part deeper.scheduler) deeper).1 = _ ∧
    Deeper offset R _ (f (part deeper.scheduler) deeper).2
  rw [h.scheduler]
  exact hf _ _ _ h

/-- A critical section masks interrupts by one level at any depth. -/
theorem critical {body : KernelM γ α} (hbody : Blind offset R body) :
    Blind offset R (critical body) := by
  intro kernel deeper h
  have hentered : Deeper offset R (enter kernel).2 (enter deeper).2 := by
    refine ⟨?_, h.scheduler, h.logger, h.client⟩
    show deeper.core.enter.2 = kernel.core.enter.2.raise offset
    rw [h.core, Core.enter_raise]
  obtain ⟨hresult, hcore, hscheduler, hlogger, hclient⟩ := hbody _ _ hentered
  -- the flags of the two sections may differ, but leaving a section does not read them
  refine ⟨hresult, ?_, hscheduler, hlogger, hclient⟩
  show (body (enter deeper).2).2.core.leave (enter deeper).1 = _
  rw [hcore]
  exact Core.leave_raise offset _ _ _

theorem withScheduler (f : Scheduler → α × Scheduler) : Blind offset R (withScheduler f) :=
  .critical (.of_scheduler f fun _ ↦ rfl)

theorem readScheduler (f : Scheduler → α) : Blind offset R (readScheduler f) :=
  .critical (.read f .pure)

theorem withSignals (id : ThreadId) (f : SignalState → α × SignalState) :
    Blind offset R (withSignals id f) := by
  let onScheduler (scheduler : Scheduler) : α × Scheduler :=
    let answer := f (scheduler.threads.get id).signals
    (answer.1, scheduler.modifyThread id fun thread ↦ { thread with signals := answer.2 })
  exact .critical (.of_scheduler onScheduler fun _ ↦ rfl)

theorem readSignals (id : ThreadId) (f : SignalState → α) : Blind offset R (readSignals id f) :=
  .critical (.read (fun scheduler ↦ f (scheduler.threads.get id).signals) .pure)

theorem modifyThread (id : ThreadId) (change : Thread → Thread) :
    Blind offset R (modifyThread id change) :=
  .of_scheduler (fun scheduler ↦ ((), scheduler.modifyThread id change)) fun _ ↦ rfl

/-- What is logged does not tell the depth. -/
theorem log (record : Record) : Blind offset R (log record) := by
  let change : KernelM γ Unit := modifyLogger (·.log record)
  have hchange : Blind offset R change := fun _ _ h ↦
    ⟨rfl, h.core, h.scheduler, congrArg (·.log record) h.logger, h.client⟩
  have hlog (kernel : Kernel γ) : Kernel.log record kernel =
      if kernel.logger.buffers record.level then Kernel.critical change kernel
      else change kernel := by
    show (if kernel.logger.buffers record.level then Kernel.critical change else change) kernel = _
    split <;> rfl
  intro kernel deeper h
  rw [hlog, hlog, h.logger]
  split
  · exact hchange.critical kernel deeper h
  · exact hchange kernel deeper h

end Blind

/-- Operations are blind step by step. -/
def blindness (offset : UInt64) (R : γ → γ → Prop) : Congruence γ where
  rel m _ := Blind offset R m
  pure := .pure
  bind hm hf := hm.bind hf
  notify notice := .log notice.record
  current h := (Blind.readScheduler _).bind fun thread ↦ h thread thread rfl
  find? _ := fun h ↦ (Blind.readScheduler _).bind fun found ↦ h found found rfl
  lockDepth id := fun h ↦ .read (fun scheduler ↦ (scheduler.threads.get id).lockDepth) h
  capacity id := fun h ↦ .read (fun scheduler ↦ (scheduler.threads.get id).pendingCapacity) h
  blocked id := .readSignals id _
  deliverable id := .readSignals id _
  pending id := .readSignals id _
  receive id _ := .withSignals id _
  take id _ := .withSignals id _
  mask id _ _ := .withSignals id _
  lock id := .modifyThread id _
  giveBack id := .modifyThread id _
  errno id _ := .modifyThread id _
  spawn _ := .withScheduler _
  setCurrent _ := .withScheduler _
  request := .of_scheduler (fun scheduler ↦ ((), { scheduler with reschedRequested := true }))
    fun _ ↦ rfl
  rotate := .withScheduler _
  preempt := .withScheduler _

/-- Work with a sink that is blind is blind. -/
theorem Work.blind {work : Sink γ → KernelM γ α} (h : Work γ work) {sink : Sink γ}
    (hsink : ∀ id timing o, Blind offset R (sink id timing o)) : Blind offset R (work sink) := by
  show (blindness offset R).rel (work sink) (work sink)
  exact h.related (blindness offset R) hsink

/-- A computation does the same as an interrupt handler does it. -/
structure SameInInterrupt (R : γ → γ → Prop) (m : KernelM γ α) (kernel : Kernel γ) : Prop where
  result : (asInterrupt m kernel).1 = (m kernel).1
  core : (asInterrupt m kernel).2.core = (m kernel).2.core
  scheduler : (asInterrupt m kernel).2.scheduler = (m kernel).2.scheduler
  logger : (asInterrupt m kernel).2.logger = (m kernel).2.logger
  client : R (m kernel).2.client (asInterrupt m kernel).2.client

theorem Blind.sameInInterrupt {m : KernelM γ α} (h : Blind 1 R m) {kernel : Kernel γ}
    (hclient : R kernel.client kernel.client) : SameInInterrupt R m kernel := by
  let masked : Kernel γ := interrupts.set (InterruptControl.save (interrupts.get kernel)).2 kernel
  have hmasked : Deeper 1 R kernel masked := ⟨rfl, rfl, rfl, hclient⟩
  obtain ⟨hresult, hcore, hscheduler, hlogger, hclient'⟩ := h kernel masked hmasked
  refine ⟨hresult, ?_, hscheduler, hlogger, hclient'⟩
  show { (m masked).2.core with interrupts := ⟨(m masked).2.core.interrupts.depth - 1⟩ } = _
  rw [hcore, Core.raise]
  simp only [UInt64.add_sub_cancel]

end Kernel

end SignalKernel
