import SignalKernel.Proofs.Kernel.Congruence
import SignalKernel.Proofs.Program.Runs

/-!
# The same work in different settings

What calls do depends neither on how the kernel logs, nor on how deep interrupts were masked before,
nor on what the program noted earlier. A `Setting` is a choice of these three. `Common` is what runs
in different settings have in common, and a kernel `Shows` it in a setting. A computation is
`Uniform` if it leads from something common to something common, with the same result in all
settings, except that depths are shown from the setting's on. Computations that are put together
from uniform ones are uniform, and so are the steps that the kernel's operations are made up of.
-/

namespace SignalKernel.Program

open SignalKernel.Kernel

/-! ## Depths that a run shows -/

/-- The delivery at a depth that is greater by `offset`. -/
def Delivery.deepen (offset : UInt64) (delivery : Delivery) : Delivery :=
  { delivery with interruptDepth := delivery.interruptDepth + offset }

/-- The view at a depth that is greater by `offset`. -/
def SignalView.deepen (offset : UInt64) (view : SignalView) : SignalView :=
  { view with interruptDepth := view.interruptDepth + offset }

mutual

/-- The answer with the depths at which threads' signals were looked at greater by `offset`. -/
def Answer.deepen (offset : UInt64) : Answer → Answer
  | .signals view => .signals (view.deepen offset)
  | .several answers => .several (Answer.deepenAll offset answers)
  | .flagMasked answers isEnabled => .flagMasked (Answer.deepenAll offset answers) isEnabled
  | answer => answer

/-- The answers with these depths greater by `offset`. -/
def Answer.deepenAll (offset : UInt64) : List Answer → List Answer
  | [] => []
  | answer :: rest => answer.deepen offset :: Answer.deepenAll offset rest

end

/-- The event with all depths greater by `offset`. -/
def Event.deepen (offset : UInt64) : Event → Event
  | .delivered delivery => .delivered (delivery.deepen offset)
  | .answered answer => .answered (answer.deepen offset)
  | event => event

/-- The moment with all depths greater by `offset`. -/
def Moment.deepen (offset : UInt64) : Moment → Moment
  | .delivered delivery => .delivered (delivery.deepen offset)
  | moment => moment

theorem Delivery.deepen_zero (delivery : Delivery) : delivery.deepen 0 = delivery := by
  rw [deepen, UInt64.add_zero]

mutual

theorem Answer.deepen_zero : ∀ answer : Answer, answer.deepen 0 = answer
  | .signals view => by rw [deepen, SignalView.deepen, UInt64.add_zero]
  | .several answers => by rw [deepen, Answer.deepenAll_zero]
  | .flagMasked answers isEnabled => by rw [deepen, Answer.deepenAll_zero]
  | .done | .unknown | .noThread | .noFlags | .truth _ | .number _ | .errno _ | .text _ | .set _
  | .spawned .. | .running .. | .switched _ | .described .. | .masked .. | .maskStatus ..
  | .pendingStatus .. | .sent .. | .posted _ | .signal .. | .buffered .. | .installRefused ..
  | .core .. | .atDepth .. | .cell .. | .flagSaved .. => rfl

theorem Answer.deepenAll_zero : ∀ answers : List Answer, Answer.deepenAll 0 answers = answers
  | [] => rfl
  | answer :: rest => by rw [deepenAll, Answer.deepen_zero, Answer.deepenAll_zero]

end

theorem Event.deepen_zero (event : Event) : event.deepen 0 = event := by
  cases event with
  | delivered delivery => rw [deepen, Delivery.deepen_zero]
  | answered answer => rw [deepen, Answer.deepen_zero]
  | posted id o outcome => rfl

theorem Moment.deepen_zero (moment : Moment) : moment.deepen 0 = moment := by
  cases moment with
  | delivered delivery => rw [deepen, Delivery.deepen_zero]
  | _ => rfl

theorem Event.map_deepen_zero (events : Array Event) : events.map (Event.deepen 0) = events := by
  rw [funext Event.deepen_zero, Array.map_id']

theorem Moment.map_deepen_zero (history : Array Moment) :
    history.map (Moment.deepen 0) = history := by
  rw [funext Moment.deepen_zero, Array.map_id']

/-! ## Settings -/

/-- How the kernel logs, how deep interrupts were masked, and what the program noted, before. -/
structure Setting where
  logger : Logger
  offset : UInt64
  events : Array Event
  history : Array Moment

/-- What runs in different settings have come to in common. Depths are counted from the beginning,
and so are the records that were logged, the events and the moments. All handlers that are yet to
start make allowed calls only. -/
structure Common (allows : Call → Bool) where
  scheduler : Scheduler
  depth : UInt64
  number : UInt64
  records : List Record
  session : Session
  allowed : session.handlers.every allows = true

/-- The session in a setting. -/
def Setting.session (setting : Setting) (session : Session) : Session :=
  { session with
    events := setting.events ++ session.events.map (Event.deepen setting.offset)
    history := setting.history ++ session.history.map (Moment.deepen setting.offset) }

variable {allows : Call → Bool}

/-- The kernel is what runs have in common, in a setting. Its core's lock is not compared. -/
structure Shows (setting : Setting) (common : Common allows) (kernel : Kernel Session) : Prop where
  scheduler : kernel.scheduler = common.scheduler
  depth : kernel.core.interrupts.depth = common.depth + setting.offset
  number : kernel.core.number = common.number
  logger : kernel.logger = common.records.foldl Logger.log setting.logger
  client : kernel.client = setting.session common.session

/-- The setting of a kernel that is about to do something, at a depth that counts from `offset`. -/
def Setting.before (kernel : Kernel Session) (offset : UInt64) : Setting where
  logger := kernel.logger
  offset := offset
  events := kernel.client.events
  history := kernel.client.history

/-- Which runs are compared: the calls that they make, by how much their depths differ, and whether
they have to give back every level of masked interrupts. -/
structure Comparison where
  allows : Call → Bool
  admits : UInt64 → Prop
  balanced : Prop

variable {α β δ ε : Type}

/-- In all settings where the kernels before a computation are the same, so are those after it. What
it returns in a setting is what `tell` makes of something common. -/
def UniformFrom (C : Comparison) (common : Common C.allows) (tell : Setting → α → β)
    (m : Setting → ProgramM β) : Prop :=
  ∃ a, ∃ common' : Common C.allows, (C.balanced → common'.depth = common.depth) ∧
    ∀ setting, C.admits setting.offset → ∀ kernel, Shows setting common kernel →
      (m setting kernel).1 = tell setting a ∧ Shows setting common' (m setting kernel).2

/-- From everything common a computation leads to something common. -/
def Uniform (C : Comparison) (tell : Setting → α → β) (m : Setting → ProgramM β) : Prop :=
  ∀ common, UniformFrom C common tell m

/-- A computation that returns the same in all settings. -/
def Steady (C : Comparison) (m : ProgramM α) : Prop :=
  Uniform C (fun _ a ↦ a) fun _ ↦ m

section Uniform

variable {C : Comparison} {tell : Setting → α → β} {tell' : Setting → δ → ε}

theorem Uniform.pure (a : α) : Uniform C tell fun setting ↦ Pure.pure (tell setting a) :=
  fun common ↦ ⟨a, common, fun _ ↦ rfl, fun _ _ _ h ↦ ⟨rfl, h⟩⟩

theorem Uniform.bind {m : Setting → ProgramM β} {f : Setting → β → ProgramM ε}
    (hm : Uniform C tell m)
    (hf : ∀ a, Uniform C tell' fun setting ↦ f setting (tell setting a)) :
    Uniform C tell' fun setting ↦ m setting >>= f setting := by
  intro common
  obtain ⟨a, middle, hdepth, hmiddle⟩ := hm common
  obtain ⟨b, after, hdepth', hafter⟩ := hf a middle
  refine ⟨b, after, fun hbalanced ↦ (hdepth' hbalanced).trans (hdepth hbalanced), ?_⟩
  intro setting hadmits kernel hshows
  obtain ⟨hresult, hshows'⟩ := hmiddle setting hadmits kernel hshows
  show (f setting (m setting kernel).1 (m setting kernel).2).1 = _ ∧
    Shows setting after (f setting (m setting kernel).1 (m setting kernel).2).2
  rw [hresult]
  exact hafter setting hadmits _ hshows'

/-- A computation that does what a uniform one does wherever something common shows. -/
theorem Uniform.of_shows {m : Setting → ProgramM β}
    (h : ∀ common : Common C.allows, ∃ m', Uniform C tell m' ∧
      ∀ setting, C.admits setting.offset → ∀ kernel, Shows setting common kernel →
        m setting kernel = m' setting kernel) : Uniform C tell m := by
  intro common
  obtain ⟨m', huniform, hsame⟩ := h common
  obtain ⟨a, after, hdepth, hafter⟩ := huniform common
  refine ⟨a, after, hdepth, fun setting hadmits kernel hshows ↦ ?_⟩
  rw [hsame setting hadmits kernel hshows]
  exact hafter setting hadmits kernel hshows

theorem Steady.pure (a : α) : Steady C (Pure.pure a) :=
  fun common ↦ ⟨a, common, fun _ ↦ rfl, fun _ _ _ h ↦ ⟨rfl, h⟩⟩

theorem Steady.bind {m : ProgramM α} {f : Setting → α → ProgramM ε} (hm : Steady C m)
    (hf : ∀ a, Uniform C tell' fun setting ↦ f setting a) :
    Uniform C tell' fun setting ↦ m >>= f setting :=
  Uniform.bind hm hf

/-- A computation that goes on with what it read of the scheduler. -/
theorem Uniform.read (part : Scheduler → α) {f : Setting → α → ProgramM ε}
    (hf : ∀ a, Uniform C tell' fun setting ↦ f setting a) :
    Uniform C tell' fun setting ↦ get >>= fun kernel ↦ f setting (part kernel.scheduler) := by
  refine .of_shows fun common ↦ ⟨_, hf (part common.scheduler), ?_⟩
  intro setting hadmits kernel hshows
  rw [← hshows.scheduler]
  rfl

/-- A computation that goes on with what it read of the session, but for events and moments. -/
theorem Uniform.readSession (part : Session → α)
    (hpart : ∀ (setting : Setting) session, part (setting.session session) = part session)
    {f : Setting → α → ProgramM ε} (hf : ∀ a, Uniform C tell' fun setting ↦ f setting a) :
    Uniform C tell' fun setting ↦ get >>= fun kernel ↦ f setting (part kernel.client) := by
  refine .of_shows fun common ↦ ⟨_, hf (part common.session), ?_⟩
  intro setting hadmits kernel hshows
  rw [← hpart setting common.session, ← hshows.client]
  rfl

/-- A step that depends on the scheduler alone and changes nothing else, but for the core's lock. -/
theorem Steady.of_scheduler {m : ProgramM α} (f : Scheduler → α × Scheduler)
    (hresult : ∀ kernel, (m kernel).1 = (f kernel.scheduler).1)
    (hscheduler : ∀ kernel, (m kernel).2.scheduler = (f kernel.scheduler).2)
    (hinterrupts : ∀ kernel, (m kernel).2.core.interrupts = kernel.core.interrupts)
    (hnumber : ∀ kernel, (m kernel).2.core.number = kernel.core.number)
    (hlogger : ∀ kernel, (m kernel).2.logger = kernel.logger)
    (hclient : ∀ kernel, (m kernel).2.client = kernel.client) : Steady C m := by
  intro common
  refine ⟨(f common.scheduler).1, { common with scheduler := (f common.scheduler).2 },
    fun _ ↦ rfl, fun setting _ kernel hshows ↦ ⟨?_, ?_, ?_, ?_, ?_, ?_⟩⟩
  · rw [hresult, hshows.scheduler]
  · rw [hscheduler, hshows.scheduler]
  · rw [hinterrupts, hshows.depth]
  · rw [hnumber, hshows.number]
  · rw [hlogger, hshows.logger]
  · rw [hclient, hshows.client]

/-- A step on the scheduler in a critical section. -/
theorem Steady.withScheduler (f : Scheduler → α × Scheduler) : Steady C (withScheduler f) :=
  .of_scheduler f (fun _ ↦ rfl) (fun _ ↦ rfl) (fun _ ↦ InterruptDepth.restore_save ..)
    (fun _ ↦ rfl) (fun _ ↦ rfl) fun _ ↦ rfl

theorem Steady.readScheduler (f : Scheduler → α) : Steady C (readScheduler f) :=
  .of_scheduler (fun scheduler ↦ (f scheduler, scheduler)) (fun _ ↦ rfl) (fun _ ↦ rfl)
    (fun _ ↦ InterruptDepth.restore_save ..) (fun _ ↦ rfl) (fun _ ↦ rfl) fun _ ↦ rfl

theorem Steady.withSignals (id : ThreadId) (f : SignalState → α × SignalState) :
    Steady C (withSignals id f) :=
  .of_scheduler (fun scheduler ↦ ((f (scheduler.threads.get id).signals).1,
      scheduler.modifyThread id fun thread ↦
        { thread with signals := (f (scheduler.threads.get id).signals).2 }))
    (fun _ ↦ rfl) (fun _ ↦ rfl) (fun _ ↦ InterruptDepth.restore_save ..) (fun _ ↦ rfl)
    (fun _ ↦ rfl) fun _ ↦ rfl

theorem Steady.readSignals (id : ThreadId) (f : SignalState → α) : Steady C (readSignals id f) :=
  .of_scheduler (fun scheduler ↦ (f (scheduler.threads.get id).signals, scheduler))
    (fun _ ↦ rfl) (fun _ ↦ rfl) (fun _ ↦ InterruptDepth.restore_save ..) (fun _ ↦ rfl)
    (fun _ ↦ rfl) fun _ ↦ rfl

/-- A step on the scheduler without a critical section. -/
theorem Steady.onScheduler (f : Scheduler → Scheduler) :
    Steady C (modify fun kernel ↦ { kernel with scheduler := f kernel.scheduler }) :=
  .of_scheduler (fun scheduler ↦ ((), f scheduler)) (fun _ ↦ rfl) (fun _ ↦ rfl) (fun _ ↦ rfl)
    (fun _ ↦ rfl) (fun _ ↦ rfl) fun _ ↦ rfl

/-- What a record does to the logger depends on the setting, but not that it is logged. -/
theorem Steady.log (record : Record) : Steady C (Kernel.log record) := by
  intro common
  refine ⟨(), { common with records := common.records ++ [record] }, fun _ ↦ rfl, ?_⟩
  intro setting _ kernel hshows
  have hlogger : kernel.logger.log record =
      (common.records ++ [record]).foldl Logger.log setting.logger := by
    rw [List.foldl_concat, hshows.logger]
  refine ⟨rfl, ?_⟩
  -- whether a record goes to the boot buffer depends on the setting
  show Shows setting _ ((if kernel.logger.buffers record.level
    then critical (modifyLogger (·.log record)) else modifyLogger (·.log record)) kernel).2
  split
  · refine ⟨hshows.scheduler, ?_, hshows.number, hlogger, hshows.client⟩
    exact (congrArg InterruptDepth.depth (InterruptDepth.restore_save ..)).trans hshows.depth
  · exact ⟨hshows.scheduler, hshows.depth, hshows.number, hlogger, hshows.client⟩

end Uniform

/-- The kernel's operations are the same in all settings, step by step. -/
def steadiness (C : Comparison) : Congruence Session where
  rel m _ := Steady C m
  pure := Steady.pure
  bind hm hf := hm.bind hf
  notify notice := .log notice.record
  current h := (Steady.readScheduler _).bind fun thread ↦ h thread thread rfl
  find? _ := fun h ↦ (Steady.readScheduler _).bind fun found ↦ h found found rfl
  lockDepth id := fun h ↦ Uniform.read (fun scheduler ↦ (scheduler.threads.get id).lockDepth) h
  capacity id := fun h ↦ Uniform.read (fun scheduler ↦ (scheduler.threads.get id).pendingCapacity) h
  blocked id := .readSignals id _
  deliverable id := .readSignals id _
  pending id := .readSignals id _
  receive id _ := .withSignals id _
  take id _ := .withSignals id _
  mask id _ _ := .withSignals id _
  lock id := .onScheduler (·.modifyThread id _)
  giveBack id := .onScheduler (·.modifyThread id _)
  errno id _ := .onScheduler (·.modifyThread id _)
  spawn _ := .withScheduler _
  setCurrent _ := .withScheduler _
  request := .onScheduler fun scheduler ↦ { scheduler with reschedRequested := true }
  rotate := .withScheduler _
  preempt := .withScheduler _

end SignalKernel.Program
