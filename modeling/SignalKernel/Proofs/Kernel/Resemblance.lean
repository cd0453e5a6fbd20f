import Mathlib.Data.List.Forall2
import SignalKernel.Proofs.Kernel.Congruence
import SignalKernel.Proofs.Kernel.Mailboxes
import SignalKernel.Proofs.Signals.SameLists

/-!
# Kernels that cannot be told apart

Two kernels resemble each other if they have the same client and their schedulers differ in signals
only that cannot be told apart. All work is the same on such kernels, as long as the sink does the
same: it returns the same, and the kernels after it resemble each other again. Sinks that only tell
their client what they are handed do the same.
-/

namespace SignalKernel

/-- Threads that differ in nothing but signals that cannot be told apart. -/
structure Thread.Resembles (thread thread' : Thread) : Prop where
  id : thread.id = thread'.id
  name : thread.name = thread'.name
  lockDepth : thread.lockDepth = thread'.lockDepth
  signals : thread.signals.Indistinct thread'.signals
  pendingCapacity : thread.pendingCapacity = thread'.pendingCapacity
  errno : thread.errno = thread'.errno

theorem Thread.Resembles.refl (thread : Thread) : thread.Resembles thread :=
  ⟨rfl, rfl, rfl, .inl rfl, rfl, rfl⟩

namespace ThreadTable

/-- The same threads in the same order, as far as they can be told apart. -/
def Resembles (table table' : ThreadTable) : Prop :=
  List.Forall₂ Thread.Resembles table.toList table'.toList

variable {table table' : ThreadTable}

theorem Resembles.idle (h : table.Resembles table') : table.idle.Resembles table'.idle :=
  (List.forall₂_cons.1 h).1

theorem Resembles.find? (h : table.Resembles table') (id : ThreadId) :
    Option.Rel Thread.Resembles (table.find? id) (table'.find? id) := by
  unfold ThreadTable.find?
  unfold Resembles at h
  generalize table.toList = threads, table'.toList = threads' at h
  induction h with
  | nil => exact .none
  | cons hthread hrest ih =>
      rw [List.find?_cons, List.find?_cons, hthread.id]
      split
      · exact .some hthread
      · exact ih

theorem Resembles.find?_id (h : table.Resembles table') (id : ThreadId) :
    (table.find? id).map Thread.id = (table'.find? id).map Thread.id := by
  have hfound := h.find? id
  generalize table.find? id = found, table'.find? id = found' at hfound
  cases hfound with
  | none => rfl
  | some hthread => exact congrArg some hthread.id

theorem Resembles.get (h : table.Resembles table') (id : ThreadId) :
    (table.get id).Resembles (table'.get id) := by
  have hfound := h.find? id
  unfold ThreadTable.get
  generalize table.find? id = found, table'.find? id = found' at hfound
  cases hfound with
  | none => exact h.idle
  | some hthread => exact hthread

/-- The tables may be changed in different ways, as long as the threads cannot be told apart. -/
theorem Resembles.modify (h : table.Resembles table') (id : ThreadId)
    {change change' : Thread → Thread}
    (hchange : ∀ {thread thread' : Thread}, thread.Resembles thread' →
      (change thread).Resembles (change' thread')) :
    (table.modify id change).Resembles (table'.modify id change') := by
  unfold Resembles
  rw [toList_modify, toList_modify, List.forall₂_map_left_iff, List.forall₂_map_right_iff]
  refine h.imp fun thread thread' hthread ↦ ?_
  rw [hthread.id]
  split
  · exact hchange hthread
  · exact hthread

theorem Resembles.add (h : table.Resembles table') (thread : Thread) :
    (table.add thread).Resembles (table'.add thread) := by
  unfold Resembles
  rw [toList_add, toList_add]
  exact List.rel_append h (.cons (.refl thread) .nil)

end ThreadTable

namespace Scheduler

/-- Schedulers that differ in nothing but signals that cannot be told apart. -/
structure Resembles (scheduler scheduler' : Scheduler) : Prop where
  threads : scheduler.threads.Resembles scheduler'.threads
  ready : scheduler.ready = scheduler'.ready
  current : scheduler.current = scheduler'.current
  reschedRequested : scheduler.reschedRequested = scheduler'.reschedRequested
  contextSwitches : scheduler.contextSwitches = scheduler'.contextSwitches
  nextId : scheduler.nextId = scheduler'.nextId

theorem Resembles.refl (scheduler : Scheduler) : scheduler.Resembles scheduler :=
  ⟨List.forall₂_same.2 fun thread _ ↦ .refl thread, rfl, rfl, rfl, rfl, rfl⟩

namespace Resembles

variable {scheduler scheduler' : Scheduler} (h : scheduler.Resembles scheduler')
include h

theorem currentThread : scheduler.currentThread.Resembles scheduler'.currentThread := by
  unfold Scheduler.currentThread
  rw [h.current]
  exact h.threads.get _

theorem modifyThread (id : ThreadId) {change change' : Thread → Thread}
    (hchange : ∀ {thread thread' : Thread}, thread.Resembles thread' →
      (change thread).Resembles (change' thread')) :
    (scheduler.modifyThread id change).Resembles (scheduler'.modifyThread id change') :=
  { h with threads := h.threads.modify id hchange }

theorem requeue (waiting : List ThreadId) :
    scheduler.requeue waiting = scheduler'.requeue waiting := by
  unfold Scheduler.requeue Scheduler.idle
  rw [h.current, h.threads.idle.id]

theorem spawn (config : ThreadConfig) :
    (scheduler.spawn config).1 = (scheduler'.spawn config).1 ∧
      (scheduler.spawn config).2.Resembles (scheduler'.spawn config).2 := by
  unfold Scheduler.spawn
  simp only [h.nextId, h.ready, true_and]
  exact { h with
    threads := h.threads.add _
    ready := rfl
    nextId := rfl }

theorem setCurrent (id : ThreadId) :
    (scheduler.setCurrent id).1 = (scheduler'.setCurrent id).1 ∧
      (scheduler.setCurrent id).2.Resembles (scheduler'.setCurrent id).2 := by
  have hfound := h.threads.find? id
  unfold Scheduler.setCurrent
  generalize scheduler.threads.find? id = found, scheduler'.threads.find? id = found' at hfound
  cases hfound with
  | none => exact ⟨rfl, h⟩
  | some _ =>
      refine ⟨rfl, { h with ready := ?_, current := rfl }⟩
      simp only [h.ready, h.current, h.requeue]

theorem rotate : scheduler.rotate.1 = scheduler'.rotate.1 ∧
    scheduler.rotate.2.Resembles scheduler'.rotate.2 := by
  unfold Scheduler.rotate
  rw [h.ready]
  split
  · exact ⟨rfl, h⟩
  · simp only [h.current, h.contextSwitches, h.requeue, true_and]
    exact { h with ready := rfl, current := rfl, contextSwitches := rfl }

theorem preempt : scheduler.preempt.1 = scheduler'.preempt.1 ∧
    scheduler.preempt.2.Resembles scheduler'.preempt.2 := by
  have hpreemptible : scheduler.isPreemptible = scheduler'.isPreemptible := by
    unfold Scheduler.isPreemptible
    rw [h.currentThread.lockDepth, h.reschedRequested]
  unfold Scheduler.preempt
  rw [hpreemptible]
  split
  · exact rotate { h with reschedRequested := rfl }
  · exact ⟨rfl, h⟩

end Resembles

end Scheduler

namespace Kernel

variable {γ α β : Type}

/-- Kernels with the same client whose schedulers cannot be told apart. -/
structure Resembles (kernel kernel' : Kernel γ) : Prop where
  scheduler : kernel.scheduler.Resembles kernel'.scheduler
  client : kernel.client = kernel'.client

/-- Two computations do the same on kernels that resemble each other. -/
def Similar (m m' : KernelM γ α) : Prop :=
  ∀ {kernel kernel' : Kernel γ}, kernel.Resembles kernel' →
    (m kernel).1 = (m' kernel').1 ∧ (m kernel).2.Resembles (m' kernel').2

theorem Similar.bind {m m' : KernelM γ α} {f f' : α → KernelM γ β} (hm : Similar m m')
    (hf : ∀ a, Similar (f a) (f' a)) : Similar (m >>= f) (m' >>= f') := by
  intro kernel kernel' h
  obtain ⟨hresult, hmiddle⟩ := hm h
  rw [run_bind, run_bind, hresult]
  exact hf _ hmiddle

/-- A step that changes neither the scheduler nor the client. -/
theorem similar_of_same {m : KernelM γ Unit} (hm : ∀ kernel, Same kernel (m kernel).2) :
    Similar m m := by
  intro kernel kernel' h
  refine ⟨rfl, ?_, ?_⟩
  · rw [(hm kernel).scheduler, (hm kernel').scheduler]
    exact h.scheduler
  · rw [(hm kernel).client, (hm kernel').client]
    exact h.client

/-- A step on the scheduler. -/
theorem similar_withScheduler {f : Scheduler → α × Scheduler}
    (hf : ∀ {scheduler scheduler' : Scheduler}, scheduler.Resembles scheduler' →
      (f scheduler).1 = (f scheduler').1 ∧ (f scheduler).2.Resembles (f scheduler').2) :
    Similar (withScheduler f : KernelM γ α) (withScheduler f) :=
  fun h ↦ ⟨(hf h.scheduler).1, (hf h.scheduler).2, h.client⟩

/-- A step on the signals of one thread. -/
theorem similar_withSignals (id : ThreadId) {f : SignalState → α × SignalState}
    (hf : SignalState.Respects f) :
    Similar (withSignals id f : KernelM γ α) (withSignals id f) := by
  intro kernel kernel' h
  obtain ⟨hresult, hsignals⟩ := (h.scheduler.threads.get id).signals.of_respects hf
  refine ⟨hresult, ?_, h.client⟩
  exact h.scheduler.modifyThread id fun hthread ↦ { hthread with signals := hsignals }

theorem similar_readSignals (id : ThreadId) {f : SignalState → α}
    (hf : ∀ {s s' : SignalState}, s.SameLists s' → f s = f s') :
    Similar (readSignals id f : KernelM γ α) (readSignals id f) :=
  fun h ↦ ⟨(h.scheduler.threads.get id).signals.eq hf, h.scheduler, h.client⟩

theorem similar_modifyThread (id : ThreadId) {change : Thread → Thread}
    (hchange : ∀ {thread thread' : Thread}, thread.Resembles thread' →
      (change thread).Resembles (change thread')) :
    Similar (modifyThread id change : KernelM γ Unit) (modifyThread id change) :=
  fun h ↦ ⟨rfl, h.scheduler.modifyThread id hchange, h.client⟩

/-- A step that goes on with what it read of a thread. -/
theorem similar_read (id : ThreadId) {part : Thread → β}
    (hpart : ∀ {thread thread' : Thread}, thread.Resembles thread' → part thread = part thread')
    {f f' : β → KernelM γ α} (hf : ∀ b, Similar (f b) (f' b)) :
    Similar (get >>= fun kernel ↦ f (part (kernel.thread id)))
      (get >>= fun kernel ↦ f' (part (kernel.thread id))) := by
  intro kernel kernel' h
  have hsame : part (kernel.thread id) = part (kernel'.thread id) :=
    hpart (h.scheduler.threads.get id)
  rw [run_bind, run_get, run_bind, run_get, hsame]
  exact hf _ h

/-- Operations do the same on kernels that resemble each other, step by step. -/
def similarity : Congruence γ where
  rel := Similar
  pure _ := fun h ↦ ⟨rfl, h⟩
  bind := Similar.bind
  notify notice := similar_of_same (same_notify notice)
  current hf := fun h ↦ hf _ _ h.scheduler.currentThread.id ⟨h.scheduler, h.client⟩
  find? id := fun hf kernel kernel' h ↦ by
    exact hf _ _ (h.scheduler.threads.find?_id id) ⟨h.scheduler, h.client⟩
  lockDepth id := similar_read id Thread.Resembles.lockDepth
  capacity id := similar_read id Thread.Resembles.pendingCapacity
  blocked id := similar_readSignals id SignalState.SameLists.blocked
  deliverable id := similar_readSignals id SignalState.SameLists.deliverable
  pending id := similar_readSignals id SignalState.SameLists.pending
  receive id o := similar_withSignals id (SignalState.respects_receive o)
  take id signal := similar_withSignals id (SignalState.respects_takeUnblocked signal)
  mask id mode set := similar_withSignals id (SignalState.respects_changeMask mode set)
  lock id := by
    refine similar_modifyThread id fun {thread thread'} h ↦ ?_
    exact { h with lockDepth := congrArg (· + 1) h.lockDepth }
  giveBack id := by
    refine similar_modifyThread id fun {thread thread'} h ↦ ?_
    exact { h with lockDepth := congrArg (· - 1) h.lockDepth }
  errno id code := by
    refine similar_modifyThread id fun {thread thread'} h ↦ ?_
    exact { h with errno := rfl }
  spawn config := similar_withScheduler fun h ↦ h.spawn config
  setCurrent id := similar_withScheduler fun h ↦ h.setCurrent id
  request := fun h ↦ ⟨rfl, { h.scheduler with reschedRequested := rfl }, h.client⟩
  rotate := similar_withScheduler Scheduler.Resembles.rotate
  preempt := similar_withScheduler Scheduler.Resembles.preempt

/-- A sink that only tells its client what it is handed. It may log. -/
def Sink.Passive (sink : Sink γ) (told : γ → ThreadId → Timing → Occurrence → γ) : Prop :=
  ∀ id timing o kernel, (sink id timing o kernel).2.scheduler = kernel.scheduler ∧
    (sink id timing o kernel).2.client = told kernel.client id timing o

theorem similar_of_passive {sink : Sink γ} {told : γ → ThreadId → Timing → Occurrence → γ}
    (h : Sink.Passive sink told) (id : ThreadId) (timing : Timing) (o : Occurrence) :
    Similar (sink id timing o) (sink id timing o) := by
  intro kernel kernel' hkernel
  obtain ⟨hscheduler, hclient⟩ := h id timing o kernel
  obtain ⟨hscheduler', hclient'⟩ := h id timing o kernel'
  refine ⟨rfl, ?_, ?_⟩
  · rw [hscheduler, hscheduler']
    exact hkernel.scheduler
  · rw [hclient, hclient', hkernel.client]

/-- Work is the same on kernels that resemble each other, if nothing that is delivered makes calls
of its own. -/
theorem Work.similar {work : Sink γ → KernelM γ α} (h : Work γ work) {sink : Sink γ}
    {told : γ → ThreadId → Timing → Occurrence → γ} (hsink : Sink.Passive sink told) :
    Similar (work sink) (work sink) :=
  h.related similarity (similar_of_passive hsink)

end Kernel

end SignalKernel
