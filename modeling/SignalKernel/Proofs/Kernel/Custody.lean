import SignalKernel.Proofs.Kernel.Congruence
import SignalKernel.Proofs.Kernel.RunQueue

/-!
# Looking leaves no trace

A critical section in which signals are only read changes nothing at all, if the core may enter it
and no two threads have one identity. Both can be lost by counting too far only: identities repeat
after 2 ^ 64 threads, and a lock that is taken 2 ^ 32 times looks free. `Custody` is how a client
keeps track of the core's lock, and `Custody.congruence` says that no step of an operation loses
track of it, as long as what is counted stays `Few`.
-/

namespace SignalKernel

namespace ThreadTable

variable {table : ThreadTable}

/-- If no two threads have one identity, every thread is found under its own. -/
theorem get_of_mem (hids : (table.toList.map Thread.id).Nodup) {thread : Thread}
    (hthread : thread ∈ table.toList) : table.get thread.id = thread := by
  cases hfind : table.find? thread.id with
  | none =>
      have hnone := List.find?_eq_none.1 hfind thread hthread
      simp at hnone
  | some found =>
      have hfound := List.find?_some hfind
      have hsame := List.inj_on_of_nodup_map hids (List.mem_of_find?_eq_some hfind) hthread
        (beq_iff_eq.1 hfound)
      rw [get, hfind, hsame]
      rfl

/-- Then a thread whose signals are replaced by what they are is the same, and so are all others. -/
theorem modify_signals_self (hids : (table.toList.map Thread.id).Nodup) (id : ThreadId) :
    table.modify id (fun thread ↦ { thread with signals := (table.get id).signals }) = table := by
  have hsame : ∀ thread ∈ table.toList,
      (if thread.id = id then { thread with signals := (table.get id).signals } else thread) =
        thread := by
    intro thread hthread
    split
    case isTrue hid =>
      subst hid
      rw [get_of_mem hids hthread]
    case isFalse => rfl
  obtain ⟨idle, spawned⟩ := table
  unfold modify
  congr 1
  · exact hsame idle (List.mem_cons_self ..)
  · refine (List.map_congr_left fun thread hthread ↦ ?_).trans (List.map_id _)
    exact hsame thread (List.mem_cons_of_mem _ hthread)

end ThreadTable

/-! ## Steps of the scheduler -/

/-- No thread is lost, and the run queue stays in order. -/
structure Scheduler.Onward (scheduler after : Scheduler) : Prop where
  grows : scheduler.ids.length ≤ after.ids.length
  inOrder : scheduler.InOrder → after.InOrder

namespace Scheduler

theorem Onward.refl (scheduler : Scheduler) : scheduler.Onward scheduler :=
  ⟨Nat.le_refl _, fun h ↦ h⟩

theorem onward_of_ids {scheduler after : Scheduler} (hids : after.ids = scheduler.ids)
    (h : scheduler.InOrder → after.InOrder) : scheduler.Onward after :=
  ⟨Nat.le_of_eq (congrArg List.length hids).symm, h⟩

theorem onward_of_sameTurns {scheduler after : Scheduler} (h : SameTurns scheduler after) :
    scheduler.Onward after :=
  onward_of_ids h.ids fun hs ↦ hs.of_sameTurns h

theorem onward_spawn (scheduler : Scheduler) (config : ThreadConfig) :
    scheduler.Onward (scheduler.spawn config).2 := by
  refine ⟨?_, fun h ↦ h.spawn config⟩
  rw [ids_spawn, List.length_append]
  exact Nat.le_add_right ..

theorem onward_giveBack (scheduler : Scheduler) (id : ThreadId) :
    scheduler.Onward (scheduler.giveBack id) :=
  onward_of_ids (ids_giveBack scheduler id) fun h ↦
    h.of_ids (ids_giveBack scheduler id) rfl fun _ _ ↦
      .of_eq (queue_eq (ids_giveBack scheduler id) rfl rfl)

theorem onward_request (scheduler : Scheduler) :
    scheduler.Onward { scheduler with reschedRequested := true } :=
  ⟨Nat.le_refl _, fun h ↦ h.request true⟩

end Scheduler

namespace Kernel

variable {γ α β : Type} {kernel after : Kernel γ}

/-! ## Critical sections that only look -/

theorem readSignals_of_mayEnter (h : kernel.core.MayEnter) (id : ThreadId) (f : SignalState → α) :
    readSignals id f kernel = (f (kernel.thread id).signals, kernel) := by
  show (f (kernel.thread id).signals,
    { kernel with core := kernel.core.enter.2.leave kernel.core.enter.1 }) = _
  rw [Core.leave_enter h]

/-- A step on signals that leaves them as they are. -/
theorem withSignals_of_unchanged (h : kernel.core.MayEnter) (hids : kernel.scheduler.ids.Nodup)
    {id : ThreadId} {f : SignalState → α × SignalState}
    (hf : (f (kernel.thread id).signals).2 = (kernel.thread id).signals) :
    withSignals id f kernel = ((f (kernel.thread id).signals).1, kernel) := by
  show ((f (kernel.thread id).signals).1,
    { kernel with
      core := kernel.core.enter.2.leave kernel.core.enter.1
      scheduler := kernel.scheduler.modifyThread id fun thread ↦
        { thread with signals := (f (kernel.thread id).signals).2 } }) = _
  rw [Core.leave_enter h, hf, Scheduler.modifyThread, Kernel.thread,
    ThreadTable.modify_signals_self hids]

/-! ## Keeping track of the core's lock -/

/-- How a client keeps track of the core's lock. -/
structure Custody (γ : Type) where
  /-- The lock is held as the client says. -/
  holds : Core → γ → Prop
  /-- The client has not counted too far. -/
  few : γ → Prop
  mayEnter : ∀ {core client}, holds core client → few client → core.MayEnter

namespace Custody

variable (C : Custody γ)

/-- Nothing was counted too far. -/
structure Few (kernel : Kernel γ) : Prop where
  threads : kernel.scheduler.ids.length ≤ 2 ^ 64
  client : C.few kernel.client

/-- The run queue is in order, and the core's lock is held as the client says. -/
structure Orderly (kernel : Kernel γ) : Prop where
  scheduler : kernel.scheduler.InOrder
  core : C.holds kernel.core kernel.client

/-- What was counted does not become less, and all stays in order as long as it is few. -/
structure Upkeep (kernel after : Kernel γ) : Prop where
  few : C.Few after → C.Few kernel
  orderly : C.Few after → C.Orderly kernel → C.Orderly after

/-- A computation keeps everything in order. -/
def Keeps (m : KernelM γ α) : Prop :=
  ∀ kernel, C.Upkeep kernel (m kernel).2

variable {C}

theorem Orderly.mayEnter (h : C.Orderly kernel) (hfew : C.Few kernel) : kernel.core.MayEnter :=
  C.mayEnter h.core hfew.client

theorem Orderly.nodup (h : C.Orderly kernel) (hfew : C.Few kernel) : kernel.scheduler.ids.Nodup :=
  h.scheduler.nodup hfew.threads

theorem Upkeep.trans {middle : Kernel γ} (h : C.Upkeep kernel middle)
    (h' : C.Upkeep middle after) : C.Upkeep kernel after where
  few hfew := h.few (h'.few hfew)
  orderly hfew horderly := h'.orderly hfew (h.orderly (h'.few hfew) horderly)

theorem Keeps.bind {m : KernelM γ α} {f : α → KernelM γ β} (hm : C.Keeps m)
    (hf : ∀ a, C.Keeps (f a)) : C.Keeps (m >>= f) :=
  fun kernel ↦ (hm kernel).trans (hf (m kernel).1 (m kernel).2)

/-- A step that leaves the client alone, and the core where it may enter. -/
theorem upkeep_of_onward (hcore : kernel.core.MayEnter → after.core = kernel.core)
    (hclient : after.client = kernel.client)
    (hscheduler : kernel.scheduler.Onward after.scheduler) : C.Upkeep kernel after := by
  have hbefore (hfew : C.Few after) : C.Few kernel :=
    ⟨Nat.le_trans hscheduler.grows hfew.threads, hclient ▸ hfew.client⟩
  refine ⟨hbefore, fun hfew horderly ↦ ⟨hscheduler.inOrder horderly.scheduler, ?_⟩⟩
  rw [hcore (horderly.mayEnter (hbefore hfew)), hclient]
  exact horderly.core

theorem keeps_critical {body : KernelM γ α} (hcore : ∀ kernel, (body kernel).2.core = kernel.core)
    (hclient : ∀ kernel, (body kernel).2.client = kernel.client)
    (hscheduler : ∀ kernel : Kernel γ, kernel.scheduler.Onward (body kernel).2.scheduler) :
    C.Keeps (critical body) := by
  intro kernel
  refine upkeep_of_onward (fun h ↦ ?_) (hclient (enter kernel).2) (hscheduler (enter kernel).2)
  show (body (enter kernel).2).2.core.leave (enter kernel).1 = kernel.core
  rw [hcore]
  exact Core.leave_enter h

theorem keeps_of_onward {m : KernelM γ α} (hcore : ∀ kernel, (m kernel).2.core = kernel.core)
    (hclient : ∀ kernel, (m kernel).2.client = kernel.client)
    (hscheduler : ∀ kernel : Kernel γ, kernel.scheduler.Onward (m kernel).2.scheduler) :
    C.Keeps m :=
  fun kernel ↦ upkeep_of_onward (fun _ ↦ hcore kernel) (hclient kernel) (hscheduler kernel)

theorem keeps_pure (a : α) : C.Keeps (pure a : KernelM γ α) :=
  keeps_of_onward (fun _ ↦ rfl) (fun _ ↦ rfl) fun kernel ↦ .refl kernel.scheduler

theorem keeps_notify (notice : Notice) : C.Keeps (notify notice : KernelM γ Unit) := by
  intro kernel
  show C.Upkeep kernel ((if kernel.logger.buffers notice.record.level
    then critical (modifyLogger (·.log notice.record))
    else modifyLogger (·.log notice.record)) kernel).2
  split
  · exact keeps_critical (fun _ ↦ rfl) (fun _ ↦ rfl) (fun kernel ↦ .refl kernel.scheduler) kernel
  · exact keeps_of_onward (fun _ ↦ rfl) (fun _ ↦ rfl) (fun kernel ↦ .refl kernel.scheduler) kernel

theorem keeps_readScheduler (f : Scheduler → α) : C.Keeps (readScheduler f : KernelM γ α) :=
  keeps_critical (fun _ ↦ rfl) (fun _ ↦ rfl) fun kernel ↦ .refl kernel.scheduler

theorem keeps_readSignals (id : ThreadId) (f : SignalState → α) :
    C.Keeps (readSignals id f : KernelM γ α) :=
  keeps_critical (fun _ ↦ rfl) (fun _ ↦ rfl) fun kernel ↦ .refl kernel.scheduler

theorem keeps_withScheduler {f : Scheduler → α × Scheduler}
    (h : ∀ scheduler : Scheduler, scheduler.Onward (f scheduler).2) :
    C.Keeps (withScheduler f : KernelM γ α) :=
  keeps_critical (fun _ ↦ rfl) (fun _ ↦ rfl) fun kernel ↦ h kernel.scheduler

theorem keeps_withSignals (id : ThreadId) (f : SignalState → α × SignalState) :
    C.Keeps (withSignals id f : KernelM γ α) :=
  keeps_critical (fun _ ↦ rfl) (fun _ ↦ rfl) fun kernel ↦
    Scheduler.onward_of_sameTurns (Scheduler.sameTurns_modifyThread kernel.scheduler id fun _ ↦ rfl)

theorem keeps_setErrno (id : ThreadId) (code : Errno) :
    C.Keeps (modifyThread id fun thread ↦ { thread with errno := code } : KernelM γ Unit) :=
  keeps_of_onward (fun _ ↦ rfl) (fun _ ↦ rfl) fun kernel ↦
    Scheduler.onward_of_sameTurns (Scheduler.sameTurns_modifyThread kernel.scheduler id fun _ ↦ rfl)

/-- A step that goes on with what it read of the kernel. -/
theorem Keeps.read {δ : Type} {part : Kernel γ → δ} {f : δ → KernelM γ α}
    (h : ∀ a, C.Keeps (f a)) : C.Keeps (get >>= fun kernel ↦ f (part kernel)) :=
  fun kernel ↦ h (part kernel) kernel

variable (C)

/-- Operations keep everything in order step by step. -/
def congruence : Congruence γ where
  rel m _ := C.Keeps m
  pure a := keeps_pure a
  bind hm hf := hm.bind hf
  notify notice := keeps_notify notice
  current h := (keeps_readScheduler _).bind fun thread ↦ h thread thread rfl
  find? _ := fun h ↦ (keeps_readScheduler _).bind fun found ↦ h found found rfl
  lockDepth _ := fun h ↦ .read h
  capacity _ := fun h ↦ .read h
  blocked id := keeps_readSignals id _
  deliverable id := keeps_readSignals id _
  pending id := keeps_readSignals id _
  receive id _ := keeps_withSignals id _
  take id _ := keeps_withSignals id _
  mask id _ _ := keeps_withSignals id _
  lock id := keeps_of_onward (fun _ ↦ rfl) (fun _ ↦ rfl) fun kernel ↦
    Scheduler.onward_of_ids (Scheduler.ids_lock kernel.scheduler id) fun h ↦ h.lock id
  giveBack id := keeps_of_onward (fun _ ↦ rfl) (fun _ ↦ rfl) fun kernel ↦
    kernel.scheduler.onward_giveBack id
  errno id code := keeps_setErrno id code
  spawn config := keeps_withScheduler fun scheduler ↦ scheduler.onward_spawn config
  setCurrent id := keeps_withScheduler fun scheduler ↦
    Scheduler.onward_of_ids (Scheduler.ids_setCurrent scheduler id) fun h ↦ h.setCurrent id
  request := keeps_of_onward (fun _ ↦ rfl) (fun _ ↦ rfl) fun kernel ↦
    kernel.scheduler.onward_request
  rotate := keeps_withScheduler fun scheduler ↦
    Scheduler.onward_of_ids (Scheduler.ids_rotate scheduler) fun h ↦ h.rotate
  preempt := keeps_withScheduler fun scheduler ↦
    Scheduler.onward_of_ids (Scheduler.ids_of_threads (Scheduler.threads_preempt scheduler))
      fun h ↦ h.preempt

variable {C}

section Sink

variable {sink : Sink γ} (hsink : ∀ id timing o, C.Keeps (sink id timing o))
include hsink

theorem keeps_operation {operation : Sink γ → KernelM γ α} (h : Operation γ operation) :
    C.Keeps (operation sink) := by
  show C.congruence.rel (operation sink) (operation sink)
  exact h.related C.congruence hsink

theorem keeps_drain (id : ThreadId) (signal limit delivered : Nat) :
    C.Keeps (drain sink id signal limit delivered) := by
  show C.congruence.rel _ (drain sink id signal limit delivered)
  exact C.congruence.drain hsink id signal limit delivered

theorem keeps_drainEach (id : ThreadId) (limit : Nat) (signals : List Nat) (delivered : Nat) :
    C.Keeps (drainEach sink id limit signals delivered) := by
  show C.congruence.rel _ (drainEach sink id limit signals delivered)
  exact C.congruence.drainEach hsink id limit signals delivered

end Sink

end Custody

end Kernel

end SignalKernel
