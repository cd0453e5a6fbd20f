import SignalKernel.Proofs.Kernel.Draining
import SignalKernel.Proofs.Signals.Traversal

/-!
# What a change of a mask hands over

With a sink that makes no calls of its own, a change of a thread's mask can be foretold: it hands
over all records of the pending signals that the new mask does not block, the lowest signal first
and the oldest record of each first, and it leaves the rest alone. The main statement is
`changeMask_hands`. It is assembled from what one removal, one signal, several signals and a sweep
hand over, each of which is an `HandsOver` between two kernels.
-/

namespace SignalKernel

namespace SignalState

/-- The records of the signals of a set, the lowest signal first and the oldest record of each
first. -/
def recordsOf (s : SignalState) (set : SignalSet) : List Occurrence :=
  ((List.range 65).filter (· ∈ set)).flatMap s.records

/-- What is deliverable once the mask is changed. -/
theorem deliverable_changeMask {s : SignalState} (hmask : s.blocked ∩ .unblockable = ∅)
    (mode : MaskMode) (set : SignalSet) :
    (s.changeMask mode set).deliverable =
      s.pending \ (mode.combine s.blocked set \ .unblockable) := by
  rw [deliverable, pending, queue_changeMask, changeMask_eq hmask, pending]

@[simp] theorem recordsOf_changeMask (s : SignalState) (mode : MaskMode) (set other : SignalSet) :
    (s.changeMask mode set).recordsOf other = s.recordsOf other := by
  rw [recordsOf, funext (records_changeMask s mode set), recordsOf]

/-- The oldest records of the signals of a set, at most `limit` of each. -/
def oldestOf (s : SignalState) (limit : Nat) (set : SignalSet) : List Occurrence :=
  ((List.range 65).filter (· ∈ set)).flatMap fun signal ↦ (s.records signal).take limit

@[simp] theorem oldestOf_changeMask (s : SignalState) (mode : MaskMode) (set : SignalSet)
    (limit : Nat) (other : SignalSet) :
    (s.changeMask mode set).oldestOf limit other = s.oldestOf limit other := by
  rw [oldestOf, funext (records_changeMask s mode set), oldestOf]

/-- If no signal has more records than the limit, these are all records. -/
theorem oldestOf_eq {s : SignalState} {limit : Nat}
    (hlimit : ∀ signal, (s.records signal).length ≤ limit) (set : SignalSet) :
    s.oldestOf limit set = s.recordsOf set := by
  unfold oldestOf recordsOf
  exact List.flatMap_congr fun signal _ ↦ List.take_of_length_le (hlimit signal)

/-- The oldest records of some signals are gone, at most `limit` of each, and nothing else has
changed. -/
structure Drained (s : SignalState) (limit : Nat) (signals : List Nat) (left : SignalState) :
    Prop where
  blocked : left.blocked = s.blocked
  sound : left.queue.Sound
  records : ∀ signal, left.records signal =
    if signal ∈ signals then (s.records signal).drop limit else s.records signal

theorem Drained.nil {s : SignalState} (hq : s.queue.Sound) (limit : Nat) : s.Drained limit [] s :=
  ⟨rfl, hq, fun _ ↦ (if_neg List.not_mem_nil).symm⟩

/-- Where there is nothing to take, nothing is taken. -/
theorem Drained.of_eq {s : SignalState} (hq : s.queue.Sound) {limit signal : Nat}
    (h : (s.records signal).drop limit = s.records signal) : s.Drained limit [signal] s where
  blocked := rfl
  sound := hq
  records other := by
    split
    case isTrue hother => rw [List.mem_singleton.1 hother, h]
    case isFalse => rfl

theorem Drained.append {s left left' : SignalState} {limit : Nat} {signals signals' : List Nat}
    (h : s.Drained limit signals left) (h' : left.Drained limit signals' left')
    (hdisjoint : ∀ signal ∈ signals', signal ∉ signals) :
    s.Drained limit (signals ++ signals') left' where
  blocked := h'.blocked.trans h.blocked
  sound := h'.sound
  records signal := by
    rw [h'.records, h.records]
    grind

/-- A list that loses its records one by one. -/
theorem Drained.of_taken {s left left' : SignalState} {limit signal : Nat} {o : Occurrence}
    (h : s.Taken signal o left) (h' : left.Drained limit [signal] left') :
    s.Drained (limit + 1) [signal] left' where
  blocked := h'.blocked.trans h.blocked_eq
  sound := h'.sound
  records other := by
    rw [h'.records]
    split
    case isTrue hother =>
      rw [List.mem_singleton.1 hother, h.records_eq]
      rfl
    case isFalse hother => exact h.records_of_ne other fun h ↦ hother (List.mem_singleton.2 h)

/-- If the oldest records of what was deliverable are gone, blocked signals have all their records
left. -/
theorem Drained.records_eq {s left : SignalState} {limit : Nat} (hq : s.queue.Sound)
    (h : s.Drained limit s.deliverable.toList left) (signal : Nat) :
    left.records signal =
      if signal ∈ s.blocked then s.records signal else (s.records signal).drop limit := by
  simp only [h.records, SignalSet.mem_toList]
  by_cases hblocked : signal ∈ s.blocked
  · rw [if_pos hblocked, if_neg ((clean_iff hq).1 (.inl hblocked))]
  · rw [if_neg hblocked]
    split
    case isTrue => rfl
    case isFalse hclean =>
      rw [((clean_iff hq).2 hclean).resolve_left hblocked, List.drop_nil]

end SignalState

namespace Kernel

variable {γ : Type}

/-- What the sink gets for one occurrence, and the mask of the thread at that moment. -/
structure Handed where
  id : ThreadId
  timing : Timing
  occurrence : Occurrence
  mask : SignalSet
deriving DecidableEq

/-- A sink that makes no calls: all it does is to note what it is handed. It may log. -/
def Sink.Notes (sink : Sink γ) (noted : γ → Handed → γ) : Prop :=
  ∀ id timing o kernel, (sink id timing o kernel).2.scheduler = kernel.scheduler ∧
    (sink id timing o kernel).2.client =
      noted kernel.client ⟨id, timing, o, (kernel.thread id).signals.blocked⟩

/-- From one kernel to another: a thread has other signals, the other threads are the same, and the
client noted what was handed over. -/
structure HandsOver (noted : γ → Handed → γ) (id : ThreadId) (thread : Thread)
    (handed : List Handed) (left : SignalState) (kernel after : Kernel γ) : Prop where
  found : after.scheduler.threads.find? id = some { thread with signals := left }
  others : ∀ other, other ≠ id →
    after.scheduler.threads.find? other = kernel.scheduler.threads.find? other
  client : after.client = handed.foldl noted kernel.client

section HandsOver

variable {noted : γ → Handed → γ} {id : ThreadId} {thread : Thread} {handed handed' : List Handed}
  {left left' : SignalState} {kernel middle after : Kernel γ}

theorem HandsOver.same (h : HandsOver noted id thread handed left kernel middle)
    (hsame : Same middle after) : HandsOver noted id thread handed left kernel after where
  found := hsame.scheduler ▸ h.found
  others other hother := hsame.scheduler ▸ h.others other hother
  client := hsame.client.trans h.client

theorem HandsOver.append (h : HandsOver noted id thread handed left kernel middle)
    (h' : HandsOver noted id { thread with signals := left } handed' left' middle after) :
    HandsOver noted id thread (handed ++ handed') left' kernel after where
  found := h'.found
  others other hother := (h'.others other hother).trans (h.others other hother)
  client := by rw [h'.client, h.client, List.foldl_append]

/-- Nothing happened. -/
theorem HandsOver.refl (hthread : kernel.scheduler.threads.find? id = some thread) :
    HandsOver noted id thread [] thread.signals kernel kernel :=
  ⟨hthread, fun _ _ ↦ rfl, rfl⟩

theorem thread_eq (hthread : kernel.scheduler.threads.find? id = some thread) :
    kernel.thread id = thread := by
  rw [Kernel.thread, ThreadTable.get, hthread, Option.getD_some]

/-- Changing a thread changes what is found under its identity. -/
theorem find?_modifyThread (change : Thread → Thread)
    (hid : ∀ thread, (change thread).id = thread.id)
    (hthread : kernel.scheduler.threads.find? id = some thread) :
    (modifyThread id change kernel).2.scheduler.threads.find? id = some (change thread) ∧
      ∀ other, other ≠ id →
        (modifyThread id change kernel).2.scheduler.threads.find? other =
          kernel.scheduler.threads.find? other := by
  have hfind (other : ThreadId) := kernel.scheduler.threads.find?_modify id other hid
  constructor
  · have hself := hfind id
    rw [hthread, Option.map_some, if_pos rfl] at hself
    exact hself
  · intro other hother
    have hsame := hfind other
    simp only [if_neg hother, Option.map_id'] at hsame
    exact hsame

/-- A step on a thread's signals. -/
theorem handsOver_withSignals (noted : γ → Handed → γ) {α : Type}
    (f : SignalState → α × SignalState)
    (hthread : kernel.scheduler.threads.find? id = some thread) :
    (withSignals id f kernel).1 = (f thread.signals).1 ∧
      HandsOver noted id thread [] (f thread.signals).2 kernel (withSignals id f kernel).2 := by
  obtain rfl := thread_eq hthread
  have hentered : (enter kernel).2.scheduler.threads.find? id = some (kernel.thread id) := hthread
  obtain ⟨hfound, hothers⟩ := find?_modifyThread
    (fun thread' ↦ { thread' with signals := (f (kernel.thread id).signals).2 }) (fun _ ↦ rfl)
    hentered
  exact ⟨rfl, hfound, hothers, rfl⟩

/-- What a request for a change does, if its mode is known. -/
theorem requestMask_ok (sink : Sink γ) (id : ThreadId) (old : SignalSet) (mode : MaskMode)
    (set : SignalSet) (kernel : Kernel γ) :
    requestMask sink id old mode.code (some set) kernel =
      (.ok (), (installMask sink id old mode set kernel).2) := by
  rw [requestMask, MaskMode.ofCode_code]
  rfl

/-- Giving back a level of the lock is not seen in anything but the level. -/
theorem find?_unlockScheduler (hthread : kernel.scheduler.threads.find? id = some thread) :
    (unlockScheduler id kernel).2.scheduler.threads.find? id =
        some { thread with lockDepth := thread.lockDepth - 1 } ∧
      ∀ other, other ≠ id →
        (unlockScheduler id kernel).2.scheduler.threads.find? other =
          kernel.scheduler.threads.find? other := by
  rw [(run_unlockScheduler id kernel).1, Scheduler.threads_unlock]
  exact find?_modifyThread (fun thread ↦ { thread with lockDepth := thread.lockDepth - 1 })
    (fun _ ↦ rfl) hthread

/-- A call on a mask takes a level of the lock and looks at the mask; then it does what it is asked
for, and gives the level back. -/
theorem run_changeMask (hthread : kernel.scheduler.threads.find? id = some thread) :
    ∃ read, read.scheduler.threads.find? id =
        some { thread with lockDepth := thread.lockDepth + 1 } ∧
      (∀ other, other ≠ id →
        read.scheduler.threads.find? other = kernel.scheduler.threads.find? other) ∧
      read.client = kernel.client ∧
      ∀ (sink : Sink γ) (how : Int) (set : Option SignalSet), changeMask sink id how set kernel =
        (⟨thread.signals.blocked, (requestMask sink id thread.signals.blocked how set read).1⟩,
          (unlockScheduler id
            (requestMask sink id thread.signals.blocked how set read).2).2) := by
  obtain ⟨hlocked, hothers⟩ := find?_modifyThread
    (fun thread ↦ { thread with lockDepth := thread.lockDepth + 1 }) (fun _ ↦ rfl) hthread
  let read := (readSignals id (·.blocked) (lockScheduler id kernel).2).2
  have hread : read.scheduler.threads.find? id =
      some { thread with lockDepth := thread.lockDepth + 1 } := hlocked
  have hold : (readSignals id (·.blocked) (lockScheduler id kernel).2).1 = thread.signals.blocked :=
    congrArg (·.signals.blocked) (thread_eq hread)
  refine ⟨read, hread, hothers, rfl, fun sink how set ↦ ?_⟩
  simp only [changeMask, run_bind, run_pure, hold]
  rfl

variable {sink : Sink γ} (hsink : Sink.Notes sink noted)
include hsink

/-- An occurrence is handed over under the mask that the thread has. -/
theorem handsOver_dispatch (hthread : kernel.scheduler.threads.find? id = some thread)
    (timing : Timing) (o : Occurrence) :
    HandsOver noted id thread [⟨id, timing, o, thread.signals.blocked⟩] thread.signals kernel
      (dispatch sink id timing o kernel).2 := by
  have hnotified := same_notify (.delivering o.signal id) kernel
  rw [← hnotified.scheduler] at hthread
  obtain ⟨hscheduler, hclient⟩ := hsink id timing o (notify (.delivering o.signal id) kernel).2
  rw [hnotified.client, thread_eq hthread] at hclient
  rw [hnotified.scheduler] at hscheduler
  refine ⟨?_, fun other _ ↦ ?_, hclient⟩
  · rw [dispatch, run_bind, hscheduler, ← hnotified.scheduler]
    exact hthread
  · rw [dispatch, run_bind, hscheduler]

/-- Draining a signal that is not blocked hands over its oldest records, the oldest first. -/
theorem handsOver_drain {signal : Nat}
    (hthread : kernel.scheduler.threads.find? id = some thread)
    (hq : thread.signals.queue.Sound) (hopen : signal ∉ thread.signals.blocked)
    (limit delivered : Nat) :
    ∃ left, thread.signals.Drained limit [signal] left ∧
      HandsOver noted id thread
        (((thread.signals.records signal).take limit).map
          (⟨id, .deferred, ·, thread.signals.blocked⟩))
        left kernel (drain sink id signal limit delivered kernel).2 := by
  induction limit generalizing kernel thread delivered with
  | zero => exact ⟨thread.signals, .of_eq hq List.drop_zero, .refl hthread⟩
  | succ limit ih =>
    obtain ⟨htaken, htook⟩ := handsOver_withSignals noted (·.takeUnblocked signal) hthread
    rw [Kernel.drain, run_bind]
    cases htake : (thread.signals.takeUnblocked signal).1 with
    | none =>
      -- the signal is open, so that nothing is taken only if its list is empty
      obtain ⟨hclean, hkept⟩ := SignalState.takeUnblocked_of_none hq htake
      have hempty := hclean.resolve_left hopen
      rw [htake] at htaken
      rw [htaken, hempty]
      rw [hkept] at htook
      rw [List.take_nil]
      exact ⟨thread.signals, .of_eq hq (by rw [hempty, List.drop_nil]), htook⟩
    | some o =>
      have hfrom := SignalState.takeUnblocked_of_some hq htake
      rw [htake] at htaken
      rw [htaken]
      have hnotified := htook.same (same_notify (.recordTaken id o) _)
      have hhanded := handsOver_dispatch hsink hnotified.found .deferred o
      rw [← hfrom.blocked_eq] at hopen
      obtain ⟨left, hleft, hrest⟩ := ih hhanded.found hfrom.sound hopen (delivered + 1)
      refine ⟨left, .of_taken hfrom hleft, ?_⟩
      have hall := (hnotified.append hhanded).append hrest
      rw [hfrom.records_eq, List.take_succ_cons, List.map_cons, ← hfrom.blocked_eq]
      exact hall

/-- What the draining of several signals hands over. -/
theorem handsOver_drainEach (limit : Nat)
    (hthread : kernel.scheduler.threads.find? id = some thread)
    (hq : thread.signals.queue.Sound) {signals : List Nat}
    (hnodup : signals.Nodup) (hopen : ∀ signal ∈ signals, signal ∉ thread.signals.blocked)
    (delivered : Nat) :
    ∃ left, thread.signals.Drained limit signals left ∧
      HandsOver noted id thread
        ((signals.flatMap fun signal ↦ (thread.signals.records signal).take limit).map
          (⟨id, .deferred, ·, thread.signals.blocked⟩))
        left kernel (drainEach sink id limit signals delivered kernel).2 := by
  induction signals generalizing kernel thread delivered with
  | nil => exact ⟨thread.signals, .nil hq limit, .refl hthread⟩
  | cons first rest ih =>
    obtain ⟨hfirst, hrest⟩ := List.nodup_cons.1 hnodup
    obtain ⟨hopenFirst, hopenRest⟩ := List.forall_mem_cons.1 hopen
    obtain ⟨left, hleft, hdrained⟩ := handsOver_drain hsink hthread hq hopenFirst limit delivered
    have hdisjoint : ∀ signal ∈ rest, signal ∉ [first] := fun signal hsignal hmem ↦
      hfirst (List.mem_singleton.1 hmem ▸ hsignal)
    -- the lists that come later are still what they were at the beginning
    have hrecords : ∀ signal ∈ rest,
        (left.records signal).take limit = (thread.signals.records signal).take limit := by
      intro signal hsignal
      rw [hleft.records, if_neg (hdisjoint signal hsignal)]
    rw [← hleft.blocked] at hopenRest
    obtain ⟨left', hleft', hrested⟩ :=
      ih hdrained.found hleft.sound hrest hopenRest
        (drain sink id first limit delivered kernel).1
    refine ⟨left', hleft.append hleft' hdisjoint, ?_⟩
    have hall := hdrained.append hrested
    rw [List.flatMap_congr hrecords, hleft.blocked, ← List.map_append] at hall
    exact hall

/-- What a sweep hands over: the oldest records of pending signals that are not blocked, as many of
each as the thread was created with slots. -/
theorem handsOver_sweep (hthread : kernel.scheduler.threads.find? id = some thread)
    (hq : thread.signals.queue.Sound) :
    ∃ left,
      thread.signals.Drained thread.pendingCapacity thread.signals.deliverable.toList left ∧
      HandsOver noted id thread
        ((thread.signals.oldestOf thread.pendingCapacity thread.signals.deliverable).map
          (⟨id, .deferred, ·, thread.signals.blocked⟩))
        left kernel (sweep sink id kernel).2 := by
  have hread := same_readSignals id (·.deliverable) kernel
  have hready : (readSignals id (·.deliverable) kernel).1 = thread.signals.deliverable := by
    rw [← thread_eq hthread]
    rfl
  have hthread' : (readSignals id (·.deliverable) kernel).2.scheduler.threads.find? id =
      some thread := by
    rw [hread.scheduler]
    exact hthread
  rw [SignalState.oldestOf, ← SignalSet.toList_eq_filter, sweep, run_bind, hready]
  split
  case isTrue hempty =>
    rw [SignalSet.isEmpty_iff.1 hempty]
    exact ⟨thread.signals, .nil hq _, (HandsOver.refl hthread).same hread⟩
  case isFalse =>
    rw [run_bind, run_get]
    show ∃ left, _ ∧ HandsOver noted id thread _ left kernel (drainEach sink id
      ((readSignals id (·.deliverable) kernel).2.thread id).pendingCapacity _ 0
      (readSignals id (·.deliverable) kernel).2).2
    rw [thread_eq hthread']
    have hopen : ∀ signal ∈ thread.signals.deliverable.toList, signal ∉ thread.signals.blocked := by
      intro signal hsignal
      rw [SignalSet.mem_toList, SignalState.deliverable, SignalSet.mem_sdiff] at hsignal
      exact hsignal.2
    obtain ⟨left, hleft, hdrained⟩ := handsOver_drainEach hsink _ hthread' hq
      ((SignalSet.pairwise_toList _).imp Nat.ne_of_lt) hopen 0
    exact ⟨left, hleft, ((HandsOver.refl hthread).same hread).append hdrained⟩

/-- What the change of a mask hands over, from the new mask on. -/
theorem handsOver_installMask (hthread : kernel.scheduler.threads.find? id = some thread)
    (hq : thread.signals.queue.Sound) (old : SignalSet) (mode : MaskMode) (set : SignalSet) :
    ∃ left, (thread.signals.changeMask mode set).Drained thread.pendingCapacity
        (thread.signals.changeMask mode set).deliverable.toList left ∧
      HandsOver noted id thread
        ((thread.signals.oldestOf thread.pendingCapacity
            (thread.signals.changeMask mode set).deliverable).map
          (⟨id, .deferred, ·, (thread.signals.changeMask mode set).blocked⟩))
        left kernel (installMask sink id old mode set kernel).2 := by
  let change : SignalState → SignalSet × SignalState := fun signals ↦
    ((signals.changeMask mode set).blocked, signals.changeMask mode set)
  obtain ⟨-, hchanged⟩ := handsOver_withSignals noted change hthread
  have hnotified := hchanged.same
    (same_notify (.maskChanged id old (withSignals id change kernel).1 mode set) _)
  have hq' : (thread.signals.changeMask mode set).queue.Sound := by
    rw [SignalState.queue_changeMask]
    exact hq
  obtain ⟨left, hleft, hswept⟩ := handsOver_sweep hsink hnotified.found hq'
  have hall := hnotified.append hswept
  rw [SignalState.oldestOf_changeMask] at hall
  exact ⟨left, hleft, hall⟩

/-- What a call does that changes a thread's mask to `mask`. A thread may have more records of a
signal than it was created with slots, if its signals were replaced; a call hands over no more of
them than that. -/
structure MaskInstalled (noted : γ → Handed → γ) (id : ThreadId) (thread : Thread)
    (mask : SignalSet) (kernel : Kernel γ) (reply : MaskReply) (after : Kernel γ) : Prop where
  outcome : reply.outcome = .ok ()
  old : reply.old = thread.signals.blocked
  changed : ∃ signals : SignalState,
    after.scheduler.threads.find? id = some { thread with signals } ∧ signals.blocked = mask ∧
      signals.queue.Sound ∧
        ∀ signal, signals.records signal =
          if signal ∈ mask then thread.signals.records signal
          else (thread.signals.records signal).drop thread.pendingCapacity
  others : ∀ other, other ≠ id →
    after.scheduler.threads.find? other = kernel.scheduler.threads.find? other
  handed : after.client =
    ((thread.signals.oldestOf thread.pendingCapacity (thread.signals.pending \ mask)).map
      (⟨id, .deferred, ·, mask⟩)).foldl noted kernel.client

/-- What a change of a thread's mask hands over, and the mask that it tells. -/
theorem changeMask_installs (hthread : kernel.scheduler.threads.find? id = some thread)
    (hq : thread.signals.queue.Sound) (hmask : thread.signals.blocked ∩ .unblockable = ∅)
    (mode : MaskMode) (set : SignalSet) :
    MaskInstalled noted id thread (mode.combine thread.signals.blocked set \ .unblockable) kernel
      (changeMask sink id mode.code (some set) kernel).1
      (changeMask sink id mode.code (some set) kernel).2 := by
  obtain ⟨read, hread, hothers, hkept, hrun⟩ := run_changeMask hthread
  let installed := (installMask sink id thread.signals.blocked mode set read).2
  obtain ⟨left, hleft, hinstalled⟩ :=
    handsOver_installMask hsink hread hq thread.signals.blocked mode set
  obtain ⟨hfound, hothers'⟩ := find?_unlockScheduler hinstalled.found
  have hclient := (run_unlockScheduler id installed).2
  rw [hrun, requestMask_ok]
  constructor
  case outcome => rfl
  case old => rfl
  case changed =>
    refine ⟨left, ?_, ?_, hleft.sound, ?_⟩
    · rw [hfound]
      simp
    · rw [hleft.blocked, SignalState.changeMask_eq hmask]
    · intro signal
      have hq' : (thread.signals.changeMask mode set).queue.Sound := by
        rw [SignalState.queue_changeMask]
        exact hq
      rw [hleft.records_eq hq', SignalState.changeMask_eq hmask, SignalState.records_changeMask]
  case others =>
    intro other hother
    rw [hothers' other hother, hinstalled.others other hother]
    exact hothers other hother
  case handed =>
    rw [hclient, hinstalled.client, hkept, SignalState.changeMask_eq hmask,
      SignalState.deliverable_changeMask hmask]

/-- What a call that changes a thread's mask does. -/
structure MaskChanged (noted : γ → Handed → γ) (id : ThreadId) (thread : Thread) (mask : SignalSet)
    (kernel : Kernel γ) (reply : MaskReply) (after : Kernel γ) : Prop where
  outcome : reply.outcome = .ok ()
  old : reply.old = thread.signals.blocked
  /-- The thread has the mask, and no records but those of the signals that it blocks. -/
  changed : ∃ signals : SignalState,
    after.scheduler.threads.find? id = some { thread with signals } ∧ signals.blocked = mask ∧
      ∀ signal, signals.records signal =
        if signal ∈ mask then thread.signals.records signal else []
  others : ∀ other, other ≠ id →
    after.scheduler.threads.find? other = kernel.scheduler.threads.find? other
  /-- All other records were handed over under the new mask, the lowest signal first and the oldest
  record of each first. -/
  handed : after.client =
    ((thread.signals.recordsOf (thread.signals.pending \ mask)).map
      (⟨id, .deferred, ·, mask⟩)).foldl noted kernel.client

omit hsink in
/-- If no signal has more records than the thread was created with slots, a call leaves none of a
signal that is not blocked. -/
theorem MaskInstalled.maskChanged {mask : SignalSet} {reply : MaskReply}
    (h : MaskInstalled noted id thread mask kernel reply after)
    (hfits : ∀ signal, (thread.signals.records signal).length ≤ thread.pendingCapacity) :
    MaskChanged noted id thread mask kernel reply after where
  outcome := h.outcome
  old := h.old
  changed := by
    obtain ⟨signals, hfound, hmask, -, hrecords⟩ := h.changed
    refine ⟨signals, hfound, hmask, fun signal ↦ ?_⟩
    rw [hrecords, List.drop_eq_nil_of_le (hfits signal)]
  others := h.others
  handed := by rw [h.handed, SignalState.oldestOf_eq hfits]

/-- A change of a thread's mask hands over what it unblocks, and tells the mask that it found. -/
theorem changeMask_hands (hthread : kernel.scheduler.threads.find? id = some thread)
    (hbox : thread.mailbox.Sound) (hmask : thread.signals.blocked ∩ .unblockable = ∅)
    (mode : MaskMode) (set : SignalSet) :
    MaskChanged noted id thread (mode.combine thread.signals.blocked set \ .unblockable) kernel
      (changeMask sink id mode.code (some set) kernel).1
      (changeMask sink id mode.code (some set) kernel).2 :=
  (changeMask_installs hsink hthread hbox.queue hmask mode set).maskChanged
    hbox.length_records_le

end HandsOver

end Kernel

end SignalKernel
