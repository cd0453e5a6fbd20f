import Mathlib.Algebra.Group.Nat.Defs
import Mathlib.Data.List.Nodup
import SignalKernel.Proofs.Kernel.Turns

/-!
# The run queue

Every thread either runs or waits, once, except for the idle thread, which runs or does neither.
`queue` lists the threads by that, and the invariant `InOrder` says that it has all of them. It
holds as long as identities do not repeat, which takes 2 ^ 64 threads. Rotating moves the thread
that runs to the end of the queue and is the same for a thread that is made to run out of turn.
-/

namespace SignalKernel.Scheduler

variable {scheduler after : Scheduler} {id : ThreadId}

/-- The identities of all threads, the idle thread's first. -/
def ids (scheduler : Scheduler) : List ThreadId :=
  scheduler.threads.toList.map Thread.id

/-- Identities are counted with the idle thread's. -/
theorem length_ids_le (h : scheduler.threads.spawned.length < 2 ^ 64) :
    scheduler.ids.length ≤ 2 ^ 64 := by
  rw [ids, List.length_map]
  exact h

theorem mem_ids : id ∈ scheduler.ids ↔ ∃ thread, scheduler.threads.find? id = some thread := by
  rw [← Option.isSome_iff_exists, ThreadTable.find?, List.find?_isSome]
  simp [ids]

theorem idle_of_ids (h : after.ids = scheduler.ids) : after.idle = scheduler.idle :=
  (List.cons.inj h).1

theorem ids_of_threads (h : after.threads = scheduler.threads) : after.ids = scheduler.ids := by
  rw [ids, ids, h]

theorem ids_lock (scheduler : Scheduler) (id : ThreadId) :
    (scheduler.lock id).ids = scheduler.ids :=
  ThreadTable.ids_modify scheduler.threads id fun _ ↦ rfl

theorem ids_giveBack (scheduler : Scheduler) (id : ThreadId) :
    (scheduler.giveBack id).ids = scheduler.ids :=
  ThreadTable.ids_modify scheduler.threads id fun _ ↦ rfl

theorem ids_spawn (scheduler : Scheduler) (config : ThreadConfig) :
    (scheduler.spawn config).2.ids = scheduler.ids ++ [scheduler.nextId] := by
  show (scheduler.threads.add _).toList.map Thread.id = _
  rw [ThreadTable.toList_add, List.map_append]
  rfl

theorem ids_rotate (scheduler : Scheduler) : scheduler.rotate.2.ids = scheduler.ids :=
  ids_of_threads (threads_rotate scheduler)

theorem ids_setCurrent (scheduler : Scheduler) (id : ThreadId) :
    (scheduler.setCurrent id).2.ids = scheduler.ids :=
  ids_of_threads (threads_setCurrent scheduler id)

/-- A thread that does not exist is not made to run. -/
theorem setCurrent_of_none (h : scheduler.threads.find? id = none) :
    scheduler.setCurrent id = (false, scheduler) := by
  rw [setCurrent, h]

theorem setCurrent_of_some {thread : Thread} (h : scheduler.threads.find? id = some thread) :
    scheduler.setCurrent id = (true,
      { scheduler with
        ready := if scheduler.current = id then scheduler.ready.filter (· != id)
          else scheduler.requeue (scheduler.ready.filter (· != id))
        current := id }) := by
  rw [setCurrent, h]

/-! ## All threads, once each -/

/-- The threads by whose turn it is: the one that runs, and then those that wait. The idle thread
comes before them if it does not run. -/
def queue (scheduler : Scheduler) : List ThreadId :=
  if scheduler.current = scheduler.idle then scheduler.current :: scheduler.ready
  else scheduler.idle :: scheduler.current :: scheduler.ready

theorem queue_of_idle (h : scheduler.current = scheduler.idle) :
    scheduler.queue = scheduler.idle :: scheduler.ready := by
  rw [queue, if_pos h, h]

theorem queue_of_ne_idle (h : scheduler.current ≠ scheduler.idle) :
    scheduler.queue = scheduler.idle :: scheduler.current :: scheduler.ready :=
  if_neg h

section Created

variable (h : scheduler.queue.Perm scheduler.ids)
include h

/-- If the queue has all threads, the thread that runs exists. -/
theorem find?_current :
    scheduler.threads.find? scheduler.current = some scheduler.currentThread := by
  have hmem : scheduler.current ∈ scheduler.queue := by
    unfold queue
    split <;> simp
  obtain ⟨thread, hthread⟩ := mem_ids.1 (h.mem_iff.1 hmem)
  rw [currentThread, ThreadTable.get, hthread]
  rfl

/-- Those that were created run or wait. -/
theorem running_or_waiting (hid : id ∈ scheduler.threads.spawned.map Thread.id) :
    id = scheduler.current ∨ id ∈ scheduler.ready := by
  by_cases hidle : scheduler.current = scheduler.idle
  · rw [queue_of_idle hidle] at h
    exact .inr (h.cons_inv.mem_iff.2 hid)
  · rw [queue_of_ne_idle hidle] at h
    exact List.mem_cons.1 (h.cons_inv.mem_iff.2 hid)

/-- Only threads that were created wait. -/
theorem created_of_mem_ready (hid : id ∈ scheduler.ready) :
    id ∈ scheduler.threads.spawned.map Thread.id := by
  by_cases hidle : scheduler.current = scheduler.idle
  · rw [queue_of_idle hidle] at h
    exact h.cons_inv.mem_iff.1 hid
  · rw [queue_of_ne_idle hidle] at h
    exact h.cons_inv.mem_iff.1 (List.mem_cons_of_mem _ hid)

end Created

section Nodup

variable (h : scheduler.queue.Nodup)
include h

theorem idle_not_mem_ready : scheduler.idle ∉ scheduler.ready := by
  by_cases hidle : scheduler.current = scheduler.idle
  · rw [queue_of_idle hidle] at h
    exact (List.nodup_cons.1 h).1
  · rw [queue_of_ne_idle hidle] at h
    exact fun hmem ↦ (List.nodup_cons.1 h).1 (List.mem_cons_of_mem _ hmem)

theorem current_not_mem_ready : scheduler.current ∉ scheduler.ready := by
  by_cases hidle : scheduler.current = scheduler.idle
  · rw [hidle]
    exact idle_not_mem_ready h
  · rw [queue_of_ne_idle hidle] at h
    exact (List.nodup_cons.1 (List.nodup_cons.1 h).2).1

theorem nodup_ready : scheduler.ready.Nodup := by
  by_cases hidle : scheduler.current = scheduler.idle
  · rw [queue_of_idle hidle] at h
    exact (List.nodup_cons.1 h).2
  · rw [queue_of_ne_idle hidle] at h
    exact (List.nodup_cons.1 (List.nodup_cons.1 h).2).2

/-- The queue of a scheduler on which another thread runs, which does not wait any more. -/
theorem queue_perm_of_next {next : ThreadId} {waiting : List ThreadId}
    (hready : scheduler.ready.Perm (next :: waiting)) (hidle : after.idle = scheduler.idle)
    (hcurrent : after.current = next) (hafter : after.ready = scheduler.requeue waiting) :
    after.queue.Perm scheduler.queue := by
  have hnext : after.current ≠ after.idle := by
    rw [hcurrent, hidle]
    rintro rfl
    exact idle_not_mem_ready h (hready.mem_iff.2 (List.mem_cons_self ..))
  rw [queue_of_ne_idle hnext, hidle, hcurrent, hafter, requeue]
  by_cases hran : scheduler.current = scheduler.idle
  · rw [if_pos hran, queue_of_idle hran]
    exact hready.symm.cons _
  · rw [if_neg hran, queue_of_ne_idle hran]
    refine List.Perm.cons _ ?_
    exact (List.perm_append_singleton _ (next :: waiting)).trans (hready.symm.cons _)

theorem queue_rotate_perm : scheduler.rotate.2.queue.Perm scheduler.queue := by
  cases hready : scheduler.ready with
  | nil => rw [rotate_of_ready_nil hready]
  | cons next waiting =>
      rw [rotate_of_ready_cons hready]
      exact queue_perm_of_next h (hready ▸ .refl _) rfl rfl rfl

/-- A thread that exists waits or runs, or it is the idle thread and another one runs. -/
theorem waits_or_runs (hids : scheduler.queue.Perm scheduler.ids) (hid : id ∈ scheduler.ids) :
    id ∈ scheduler.ready ∨ id ∉ scheduler.ready ∧
      (scheduler.current = id ∨ scheduler.current ≠ scheduler.idle ∧ id = scheduler.idle) := by
  rw [← hids.mem_iff] at hid
  by_cases hran : scheduler.current = scheduler.idle
  · rw [queue_of_idle hran, List.mem_cons] at hid
    rcases hid with rfl | hready
    · exact .inr ⟨idle_not_mem_ready h, .inl hran⟩
    · exact .inl hready
  · rw [queue_of_ne_idle hran, List.mem_cons, List.mem_cons] at hid
    rcases hid with rfl | rfl | hready
    · exact .inr ⟨idle_not_mem_ready h, .inr ⟨hran, rfl⟩⟩
    · exact .inr ⟨current_not_mem_ready h, .inl rfl⟩
    · exact .inl hready

theorem queue_setCurrent_perm (hids : scheduler.queue.Perm scheduler.ids) (id : ThreadId) :
    (scheduler.setCurrent id).2.queue.Perm scheduler.queue := by
  cases hfind : scheduler.threads.find? id with
  | none => rw [setCurrent_of_none hfind]
  | some thread =>
      rw [setCurrent_of_some hfind]
      rcases waits_or_runs h hids (mem_ids.2 ⟨thread, hfind⟩) with hready | ⟨hready, hrest⟩
      · have hcurrent : scheduler.current ≠ id := by
          rintro rfl
          exact current_not_mem_ready h hready
        have herase : scheduler.ready.filter (· != id) = scheduler.ready.erase id :=
          ((nodup_ready h).erase_eq_filter id).symm
        refine queue_perm_of_next h (List.perm_cons_erase hready) rfl rfl ?_
        simp only [if_neg hcurrent, herase]
      · have hwaiting : scheduler.ready.filter (· != id) = scheduler.ready := by
          refine List.filter_eq_self.2 fun other hother ↦ bne_iff_ne.2 ?_
          rintro rfl
          exact hready hother
        simp only [hwaiting]
        rcases hrest with rfl | ⟨hran, rfl⟩
        · simp only [if_pos]
          exact .refl _
        · simp only [if_neg hran, requeue]
          rw [queue_of_ne_idle hran, queue_of_idle rfl]
          exact (List.perm_append_singleton _ _).cons _

end Nodup

/-! ## The invariant -/

/-- Threads are numbered in the order of their creation, from the idle thread's 0 on, and as long as
no number repeats, each of them has its turn in the queue. -/
structure InOrder (scheduler : Scheduler) : Prop where
  numbered : scheduler.ids = (List.range scheduler.ids.length).map UInt64.ofNat
  next : scheduler.nextId = UInt64.ofNat scheduler.ids.length
  queue : scheduler.ids.length ≤ 2 ^ 64 → scheduler.queue.Perm scheduler.ids

/-- Identities do not repeat below 2 ^ 64. -/
theorem InOrder.nodup (h : scheduler.InOrder) (hfew : scheduler.ids.length ≤ 2 ^ 64) :
    scheduler.ids.Nodup := by
  rw [h.numbered]
  refine List.Nodup.map_on (fun first hfirst second hsecond heq ↦ ?_) List.nodup_range
  rw [List.mem_range] at hfirst hsecond
  have hnumber := congrArg UInt64.toNat heq
  simp only [UInt64.toNat_ofNat'] at hnumber
  omega

theorem InOrder.queue_nodup (h : scheduler.InOrder) (hfew : scheduler.ids.length ≤ 2 ^ 64) :
    scheduler.queue.Nodup :=
  (h.queue hfew).nodup_iff.2 (h.nodup hfew)

theorem inOrder_initial : InOrder {} where
  numbered := rfl
  next := rfl
  queue _ := .refl _

/-- What changes no identity keeps the invariant if it keeps the queue, up to its order. -/
theorem InOrder.of_ids (h : scheduler.InOrder) (hids : after.ids = scheduler.ids)
    (hnext : after.nextId = scheduler.nextId)
    (hqueue : scheduler.queue.Nodup → scheduler.queue.Perm scheduler.ids →
      after.queue.Perm scheduler.queue) : after.InOrder where
  numbered := by
    rw [hids]
    exact h.numbered
  next := by
    rw [hids, hnext]
    exact h.next
  queue hfew := by
    rw [hids] at hfew ⊢
    exact (hqueue (h.queue_nodup hfew) (h.queue hfew)).trans (h.queue hfew)

theorem queue_eq (hids : after.ids = scheduler.ids) (hcurrent : after.current = scheduler.current)
    (hready : after.ready = scheduler.ready) : after.queue = scheduler.queue := by
  rw [queue, queue, idle_of_ids hids, hcurrent, hready]

theorem InOrder.of_sameTurns (h : scheduler.InOrder) (hturns : SameTurns scheduler after) :
    after.InOrder :=
  h.of_ids hturns.ids hturns.nextId fun _ _ ↦
    .of_eq (queue_eq hturns.ids hturns.current hturns.ready)

theorem InOrder.lock (h : scheduler.InOrder) (id : ThreadId) : (scheduler.lock id).InOrder :=
  h.of_ids (ids_lock scheduler id) rfl fun _ _ ↦ .of_eq (queue_eq (ids_lock scheduler id) rfl rfl)

theorem InOrder.spawn (h : scheduler.InOrder) (config : ThreadConfig) :
    (scheduler.spawn config).2.InOrder := by
  have hids := ids_spawn scheduler config
  have hlength : (scheduler.spawn config).2.ids.length = scheduler.ids.length + 1 := by
    rw [hids, List.length_append, List.length_singleton]
  constructor
  case numbered =>
    rw [hlength, hids, List.range_succ, List.map_append, ← h.numbered, h.next]
    rfl
  case next =>
    rw [hlength, UInt64.ofNat_add, ← h.next]
    rfl
  case queue =>
    intro hfew
    have hqueue : (scheduler.spawn config).2.queue = scheduler.queue ++ [scheduler.nextId] := by
      show (if scheduler.current = scheduler.idle then
          scheduler.current :: (scheduler.ready ++ [scheduler.nextId])
        else scheduler.idle :: scheduler.current :: (scheduler.ready ++ [scheduler.nextId])) = _
      rw [Scheduler.queue]
      split <;> rfl
    rw [hqueue, hids]
    exact (h.queue (by omega)).append_right _

theorem InOrder.rotate (h : scheduler.InOrder) : scheduler.rotate.2.InOrder := by
  refine h.of_ids (ids_rotate scheduler) ?_ fun hnodup _ ↦ queue_rotate_perm hnodup
  unfold Scheduler.rotate
  split <;> rfl

theorem InOrder.setCurrent (h : scheduler.InOrder) (id : ThreadId) :
    (scheduler.setCurrent id).2.InOrder := by
  refine h.of_ids (ids_setCurrent scheduler id) ?_ fun hnodup hids ↦
    queue_setCurrent_perm hnodup hids id
  unfold Scheduler.setCurrent
  split <;> rfl

theorem InOrder.request (h : scheduler.InOrder) (requested : Bool) :
    InOrder { scheduler with reschedRequested := requested } :=
  ⟨h.numbered, h.next, h.queue⟩

theorem InOrder.preempt (h : scheduler.InOrder) : scheduler.preempt.2.InOrder := by
  unfold Scheduler.preempt
  split
  · exact (h.request false).rotate
  · exact h

theorem InOrder.unlock (h : scheduler.InOrder) (id : ThreadId) : (scheduler.unlock id).InOrder := by
  have hgiven : (scheduler.giveBack id).InOrder :=
    h.of_ids (ids_giveBack scheduler id) rfl fun _ _ ↦
      .of_eq (queue_eq (ids_giveBack scheduler id) rfl rfl)
  unfold Scheduler.unlock
  split
  · exact hgiven.preempt
  · exact hgiven

/-! ## Reports of switches -/

/-- A report of a switch tells the truth: there is one exactly if another thread runs than before,
and then it names both and the switch is counted. Without one, nothing changed. -/
structure Truthful (scheduler : Scheduler) (report : Option Switch) (after : Scheduler) : Prop where
  some_iff : ∀ before last, report = some ⟨before, last⟩ ↔
    before = scheduler.current ∧ last = after.current ∧ before ≠ last
  counted : report ≠ none → after.contextSwitches = scheduler.contextSwitches + 1
  none_iff : report = none ↔ after.current = scheduler.current ∧ after.ready = scheduler.ready ∧
    after.contextSwitches = scheduler.contextSwitches

theorem truthful_none (h : after.current = scheduler.current)
    (hready : after.ready = scheduler.ready)
    (hcount : after.contextSwitches = scheduler.contextSwitches) :
    Truthful scheduler none after where
  some_iff before last := by
    refine ⟨fun hreport ↦ (by cases hreport), ?_⟩
    rintro ⟨rfl, rfl, hne⟩
    exact absurd h.symm hne
  counted hreport := absurd rfl hreport
  none_iff := ⟨fun _ ↦ ⟨h, hready, hcount⟩, fun _ ↦ rfl⟩

theorem truthful_some {next : ThreadId} (hnext : next ≠ scheduler.current)
    (hcurrent : after.current = next)
    (hcount : after.contextSwitches = scheduler.contextSwitches + 1) :
    Truthful scheduler (some ⟨scheduler.current, next⟩) after := by
  subst hcurrent
  constructor
  case some_iff =>
    intro before last
    constructor
    · intro hreport
      cases hreport
      exact ⟨rfl, rfl, hnext.symm⟩
    · rintro ⟨rfl, rfl, -⟩
      rfl
  case counted => exact fun _ ↦ hcount
  case none_iff => exact ⟨fun hreport ↦ (by cases hreport), fun ⟨hsame, _, _⟩ ↦ absurd hsame hnext⟩

theorem truthful_rotate (h : scheduler.current ∉ scheduler.ready) :
    Truthful scheduler scheduler.rotate.1 scheduler.rotate.2 := by
  cases hready : scheduler.ready with
  | nil =>
      rw [rotate_of_ready_nil hready]
      exact truthful_none rfl rfl rfl
  | cons next waiting =>
      rw [hready] at h
      rw [rotate_of_ready_cons hready]
      refine truthful_some ?_ rfl rfl
      rintro rfl
      exact h (List.mem_cons_self ..)

theorem truthful_preempt (h : scheduler.current ∉ scheduler.ready) :
    Truthful scheduler scheduler.preempt.1 scheduler.preempt.2 := by
  unfold Scheduler.preempt
  split
  · have hrotated := @truthful_rotate { scheduler with reschedRequested := false } h
    exact ⟨hrotated.some_iff, hrotated.counted, hrotated.none_iff⟩
  · exact truthful_none rfl rfl rfl

end SignalKernel.Scheduler
