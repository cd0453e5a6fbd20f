import SignalKernel.Proofs.Kernel.RunQueue

/-!
# Deferring preemption

A request to reschedule is kept until a preemption point finds the scheduler lock of the running
thread free. There it is spent, and the first waiting thread runs, if there is one. `Follows` says
what this leaves from one point of a run to the next, and the lemmas on `preempt` and `unlock` say
what one preemption point does and what giving back one level of a lock does.
-/

namespace SignalKernel.Scheduler

variable {scheduler after : Scheduler} {id : ThreadId} {depth : UInt32}

/-! ## Threads that exist -/

theorem mem_ids_iff_depth? : id ∈ scheduler.ids ↔ ∃ depth, scheduler.depth? id = some depth := by
  rw [mem_ids]
  constructor
  · rintro ⟨thread, hthread⟩
    exact ⟨thread.lockDepth, congrArg (Option.map Thread.lockDepth) hthread⟩
  · rintro ⟨depth, hdepth⟩
    obtain ⟨thread, hthread, -⟩ := Option.map_eq_some_iff.1 hdepth
    exact ⟨thread, hthread⟩

/-- A new thread holds no lock. -/
theorem depth?_spawn (scheduler : Scheduler) (config : ThreadConfig) (id : ThreadId) :
    (scheduler.spawn config).2.depth? id =
      (scheduler.depth? id).or (if scheduler.nextId = id then some 0 else none) := by
  show ((scheduler.threads.add _).find? id).map Thread.lockDepth = _
  rw [ThreadTable.find?_add, Option.map_or, apply_ite (Option.map Thread.lockDepth)]
  rfl

/-- The thread that runs exists, and so do those that wait. -/
structure Listed (scheduler : Scheduler) : Prop where
  current : scheduler.current ∈ scheduler.ids
  ready : scheduler.ready ⊆ scheduler.ids

theorem Listed.depth? (h : scheduler.Listed) :
    ∃ depth, scheduler.depth? scheduler.current = some depth :=
  mem_ids_iff_depth?.1 h.current

/-- The thread that runs is found under its identity. -/
theorem Listed.find?_current (h : scheduler.Listed) :
    scheduler.threads.find? scheduler.current = some scheduler.currentThread ∧
      scheduler.currentThread.id = scheduler.current := by
  obtain ⟨thread, hthread⟩ := mem_ids.1 h.current
  have hcurrent : scheduler.currentThread = thread := by
    rw [currentThread, ThreadTable.get, hthread]
    rfl
  have hid := List.find?_some hthread
  rw [hcurrent]
  exact ⟨hthread, beq_iff_eq.1 hid⟩

theorem listed_initial : Listed {} :=
  ⟨List.mem_cons_self .., List.nil_subset _⟩

theorem Listed.of_ids (h : scheduler.Listed) (hids : after.ids = scheduler.ids)
    (hcurrent : after.current = scheduler.current) (hready : after.ready = scheduler.ready) :
    after.Listed := by
  constructor
  · rw [hids, hcurrent]
    exact h.current
  · rw [hids, hready]
    exact h.ready

theorem Listed.giveBack (h : scheduler.Listed) (id : ThreadId) : (scheduler.giveBack id).Listed :=
  h.of_ids (ids_giveBack scheduler id) rfl rfl

theorem Listed.spawn (h : scheduler.Listed) (config : ThreadConfig) :
    (scheduler.spawn config).2.Listed := by
  constructor
  · rw [ids_spawn]
    exact List.mem_append_left _ h.current
  · rw [ids_spawn]
    exact List.append_subset.2 ⟨List.subset_append_of_subset_left _ h.ready,
      List.subset_append_right ..⟩

theorem Listed.requeue (h : scheduler.Listed) {waiting : List ThreadId}
    (hwaiting : waiting ⊆ scheduler.ids) : scheduler.requeue waiting ⊆ scheduler.ids := by
  unfold Scheduler.requeue
  split
  · exact hwaiting
  · exact List.append_subset.2 ⟨hwaiting, List.cons_subset.2 ⟨h.current, List.nil_subset _⟩⟩

theorem Listed.rotate (h : scheduler.Listed) : scheduler.rotate.2.Listed := by
  cases hready : scheduler.ready with
  | nil =>
      rw [rotate_of_ready_nil hready]
      exact h
  | cons next waiting =>
      have hlisted := h.ready
      rw [hready, List.cons_subset] at hlisted
      rw [rotate_of_ready_cons hready]
      exact ⟨hlisted.1, h.requeue hlisted.2⟩

theorem Listed.setCurrent (h : scheduler.Listed) (id : ThreadId) :
    (scheduler.setCurrent id).2.Listed := by
  cases hfind : scheduler.threads.find? id with
  | none =>
      rw [setCurrent_of_none hfind]
      exact h
  | some thread =>
      have hwaiting : scheduler.ready.filter (· != id) ⊆ scheduler.ids :=
        List.Subset.trans (List.filter_subset_self _) h.ready
      rw [setCurrent_of_some hfind]
      refine ⟨mem_ids.2 ⟨thread, hfind⟩, ?_⟩
      show (if scheduler.current = id then _ else _) ⊆ scheduler.ids
      split
      · exact hwaiting
      · exact h.requeue hwaiting

theorem Listed.preempt (h : scheduler.Listed) : scheduler.preempt.2.Listed := by
  unfold Scheduler.preempt
  split
  · have hcleared : Listed { scheduler with reschedRequested := false } := ⟨h.current, h.ready⟩
    exact hcleared.rotate
  · exact h

theorem Listed.unlock (h : scheduler.Listed) (id : ThreadId) : (scheduler.unlock id).Listed := by
  unfold Scheduler.unlock
  split
  · exact (h.giveBack id).preempt
  · exact h.giveBack id

/-! ## Preemption points -/

/-- What a preemption point does that finds the lock free: no request is left, and if there was one,
the first waiting thread runs. -/
structure Spent (scheduler after : Scheduler) : Prop where
  cleared : after.reschedRequested = false
  current : after.current =
    if scheduler.reschedRequested then scheduler.ready.head?.getD scheduler.current
    else scheduler.current
  contextSwitches : after.contextSwitches =
    if scheduler.reschedRequested ∧ scheduler.ready ≠ [] then scheduler.contextSwitches + 1
    else scheduler.contextSwitches

/-- The same thread runs, and the same was requested. -/
structure Deferred (scheduler after : Scheduler) : Prop where
  reschedRequested : after.reschedRequested = scheduler.reschedRequested
  current : after.current = scheduler.current

/-- The same thread runs, the same threads wait, the same was requested, and as many switches were
made. -/
structure SameQueue (scheduler after : Scheduler) : Prop extends Deferred scheduler after where
  ready : after.ready = scheduler.ready
  contextSwitches : after.contextSwitches = scheduler.contextSwitches

theorem SameQueue.refl (scheduler : Scheduler) : SameQueue scheduler scheduler :=
  ⟨⟨rfl, rfl⟩, rfl, rfl⟩

theorem SameTurns.sameQueue (h : SameTurns scheduler after) : SameQueue scheduler after :=
  ⟨⟨h.reschedRequested, h.current⟩, h.ready, h.contextSwitches⟩

theorem SameQueue.trans {first second third : Scheduler} (h : SameQueue first second)
    (h' : SameQueue second third) : SameQueue first third :=
  ⟨⟨h'.reschedRequested.trans h.reschedRequested, h'.current.trans h.current⟩,
    h'.ready.trans h.ready, h'.contextSwitches.trans h.contextSwitches⟩

theorem SameQueue.spent {last : Scheduler} (h : SameQueue scheduler after)
    (hspent : after.Spent last) : scheduler.Spent last := by
  refine ⟨hspent.cleared, ?_, ?_⟩
  · rw [← h.reschedRequested, ← h.ready, ← h.current]
    exact hspent.current
  · rw [← h.reschedRequested, ← h.ready, ← h.contextSwitches]
    exact hspent.contextSwitches

/-- What may lie between two points of a run: the same thread runs, and a request stays; or the
request was met at a preemption point, at which the lock of the thread that ran was free. -/
def Follows (scheduler after : Scheduler) : Prop :=
  (after.current = scheduler.current ∧
      (scheduler.reschedRequested = true → after.reschedRequested = true)) ∨
    (scheduler.reschedRequested = true ∧ scheduler.Spent after ∧
      after.depth? scheduler.current = some 0)

theorem Deferred.follows (h : scheduler.Deferred after) : scheduler.Follows after :=
  .inl ⟨h.current, fun hrequested ↦ h.reschedRequested.trans hrequested⟩

theorem SameQueue.follows {last : Scheduler} (h : SameQueue scheduler after)
    (hfollows : after.Follows last) : scheduler.Follows last := by
  rcases hfollows with ⟨hcurrent, hkept⟩ | ⟨hrequested, hspent, hfree⟩
  · exact .inl ⟨hcurrent.trans h.current, fun hrequested ↦
      hkept (h.reschedRequested.trans hrequested)⟩
  · refine .inr ⟨h.reschedRequested.symm.trans hrequested, h.spent hspent, ?_⟩
    rw [← h.current]
    exact hfree

theorem Follows.of_sameTurns {last : Scheduler} (h : scheduler.Follows after)
    (hturns : SameTurns after last) : scheduler.Follows last := by
  rcases h with ⟨hcurrent, hkept⟩ | ⟨hrequested, ⟨hcleared, hcurrent, hswitches⟩, hfree⟩
  · exact .inl ⟨hturns.current.trans hcurrent, fun hrequested ↦
      hturns.reschedRequested.trans (hkept hrequested)⟩
  · exact .inr ⟨hrequested, ⟨hturns.reschedRequested.trans hcleared,
      hturns.current.trans hcurrent, hturns.contextSwitches.trans hswitches⟩,
      (hturns.depth? _).trans hfree⟩

theorem reschedRequested_rotate (scheduler : Scheduler) :
    scheduler.rotate.2.reschedRequested = scheduler.reschedRequested := by
  unfold rotate
  split <;> rfl

theorem current_rotate (scheduler : Scheduler) :
    scheduler.rotate.2.current = scheduler.ready.head?.getD scheduler.current := by
  cases hready : scheduler.ready with
  | nil =>
      rw [rotate_of_ready_nil hready]
      rfl
  | cons next waiting =>
      rw [rotate_of_ready_cons hready]
      rfl

theorem contextSwitches_rotate (scheduler : Scheduler) :
    scheduler.rotate.2.contextSwitches =
      if scheduler.ready ≠ [] then scheduler.contextSwitches + 1
      else scheduler.contextSwitches := by
  cases hready : scheduler.ready with
  | nil =>
      rw [rotate_of_ready_nil hready]
      rfl
  | cons next waiting =>
      rw [rotate_of_ready_cons hready]
      rfl

theorem isPreemptible_eq (h : scheduler.depth? scheduler.current = some depth) :
    scheduler.isPreemptible = (depth == 0 && scheduler.reschedRequested) := by
  rw [isPreemptible, lockDepth_currentThread h]

/-- While the lock is held, a preemption point does nothing. -/
theorem preempt_of_locked (h : scheduler.depth? scheduler.current = some depth)
    (hlocked : depth ≠ 0) : scheduler.preempt = (none, scheduler) := by
  rw [preempt, isPreemptible_eq h, beq_eq_false_iff_ne.2 hlocked]
  rfl

theorem spent_preempt (h : scheduler.depth? scheduler.current = some 0) :
    scheduler.Spent scheduler.preempt.2 := by
  rw [preempt, isPreemptible_eq h, beq_self_eq_true, Bool.true_and]
  cases hrequested : scheduler.reschedRequested with
  | true =>
      refine ⟨reschedRequested_rotate _, ?_, ?_⟩
      · rw [if_pos hrequested]
        exact current_rotate _
      · simp only [hrequested, true_and]
        exact contextSwitches_rotate _
  | false =>
      have hnone : ¬ scheduler.reschedRequested = true := Bool.eq_false_iff.1 hrequested
      exact ⟨hrequested, (if_neg hnone).symm, (if_neg fun h ↦ hnone h.1).symm⟩

theorem follows_preempt (h : scheduler.Listed) : scheduler.Follows scheduler.preempt.2 := by
  obtain ⟨depth, hdepth⟩ := h.depth?
  by_cases hfree : depth = 0
  · subst hfree
    have hspent := spent_preempt hdepth
    by_cases hrequested : scheduler.reschedRequested = true
    · refine .inr ⟨hrequested, hspent, ?_⟩
      rw [depth?_of_threads (threads_preempt scheduler)]
      exact hdepth
    · refine .inl ⟨?_, fun h ↦ absurd h hrequested⟩
      rw [hspent.current, if_neg hrequested]
  · rw [preempt_of_locked hdepth hfree]
    exact (SameQueue.refl scheduler).toDeferred.follows

/-! ## Giving back a level -/

theorem unlock_eq (h : scheduler.depth? id = some depth) :
    scheduler.unlock id =
      if depth = 1 then (scheduler.giveBack id).preempt.2 else scheduler.giveBack id := by
  obtain ⟨thread, hthread, rfl⟩ := Option.map_eq_some_iff.1 h
  rw [unlock, ThreadTable.get, hthread, Option.getD_some]

theorem sameQueue_giveBack (scheduler : Scheduler) (id : ThreadId) :
    SameQueue scheduler (scheduler.giveBack id) :=
  ⟨⟨rfl, rfl⟩, rfl, rfl⟩

/-- With the last level of any thread comes a preemption point. It finds the lock free if the level
was the running thread's, or if that thread holds none. -/
theorem spent_unlock (h : scheduler.depth? id = some 1)
    (hfree : id = scheduler.current ∨ scheduler.depth? scheduler.current = some 0) :
    scheduler.Spent (scheduler.unlock id) := by
  have hgiven : (scheduler.giveBack id).depth? scheduler.current = some 0 := by
    rw [depth?_giveBack]
    split
    · rename_i hcurrent
      rw [hcurrent, h]
      rfl
    · rename_i hother
      exact hfree.resolve_left (Ne.symm hother)
  rw [unlock_eq h, if_pos rfl]
  exact (sameQueue_giveBack scheduler id).spent (spent_preempt hgiven)

/-- An inner level does nothing else. -/
theorem deferred_unlock_of_inner (h : scheduler.depth? id = some depth) (hinner : depth ≠ 1) :
    scheduler.Deferred (scheduler.unlock id) := by
  rw [unlock_eq h, if_neg hinner]
  exact (sameQueue_giveBack scheduler id).toDeferred

/-- A level is given back without more if the running thread's lock is still held afterwards. -/
theorem unlock_of_locked (h : (scheduler.giveBack id).depth? scheduler.current = some depth)
    (hlocked : depth ≠ 0) : scheduler.unlock id = scheduler.giveBack id := by
  unfold unlock
  split
  · rw [preempt_of_locked h hlocked]
  · rfl

/-- Nor does any level of another thread, while the running thread's lock is held. -/
theorem deferred_unlock_of_locked (h : scheduler.depth? scheduler.current = some depth)
    (hlocked : depth ≠ 0) (hother : id ≠ scheduler.current) :
    scheduler.Deferred (scheduler.unlock id) := by
  have hgiven : (scheduler.giveBack id).depth? scheduler.current = some depth := by
    rw [depth?_giveBack, if_neg hother.symm, h]
  rw [unlock_of_locked hgiven hlocked]
  exact (sameQueue_giveBack scheduler id).toDeferred

/-- All that giving back a level does to turns. -/
theorem unlock_of_depth {level : UInt32} (hid : scheduler.depth? id = some level)
    (hcurrent : scheduler.depth? scheduler.current = some depth) :
    if level = 1 ∧ (id = scheduler.current ∨ depth = 0) then
      scheduler.Spent (scheduler.unlock id)
    else scheduler.Deferred (scheduler.unlock id) := by
  split
  · rename_i hlast
    obtain ⟨rfl, hfree⟩ := hlast
    refine spent_unlock hid (hfree.imp_right ?_)
    rintro rfl
    exact hcurrent
  · rename_i hkept
    by_cases hlast : level = 1
    · obtain ⟨hother, hlocked⟩ := not_or.1 (not_and.1 hkept hlast)
      exact deferred_unlock_of_locked hcurrent hlocked hother
    · exact deferred_unlock_of_inner hid hlast

theorem follows_unlock (h : scheduler.Listed) (id : ThreadId) :
    scheduler.Follows (scheduler.unlock id) := by
  unfold unlock
  split
  · exact (sameQueue_giveBack scheduler id).follows (follows_preempt (h.giveBack id))
  · exact (sameQueue_giveBack scheduler id).toDeferred.follows

end SignalKernel.Scheduler
