import SignalKernel.Proofs.Kernel.Preemption
import SignalKernel.Proofs.Program.Reaching

/-!
# Scheduler locks defer preemption

The depth of a thread's scheduler lock is the number of levels that are held, whoever took them and
in whatever order they are given back. As long as nobody makes a thread run directly, another thread
runs only after a preemption point that found the lock of the running one free, and until then a
request to reschedule stays. The main theorem is `locks_defer`. Its invariant is about the last
point that was passed: in the middle of a call nothing has changed since, and at the end of the call
one preemption point may have.
-/

namespace SignalKernel.Program

open SignalKernel.Kernel

variable {allows : Call → Bool} {scheduler after : Scheduler} {holding left : List ThreadId}
  {id : ThreadId}

/-! ## Levels are counted -/

/-- The depths of locks are the numbers of levels held, which a 32-bit word counts, and only threads
that exist hold any. -/
structure Counted (scheduler : Scheduler) (holding : List ThreadId) : Prop where
  depth : ∀ id depth, scheduler.depth? id = some depth → depth = UInt32.ofNat (holding.count id)
  exist : holding ⊆ scheduler.ids

theorem Counted.of_depth? (h : Counted scheduler holding)
    (hdepth : ∀ id, after.depth? id = scheduler.depth? id) : Counted after holding where
  depth id depth hafter := h.depth id depth ((hdepth id).symm.trans hafter)
  exist id hid := by
    rw [Scheduler.mem_ids_iff_depth?, hdepth id, ← Scheduler.mem_ids_iff_depth?]
    exact h.exist hid

theorem Counted.of_threads (h : Counted scheduler holding)
    (hthreads : after.threads = scheduler.threads) : Counted after holding :=
  h.of_depth? (Scheduler.depth?_of_threads hthreads)

/-- A new thread holds no level, since only threads that exist do. -/
theorem Counted.spawn (h : Counted scheduler holding) (config : ThreadConfig) :
    Counted (scheduler.spawn config).2 holding where
  depth id depth hafter := by
    rw [Scheduler.depth?_spawn] at hafter
    cases hbefore : scheduler.depth? id with
    | some found =>
        rw [hbefore, Option.some_or] at hafter
        exact h.depth id depth (hbefore.trans hafter)
    | none =>
        have hfree : holding.count id = 0 := by
          rw [List.count_eq_zero]
          intro hid
          obtain ⟨depth, hdepth⟩ := Scheduler.mem_ids_iff_depth?.1 (h.exist hid)
          rw [hbefore] at hdepth
          cases hdepth
        rw [hbefore, Option.none_or] at hafter
        split at hafter
        · cases hafter
          rw [hfree]
          rfl
        · cases hafter
  exist := by
    rw [Scheduler.ids_spawn]
    exact List.subset_append_of_subset_left _ h.exist

theorem Counted.lock (h : Counted scheduler holding) (hid : id ∈ scheduler.ids)
    (hleft : left.Perm (id :: holding)) : Counted (scheduler.lock id) left where
  depth other depth hafter := by
    rw [hleft.count_eq, List.count_cons]
    rw [Scheduler.depth?_lock] at hafter
    split at hafter
    · rename_i hother
      subst hother
      obtain ⟨found, hfound, rfl⟩ := Option.map_eq_some_iff.1 hafter
      rw [h.depth other found hfound, beq_self_eq_true, if_pos rfl, UInt32.ofNat_add]
      rfl
    · rename_i hother
      rw [h.depth other depth hafter, if_neg fun h ↦ hother (beq_iff_eq.1 h).symm]
      rfl
  exist other hother := by
    rw [Scheduler.ids_lock]
    rcases List.mem_cons.1 (hleft.mem_iff.1 hother) with rfl | hother
    · exact hid
    · exact h.exist hother

theorem Counted.unlock (h : Counted scheduler holding) (hleft : holding.Perm (id :: left)) :
    Counted (scheduler.unlock id) left where
  depth other depth hafter := by
    rw [Scheduler.depth?_unlock, Scheduler.depth?_giveBack] at hafter
    have hcount := hleft.count_eq other
    rw [List.count_cons] at hcount
    split at hafter
    · rename_i hother
      subst hother
      obtain ⟨found, hfound, rfl⟩ := Option.map_eq_some_iff.1 hafter
      rw [beq_self_eq_true, if_pos rfl] at hcount
      rw [h.depth other found hfound, hcount, UInt32.ofNat_add]
      exact UInt32.add_sub_cancel _ _
    · rename_i hother
      rw [if_neg fun h ↦ hother (beq_iff_eq.1 h).symm, Nat.add_zero] at hcount
      rw [h.depth other depth hafter, hcount]
  exist other hother := by
    rw [Scheduler.mem_ids_iff_depth?, Scheduler.depth?_unlock, ← Scheduler.mem_ids_iff_depth?,
      Scheduler.ids_giveBack]
    exact h.exist (hleft.mem_iff.2 (List.mem_cons_of_mem _ hother))

theorem Turn.counted (h : Turn allows scheduler holding after left)
    (hs : Counted scheduler holding) : Counted after left := by
  cases h with
  | none => exact hs
  | spawned config => exact hs.spawn config
  | requested => exact hs.of_threads rfl
  | preempted => exact hs.of_threads (Scheduler.threads_preempt _)
  | rotated hallowed => exact hs.of_threads (Scheduler.threads_rotate _)
  | madeCurrent hallowed => exact hs.of_threads (Scheduler.threads_setCurrent _ _)
  | unlocked hleft => exact hs.unlock hleft

theorem Stage.Next.counted {phase phase' : Phase} {s s' : Stage}
    (h : s.Next allows phase phase' s') (hs : Counted s.scheduler s.holding) :
    Counted s'.scheduler s'.holding := by
  cases h with
  | worked hturns hexchange => exact hs.of_depth? hturns.depth?
  | delivered sweeping hturns hhandover hfinds => exact hs.of_depth? hturns.depth?
  | locked hthread hholding => exact hs.lock (Scheduler.mem_ids_iff_depth?.2 hthread) hholding
  | turned hturn => exact hturn.counted hs
  | passed sweeping => exact hs

/-- At every stage, the depths of locks are the numbers of levels held. -/
theorem Reached.counted {phase : Phase} {s : Stage} (h : Reached allows phase s) :
    Counted s.scheduler s.holding := by
  induction h with
  | start =>
      refine ⟨fun id depth hdepth ↦ ?_, List.nil_subset _⟩
      obtain ⟨thread, hthread, rfl⟩ := Option.map_eq_some_iff.1 hdepth
      rw [List.mem_singleton.1 (List.mem_of_find?_eq_some hthread)]
      rfl
  | next h hnext ih => exact hnext.counted ih

/-! ## Turns change at preemption points -/

/-- The call leaves it to preemption points who runs. -/
def Call.leavesTurns : Call → Bool
  | .scheduling .schedule | .scheduling (.setCurrent _) => false
  | _ => true

theorem Turn.listed (h : Turn allows scheduler holding after left)
    (hs : scheduler.Listed) : after.Listed := by
  cases h with
  | none => exact hs
  | spawned config => exact hs.spawn config
  | requested => exact ⟨hs.current, hs.ready⟩
  | preempted => exact hs.preempt
  | rotated hallowed => exact hs.rotate
  | madeCurrent hallowed => exact hs.setCurrent _
  | unlocked hleft => exact hs.unlock _

theorem Stage.Next.listed {phase phase' : Phase} {s s' : Stage}
    (h : s.Next allows phase phase' s') (hs : s.scheduler.Listed) :
    s'.scheduler.Listed := by
  cases h with
  | worked hturns hexchange => exact hs.of_ids hturns.ids hturns.current hturns.ready
  | delivered sweeping hturns hhandover hfinds =>
      exact hs.of_ids hturns.ids hturns.current hturns.ready
  | locked hthread hholding => exact hs.of_ids (Scheduler.ids_lock _ _) rfl rfl
  | turned hturn => exact hturn.listed hs
  | passed sweeping => exact hs

/-- At every stage, the thread that runs exists, and so do those that wait. -/
theorem Reached.listed {phase : Phase} {s : Stage} (h : Reached allows phase s) :
    s.scheduler.Listed := by
  induction h with
  | start => exact Scheduler.listed_initial
  | next h hnext ih => exact hnext.listed ih

theorem Turn.follows (h : Turn Call.leavesTurns scheduler holding after left)
    (hs : scheduler.Listed) : scheduler.Follows after := by
  cases h with
  | none => exact (Scheduler.SameQueue.refl scheduler).toDeferred.follows
  | spawned config => exact .inl ⟨rfl, id⟩
  | requested => exact .inl ⟨rfl, fun _ ↦ rfl⟩
  | preempted => exact Scheduler.follows_preempt hs
  | rotated hallowed => cases hallowed
  | madeCurrent hallowed => cases hallowed
  | unlocked hleft => exact Scheduler.follows_unlock hs _

/-- What may lie between a point and the next one. -/
def Point.Follows (earlier later : Point) : Prop :=
  earlier.scheduler.Follows later.scheduler

/-- How far a run may have come from the last point that it passed. -/
def Phase.Links : Phase → Scheduler → Scheduler → Prop
  | .during => Scheduler.SameQueue
  | .ended => Scheduler.Follows

/-- Each point follows from the one before it, and the last one leads to the scheduler. -/
structure Chained (phase : Phase) (passed : List Point) (scheduler : Scheduler) : Prop where
  follows : passed.IsChain Point.Follows
  last : ∀ point ∈ passed.getLast?, phase.Links point.scheduler scheduler

section Chained

variable {phase : Phase} {passed : List Point}

theorem Chained.of_sameTurns (h : Chained phase passed scheduler)
    (hturns : scheduler.SameTurns after) : Chained phase passed after where
  follows := h.follows
  last point hpoint := by
    have hlast := h.last point hpoint
    cases phase with
    | during => exact Scheduler.SameQueue.trans hlast hturns.sameQueue
    | ended => exact Scheduler.Follows.of_sameTurns hlast hturns

/-- At the end of a call one preemption point may be passed. -/
theorem Chained.ended (h : Chained .during passed scheduler) (hfollows : scheduler.Follows after) :
    Chained .ended passed after where
  follows := h.follows
  last point hpoint := Scheduler.SameQueue.follows (h.last point hpoint) hfollows

theorem Chained.concat {point : Point} (h : Chained .ended passed point.scheduler) :
    Chained .during (passed ++ [point]) point.scheduler where
  follows := by
    refine List.isChain_append.2 ⟨h.follows, List.isChain_singleton _, ?_⟩
    intro earlier hearlier later hlater
    cases hlater
    exact h.last earlier hearlier
  last last hlast := by
    rw [List.getLast?_concat] at hlast
    cases hlast
    exact Scheduler.SameQueue.refl _

end Chained

theorem Stage.Next.chained {phase phase' : Phase} {s s' : Stage}
    (h : s.Next Call.leavesTurns phase phase' s') (hlisted : s.scheduler.Listed)
    (hs : Chained phase (points s.history) s.scheduler) :
    Chained phase' (points s'.history) s'.scheduler := by
  cases h with
  | worked hturns hexchange =>
      rw [points_append, hexchange.points_eq, List.append_nil]
      exact hs.of_sameTurns hturns
  | delivered sweeping hturns hhandover hfinds =>
      rw [points_append, points_append, hhandover.points_eq, List.append_nil]
      exact (hs.ended hturns.sameQueue.toDeferred.follows).concat
  | locked hthread hholding =>
      exact ⟨hs.follows, fun point hpoint ↦
        Scheduler.SameQueue.trans (hs.last point hpoint) ⟨⟨rfl, rfl⟩, rfl, rfl⟩⟩
  | turned hturn => exact hs.ended (hturn.follows hlisted)
  | passed sweeping =>
      rw [points_append]
      exact hs.concat

/-- At every stage, each point of the run so far follows from the one before it. -/
theorem Reached.chained {phase : Phase} {s : Stage} (h : Reached Call.leavesTurns phase s) :
    Chained phase (points s.history) s.scheduler := by
  induction h with
  | start => exact ⟨List.isChain_nil, fun point hpoint ↦ nomatch hpoint⟩
  | next h hnext ih => exact hnext.chained h.listed ih

/-- While a thread that runs holds its lock, it goes on running, and a request stays. -/
theorem held_of_chain {point : Point} {rest : List Point}
    (h : (point :: rest).IsChain Point.Follows)
    (hlocked : ∀ later ∈ rest, later.scheduler.depth? point.scheduler.current ≠ some 0) :
    ∀ later ∈ rest, later.scheduler.current = point.scheduler.current ∧
      (point.scheduler.reschedRequested = true → later.scheduler.reschedRequested = true) := by
  induction rest generalizing point with
  | nil => exact fun later hlater ↦ nomatch hlater
  | cons next rest ih =>
      obtain ⟨hnext, hrest⟩ := List.isChain_cons_cons.1 h
      obtain ⟨hnextLocked, hrestLocked⟩ := List.forall_mem_cons.1 hlocked
      obtain ⟨hcurrent, hrequested⟩ | ⟨-, -, hfree⟩ := hnext
      · rw [List.forall_mem_cons]
        refine ⟨⟨hcurrent, hrequested⟩, fun later hlater ↦ ?_⟩
        rw [← hcurrent] at hrestLocked
        obtain ⟨hlaterCurrent, hlaterRequested⟩ := ih hrest hrestLocked later hlater
        exact ⟨hlaterCurrent.trans hcurrent, hlaterRequested ∘ hrequested⟩
      · exact absurd hfree hnextLocked

/-! ## What locks mean -/

/-- What the locks of a scheduler mean if `holding` are the threads whose lock is held, once for
each level. -/
structure Defers (scheduler : Scheduler) (holding : List ThreadId) : Prop where
  counted : ∀ id thread, scheduler.threads.find? id = some thread →
    thread.lockDepth.toNat = holding.count id
  /-- A preemption point spends a request, unless the thread that runs holds its lock. Then the
  point does nothing. -/
  point : ∀ {γ : Type} (kernel : Kernel γ), kernel.scheduler = scheduler →
    if holding.count scheduler.current = 0 then
      scheduler.Spent (preemptionPoint kernel).2.scheduler
    else (preemptionPoint kernel).2.scheduler = scheduler
  /-- Giving a level back is such a point if it is the last one of its thread, and if the thread
  that runs holds no other one. Giving any other level back is not. -/
  givenBack : ∀ id ∈ holding, ∀ {γ : Type} (kernel : Kernel γ), kernel.scheduler = scheduler →
    if holding.count id = 1 ∧ (id = scheduler.current ∨ holding.count scheduler.current = 0) then
      scheduler.Spent (unlockScheduler id kernel).2.scheduler
    else scheduler.Deferred (unlockScheduler id kernel).2.scheduler

/-- The levels of a thread are as many as its depth says, if these are fewer than 2 ^ 32. -/
theorem Counted.toNat_depth (h : Counted scheduler holding) (hfew : holding.count id < 2 ^ 32)
    {depth : UInt32} (hdepth : scheduler.depth? id = some depth) :
    depth.toNat = holding.count id := by
  rw [h.depth id depth hdepth, UInt32.toNat_ofNat_of_lt' hfew]

theorem Counted.depth_eq_iff (h : Counted scheduler holding) (hfew : holding.count id < 2 ^ 32)
    {depth : UInt32} (hdepth : scheduler.depth? id = some depth) (level : UInt32) :
    depth = level ↔ holding.count id = level.toNat := by
  rw [← h.toNat_depth hfew hdepth, UInt32.toNat_inj]

theorem defers_of_counted (h : Counted scheduler holding) (hlisted : scheduler.Listed)
    (hfew : ∀ id, holding.count id < 2 ^ 32) : Defers scheduler holding := by
  obtain ⟨depth, hdepth⟩ := hlisted.depth?
  have hfree : depth = 0 ↔ holding.count scheduler.current = 0 := h.depth_eq_iff (hfew _) hdepth 0
  constructor
  case counted =>
    intro id thread hthread
    exact h.toNat_depth (hfew id) (congrArg (Option.map Thread.lockDepth) hthread)
  case point =>
    intro γ kernel hscheduler
    subst hscheduler
    rw [(run_preemptionPoint kernel).2]
    split
    · rename_i hnone
      obtain rfl := hfree.2 hnone
      exact Scheduler.spent_preempt hdepth
    · rename_i hsome
      rw [Scheduler.preempt_of_locked hdepth (mt hfree.1 hsome)]
  case givenBack =>
    intro id hid γ kernel hscheduler
    subst hscheduler
    obtain ⟨level, hlevel⟩ := Scheduler.mem_ids_iff_depth?.1 (h.exist hid)
    have hlast : level = 1 ↔ holding.count id = 1 := h.depth_eq_iff (hfew id) hlevel 1
    have hgiven := Scheduler.unlock_of_depth hlevel hdepth
    simp only [hfree, hlast] at hgiven
    rw [(run_unlockScheduler id kernel).1]
    exact hgiven

/-- At every point of a history locks defer preemption, and from one point to the next one at most
one request is spent. -/
structure LocksDefer (history : List Moment) : Prop where
  defers : ∀ point, .passed point ∈ history → (∀ id, point.holding.count id < 2 ^ 32) →
    Defers point.scheduler point.holding
  follows : (points history).IsChain Point.Follows
  /-- While the thread that runs holds its lock, it goes on running, and a request stays. -/
  held : ∀ before point rest after, points history = before ++ point :: (rest ++ after) →
    (∀ later ∈ rest, later.scheduler.depth? point.scheduler.current ≠ some 0) →
      ∀ later ∈ rest, later.scheduler.current = point.scheduler.current ∧
        (point.scheduler.reschedRequested = true → later.scheduler.reschedRequested = true)

/-- Whatever calls a program and its handlers make, as long as none of them makes a thread run
directly: the thread that runs goes on running while it holds its lock, and a request to reschedule
stays until a preemption point finds the lock free. -/
theorem locks_defer (program : Program) (h : program.every Call.leavesTurns = true) :
    LocksDefer program.history := by
  have hchain : (points program.history).IsChain Point.Follows := (reached_final h).chained.follows
  constructor
  case defers =>
    intro point hpoint hfew
    obtain ⟨history, hreached⟩ := reached_point h hpoint
    exact defers_of_counted hreached.counted hreached.listed hfew
  case follows => exact hchain
  case held =>
    intro before point rest after hsplit hlocked
    rw [hsplit] at hchain
    have hstretch : ((point :: rest) ++ after).IsChain Point.Follows :=
      (List.isChain_append.1 hchain).2.1
    exact held_of_chain (List.isChain_append.1 hstretch).1 hlocked

/-- Two threads. Levels of both locks are held, those of the first thread are given back in the
order of locking, and a handler passes preemption points in the middle of a change of its mask. -/
def outOfOrder : Program where
  handlers := [(34, [[
    .scheduling (.lock (some 2)),
    .scheduling .preemptionPoint,
    .scheduling (.unlock 3)]])]
  calls := [
    .scheduling (.spawn { initialMask := .ofList [34] }),
    .scheduling (.spawn {}),
    .scheduling .requestResched,
    .scheduling .preemptionPoint,
    .signal (.kill 1 34),
    .scheduling (.lock none),
    .scheduling (.lock (some 2)),
    .scheduling (.lock none),
    .scheduling .requestResched,
    .scheduling (.unlock 0),
    .scheduling (.unlock 1),
    .signal (.changeMask (some 1) MaskMode.unblock.code (some (.ofList [34])) false),
    .scheduling (.unlock 2)]

theorem locks_defer_outOfOrder :
    outOfOrder.every Call.leavesTurns = true ∧
      (points outOfOrder.history).map (fun point ↦
          (point.scheduler.current, point.scheduler.reschedRequested, point.holding)) =
        [(0, false, []), (0, false, []), (0, false, []), (0, true, []), (1, false, []),
          (1, false, []), (1, false, [1]), (1, false, [1, 2]), (1, false, [1, 2, 1]),
          (1, true, [1, 2, 1]), (1, true, [2, 1]), (1, true, [1]), (1, true, [1, 1]),
          (1, true, [1, 2, 1]), (1, true, [1, 2, 1]), (1, true, [1, 1]), (1, true, [1]),
          (2, false, [])] ∧
      LocksDefer outOfOrder.history :=
  ⟨by decide, by decide +kernel, locks_defer outOfOrder (by decide)⟩

end SignalKernel.Program
