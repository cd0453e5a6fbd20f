import SignalKernel.Proofs.Kernel.Custody

/-!
# Whole rounds

Scheduling again and again lets the threads run one after the other, and whoever ran waits behind
all others. The threads are therefore on a circle: `upcoming` lists them in the order in which they
run next, and the thread that runs comes last. The idle thread is not on it. `rotations_eq` says
what any beginning of the list makes of the scheduler; a whole round leaves the circle as it was.

No operation but making a thread run out of turn puts the idle thread back on the processor. Steps
that do not are `InTurn`.
-/

namespace SignalKernel

namespace Scheduler

variable {scheduler : Scheduler} {front rest : List ThreadId} {next last : ThreadId}

/-- The threads in the order in which they run next. The one that runs is the last of them. -/
def upcoming (scheduler : Scheduler) : List ThreadId :=
  scheduler.requeue scheduler.ready

/-- What is reported each time, and which thread runs then, if threads run one after the other. -/
def trail (running : ThreadId) : List ThreadId → List (Option Switch × ThreadId)
  | [] => []
  | next :: rest => (some ⟨running, next⟩, next) :: trail next rest

/-- What is reported each time, and which thread runs then, if the scheduler rotates so many
times, and the scheduler after that. -/
def rotations (scheduler : Scheduler) :
    (count : Nat) → List (Option Switch × ThreadId) × Scheduler
  | 0 => ([], scheduler)
  | count + 1 =>
      let after := scheduler.rotate.2
      ((scheduler.rotate.1, after.current) :: (after.rotations count).1, (after.rotations count).2)

theorem map_snd_trail (running : ThreadId) (threads : List ThreadId) :
    (trail running threads).map Prod.snd = threads := by
  induction threads generalizing running with
  | nil => rfl
  | cons next rest ih => rw [trail, List.map_cons, ih]

/-- On a trail every switch is reported. -/
theorem ne_none_of_mem_trail {running : ThreadId} {threads : List ThreadId}
    {turn : Option Switch × ThreadId} (h : turn ∈ trail running threads) : turn.1 ≠ none := by
  induction threads generalizing running with
  | nil => cases h
  | cons next rest ih =>
      rcases List.mem_cons.1 h with rfl | hrest
      · exact Option.some_ne_none _
      · exact ih hrest

theorem requeue_cons (scheduler : Scheduler) (next : ThreadId) (waiting : List ThreadId) :
    scheduler.requeue (next :: waiting) = next :: scheduler.requeue waiting := by
  unfold requeue
  split <;> rfl

theorem upcoming_of_idle (h : scheduler.current = scheduler.idle) :
    scheduler.upcoming = scheduler.ready :=
  if_pos h

theorem upcoming_of_ne_idle (h : scheduler.current ≠ scheduler.idle) :
    scheduler.upcoming = scheduler.ready ++ [scheduler.current] :=
  if_neg h

theorem idle_notMem_upcoming (h : scheduler.idle ∉ scheduler.ready) :
    scheduler.idle ∉ scheduler.upcoming := by
  by_cases hran : scheduler.current = scheduler.idle
  · rw [upcoming_of_idle hran]
    exact h
  · rw [upcoming_of_ne_idle hran, List.mem_append, List.mem_singleton]
    rintro (hmem | hsame)
    · exact h hmem
    · exact hran hsame.symm

/-- The first of the upcoming threads runs next, and comes last from then on. -/
theorem rotate_of_upcoming (hready : scheduler.ready ≠ []) (h : scheduler.upcoming = next :: rest) :
    scheduler.rotate = (some ⟨scheduler.current, next⟩,
      { scheduler with
        ready := rest
        current := next
        contextSwitches := scheduler.contextSwitches + 1 }) := by
  obtain ⟨first, waiting, hwaiting⟩ := List.exists_cons_of_ne_nil hready
  rw [upcoming, hwaiting, requeue_cons] at h
  obtain ⟨rfl, rfl⟩ := List.cons.inj h
  exact rotate_of_ready_cons hwaiting

/-- The upcoming threads run one after the other. The induction is on the threads before the last
one that runs; each of them, once it has run, waits behind those that are still to run. -/
theorem rotations_eq (hready : scheduler.ready ≠ []) (hidle : scheduler.idle ∉ scheduler.ready)
    (h : scheduler.upcoming = front ++ last :: rest) :
    scheduler.rotations (front.length + 1) = (trail scheduler.current (front ++ [last]),
      { scheduler with
        ready := rest ++ front
        current := last
        contextSwitches := scheduler.contextSwitches + .ofNat (front.length + 1) }) := by
  induction front generalizing scheduler rest with
  | nil =>
      rw [List.length_nil, rotations, rotate_of_upcoming hready h, List.append_nil]
      rfl
  | cons next front ih =>
      have hnext : next ≠ scheduler.idle := by
        rintro rfl
        refine idle_notMem_upcoming hidle ?_
        rw [h]
        exact List.mem_cons_self
      -- the thread that ran comes back at the end, behind `rest`, and `next` behind it
      let after : Scheduler :=
        { scheduler with
          ready := front ++ last :: rest
          current := next
          contextSwitches := scheduler.contextSwitches + 1 }
      have hrotate : scheduler.rotate = (some ⟨scheduler.current, next⟩, after) :=
        rotate_of_upcoming hready h
      have hupcoming : after.upcoming = front ++ last :: (rest ++ [next]) := by
        rw [upcoming_of_ne_idle hnext]
        exact List.append_assoc ..
      have hidle' : after.idle ∉ after.ready := by
        intro hmem
        refine idle_notMem_upcoming hidle ?_
        rw [h]
        exact List.mem_cons_of_mem _ hmem
      have hcount : scheduler.contextSwitches + 1 + .ofNat (front.length + 1) =
          scheduler.contextSwitches + .ofNat (front.length + 1 + 1) := by
        rw [UInt64.add_assoc, UInt64.ofNat_add (front.length + 1), UInt64.add_comm 1]
        rfl
      have hready' : after.ready ≠ [] :=
        List.append_ne_nil_of_right_ne_nil _ (List.cons_ne_nil _ _)
      have hmore := ih hready' hidle' hupcoming
      rw [List.length_cons, rotations, hrotate, hmore, ← hcount]
      simp only [after, trail, List.cons_append, List.append_assoc, List.nil_append]

/-- A whole round leaves everything as it was, but for the number of switches. -/
theorem rotations_of_ne_idle (hran : scheduler.current ≠ scheduler.idle)
    (hready : scheduler.ready ≠ []) (hidle : scheduler.idle ∉ scheduler.ready) :
    scheduler.rotations (scheduler.ready.length + 1) =
      (trail scheduler.current (scheduler.ready ++ [scheduler.current]),
        { scheduler with
          contextSwitches := scheduler.contextSwitches + .ofNat (scheduler.ready.length + 1) }) :=
  rotations_eq hready hidle (upcoming_of_ne_idle hran)

/-- From the idle thread on, those that wait run in order. -/
theorem rotations_of_idle (hran : scheduler.current = scheduler.idle)
    (hidle : scheduler.idle ∉ scheduler.ready) :
    (scheduler.rotations scheduler.ready.length).1 = trail scheduler.idle scheduler.ready := by
  rcases List.eq_nil_or_concat' scheduler.ready with hready | ⟨front, last, hready⟩
  · rw [hready]
    rfl
  · have hupcoming : scheduler.upcoming = front ++ [last] :=
      (upcoming_of_idle hran).trans hready
    have hne : scheduler.ready ≠ [] := by
      rw [hready]
      exact List.append_ne_nil_of_right_ne_nil _ (List.cons_ne_nil _ _)
    have hrotations := rotations_eq hne hidle hupcoming
    rw [hready, List.length_append, List.length_singleton, hrotations, hran]

/-- The threads on the circle are those that were created. -/
theorem upcoming_perm (hqueue : scheduler.queue.Perm scheduler.ids)
    (hran : scheduler.current ≠ scheduler.idle) :
    scheduler.upcoming.Perm (scheduler.threads.spawned.map Thread.id) := by
  rw [queue_of_ne_idle hran] at hqueue
  rw [upcoming_of_ne_idle hran]
  exact (List.perm_append_singleton _ _).trans hqueue.cons_inv

/-! ## The idle thread -/

/-- The run queue stays in order, and if another thread runs, the idle thread does not run next. -/
structure InTurn (scheduler after : Scheduler) : Prop extends Onward scheduler after where
  busy : scheduler.InOrder → after.ids.length ≤ 2 ^ 64 → scheduler.current ≠ scheduler.idle →
    after.current ≠ after.idle

theorem InTurn.refl (scheduler : Scheduler) : scheduler.InTurn scheduler :=
  ⟨.refl scheduler, fun _ _ hran ↦ hran⟩

theorem InTurn.trans {first second third : Scheduler} (h : first.InTurn second)
    (h' : second.InTurn third) : first.InTurn third where
  grows := Nat.le_trans h.grows h'.grows
  inOrder hs := h'.inOrder (h.inOrder hs)
  busy hs hfew hran :=
    h'.busy (h.inOrder hs) hfew (h.busy hs (Nat.le_trans h'.grows hfew) hran)

section Steps

variable {after : Scheduler}

/-- What lets the same thread run. -/
theorem inTurn_of_current (h : scheduler.Onward after) (hidle : after.idle = scheduler.idle)
    (hcurrent : after.current = scheduler.current) : scheduler.InTurn after where
  toOnward := h
  busy _ _ hran := by
    rw [hcurrent, hidle]
    exact hran

theorem inTurn_of_sameTurns (h : SameTurns scheduler after) : scheduler.InTurn after :=
  inTurn_of_current (onward_of_sameTurns h) (idle_of_ids h.ids) h.current

theorem inTurn_lock (scheduler : Scheduler) (id : ThreadId) :
    scheduler.InTurn (scheduler.lock id) :=
  inTurn_of_current (onward_of_ids (ids_lock scheduler id) fun h ↦ h.lock id)
    (idle_of_ids (ids_lock scheduler id)) rfl

theorem inTurn_giveBack (scheduler : Scheduler) (id : ThreadId) :
    scheduler.InTurn (scheduler.giveBack id) :=
  inTurn_of_current (onward_giveBack scheduler id) (idle_of_ids (ids_giveBack scheduler id)) rfl

theorem inTurn_spawn (scheduler : Scheduler) (config : ThreadConfig) :
    scheduler.InTurn (scheduler.spawn config).2 :=
  inTurn_of_current (onward_spawn scheduler config) rfl rfl

theorem inTurn_request (scheduler : Scheduler) (requested : Bool) :
    scheduler.InTurn { scheduler with reschedRequested := requested } :=
  inTurn_of_current ⟨Nat.le_refl _, fun h ↦ h.request requested⟩ rfl rfl

/-- The thread that runs next waited, and the idle thread never waits. -/
theorem inTurn_rotate (scheduler : Scheduler) : scheduler.InTurn scheduler.rotate.2 where
  toOnward := onward_of_ids (ids_rotate scheduler) InOrder.rotate
  busy hs hfew hran := by
    rw [ids_rotate] at hfew
    cases hready : scheduler.ready with
    | nil =>
        rw [rotate_of_ready_nil hready]
        exact hran
    | cons next waiting =>
        rw [rotate_of_ready_cons hready]
        rintro (rfl : next = scheduler.idle)
        refine idle_not_mem_ready (hs.queue_nodup hfew) ?_
        rw [hready]
        exact List.mem_cons_self

theorem inTurn_preempt (scheduler : Scheduler) : scheduler.InTurn scheduler.preempt.2 := by
  unfold preempt
  split
  · exact (inTurn_request scheduler false).trans (inTurn_rotate _)
  · exact .refl scheduler

theorem inTurn_unlock (scheduler : Scheduler) (id : ThreadId) :
    scheduler.InTurn (scheduler.unlock id) := by
  unfold unlock
  split
  · exact (inTurn_giveBack scheduler id).trans (inTurn_preempt _)
  · exact inTurn_giveBack scheduler id

end Steps

end Scheduler

/-! ## Scheduling again and again -/

namespace Kernel

variable {γ : Type}

/-- Schedule so many times. Tell each time what is reported and which thread runs then. -/
def scheduleTimes : (count : Nat) → KernelM γ (List (Option Switch × ThreadId))
  | 0 => pure []
  | count + 1 => do
      let switch ← schedule
      let kernel ← get
      let rest ← scheduleTimes count
      pure ((switch, kernel.scheduler.current) :: rest)

theorem run_scheduleTimes (count : Nat) (kernel : Kernel γ) :
    (scheduleTimes count kernel).1 = (kernel.scheduler.rotations count).1 ∧
      (scheduleTimes count kernel).2.scheduler = (kernel.scheduler.rotations count).2 := by
  induction count generalizing kernel with
  | zero => exact ⟨rfl, rfl⟩
  | succ count ih =>
      let after := (schedule kernel).2
      obtain ⟨hreport, hscheduler⟩ := run_schedule kernel
      obtain ⟨hturns, hlast⟩ := ih after
      rw [hscheduler] at hturns hlast
      refine ⟨?_, hlast⟩
      show ((schedule kernel).1, after.scheduler.current) :: (scheduleTimes count after).1 = _
      rw [hreport, hscheduler, hturns]
      rfl

end Kernel

end SignalKernel
