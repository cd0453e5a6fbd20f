import SignalKernel.Proofs.Program.Locking

/-!
# Detaining the running thread

While a change of the running thread's mask is in progress, the thread is detained: it holds a level
of its scheduler lock and goes on running, no switch is made, and a request to reschedule stays.
Handlers may do what they like, as long as they leave it to preemption points who runs. They may
give back all levels that the program keeps, but the level that the change itself took is not among
these: it is in `Session.masking` until the change is over, and as long as it is held, every
preemption point finds the lock of the running thread held.

Levels are counted by 32-bit words. Nothing is said of changes during which a point is passed at
which 2 ^ 32 levels of the running thread's lock are held.
-/

namespace SignalKernel.Program

open SignalKernel.Kernel

variable {entry scheduler after : Scheduler} {passed : List Point} {holding left : List ThreadId}
  {id : ThreadId}

/-! ## What points tell -/

/-- Fewer than 2 ^ 32 levels of the thread's lock are held at all points. -/
def Few (id : ThreadId) (passed : List Point) : Prop :=
  ∀ point ∈ passed, point.holding.count id < 2 ^ 32

theorem few_append {later : List Point} :
    Few id (passed ++ later) ↔ Few id passed ∧ Few id later :=
  List.forall_mem_append

/-- A reschedule was asked for at the beginning, or by one of the points since. -/
def Asked (entry : Scheduler) (passed : List Point) : Prop :=
  entry.reschedRequested = true ∨ ∃ point ∈ passed, point.scheduler.reschedRequested = true

/-- The thread that ran at `entry` runs and holds its lock, and no switch was made. -/
structure Detained (entry scheduler : Scheduler) : Prop where
  current : scheduler.current = entry.current
  locked : ∃ depth, scheduler.depth? entry.current = some depth ∧ depth ≠ 0
  contextSwitches : scheduler.contextSwitches = entry.contextSwitches

/-- How matters stand after some points were passed since `entry`. -/
structure Standing (entry : Scheduler) (passed : List Point) (scheduler : Scheduler)
    (holding : List ThreadId) : Prop where
  counted : Counted scheduler holding
  current : scheduler.current = entry.current
  contextSwitches : scheduler.contextSwitches = entry.contextSwitches
  /-- Threads are created and wait, and nothing else happens to those that wait. -/
  created : ∃ created, scheduler.ids = entry.ids ++ created ∧
    scheduler.ready = entry.ready ++ created
  asked : Asked entry passed → scheduler.reschedRequested = true
  passed : ∀ point ∈ passed, Detained entry point.scheduler

namespace Standing

/-- What changes no more than who holds locks. -/
theorem of_sameQueue (h : Standing entry passed scheduler holding)
    (hqueue : scheduler.SameQueue after) (hids : after.ids = scheduler.ids)
    (hcounted : Counted after left) : Standing entry passed after left where
  counted := hcounted
  current := hqueue.current.trans h.current
  contextSwitches := hqueue.contextSwitches.trans h.contextSwitches
  created := by
    obtain ⟨created, hcreated, hready⟩ := h.created
    exact ⟨created, hids.trans hcreated, hqueue.ready.trans hready⟩
  asked hasked := hqueue.reschedRequested.trans (h.asked hasked)
  passed := h.passed

theorem of_sameTurns (h : Standing entry passed scheduler holding)
    (hturns : scheduler.SameTurns after) : Standing entry passed after holding :=
  h.of_sameQueue hturns.sameQueue hturns.ids (h.counted.of_depth? hturns.depth?)

theorem spawn (h : Standing entry passed scheduler holding) (config : ThreadConfig) :
    Standing entry passed (scheduler.spawn config).2 holding where
  counted := h.counted.spawn config
  current := h.current
  contextSwitches := h.contextSwitches
  created := by
    obtain ⟨created, hids, hready⟩ := h.created
    refine ⟨created ++ [scheduler.nextId], ?_, ?_⟩
    · rw [Scheduler.ids_spawn, hids, List.append_assoc]
    · show scheduler.ready ++ [scheduler.nextId] = _
      rw [hready, List.append_assoc]
  asked := h.asked
  passed := h.passed

theorem request (h : Standing entry passed scheduler holding) :
    Standing entry passed { scheduler with reschedRequested := true } holding where
  counted := h.counted.of_threads rfl
  current := h.current
  contextSwitches := h.contextSwitches
  created := h.created
  asked _ := rfl
  passed := h.passed

theorem lock (h : Standing entry passed scheduler holding) (hid : id ∈ scheduler.ids)
    (hleft : left.Perm (id :: holding)) : Standing entry passed (scheduler.lock id) left :=
  h.of_sameQueue ⟨⟨rfl, rfl⟩, rfl, rfl⟩ (Scheduler.ids_lock scheduler id) (h.counted.lock hid hleft)

/-- The depth of the lock of the thread that ran at `entry`, by the levels that are held. -/
theorem locked_of_held (h : Standing entry passed scheduler holding)
    (hheld : entry.current ∈ holding) (hfew : holding.count entry.current < 2 ^ 32) :
    ∃ depth, scheduler.depth? entry.current = some depth ∧ depth ≠ 0 := by
  obtain ⟨depth, hdepth⟩ := Scheduler.mem_ids_iff_depth?.1 (h.counted.exist hheld)
  refine ⟨depth, hdepth, fun hfree ↦ ?_⟩
  have hnone : holding.count entry.current = 0 := (h.counted.depth_eq_iff hfew hdepth 0).1 hfree
  exact List.count_eq_zero.1 hnone hheld

theorem detained (h : Standing entry passed scheduler holding) (hheld : entry.current ∈ holding)
    (hfew : holding.count entry.current < 2 ^ 32) : Detained entry scheduler :=
  ⟨h.current, h.locked_of_held hheld hfew, h.contextSwitches⟩

/-- One more point is passed. -/
theorem concat {point : Point} (h : Standing entry passed point.scheduler holding)
    (hdetained : Detained entry point.scheduler) :
    Standing entry (passed ++ [point]) point.scheduler holding where
  counted := h.counted
  current := h.current
  contextSwitches := h.contextSwitches
  created := h.created
  asked hasked := by
    rcases hasked with hentry | ⟨earlier, hearlier, hrequested⟩
    · exact h.asked (.inl hentry)
    · rcases List.mem_append.1 hearlier with hbefore | hnow
      · exact h.asked (.inr ⟨earlier, hbefore, hrequested⟩)
      · cases List.mem_singleton.1 hnow
        exact hrequested
  passed other hother := by
    rcases List.mem_append.1 hother with hbefore | hnow
    · exact h.passed other hbefore
    · cases List.mem_singleton.1 hnow
      exact hdetained

/-- A level that leaves the thread one of its lock is given back without a preemption point. -/
theorem giveBack (h : Standing entry passed scheduler holding) (hleft : holding.Perm (id :: left))
    (hheld : entry.current ∈ left) (hfew : left.count entry.current < 2 ^ 32) :
    scheduler.unlock id = scheduler.giveBack id ∧
      Standing entry passed (scheduler.giveBack id) left := by
  have hcounted := (h.counted.unlock hleft).of_depth? fun other ↦
    (Scheduler.depth?_unlock scheduler id other).symm
  have hgiven : Standing entry passed (scheduler.giveBack id) left :=
    h.of_sameQueue (Scheduler.sameQueue_giveBack scheduler id) (Scheduler.ids_giveBack scheduler id)
      hcounted
  obtain ⟨depth, hdepth, hlocked⟩ := hgiven.locked_of_held hheld hfew
  rw [← h.current] at hdepth
  exact ⟨Scheduler.unlock_of_locked hdepth hlocked, hgiven⟩

end Standing

/-! ## What deliveries tell -/

/-- Each delivery is made while the thread that ran at `entry` runs, with its lock held if it is
made to this thread, and is followed by a point. -/
def Attended (entry : Scheduler) (marks : List Moment) : Prop :=
  ∀ before delivery later, marks = before ++ .delivered delivery :: later →
    delivery.current = entry.current ∧
      (delivery.id = entry.current → delivery.lockDepth ≠ 0) ∧
        ∃ point rest, later = .passed point :: rest

theorem attended_nil (entry : Scheduler) : Attended entry [] := by
  intro before delivery later hsplit
  simp at hsplit

variable {marks silent : List Moment}

/-- Moments that are neither points nor deliveries. -/
structure Silent (marks : List Moment) : Prop where
  points : points marks = []
  deliveries : ∀ delivery, .delivered delivery ∉ marks

theorem silent_nil : Silent [] :=
  ⟨rfl, fun _ ↦ List.not_mem_nil⟩

theorem silent_posted (post : Post) : Silent [.posted post] :=
  ⟨rfl, fun delivery h ↦ by cases List.mem_singleton.1 h⟩

theorem silent_swept (id : ThreadId) (left : SignalState) : Silent [.swept id left] :=
  ⟨rfl, fun delivery h ↦ by cases List.mem_singleton.1 h⟩

theorem Silent.points_append (h : Silent silent) (marks : List Moment) :
    Program.points (marks ++ silent) = Program.points marks := by
  rw [Program.points_append, h.points, List.append_nil]

theorem Attended.append (h : Attended entry marks)
    (hsilent : ∀ delivery, .delivered delivery ∉ silent) : Attended entry (marks ++ silent) := by
  intro before delivery later hsplit
  obtain ⟨earlier, hearlier, rfl⟩ := append_split_of_not_mem hsplit (hsilent delivery)
  obtain ⟨hcurrent, hlocked, point, rest, rfl⟩ := h before delivery earlier hearlier
  exact ⟨hcurrent, hlocked, point, rest ++ silent, rfl⟩

theorem Attended.delivered {delivery : Delivery} {point : Point} (h : Attended entry marks)
    (hcurrent : delivery.current = entry.current)
    (hlocked : delivery.id = entry.current → delivery.lockDepth ≠ 0) :
    Attended entry (marks ++ [.delivered delivery, .passed point]) := by
  intro before other later hsplit
  rcases append_split hsplit with ⟨earlier, hearlier, rfl⟩ | ⟨middle, hmiddle, -⟩
  · obtain ⟨hcurrent, hlocked, next, rest, rfl⟩ := h before other earlier hearlier
    exact ⟨hcurrent, hlocked, next, rest ++ _, rfl⟩
  · rcases middle with _ | ⟨first, _ | ⟨second, rest⟩⟩
    · obtain ⟨hdelivery, rfl⟩ := List.cons.inj hmiddle
      cases hdelivery
      exact ⟨hcurrent, hlocked, point, [], rfl⟩
    · cases (List.cons.inj (List.cons.inj hmiddle).2).1
    · simp at hmiddle

/-! ## Kernels in the course of a change -/

/-- A kernel in the course of a change of the mask of the thread that ran at `entry`, with `marks`
marked since. -/
structure Course (entry : Kernel Session) (marks : List Moment) (kernel : Kernel Session) :
    Prop where
  history : kernel.client.history.toList = entry.client.history.toList ++ marks
  handlers : kernel.client.handlers.every Call.leavesTurns = true
  /-- The change is in progress, so that its level of the lock is held. -/
  masking : entry.scheduler.current ∈ kernel.client.masking
  standing : Few entry.scheduler.current (points marks) →
    Standing entry.scheduler (points marks) kernel.scheduler kernel.client.holding
  attended : Few entry.scheduler.current (points marks) → Attended entry.scheduler marks

/-- Among the levels are few of the lock of the thread that ran at `entry`, and if a reschedule is
asked for, then some point tells of it. -/
structure Settled (entry : Scheduler) (passed : List Point) (scheduler : Scheduler)
    (levels : List ThreadId) : Prop where
  few : levels.count entry.current < 2 ^ 32
  asked : scheduler.reschedRequested = true → Asked entry passed

/-- The threads whose lock is held, but for the level of the change of a mask that began last. -/
def Session.outer (session : Session) : List ThreadId :=
  session.locks.filterMap (fun lock ↦ lock) ++ session.masking.tail

/-- A change of the mask of the thread that ran at `entry` is in progress. -/
def OnCourse (entry kernel : Kernel Session) : Prop :=
  ∃ marks, Course entry marks kernel

/-- Moreover all is settled. -/
def Ongoing (levels : Session → List ThreadId) (entry kernel : Kernel Session) : Prop :=
  ∃ marks, Course entry marks kernel ∧
    (Few entry.scheduler.current (points marks) →
      Settled entry.scheduler (points marks) kernel.scheduler (levels kernel.client))

section Kernels

variable {entry kernel after : Kernel Session} {levels : Session → List ThreadId}

theorem Course.held (h : Course entry marks kernel) :
    entry.scheduler.current ∈ kernel.client.holding :=
  List.mem_append_right _ h.masking

theorem Course.detained (h : Course entry marks kernel)
    (hfew : Few entry.scheduler.current (points marks))
    (hcount : kernel.client.holding.count entry.scheduler.current < 2 ^ 32) :
    Detained entry.scheduler kernel.scheduler :=
  (h.standing hfew).detained h.held hcount

/-- What leaves turns alone and marks neither points nor deliveries. -/
theorem Course.worked (h : Course entry marks kernel) (hmarked : Marked silent kernel after)
    (hsilent : Silent silent) (hturns : kernel.scheduler.SameTurns after.scheduler) :
    Course entry (marks ++ silent) after := by
  constructor
  case history => rw [hmarked.history, h.history, List.append_assoc]
  case handlers =>
    rw [hmarked.handlers]
    exact h.handlers
  case masking =>
    rw [hmarked.masking]
    exact h.masking
  case standing =>
    rw [hsilent.points_append, hmarked.holding]
    exact fun hfew ↦ (h.standing hfew).of_sameTurns hturns
  case attended =>
    rw [hsilent.points_append]
    exact fun hfew ↦ (h.attended hfew).append hsilent.deliveries

/-- What marks nothing. Turns and levels may change. -/
theorem Course.turned (h : Course entry marks kernel)
    (hhistory : after.client.history = kernel.client.history)
    (hhandlers : after.client.handlers.every Call.leavesTurns = true)
    (hmasking : entry.scheduler.current ∈ after.client.masking)
    (hstanding : Few entry.scheduler.current (points marks) →
      Standing entry.scheduler (points marks) after.scheduler after.client.holding) :
    Course entry marks after where
  history := by
    rw [hhistory]
    exact h.history
  handlers := hhandlers
  masking := hmasking
  standing := hstanding
  attended := h.attended

/-- What leaves turns and levels alone as well. -/
theorem Course.idle (h : Course entry marks kernel)
    (hhistory : after.client.history = kernel.client.history)
    (hturns : kernel.scheduler.SameTurns after.scheduler)
    (hlocks : after.client.locks = kernel.client.locks)
    (hmasking : after.client.masking = kernel.client.masking)
    (hhandlers : after.client.handlers.every Call.leavesTurns = true) :
    Course entry marks after := by
  refine h.turned hhistory hhandlers ?_ fun hfew ↦ ?_
  · rw [hmasking]
    exact h.masking
  · rw [Session.holding, hlocks, hmasking]
    exact (h.standing hfew).of_sameTurns hturns

/-- A point is passed. It tells of a request, if there is one. -/
theorem Course.passes {first : List Moment} {point : Point} (h : Course entry marks kernel)
    (hmarked : Marked (first ++ [.passed point]) kernel after)
    (hscheduler : after.scheduler = kernel.scheduler)
    (hpoint : point.scheduler = kernel.scheduler ∧ point.holding = kernel.client.holding)
    (hfirst : points first = [])
    (hattended : Attended entry.scheduler marks → Detained entry.scheduler kernel.scheduler →
      Attended entry.scheduler (marks ++ (first ++ [.passed point]))) :
    Ongoing Session.holding entry after := by
  obtain ⟨hstands, hholding⟩ := hpoint
  have hpoints : points (marks ++ (first ++ [.passed point])) = points marks ++ [point] := by
    rw [points_append, points_append, hfirst]
    rfl
  have hcount (hfew : Few entry.scheduler.current (points marks ++ [point])) :
      kernel.client.holding.count entry.scheduler.current < 2 ^ 32 := by
    rw [← hholding]
    exact (few_append.1 hfew).2 point (List.mem_singleton_self _)
  refine ⟨marks ++ (first ++ [.passed point]), ?_, ?_⟩
  · constructor
    case history => rw [hmarked.history, h.history, List.append_assoc]
    case handlers =>
      rw [hmarked.handlers]
      exact h.handlers
    case masking =>
      rw [hmarked.masking]
      exact h.masking
    case standing =>
      rw [hpoints, hmarked.holding, hscheduler, ← hstands]
      intro hfew
      have hdetained := h.detained (few_append.1 hfew).1 (hcount hfew)
      have hstanding := h.standing (few_append.1 hfew).1
      rw [← hstands] at hdetained hstanding
      exact hstanding.concat hdetained
    case attended =>
      rw [hpoints]
      intro hfew
      exact hattended (h.attended (few_append.1 hfew).1)
        (h.detained (few_append.1 hfew).1 (hcount hfew))
  · rw [hpoints, hmarked.holding, hscheduler]
    intro hfew
    refine ⟨hcount hfew, fun hrequested ↦ .inr ⟨point, List.mem_append_right _ ?_, ?_⟩⟩
    · exact List.mem_singleton_self _
    · rw [hstands]
      exact hrequested

theorem Course.point (h : Course entry marks kernel) (busy : List ThreadId) :
    Ongoing Session.holding entry (markPoint busy kernel).2 := by
  let point : Point := ⟨kernel.scheduler, busy, kernel.client.holding⟩
  have hmarked : Marked ([] ++ [.passed point]) kernel (markPoint busy kernel).2 :=
    marked_mark _ kernel
  exact h.passes hmarked rfl ⟨rfl, rfl⟩ rfl fun hattended _ ↦
    hattended.append fun delivery hdelivery ↦ by simp at hdelivery

/-- The same levels are held and the same was requested. -/
theorem Ongoing.turned (h : Ongoing levels entry kernel)
    (hcourse : ∀ marks, Course entry marks kernel → Course entry marks after)
    (hrequested : after.scheduler.reschedRequested = kernel.scheduler.reschedRequested)
    {levels' : Session → List ThreadId} (hlevels : levels' after.client = levels kernel.client) :
    Ongoing levels' entry after := by
  obtain ⟨marks, hbefore, hsettled⟩ := h
  refine ⟨marks, hcourse marks hbefore, fun hfew ↦ ?_⟩
  obtain ⟨hcount, hasked⟩ := hsettled hfew
  constructor
  · rw [hlevels]
    exact hcount
  · rw [hrequested]
    exact hasked

/-- Nothing that the invariant is about changes. -/
theorem Ongoing.rests (h : Ongoing levels entry kernel)
    (hturns : kernel.scheduler.SameTurns after.scheduler)
    (hclient : after.client = kernel.client) : Ongoing levels entry after := by
  refine h.turned (fun marks hcourse ↦ ?_) hturns.reschedRequested (congrArg levels hclient)
  have hworked := hcourse.worked (marked_of_client hclient) silent_nil hturns
  rwa [List.append_nil] at hworked

end Kernels

end SignalKernel.Program
