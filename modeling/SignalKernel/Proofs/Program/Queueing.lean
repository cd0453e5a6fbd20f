import SignalKernel.Proofs.Kernel.RunQueue
import SignalKernel.Proofs.Program.Reaching

/-!
# Every thread keeps its turn

However threads are created, made to run, scheduled and preempted, none is lost from the run queue
and none is in it twice. Reports of switches can be trusted for that reason: the thread that runs
never waits, so that rotating always makes another one run. The main theorem is `turns_kept`.
-/

namespace SignalKernel.Program

open SignalKernel.Kernel

variable {allows : Call → Bool}

theorem Turn.inOrder {scheduler after : Scheduler} {holding left : List ThreadId}
    (h : Turn allows scheduler holding after left) (hs : scheduler.InOrder) : after.InOrder := by
  cases h with
  | none => exact hs
  | spawned config => exact hs.spawn config
  | requested => exact hs.request true
  | preempted => exact hs.preempt
  | rotated hallowed => exact hs.rotate
  | madeCurrent hallowed => exact hs.setCurrent _
  | unlocked hleft => exact hs.unlock _

theorem Stage.Next.inOrder {phase phase' : Phase} {s s' : Stage}
    (h : s.Next allows phase phase' s') (hs : s.scheduler.InOrder) : s'.scheduler.InOrder := by
  cases h with
  | worked hturns hexchange => exact hs.of_sameTurns hturns
  | delivered sweeping hturns hhandover hfinds => exact hs.of_sameTurns hturns
  | locked hthread hholding => exact hs.lock _
  | turned hturn => exact hturn.inOrder hs
  | passed sweeping => exact hs

/-- The run queue is in order at every stage. -/
theorem Reached.inOrder {phase : Phase} {s : Stage} (h : Reached allows phase s) :
    s.scheduler.InOrder := by
  induction h with
  | start => exact Scheduler.inOrder_initial
  | next h hnext ih => exact hnext.inOrder ih

/-- Every thread of a scheduler has its turn, and reports of switches tell the truth. -/
structure EachHasTurn (scheduler : Scheduler) : Prop where
  distinct : (scheduler.threads.toList.map Thread.id).Nodup
  /-- The thread that runs exists, so it is not the idle thread in its place. -/
  current : scheduler.threads.find? scheduler.current = some scheduler.currentThread
  idle : scheduler.idle ∉ scheduler.ready
  running : scheduler.current ∉ scheduler.ready
  waiting : ∀ thread ∈ scheduler.threads.spawned,
    thread.id = scheduler.current ∨ scheduler.ready.count thread.id = 1
  /-- Only threads that were created wait. -/
  created : ∀ id ∈ scheduler.ready, ∃ thread ∈ scheduler.threads.spawned, thread.id = id
  scheduled : ∀ {γ : Type} (kernel : Kernel γ), kernel.scheduler = scheduler →
    scheduler.Truthful (schedule kernel).1 (schedule kernel).2.scheduler
  preempted : ∀ {γ : Type} (kernel : Kernel γ), kernel.scheduler = scheduler →
    scheduler.Truthful (preemptionPoint kernel).1 (preemptionPoint kernel).2.scheduler

theorem eachHasTurn_of_inOrder {scheduler : Scheduler} (h : scheduler.InOrder)
    (hfew : scheduler.threads.spawned.length < 2 ^ 64) : EachHasTurn scheduler := by
  have hlength := Scheduler.length_ids_le hfew
  have hqueue := h.queue hlength
  have hnodup := h.queue_nodup hlength
  have hids := h.nodup hlength
  have hidle := Scheduler.idle_not_mem_ready hnodup
  have hrunning := Scheduler.current_not_mem_ready hnodup
  constructor
  case distinct => exact hids
  case current => exact Scheduler.find?_current hqueue
  case idle => exact hidle
  case running => exact hrunning
  case waiting =>
    intro thread hthread
    refine (Scheduler.running_or_waiting hqueue (List.mem_map_of_mem hthread)).imp_right ?_
    exact List.count_eq_one_of_mem (Scheduler.nodup_ready hnodup)
  case created =>
    exact fun id hid ↦ List.mem_map.1 (Scheduler.created_of_mem_ready hqueue hid)
  case scheduled =>
    intro γ kernel hscheduler
    subst hscheduler
    rw [(run_schedule kernel).1, (run_schedule kernel).2]
    exact Scheduler.truthful_rotate hrunning
  case preempted =>
    intro γ kernel hscheduler
    subst hscheduler
    rw [(run_preemptionPoint kernel).1, (run_preemptionPoint kernel).2]
    exact Scheduler.truthful_preempt hrunning

/-- At every point of a history every thread has its turn, and a thread that does not exist is not
made to run. -/
structure TurnsKept (history : List Moment) : Prop where
  turns : ∀ point, .passed point ∈ history → point.scheduler.threads.spawned.length < 2 ^ 64 →
    EachHasTurn point.scheduler
  /-- Making an unknown thread run is refused, and is no more than an empty critical section. -/
  refused : ∀ point, .passed point ∈ history → ∀ id, point.scheduler.threads.find? id = none →
    ∀ {γ : Type} (kernel : Kernel γ), kernel.scheduler = point.scheduler →
      setCurrent id kernel =
          (false, { kernel with core := kernel.core.enter.2.leave kernel.core.enter.1 }) ∧
        (kernel.core.MayEnter → setCurrent id kernel = (false, kernel))

/-- Whatever calls a program and its handlers make, no thread loses its turn or gets two, as long as
fewer than 2 ^ 64 threads are created. -/
theorem turns_kept (program : Program) : TurnsKept program.history := by
  constructor
  case turns =>
    intro point hpoint hfew
    obtain ⟨history, hreached⟩ := reached_point program.every_true hpoint
    exact eachHasTurn_of_inOrder hreached.inOrder hfew
  case refused =>
    intro point hpoint id hnone γ kernel hscheduler
    have hrefused : setCurrent id kernel =
        (false, { kernel with core := kernel.core.enter.2.leave kernel.core.enter.1 }) := by
      rw [← hscheduler] at hnone
      have hsame := Scheduler.setCurrent_of_none hnone
      show ((kernel.scheduler.setCurrent id).1,
        { kernel with
          core := kernel.core.enter.2.leave kernel.core.enter.1
          scheduler := (kernel.scheduler.setCurrent id).2 }) = _
      rw [hsame]
    refine ⟨hrefused, fun hcore ↦ ?_⟩
    rw [hrefused, Core.leave_enter hcore]

/-- Three threads. The third is made to run out of turn, keeps the processor while it holds its
scheduler lock, and gives it up with the lock; then the idle thread is made to run. -/
def outOfTurn : Program where
  calls := [
    .scheduling (.spawn {}),
    .scheduling (.spawn {}),
    .scheduling (.spawn {}),
    .scheduling .schedule,
    .scheduling (.setCurrent 3),
    .scheduling (.setCurrent 77),
    .scheduling (.lock none),
    .scheduling .requestResched,
    .scheduling .preemptionPoint,
    .scheduling (.unlock 0),
    .scheduling (.setCurrent 0)]

theorem turns_kept_outOfTurn :
    outOfTurn.final.scheduler.threads.spawned.length < 2 ^ 64 ∧
      (points outOfTurn.history).map (fun point ↦
          (point.scheduler.current, point.scheduler.ready)) =
        [(0, []), (0, [1]), (0, [1, 2]), (0, [1, 2, 3]), (1, [2, 3]), (3, [2, 1]), (3, [2, 1]),
          (3, [2, 1]), (3, [2, 1]), (3, [2, 1]), (2, [1, 3]), (0, [1, 3, 2])] ∧
      TurnsKept outOfTurn.history :=
  ⟨by decide +kernel, by decide +kernel, turns_kept outOfTurn⟩

end SignalKernel.Program
