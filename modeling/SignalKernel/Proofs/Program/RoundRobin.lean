import SignalKernel.Proofs.Kernel.Rotation
import SignalKernel.Proofs.Program.Depths
import SignalKernel.Proofs.Program.Queueing

/-!
# The threads run in turn

Scheduling is fair: as many calls as there are threads let each of them run once, and leave the
turns as they were. The idle thread takes no part in it, and once another thread runs, it does not
come to run again unless it is made to. The main theorem is `round_robin`. It is about every point
of every run, so about any state that threads were created, scheduled, preempted and made to run in.
-/

namespace SignalKernel.Program

open SignalKernel.Kernel SignalKernel.Scheduler

/-- The call leaves it to scheduling and to preemption points which thread runs. -/
def Call.runsInTurn : Call → Bool
  | .scheduling (.setCurrent _) => false
  | _ => true

/-! ## Stages in turn -/

theorem Turn.inTurn {scheduler after : Scheduler} {holding left : List ThreadId}
    (h : Turn Call.runsInTurn scheduler holding after left) : scheduler.InTurn after := by
  cases h with
  | none => exact .refl scheduler
  | spawned config => exact inTurn_spawn scheduler config
  | requested => exact inTurn_request scheduler true
  | preempted => exact inTurn_preempt scheduler
  | rotated hallowed => exact inTurn_rotate scheduler
  | madeCurrent hallowed => cases hallowed
  | unlocked hleft => exact inTurn_unlock scheduler _

theorem Stage.Next.inTurn {phase phase' : Phase} {s s' : Stage}
    (h : s.Next Call.runsInTurn phase phase' s') : s.scheduler.InTurn s'.scheduler := by
  cases h with
  | worked hturns hexchange => exact inTurn_of_sameTurns hturns
  | delivered sweeping hturns hhandover hfinds => exact inTurn_of_sameTurns hturns
  | locked hthread hholding => exact inTurn_lock _ _
  | turned hturn => exact hturn.inTurn
  | passed sweeping => exact .refl _

/-- From `origin` on, threads ran in turn at all points but the earlier ones, and so they do at the
stage that the run has come to. -/
structure RanInTurn (origin : Scheduler) (earlier : List Point) (s : Stage) : Prop where
  sound : AllSignals (fun signals ↦ signals.queue.Sound) s.scheduler.mailboxes
  passed : ∃ later, points s.history = earlier ++ later ∧
    (origin :: later.map Point.scheduler).Pairwise InTurn ∧
      ∀ scheduler ∈ origin :: later.map Point.scheduler, scheduler.InTurn s.scheduler

theorem RanInTurn.next {origin : Scheduler} {earlier : List Point} {phase phase' : Phase}
    {s s' : Stage} (h : RanInTurn origin earlier s)
    (hnext : s.Next Call.runsInTurn phase phase' s') : RanInTurn origin earlier s' := by
  obtain ⟨hsound, later, hpoints, hlater, hstage⟩ := h
  refine ⟨hnext.allSignals lasting_sound hsound, ?_⟩
  have hreaches : ∀ scheduler ∈ origin :: later.map Point.scheduler,
      scheduler.InTurn s'.scheduler :=
    fun scheduler hscheduler ↦ (hstage scheduler hscheduler).trans hnext.inTurn
  rcases hnext.points_eq with hsame | ⟨sweeping, -, hpassed⟩
  · exact ⟨later, hsame.trans hpoints, hlater, hreaches⟩
  · let point : Point := ⟨s'.scheduler, sweeping, s'.holding⟩
    have hschedulers : origin :: (later ++ [point]).map Point.scheduler =
        (origin :: later.map Point.scheduler) ++ [s'.scheduler] := by
      rw [List.map_append]
      rfl
    refine ⟨later ++ [point], ?_, ?_⟩
    · rw [hpassed, hpoints, List.append_assoc]
    · rw [hschedulers, List.pairwise_append, List.forall_mem_append]
      simp only [List.mem_singleton, forall_eq]
      exact ⟨⟨hlater, List.pairwise_singleton _ _, hreaches⟩, hreaches, .refl _⟩

/-- Calls that leave it to scheduling which thread runs let the threads run in turn. -/
def runningInTurn (origin : Scheduler) (earlier : List Point) : StageInvariant where
  allows := Call.runsInTurn
  holds _ := RanInTurn origin earlier
  next := RanInTurn.next
  sound h := h.sound _ _

/-- Wherever the calls of a run are made, threads run in turn from then on. -/
theorem ranInTurn_runAll {site : Site} (hsite : site.Scripted) {calls : List Call}
    (hcalls : Call.allEvery Call.runsInTurn calls = true) {kernel : Kernel Session}
    (hsound : AllSignals (fun signals ↦ signals.queue.Sound) kernel.mailboxes)
    (hhandlers : kernel.client.handlers.every Call.runsInTurn = true) :
    RanInTurn kernel.scheduler (points kernel.client.history.toList)
      (stage (Call.runAll site calls kernel).2) := by
  let I := runningInTurn kernel.scheduler (points kernel.client.history.toList)
  have harrived : Arrived I .during kernel := by
    refine ⟨hhandlers, hsound, [], (List.append_nil _).symm, List.pairwise_singleton _ _, ?_⟩
    intro scheduler hscheduler
    cases List.mem_singleton.1 hscheduler
    exact .refl _
  exact ((reaching I).calls_keep (hsite.serves (reaching I)) calls hcalls kernel harrived).1.holds

/-! ## The theorem -/

/-- A round is what as many calls report as there are threads, with the thread that runs after
each. -/
structure IsRound (scheduler : Scheduler) (turns : List (Option Switch × ThreadId))
    (after : Scheduler) : Prop where
  once : ∀ thread ∈ scheduler.threads.spawned, (turns.map Prod.snd).count thread.id = 1
  idle : scheduler.idle ∉ turns.map Prod.snd
  reported : ∀ turn ∈ turns, turn.1 ≠ none
  /-- Those that wait run in order, and then the one that ran before the round. -/
  turns_eq : turns = trail scheduler.current (scheduler.ready ++ [scheduler.current])
  after_eq : after =
    { scheduler with
      contextSwitches :=
        scheduler.contextSwitches + .ofNat scheduler.threads.spawned.length }

/-- The threads of a scheduler take turns. -/
structure TakesTurns (scheduler : Scheduler) : Prop where
  round : scheduler.current ≠ scheduler.idle → 2 ≤ scheduler.threads.spawned.length →
    ∀ {γ : Type} (kernel : Kernel γ), kernel.scheduler = scheduler →
      IsRound scheduler (scheduleTimes scheduler.threads.spawned.length kernel).1
        (scheduleTimes scheduler.threads.spawned.length kernel).2.scheduler
  /-- From the idle thread on, those that wait run in order, and it is none of them. -/
  fromIdle : scheduler.current = scheduler.idle → scheduler.idle ∉ scheduler.ready ∧
    ∀ {γ : Type} (kernel : Kernel γ), kernel.scheduler = scheduler →
      (scheduleTimes scheduler.ready.length kernel).1 = trail scheduler.idle scheduler.ready
  /-- Once another thread runs, the idle thread does not run again, whatever calls and handlers do
  except make a thread run. -/
  inTurn : ∀ {site : Site}, site.Scripted → ∀ kernel : Kernel Session,
    kernel.scheduler = scheduler → kernel.client.handlers.every Call.runsInTurn = true →
      ∀ calls, Call.allEvery Call.runsInTurn calls = true →
        ∃ later, points (Call.runAll site calls kernel).2.client.history.toList =
            points kernel.client.history.toList ++ later ∧
          (scheduler :: later.map Point.scheduler).Pairwise fun first second ↦
            first.current ≠ first.idle → second.threads.spawned.length < 2 ^ 64 →
              second.current ≠ second.idle

/-- If threads run in turn from a run queue in order on, the idle thread does not come to run. -/
theorem busy_of_pairwise {scheduler : Scheduler} {later : List Scheduler}
    (hs : scheduler.InOrder) (h : (scheduler :: later).Pairwise InTurn) :
    (scheduler :: later).Pairwise fun first second ↦
      first.current ≠ first.idle → second.threads.spawned.length < 2 ^ 64 →
        second.current ≠ second.idle := by
  refine h.imp_of_mem fun {first second} hfirst _ hinTurn hran hspawned ↦ ?_
  have horder : first.InOrder := by
    rcases List.mem_cons.1 hfirst with rfl | hlater
    · exact hs
    · exact ((List.pairwise_cons.1 h).1 first hlater).inOrder hs
  exact hinTurn.busy horder (length_ids_le hspawned) hran

theorem isRound_rotations {scheduler : Scheduler} (h : scheduler.InOrder)
    (hfew : scheduler.ids.length ≤ 2 ^ 64) (hran : scheduler.current ≠ scheduler.idle)
    (hmany : 2 ≤ scheduler.threads.spawned.length) :
    IsRound scheduler (scheduler.rotations scheduler.threads.spawned.length).1
      (scheduler.rotations scheduler.threads.spawned.length).2 := by
  have hidle := idle_not_mem_ready (h.queue_nodup hfew)
  have hperm := upcoming_perm (h.queue hfew) hran
  have hlength : scheduler.threads.spawned.length = scheduler.ready.length + 1 := by
    have hsame := hperm.length_eq
    rw [upcoming_of_ne_idle hran, List.length_append, List.length_map] at hsame
    exact hsame.symm
  have hready : scheduler.ready ≠ [] := by
    intro hnone
    rw [hlength, hnone] at hmany
    exact absurd hmany (by decide)
  have hrotations := rotations_of_ne_idle hran hready hidle
  have hnotidle := idle_notMem_upcoming hidle
  rw [upcoming_of_ne_idle hran] at hperm hnotidle
  rw [hlength, hrotations]
  constructor
  case once =>
    intro thread hthread
    have hids : (scheduler.threads.spawned.map Thread.id).Nodup :=
      (List.nodup_cons.1 (h.nodup hfew)).2
    rw [map_snd_trail, hperm.count_eq]
    exact List.count_eq_one_of_mem hids (List.mem_map_of_mem hthread)
  case idle =>
    rw [map_snd_trail]
    exact hnotidle
  case reported => exact fun turn ↦ ne_none_of_mem_trail
  case turns_eq => rfl
  case after_eq => rw [hlength]

/-- Scheduling is fair and periodic at every point of a history. -/
def RoundRobin (history : List Moment) : Prop :=
  ∀ point, .passed point ∈ history → point.scheduler.threads.spawned.length < 2 ^ 64 →
    TakesTurns point.scheduler

/-- Whatever calls a program and its handlers make, the threads take turns, as long as fewer than
2 ^ 64 of them are created. -/
theorem round_robin (program : Program) : RoundRobin program.history := by
  intro point hpoint hspawned
  obtain ⟨history, hreached⟩ := reached_point program.every_true hpoint
  have horder := hreached.inOrder
  have hfew := length_ids_le hspawned
  have hidle := idle_not_mem_ready (horder.queue_nodup hfew)
  constructor
  case round =>
    intro hran hmany γ kernel hscheduler
    obtain ⟨hturns, hafter⟩ := run_scheduleTimes point.scheduler.threads.spawned.length kernel
    rw [hturns, hafter, hscheduler]
    exact isRound_rotations horder hfew hran hmany
  case fromIdle =>
    refine fun hran ↦ ⟨hidle, fun kernel hscheduler ↦ ?_⟩
    rw [(run_scheduleTimes _ kernel).1, hscheduler]
    exact rotations_of_idle hran hidle
  case inTurn =>
    intro site hsite kernel hscheduler hhandlers calls hcalls
    have hsound := hreached.allSignals lasting_sound
    rw [← hscheduler] at hsound horder ⊢
    obtain ⟨-, later, hpoints, hlater, -⟩ := ranInTurn_runAll hsite hcalls hsound hhandlers
    exact ⟨later, hpoints, busy_of_pairwise horder hlater⟩

/-- Three threads. The second is made to run, and a preemption point ends its turn. -/
def cutShort : Program where
  calls := [
    .scheduling (.spawn {}),
    .scheduling (.spawn {}),
    .scheduling (.spawn {}),
    .scheduling (.setCurrent 2),
    .scheduling .requestResched,
    .scheduling .preemptionPoint]

theorem round_robin_cutShort :
    cutShort.final.scheduler.current = 1 ∧ cutShort.final.scheduler.ready = [3, 2] ∧
      (scheduleTimes 3 cutShort.final).1 =
        [(some ⟨1, 3⟩, 3), (some ⟨3, 2⟩, 2), (some ⟨2, 1⟩, 1)] ∧
      RoundRobin cutShort.history :=
  ⟨by decide +kernel, by decide +kernel, by decide +kernel, round_robin cutShort⟩

end SignalKernel.Program
