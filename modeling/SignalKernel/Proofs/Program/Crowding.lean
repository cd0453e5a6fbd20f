import SignalKernel.Proofs.Program.Calm
import SignalKernel.Proofs.Program.Ledger
import SignalKernel.Proofs.Program.Unblockable
import SignalKernel.Proofs.Signals.Slots

/-!
# When a standard signal finds no slot

No slot is set aside for standard signals. Each of them has at most one record, but realtime signals
may have a record in every slot of a thread, and then a standard signal without a record is refused.
The main theorem, `slots_shared`, says exactly when that happens, for every run in which no thread's
signals are replaced, and that it never does while realtime signals leave 29 slots to others.
-/

namespace SignalKernel

open Kernel

namespace SignalState

/-- A signal that is crowded out leaves all but 28 slots to realtime signals, because neither it nor
kill nor stop has a record. -/
theorem CrowdedOut.capacity_le {s : SignalState} {signal : Nat} (h : s.CrowdedOut signal)
    (hmerged : s.Merged) (hopen : s.Open) (hstandard : signal ∈ Signal.standard) :
    s.queue.capacity ≤ s.realtimeRecords + 28 := by
  obtain ⟨lane, hlane, rfl⟩ := Signal.exists_standardLane hstandard
  let silent : Finset (Fin 64) := {lane, 8, 18}
  have hunblockable : Signal.ofLane 8 ∈ SignalSet.unblockable ∧
      Signal.ofLane 18 ∈ SignalSet.unblockable :=
    ⟨SignalSet.mem_unblockable.2 (.inl rfl), SignalSet.mem_unblockable.2 (.inr rfl)⟩
  have hkill : lane ≠ 8 := by
    rintro rfl
    exact hopen.not_blocked _ hunblockable.1 h.blocked
  have hstop : lane ≠ 18 := by
    rintro rfl
    exact hopen.not_blocked _ hunblockable.2 h.blocked
  have hcard : silent.card = 3 := Finset.card_eq_three.2 ⟨lane, 8, 18, hkill, hstop, by decide, rfl⟩
  have hsub : silent ⊆ Signal.standardLanes := by
    intro other hother
    simp only [silent, Finset.mem_insert, Finset.mem_singleton] at hother
    rcases hother with rfl | rfl | rfl
    · exact hlane
    · exact Signal.mem_standardLanes.2 rfl
    · exact Signal.mem_standardLanes.2 rfl
  have hsilent : ∀ other ∈ silent, s.records (Signal.ofLane other) = [] := by
    intro other hother
    simp only [silent, Finset.mem_insert, Finset.mem_singleton] at hother
    rcases hother with rfl | rfl | rfl
    · exact h.records_eq
    · exact hopen.not_recorded _ hunblockable.1
    · exact hopen.not_recorded _ hunblockable.2
  have hfew := hmerged.standardRecords_add_card_le hsub hsilent
  have hfull := h.full
  omega

end SignalState

namespace Program

open SignalState

theorem lasting_merged : Lasting Merged where
  fresh := .ofMask
  masked mode set h := h.changeMask mode set
  received o h := h.receive o
  taken h htaken := h.taken htaken

/-- How a thread of a scheduler treats standard signals. -/
structure SharesSlots (scheduler : Scheduler) (id : ThreadId) (thread : Thread) : Prop where
  /-- Standard signals merge. -/
  once : ∀ signal ∈ Signal.standard, (thread.signals.records signal).length ≤ 1
  /-- A post fails exactly if the signal is crowded out. -/
  posted : ∀ o : Occurrence, o.signal ∈ Signal.standard →
    ∀ {γ : Type} (sink : Sink γ) (kernel : Kernel γ), kernel.scheduler = scheduler → ∀ error,
      (post sink id o kernel).1 = .error error ↔
        error = .queueFull ∧ thread.signals.CrowdedOut o.signal
  /-- So does sending. -/
  sent : ∀ occurrence : ThreadId → Occurrence,
    (∀ sender, (occurrence sender).signal ∈ Signal.standard) →
    ∀ {γ : Type} (sink : Sink γ) (kernel : Kernel γ), kernel.scheduler = scheduler → ∀ error,
      (send sink id occurrence kernel).1 = .error error ↔
        error = .queueFull ∧
          thread.signals.CrowdedOut (occurrence scheduler.currentThread.id).signal
  /-- A signal is crowded out by realtime signals, which have all slots but 28. -/
  crowded : ∀ signal ∈ Signal.standard, thread.signals.CrowdedOut signal →
    thread.pendingCapacity ≤ thread.signals.realtimeRecords + 28
  /-- As long as realtime signals leave 29 slots, standard signals are accepted. -/
  covered : thread.signals.realtimeRecords + 29 ≤ thread.pendingCapacity →
    ∀ o : Occurrence, o.signal ∈ Signal.standard →
      ∀ {γ : Type} (sink : Sink γ) (kernel : Kernel γ), kernel.scheduler = scheduler →
        ∃ fate, (post sink id o kernel).1 = .ok fate

section Thread

variable {scheduler : Scheduler} {id : ThreadId} {thread : Thread}

theorem post_eq_error_iff (hthread : scheduler.threads.find? id = some thread)
    (hq : thread.signals.queue.Sound) {o : Occurrence} (hstandard : o.signal ∈ Signal.standard)
    {γ : Type} (sink : Sink γ) {kernel : Kernel γ} (hscheduler : kernel.scheduler = scheduler)
    (error : SignalError) :
    (post sink id o kernel).1 = .error error ↔
      error = .queueFull ∧ thread.signals.CrowdedOut o.signal := by
  subst hscheduler
  have hvalid := (Signal.mem_standard_iff.1 hstandard).1
  rw [post_outcome (mailboxes_of_find? hthread).2 hvalid]
  exact receive_eq_error_iff hq hstandard

theorem send_eq_error_iff (hthread : scheduler.threads.find? id = some thread)
    (hq : thread.signals.queue.Sound) {occurrence : ThreadId → Occurrence}
    (hstandard : ∀ sender, (occurrence sender).signal ∈ Signal.standard)
    {γ : Type} (sink : Sink γ) {kernel : Kernel γ} (hscheduler : kernel.scheduler = scheduler)
    (error : SignalError) :
    (send sink id occurrence kernel).1 = .error error ↔
      error = .queueFull ∧
        thread.signals.CrowdedOut (occurrence scheduler.currentThread.id).signal := by
  subst hscheduler
  have ho := hstandard kernel.scheduler.currentThread.id
  rw [send_outcome hthread (Signal.mem_standard_iff.1 ho).1]
  refine Iff.trans ?_ (receive_eq_error_iff hq ho)
  cases (thread.signals.receive _).1 <;> simp [Except.map]

end Thread

/-- Standard and realtime signals share the slots of every thread, at every point of a history. -/
def AllShareSlots (history : List Moment) : Prop :=
  ∀ point, .passed point ∈ history → ∀ id thread,
    point.scheduler.threads.find? id = some thread → SharesSlots point.scheduler id thread

/-- Whatever calls a program and its handlers make, as long as none of them replaces a thread's
signal state: a standard signal is refused exactly if it is blocked, has no record and finds all
slots in use, and then realtime signals have all of them but 28. -/
theorem slots_shared (program : Program) (h : program.only SignalCall.keepsState = true) :
    AllShareSlots program.history := by
  have hcalm := (anyHistory.past h trivial).calm
  intro point hpoint id thread hthread
  have hbox : point.scheduler.mailboxes id = some thread.mailbox :=
    congrArg (Option.map Thread.mailbox) hthread
  obtain ⟨history, hreached⟩ := reached_point program.every_true hpoint
  have hmerged : thread.signals.Merged := hreached.allSignals lasting_merged id _ hbox
  have hopen : thread.signals.Open := hreached.allSignals lasting_open id _ hbox
  have hcapacity : thread.pendingCapacity = thread.signals.queue.capacity :=
    ((hcalm (.passed point) hpoint).1 id _ hbox).capacity
  have hcrowded (signal : Nat) (hstandard : signal ∈ Signal.standard)
      (hout : thread.signals.CrowdedOut signal) :
      thread.pendingCapacity ≤ thread.signals.realtimeRecords + 28 := by
    rw [hcapacity]
    exact hout.capacity_le hmerged hopen hstandard
  constructor
  case once =>
    intro signal hstandard
    exact hmerged.once signal (Signal.mem_standard_iff.1 hstandard).2
  case posted =>
    intro o hstandard γ sink kernel hscheduler error
    exact post_eq_error_iff hthread hmerged.sound hstandard sink hscheduler error
  case sent =>
    intro occurrence hstandard γ sink kernel hscheduler error
    exact send_eq_error_iff hthread hmerged.sound hstandard sink hscheduler error
  case crowded => exact hcrowded
  case covered =>
    intro hleft o hstandard γ sink kernel hscheduler
    cases houtcome : (post sink id o kernel).1 with
    | ok fate => exact ⟨fate, rfl⟩
    | error error =>
        obtain ⟨-, hout⟩ :=
          (post_eq_error_iff hthread hmerged.sound hstandard sink hscheduler error).1 houtcome
        have hle := hcrowded o.signal hstandard hout
        omega

/-- A thread with 31 slots that blocks everything. Three records of a realtime signal and one of
each standard signal that may be blocked, but one, leave no slot for that one. -/
def lastStandard : Program where
  calls :=
    .scheduling (.spawn { pendingCapacity := 31, initialMask := .full }) ::
      [1, 2, 3].map (fun value ↦ .signal (.sigqueue 1 34 value)) ++
      (Signal.standard.filter fun signal ↦ Signal.isCatchable signal && signal != 10).map
        (fun signal ↦ .signal (.kill 1 signal)) ++
      [.signal (.kill 1 10)]

theorem slots_shared_lastStandard :
    lastStandard.only SignalCall.keepsState = true ∧
      (fates lastStandard.history).getLast? = some none ∧
      ((lastStandard.final.thread 1).signals.realtimeRecords,
        (lastStandard.final.thread 1).pendingCapacity) = (3, 31) ∧
      AllShareSlots lastStandard.history :=
  ⟨by decide, by decide +kernel, by decide +kernel, slots_shared lastStandard (by decide)⟩

end Program

end SignalKernel
