import SignalKernel.Proofs.Program.Reaching
import SignalKernel.Proofs.Program.Tally

/-!
# Kill and stop get through

No thread ever blocks kill or stop, and none has them pending: a new thread's mask leaves them out,
so does every change of a mask, and what is not blocked is not recorded. The main theorem,
`kill_stop_through`, draws the consequences for changes of masks and for posts. It holds for all
runs, also for those that replace signal states or hand occurrences to the sink themselves.
-/

namespace SignalKernel

open Kernel

theorem SignalSet.mem_unblockable {signal : Nat} :
    signal ∈ SignalSet.unblockable ↔ signal = Signal.kill ∨ signal = Signal.stop := by
  rw [unblockable, mem_ofList, List.mem_pair, and_iff_left_iff_imp]
  rintro (rfl | rfl) <;> rfl

namespace SignalState

/-- No signal that no mask may hold is blocked, and none has a record. -/
structure Open (s : SignalState) : Prop where
  sound : s.queue.Sound
  not_blocked : ∀ signal ∈ SignalSet.unblockable, signal ∉ s.blocked
  not_recorded : ∀ signal ∈ SignalSet.unblockable, s.records signal = []

variable {s : SignalState}

theorem Open.not_pending (h : s.Open) {signal : Nat} (hsignal : signal ∈ SignalSet.unblockable) :
    signal ∉ s.pending := by
  rw [mem_pending h.sound]
  exact not_not_intro (h.not_recorded signal hsignal)

theorem Open.inter_eq (h : s.Open) : s.blocked ∩ .unblockable = ∅ := by
  apply SignalSet.ext_mem
  intro signal
  rw [SignalSet.mem_inter]
  constructor
  · exact fun ⟨hblocked, hsignal⟩ ↦ absurd hblocked (h.not_blocked signal hsignal)
  · exact fun hempty ↦ absurd hempty (SignalSet.not_mem_empty signal)

theorem open_ofMask (mask : SignalSet) (capacity : Nat) : (ofMask mask capacity).Open where
  sound := .ofCapacity capacity
  not_blocked signal hsignal := by
    rw [ofMask, SignalSet.mem_sdiff]
    exact fun ⟨_, hout⟩ ↦ hout hsignal
  not_recorded signal _ := records_ofMask mask capacity signal

theorem Open.changeMask (h : s.Open) (mode : MaskMode) (set : SignalSet) :
    (s.changeMask mode set).Open where
  sound := by
    rw [queue_changeMask]
    exact h.sound
  not_blocked signal hsignal := by
    rw [changeMask_eq h.inter_eq, SignalSet.mem_sdiff]
    exact fun ⟨_, hout⟩ ↦ hout hsignal
  not_recorded signal hsignal := by
    rw [records_changeMask]
    exact h.not_recorded signal hsignal

/-- Only blocked signals are recorded. -/
theorem Open.receive (h : s.Open) (o : Occurrence) : (s.receive o).2.Open where
  sound := sound_receive h.sound o
  not_blocked signal hsignal := by
    rw [blocked_receive]
    exact h.not_blocked signal hsignal
  not_recorded signal hsignal := by
    by_cases hqueued : (s.receive o).1 = .ok .queued
    · have hne : signal ≠ o.signal := by
        rintro rfl
        exact h.not_blocked o.signal hsignal (mem_blocked_of_queued hqueued)
      rw [records_receive h.sound hqueued, if_neg hne]
      exact h.not_recorded signal hsignal
    · rw [receive_of_ne_queued hqueued]
      exact h.not_recorded signal hsignal

theorem Open.taken {left : SignalState} {signal : Nat} {o : Occurrence} (h : s.Open)
    (htaken : s.Taken signal o left) : left.Open where
  sound := htaken.sound
  not_blocked other hother := by
    rw [htaken.blocked_eq]
    exact h.not_blocked other hother
  not_recorded other hother := by
    have hne : other ≠ signal := by
      rintro rfl
      have hempty := h.not_recorded other hother
      rw [htaken.records_eq] at hempty
      cases hempty
    rw [htaken.records_of_ne other hne]
    exact h.not_recorded other hother

end SignalState

namespace Program

open SignalState

theorem lasting_open : Lasting Open where
  fresh := open_ofMask
  masked mode set h := h.changeMask mode set
  received o h := h.receive o
  taken h htaken := h.taken htaken

/-- Kill and stop get through to a thread of a scheduler. -/
structure LetsThrough (scheduler : Scheduler) (id : ThreadId) (thread : Thread) : Prop where
  /-- The thread neither blocks them nor has them pending. -/
  free : ∀ signal, signal = Signal.kill ∨ signal = Signal.stop →
    signal ∉ thread.signals.blocked ∧ signal ∉ thread.signals.pending ∧
      thread.signals.records signal = []
  /-- A change of the mask is what its mode makes of the mask and the set, less the two. -/
  masked : ∀ (mode : MaskMode) (set : SignalSet),
    (thread.signals.changeMask mode set).blocked =
      mode.combine thread.signals.blocked set \ .unblockable
  /-- A post hands the occurrence to the sink once, and succeeds with that. -/
  posted : ∀ (o : Occurrence), o.signal = Signal.kill ∨ o.signal = Signal.stop →
    ∀ {γ : Type} (kernel : Kernel γ), kernel.scheduler = scheduler →
      ∃ handed, Rests kernel handed ∧ ∀ sink : Sink γ,
        post sink id o kernel = (.ok .delivered, (sink id .immediate o handed).2)
  /-- So does sending. -/
  sent : ∀ (occurrence : ThreadId → Occurrence),
    (∀ sender,
      (occurrence sender).signal = Signal.kill ∨ (occurrence sender).signal = Signal.stop) →
    ∀ {γ : Type} (kernel : Kernel γ), kernel.scheduler = scheduler →
      ∃ handed, Rests kernel handed ∧ ∀ sink : Sink γ,
        send sink id occurrence kernel =
          (.ok (some .delivered),
            (sink id .immediate (occurrence scheduler.currentThread.id) handed).2)

theorem letsThrough_of_open {scheduler : Scheduler} {id : ThreadId} {thread : Thread}
    (hthread : scheduler.threads.find? id = some thread) (h : thread.signals.Open) :
    LetsThrough scheduler id thread := by
  have hdelivered {o : Occurrence} (hsignal : o.signal = Signal.kill ∨ o.signal = Signal.stop) :
      Signal.isValid o.signal = true ∧ (thread.signals.receive o).1 = .ok .delivered := by
    have hvalid : Signal.isValid o.signal = true := by
      rcases hsignal with hsignal | hsignal <;> rw [hsignal] <;> rfl
    refine ⟨hvalid, ?_⟩
    rw [receive_outcome h.sound hvalid, if_pos]
    exact h.not_blocked o.signal (SignalSet.mem_unblockable.2 hsignal)
  constructor
  case free =>
    intro signal hsignal
    rw [← SignalSet.mem_unblockable] at hsignal
    exact ⟨h.not_blocked signal hsignal, h.not_pending hsignal, h.not_recorded signal hsignal⟩
  case masked => exact changeMask_eq h.inter_eq
  case posted =>
    intro o hsignal γ kernel hscheduler
    obtain ⟨hvalid, hfate⟩ := hdelivered hsignal
    rw [← hscheduler] at hthread
    exact post_of_delivered (mailboxes_of_find? hthread).2 hvalid hfate
  case sent =>
    intro occurrence hsignal γ kernel hscheduler
    obtain ⟨hvalid, hfate⟩ := hdelivered (hsignal scheduler.currentThread.id)
    subst hscheduler
    exact send_of_delivered hthread hvalid hfate

/-- Kill and stop get through to every thread, at every point of a history. -/
def AllLetThrough (history : List Moment) : Prop :=
  ∀ point, .passed point ∈ history → ∀ id thread,
    point.scheduler.threads.find? id = some thread → LetsThrough point.scheduler id thread

/-- Whatever calls a program and its handlers make: kill and stop are never blocked and never
pending, and a post of them is delivered before it returns. -/
theorem kill_stop_through (program : Program) : AllLetThrough program.history := by
  intro point hpoint id thread hthread
  obtain ⟨history, hreached⟩ := reached_point program.every_true hpoint
  have hbox : point.scheduler.mailboxes id = some thread.mailbox :=
    congrArg (Option.map Thread.mailbox) hthread
  exact letsThrough_of_open hthread (hreached.allSignals lasting_open id _ hbox)

/-- A thread that was asked to block everything, with its only slot in use. -/
def fullPool : Program where
  calls := [
    .scheduling (.spawn { pendingCapacity := 1, initialMask := .full }),
    .signal (.kill 1 10),
    .signal (.changeMask (some 1) MaskMode.block.code (some .full) false),
    .signal (.kill 1 Signal.kill),
    .signal (.resetState (some 1) .full 1),
    .signal (.kill 1 10),
    .signal (.changeMask (some 1) MaskMode.setExactly.code (some .full) false),
    .signal (.sigqueue 1 Signal.stop 5)]

theorem kill_stop_through_fullPool :
    (fullPool.final.thread 1).signals.queue.isFull = true ∧
      delivered [.immediate] 1 Signal.kill fullPool.history = [.plain Signal.kill 0] ∧
      delivered [.immediate] 1 Signal.stop fullPool.history = [.carrying Signal.stop 0 5] ∧
      AllLetThrough fullPool.history :=
  ⟨by decide +kernel, by decide +kernel, by decide +kernel, kill_stop_through fullPool⟩

end Program

end SignalKernel
