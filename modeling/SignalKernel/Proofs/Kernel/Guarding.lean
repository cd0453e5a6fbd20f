import SignalKernel.Proofs.Kernel.Congruence
import SignalKernel.Proofs.Kernel.Draining

/-!
# Work that treats a thread well

All that the sweep of a thread needs of the calls that handlers make is that they treat this thread
well: it stays, with the slots it has and a sound queue, and its signals drain. What becomes of
other threads does not matter. A computation `Guards` a thread if it does so, and
`Operation.guards` says that every operation guards a thread if the sink does. The one operation
that has to be argued about is the change of the thread's own mask: the new mask may make records
deliverable, but the sweep that follows leaves none.
-/

namespace SignalKernel

open Kernel

namespace Mailboxes

variable {v v' v'' : Mailboxes} {id : ThreadId}

/-- The thread's mailbox is sound, if there is such a thread. -/
def SoundAt (id : ThreadId) (v : Mailboxes) : Prop :=
  ∀ box, v id = some box → box.Sound

/-- The thread stays, with the slots it has, and its signals drain. -/
def DrainsAt (id : ThreadId) (v v' : Mailboxes) : Prop :=
  ∀ box, v id = some box →
    ∃ box', v' id = some box' ∧ box'.capacity = box.capacity ∧ box.signals.Drains box'.signals

theorem DrainsAt.refl (id : ThreadId) (v : Mailboxes) : DrainsAt id v v :=
  fun box hbox ↦ ⟨box, hbox, rfl, .refl _⟩

theorem DrainsAt.trans (h : DrainsAt id v v') (h' : DrainsAt id v' v'') : DrainsAt id v v'' := by
  intro box hbox
  obtain ⟨box', hbox', hcapacity, hdrains⟩ := h box hbox
  obtain ⟨box'', hbox'', hcapacity', hdrains'⟩ := h' box' hbox'
  exact ⟨box'', hbox'', hcapacity'.trans hcapacity, hdrains.trans hdrains'⟩

end Mailboxes

/-- A step that keeps the queue sound, with the slots it has, and drains. -/
structure SignalState.Gentle (s s' : SignalState) : Prop where
  sound : s'.queue.Sound
  capacity : s'.queue.capacity = s.queue.capacity
  drains : s.Drains s'

theorem SignalState.gentle_receive {s : SignalState} (hq : s.queue.Sound) (o : Occurrence) :
    s.Gentle (s.receive o).2 :=
  ⟨sound_receive hq o, capacity_receive s o, drains_receive hq o⟩

theorem SignalState.gentle_take {s : SignalState} (hq : s.queue.Sound) (signal : Nat) :
    s.Gentle (s.takeUnblocked signal).2 := by
  cases htake : (s.takeUnblocked signal).1 with
  | none =>
      rw [(takeUnblocked_of_none hq htake).2]
      exact ⟨hq, rfl, .refl s⟩
  | some o =>
      have htaken := takeUnblocked_of_some hq htake
      exact ⟨htaken.sound, htaken.capacity_eq, htaken.drains⟩

/-- The client is as it should be, and the thread's mailbox is sound. -/
structure Kernel.Guarded {γ : Type} (A : γ → Prop) (id : ThreadId) (kernel : Kernel γ) : Prop where
  client : A kernel.client
  sound : kernel.mailboxes.SoundAt id

/-- A computation treats the thread well, if the client is as it should be, and leaves the client
so. -/
def Kernel.Guards {γ α : Type} (A : γ → Prop) (id : ThreadId) (m : KernelM γ α) : Prop :=
  ∀ kernel, kernel.Guarded A id →
    (m kernel).2.Guarded A id ∧ kernel.mailboxes.DrainsAt id (m kernel).2.mailboxes

/-- All that the sink does treats the thread well. -/
def Sink.Guards {γ : Type} (sink : Sink γ) (A : γ → Prop) (id : ThreadId) : Prop :=
  ∀ target timing o, Kernel.Guards A id (sink target timing o)

namespace Kernel

variable {γ α β : Type} {A : γ → Prop} {id : ThreadId} {kernel after : Kernel γ} {box : Mailbox}

/-! ## Steps -/

/-- What leaves the client and the thread's mailbox alone. -/
theorem Guarded.same (h : kernel.Guarded A id) (hclient : after.client = kernel.client)
    (hmailbox : after.mailboxes id = kernel.mailboxes id) :
    after.Guarded A id ∧ kernel.mailboxes.DrainsAt id after.mailboxes := by
  refine ⟨⟨?_, fun box hbox ↦ ?_⟩, fun box hbox ↦ ⟨box, ?_, rfl, .refl _⟩⟩
  · rw [hclient]
    exact h.client
  · rw [hmailbox] at hbox
    exact h.sound box hbox
  · rw [hmailbox]
    exact hbox

section Update

variable (h : kernel.Guarded A id) (hclient : after.client = kernel.client)
  (hbox : kernel.mailboxes id = some box) {s : SignalState}
  (hafter : after.mailboxes id = some { box with signals := s })
include h hclient hbox hafter

/-- What leaves the client alone and keeps the thread's queue sound. -/
theorem Guarded.update (hq : s.queue.Sound)
    (hcapacity : s.queue.capacity = box.signals.queue.capacity) : after.Guarded A id := by
  refine ⟨?_, fun box' hbox' ↦ ?_⟩
  · rw [hclient]
    exact h.client
  · rw [hafter] at hbox'
    cases hbox'
    exact ⟨hq, (h.sound box hbox).capacity.trans hcapacity.symm⟩

/-- What leaves the client alone and changes the thread's signals gently. -/
theorem Guarded.gentle (hgentle : box.signals.Gentle s) :
    after.Guarded A id ∧ kernel.mailboxes.DrainsAt id after.mailboxes := by
  refine ⟨h.update hclient hbox hafter hgentle.sound hgentle.capacity, fun box' hbox' ↦ ?_⟩
  rw [hbox] at hbox'
  cases hbox'
  exact ⟨_, hafter, rfl, hgentle.drains⟩

end Update

theorem guards_of_alike {m : KernelM γ α} (h : ∀ kernel, Alike kernel (m kernel).2) :
    Guards A id m :=
  fun kernel hkernel ↦ hkernel.same (h kernel).client (congrFun (h kernel).mailboxes id)

theorem guards_pure (a : α) : Guards A id (pure a : KernelM γ α) :=
  guards_of_alike .refl

theorem Guards.bind {m : KernelM γ α} {f : α → KernelM γ β} (hm : Guards A id m)
    (hf : ∀ a, Guards A id (f a)) : Guards A id (m >>= f) := by
  intro kernel hkernel
  obtain ⟨hmiddle, hdrains⟩ := hm kernel hkernel
  obtain ⟨hafter, hdrains'⟩ := hf (m kernel).1 (m kernel).2 hmiddle
  exact ⟨hafter, hdrains.trans hdrains'⟩

/-- A step that goes on with what it read of the kernel. -/
theorem Guards.read {δ : Type} {part : Kernel γ → δ} {f : δ → KernelM γ α}
    (h : ∀ a, Guards A id (f a)) : Guards A id (get >>= fun kernel ↦ f (part kernel)) :=
  fun kernel ↦ h (part kernel) kernel

theorem guards_notify (notice : Notice) : Guards A id (notify notice : KernelM γ Unit) :=
  guards_of_alike (alike_notify notice)

theorem guards_readScheduler (f : Scheduler → α) :
    Guards A id (readScheduler f : KernelM γ α) :=
  guards_of_alike (alike_readScheduler f)

theorem guards_readSignals (target : ThreadId) (f : SignalState → α) :
    Guards A id (readSignals target f : KernelM γ α) :=
  guards_of_alike fun kernel ↦ (run_readSignals target f kernel).2

/-- What a step on signals does to all mailboxes. -/
theorem mailboxes_withSignals (target : ThreadId) (f : SignalState → α × SignalState)
    (kernel : Kernel γ) (other : ThreadId) :
    (withSignals target f kernel).2.mailboxes other = (kernel.mailboxes other).map fun box ↦
      if other = target then { box with signals := (f (kernel.thread target).signals).2 }
      else box := by
  let change (thread : Thread) : Thread :=
    { thread with signals := (f (kernel.thread target).signals).2 }
  show ((kernel.scheduler.threads.modify target change).find? other).map Thread.mailbox = _
  rw [ThreadTable.find?_modify _ _ _ (fun _ ↦ rfl : ∀ thread, (change thread).id = thread.id),
    Option.map_map, mailboxes, Scheduler.mailboxes, Option.map_map]
  refine Option.map_congr fun thread _ ↦ ?_
  simp only [Function.comp_apply]
  split <;> rfl

theorem guards_withSignals (target : ThreadId) {f : SignalState → α × SignalState}
    (hf : target = id → ∀ s : SignalState, s.queue.Sound → s.Gentle (f s).2) :
    Guards A id (withSignals target f : KernelM γ α) := by
  intro kernel hkernel
  have hafter := mailboxes_withSignals target f kernel id
  cases hbox : kernel.mailboxes id with
  | none =>
      rw [hbox] at hafter
      exact hkernel.same rfl (hafter.trans hbox.symm)
  | some box =>
      rw [hbox] at hafter
      by_cases htarget : target = id
      · subst htarget
        rw [(signals_thread hbox).1] at hafter
        simp only [Option.map_some, if_pos] at hafter
        exact hkernel.gentle rfl hbox hafter (hf rfl _ (hkernel.sound box hbox).queue)
      · simp only [Option.map_some, if_neg (Ne.symm htarget)] at hafter
        exact hkernel.same rfl (hafter.trans hbox.symm)

theorem guards_take (target : ThreadId) (signal : Nat) :
    Guards A id (withSignals target (·.takeUnblocked signal) : KernelM γ (Option Occurrence)) :=
  guards_withSignals target fun _ _ hq ↦ SignalState.gentle_take hq signal

/-- A new thread does not get the identity of one that exists. -/
theorem guards_spawn (config : ThreadConfig) : Guards A id (spawn config : KernelM γ Thread) := by
  intro kernel hkernel
  obtain ⟨hclient, hsame | ⟨hnone, hadded⟩⟩ := mailboxes_spawn config kernel
  · exact hkernel.same hclient (congrFun hsame id)
  · by_cases hid : id = kernel.scheduler.nextId
    · subst hid
      refine ⟨⟨hclient ▸ hkernel.client, fun box hbox ↦ ?_⟩, fun box hbox ↦ ?_⟩
      · rw [hadded, Function.update_self] at hbox
        cases hbox
        exact ⟨.ofCapacity _, rfl⟩
      · rw [hnone] at hbox
        cases hbox
    · refine hkernel.same hclient ?_
      rw [hadded, Function.update_of_ne hid]

theorem guards_storeErrno {ε : Type} (target : ThreadId) (errno : ε → Errno)
    (outcome : Except ε α) : Guards A id (storeErrno target errno outcome : KernelM γ Unit) :=
  guards_of_alike fun kernel ↦ (rests_storeErrno target errno outcome kernel).toAlike

/-! ## Posting and delivering -/

/-- Log that a record was taken, and hand it over. -/
def deliverTaken (sink : Sink γ) (id : ThreadId) (o : Occurrence) : KernelM γ Unit := do
  notify (.recordTaken id o)
  dispatch sink id .deferred o

/-- There is nothing to take, and the draining is over. -/
theorem drain_of_none {sink : Sink γ} {signal : Nat}
    (h : ((kernel.thread id).signals.takeUnblocked signal).1 = none) (limit delivered : Nat) :
    drain sink id signal (limit + 1) delivered kernel =
      (delivered, (withSignals id (·.takeUnblocked signal) kernel).2) := by
  have htaken : (withSignals id (·.takeUnblocked signal) kernel).1 = none := h
  rw [drain, run_bind, htaken]
  rfl

/-- A record is taken and handed over, and the draining goes on. -/
theorem drain_of_some {sink : Sink γ} {signal : Nat} {o : Occurrence}
    (h : ((kernel.thread id).signals.takeUnblocked signal).1 = some o) (limit delivered : Nat) :
    drain sink id signal (limit + 1) delivered kernel =
      drain sink id signal limit (delivered + 1)
        (deliverTaken sink id o (withSignals id (·.takeUnblocked signal) kernel).2).2 := by
  have htaken : (withSignals id (·.takeUnblocked signal) kernel).1 = some o := h
  rw [drain, run_bind, htaken]
  rfl

section Sink

variable {sink : Sink γ} (hsink : sink.Guards A id)
include hsink

theorem guards_dispatch (target : ThreadId) (timing : Timing) (o : Occurrence) :
    Guards A id (dispatch sink target timing o) :=
  (guards_notify _).bind fun _ ↦ hsink target timing o

theorem guards_deliverTaken (target : ThreadId) (o : Occurrence) :
    Guards A id (deliverTaken sink target o) :=
  (guards_notify _).bind fun _ ↦ guards_dispatch hsink target .deferred o

theorem guards_post (target : ThreadId) (o : Occurrence) : Guards A id (post sink target o) := by
  unfold post
  split
  · exact guards_pure _
  · refine (guards_withSignals target fun _ _ hq ↦ SignalState.gentle_receive hq o).bind
      fun outcome ↦ ?_
    rcases outcome with error | (_ | _ | _)
    · exact guards_pure _
    · exact (guards_dispatch hsink target .immediate o).bind fun _ ↦ guards_pure _
    · exact (guards_notify _).bind fun _ ↦ guards_pure _
    · exact (guards_notify _).bind fun _ ↦ guards_pure _

theorem guards_drain (target : ThreadId) (signal limit delivered : Nat) :
    Guards A id (drain sink target signal limit delivered) := by
  induction limit generalizing delivered with
  | zero => exact guards_pure _
  | succ limit ih =>
      refine (guards_take target signal).bind fun taken ↦ ?_
      cases taken with
      | none => exact guards_pure _
      | some o =>
          refine (guards_notify _).bind fun _ ↦ ?_
          exact (guards_dispatch hsink target .deferred o).bind fun _ ↦ ih (delivered + 1)

theorem guards_drainEach (target : ThreadId) (limit : Nat) (signals : List Nat)
    (delivered : Nat) : Guards A id (drainEach sink target limit signals delivered) := by
  induction signals generalizing delivered with
  | nil => exact guards_pure _
  | cons signal rest ih => exact (guards_drain hsink target signal limit delivered).bind ih

theorem guards_sweep (target : ThreadId) : Guards A id (sweep sink target) := by
  refine (guards_readSignals target _).bind fun ready ↦ ?_
  split
  · exact guards_pure 0
  · exact .read fun limit ↦ guards_drainEach hsink target limit ready.toList 0

/-! ## Sweeping leaves nothing -/

/-- What is known of the thread once a record of a signal was taken and handed over: the handler
blocked the signal, or its list is shorter. -/
theorem delivered_taken (hkernel : kernel.Guarded A id) (hbox : kernel.mailboxes id = some box)
    {signal : Nat} {o : Occurrence}
    (htake : (box.signals.takeUnblocked signal).1 = some o) :
    let handed := (deliverTaken sink id o (withSignals id (·.takeUnblocked signal) kernel).2).2
    handed.Guarded A id ∧ ∃ box', handed.mailboxes id = some box' ∧
      box'.capacity = box.capacity ∧ box.signals.Drains box'.signals ∧
        (signal ∈ box'.signals.blocked ∨
          (box'.signals.records signal).length < (box.signals.records signal).length) := by
  have hfrom := SignalState.takeUnblocked_of_some (hkernel.sound box hbox).queue htake
  obtain ⟨-, -, hmailboxes⟩ := run_withSignals hbox (·.takeUnblocked signal)
  have hleft := (congrFun hmailboxes id).trans (Function.update_self ..)
  obtain ⟨htaken, -⟩ := guards_take (A := A) id signal kernel hkernel
  obtain ⟨hhanded, hdrains⟩ := guards_deliverTaken hsink id o _ htaken
  obtain ⟨box', hbox', hcapacity, hdrained⟩ := hdrains _ hleft
  refine ⟨hhanded, box', hbox', hcapacity, hfrom.drains.trans hdrained, ?_⟩
  by_cases hblocked : signal ∈ box'.signals.blocked
  · exact .inl hblocked
  · right
    rw [hfrom.records_eq, List.length_cons]
    rcases hdrained signal hblocked with hempty | ⟨-, hle⟩
    · rw [hempty]
      exact Nat.succ_pos _
    · exact Nat.lt_succ_of_le hle

/-- Draining a signal leaves it clean, if it is blocked or its list is no longer than the limit. -/
theorem drain_cleans (hkernel : kernel.Guarded A id) (hbox : kernel.mailboxes id = some box)
    {signal limit : Nat}
    (hlimit : signal ∈ box.signals.blocked ∨ (box.signals.records signal).length ≤ limit)
    (delivered : Nat) :
    ∃ box', (drain sink id signal limit delivered kernel).2.mailboxes id = some box' ∧
      box'.signals.Clean signal := by
  induction limit generalizing kernel box delivered with
  | zero =>
      rw [Nat.le_zero, List.length_eq_zero_iff] at hlimit
      exact ⟨box, hbox, hlimit⟩
  | succ limit ih =>
      obtain ⟨hsignals, -⟩ := signals_thread hbox
      cases htake : (box.signals.takeUnblocked signal).1 with
      | none =>
          obtain ⟨hclean, hkept⟩ :=
            SignalState.takeUnblocked_of_none (hkernel.sound box hbox).queue htake
          obtain ⟨-, -, hmailboxes⟩ := run_withSignals hbox (·.takeUnblocked signal)
          rw [hkept, Mailboxes.update_signals_self hbox] at hmailboxes
          rw [drain_of_none (hsignals ▸ htake)]
          exact ⟨box, (congrFun hmailboxes id).trans hbox, hclean⟩
      | some o =>
          have hopen := (SignalState.takeUnblocked_of_some (hkernel.sound box hbox).queue
            htake).not_blocked
          have hlength := hlimit.resolve_left hopen
          obtain ⟨hhanded, box', hbox', -, -, hless⟩ := delivered_taken hsink hkernel hbox htake
          rw [drain_of_some (hsignals ▸ htake)]
          exact ih hhanded hbox' (hless.imp_right (by omega)) (delivered + 1)

/-- Draining a signal as often as the thread has slots treats the thread well, and leaves the signal
clean. -/
theorem drain_leaves_clean (hkernel : kernel.Guarded A id) (hbox : kernel.mailboxes id = some box)
    (signal delivered : Nat) :
    let drained := (drain sink id signal box.capacity delivered kernel).2
    drained.Guarded A id ∧ ∃ box', drained.mailboxes id = some box' ∧
      box'.capacity = box.capacity ∧ box.signals.Drains box'.signals ∧
        box'.signals.Clean signal := by
  have hlimit := (hkernel.sound box hbox).length_records_le signal
  obtain ⟨box', hbox', hclean⟩ := drain_cleans hsink hkernel hbox (.inr hlimit) delivered
  obtain ⟨hdrained, hdrains⟩ :=
    guards_drain hsink id signal box.capacity delivered kernel hkernel
  obtain ⟨kept, hkept, hcapacity, hdrained'⟩ := hdrains box hbox
  rw [hbox'] at hkept
  cases hkept
  exact ⟨hdrained, box', hbox', hcapacity, hdrained', hclean⟩

/-- Draining several signals leaves all of them clean. -/
theorem drainEach_cleans (hkernel : kernel.Guarded A id) (hbox : kernel.mailboxes id = some box)
    (signals : List Nat) (delivered : Nat) :
    ∃ box', (drainEach sink id box.capacity signals delivered kernel).2.mailboxes id = some box' ∧
      ∀ signal, box.signals.Clean signal ∨ signal ∈ signals → box'.signals.Clean signal := by
  induction signals generalizing kernel box delivered with
  | nil => exact ⟨box, hbox, fun signal hclean ↦ hclean.resolve_right List.not_mem_nil⟩
  | cons first rest ih =>
      obtain ⟨hguarded, box', hbox', hcapacity, hdrains, hclean⟩ :=
        drain_leaves_clean hsink hkernel hbox first delivered
      obtain ⟨box'', hbox'', hclean'⟩ := ih hguarded hbox' (drain sink id first box.capacity
        delivered kernel).1
      rw [hcapacity] at hbox''
      -- what is clean stays clean while other signals are drained
      refine ⟨box'', hbox'', fun signal hsignal ↦ ?_⟩
      rw [List.mem_cons] at hsignal
      rcases hsignal with hsignal | rfl | hsignal
      · exact hclean' signal (.inl (hdrains.clean hsignal))
      · exact hclean' signal (.inl hclean)
      · exact hclean' signal (.inr hsignal)

/-- A sweep leaves nothing deliverable. -/
theorem sweep_settles (hkernel : kernel.Guarded A id) (hbox : kernel.mailboxes id = some box) :
    ∃ box', (sweep sink id kernel).2.mailboxes id = some box' ∧ box'.signals.Settled := by
  have hq := (hkernel.sound box hbox).queue
  obtain ⟨hready, halike⟩ := run_readSignals id (·.deliverable) kernel
  rw [(signals_thread hbox).1] at hready
  have hread := (hkernel.same halike.client (congrFun halike.mailboxes id)).1
  have hbox' := (congrFun halike.mailboxes id).trans hbox
  rw [sweep, run_bind, hready]
  split
  case isTrue hempty =>
    exact ⟨box, hbox', (SignalState.settled_iff_deliverable hq).2 (SignalSet.isEmpty_iff.1 hempty)⟩
  case isFalse =>
    rw [run_bind, run_get]
    show ∃ box', (drainEach sink id
      ((readSignals id (·.deliverable) kernel).2.thread id).pendingCapacity _ 0
      (readSignals id (·.deliverable) kernel).2).2.mailboxes id = some box' ∧ box'.signals.Settled
    rw [(signals_thread hbox').2]
    obtain ⟨box', hafter, hclean⟩ :=
      drainEach_cleans hsink hread hbox' box.signals.deliverable.toList 0
    -- the snapshot has all that is not clean
    refine ⟨box', hafter, fun signal ↦ hclean signal ?_⟩
    rw [SignalState.clean_iff hq, SignalSet.mem_toList]
    exact (em _).symm

/-! ## Changes of masks -/

omit hsink in
/-- Writing the thread's mask leaves its queue alone. -/
theorem guarded_maskWritten (hkernel : kernel.Guarded A id) (hbox : kernel.mailboxes id = some box)
    (mode : MaskMode) (set : SignalSet) :
    let written := (withSignals id (fun signals ↦
      ((signals.changeMask mode set).blocked, signals.changeMask mode set)) kernel).2
    written.Guarded A id ∧
      written.mailboxes id = some { box with signals := box.signals.changeMask mode set } := by
  obtain ⟨-, -, hmailboxes⟩ := run_withSignals hbox fun signals ↦
    ((signals.changeMask mode set).blocked, signals.changeMask mode set)
  have hchanged := (congrFun hmailboxes id).trans (Function.update_self ..)
  have hqueue := box.signals.queue_changeMask mode set
  have hsound := (hkernel.sound box hbox).queue
  rw [← hqueue] at hsound
  exact ⟨hkernel.update rfl hbox hchanged hsound (congrArg _ hqueue), hchanged⟩

/-- Writing a thread's mask does not drain, but once the sweep is over everything has. -/
theorem guards_installMask (target : ThreadId) (old : SignalSet) (mode : MaskMode)
    (set : SignalSet) : Guards A id (installMask sink target old mode set) := by
  have hrest (new : SignalSet) : Guards A id (do
      notify (.maskChanged target old new mode set)
      discard (sweep sink target)) :=
    (guards_notify _).bind fun _ ↦ (guards_sweep hsink target).bind fun _ ↦ guards_pure _
  by_cases htarget : target = id
  · subst htarget
    intro kernel hkernel
    let change : SignalState → SignalSet × SignalState := fun signals ↦
      ((signals.changeMask mode set).blocked, signals.changeMask mode set)
    let new := (withSignals target change kernel).1
    cases hbox : kernel.mailboxes target with
    | none =>
        have hchanged := mailboxes_withSignals target change kernel target
        rw [hbox] at hchanged
        have hsame : (withSignals target change kernel).2.Guarded A target ∧ _ :=
          hkernel.same rfl (hchanged.trans hbox.symm)
        refine ⟨(hrest new _ hsame.1).1, fun box hbox' ↦ ?_⟩
        rw [hbox] at hbox'
        cases hbox'
    | some box =>
        obtain ⟨hwritten, hchanged⟩ := guarded_maskWritten hkernel hbox mode set
        obtain ⟨hafter, hdrains⟩ := hrest new _ hwritten
        refine ⟨hafter, fun box' hbox' ↦ ?_⟩
        rw [hbox] at hbox'
        cases hbox'
        obtain ⟨kept, hkept, hcapacity, -⟩ := hdrains _ hchanged
        -- from the thread's old mailbox: the new mask may unblock, but the sweep leaves nothing
        have hnotified := alike_notify (.maskChanged target old new mode set)
          (withSignals target change kernel).2
        obtain ⟨left, hleft, hsettled⟩ := sweep_settles hsink
          (guards_notify (.maskChanged target old new mode set) _ hwritten).1
          ((congrFun hnotified.mailboxes target).trans hchanged)
        have hsame : some kept = some left := hkept.symm.trans hleft
        cases hsame
        exact ⟨kept, hkept, hcapacity, hsettled.drains _⟩
  · refine (guards_withSignals target fun h ↦ absurd h htarget).bind fun new ↦ ?_
    exact hrest new

theorem guards_requestMask (target : ThreadId) (old : SignalSet) (how : Int)
    (set : Option SignalSet) : Guards A id (requestMask sink target old how set) := by
  cases set with
  | none => exact guards_pure _
  | some set =>
      rw [requestMask]
      cases MaskMode.ofCode how with
      | error error => exact (guards_notify _).bind fun _ ↦ guards_pure _
      | ok mode =>
          exact (guards_installMask hsink target old mode set).bind fun _ ↦ guards_pure _

theorem guards_changeMask (target : ThreadId) (how : Int) (set : Option SignalSet) :
    Guards A id (changeMask sink target how set) := by
  refine (guards_of_alike (alike_lockScheduler target)).bind fun _ ↦ ?_
  refine (guards_readSignals target _).bind fun old ↦ ?_
  refine (guards_requestMask hsink target old how set).bind fun outcome ↦ ?_
  exact (guards_of_alike (alike_unlockScheduler target)).bind fun _ ↦ guards_pure _

theorem guards_sigprocmask (how : Int) (set : Option SignalSet) :
    Guards A id (sigprocmask sink how set) := by
  refine (guards_readScheduler _).bind fun caller ↦ ?_
  refine (guards_changeMask hsink caller.id how set).bind fun reply ↦ ?_
  exact (guards_storeErrno _ _ _).bind fun _ ↦ guards_pure _

theorem guards_postTo (target : ThreadId) (o : Occurrence) :
    Guards A id (postTo sink target o) := by
  refine (guards_readScheduler _).bind fun found ↦ ?_
  cases found with
  | none => exact (guards_notify _).bind fun _ ↦ guards_pure _
  | some thread =>
      simp only
      split
      · exact guards_pure _
      · refine (guards_post hsink thread.id o).bind fun outcome ↦ ?_
        cases outcome with
        | ok fate => exact guards_pure _
        | error error => exact (guards_notify _).bind fun _ ↦ guards_pure _

theorem guards_send (target : ThreadId) (occurrence : ThreadId → Occurrence) :
    Guards A id (send sink target occurrence) := by
  refine (guards_readScheduler _).bind fun caller ↦ ?_
  refine (guards_postTo hsink target _).bind fun outcome ↦ ?_
  exact (guards_storeErrno _ _ _).bind fun _ ↦ guards_pure _

/-- Every operation treats a thread well if the sink does. -/
theorem Operation.guards {operation : Sink γ → KernelM γ α} (h : Operation γ operation) :
    Guards A id (operation sink) := by
  cases h with
  | spawn config => exact guards_spawn config
  | setCurrent target => exact guards_of_alike (alike_setCurrent target)
  | requestResched => exact guards_of_alike fun _ ↦ ⟨rfl, rfl⟩
  | schedule => exact guards_of_alike alike_schedule
  | preemptionPoint => exact guards_of_alike alike_preemptionPoint
  | lockScheduler target => exact guards_of_alike (alike_lockScheduler target)
  | unlockScheduler target => exact guards_of_alike (alike_unlockScheduler target)
  | dispatch target timing o => exact guards_dispatch hsink target timing o
  | post target o => exact guards_post hsink target o
  | sweep target => exact guards_sweep hsink target
  | changeMask target how set => exact guards_changeMask hsink target how set
  | sigprocmask how set => exact guards_sigprocmask hsink how set
  | sigpending =>
      exact (guards_readScheduler _).bind fun caller ↦ guards_readSignals caller.id _
  | postTo target o => exact guards_postTo hsink target o
  | send target occurrence => exact guards_send hsink target occurrence
  | kill target signal => exact guards_send hsink target _
  | sigqueue target signal value => exact guards_send hsink target _

end Sink

end Kernel

end SignalKernel
