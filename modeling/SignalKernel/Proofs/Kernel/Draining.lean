import SignalKernel.Proofs.Kernel.Mailboxes
import SignalKernel.Proofs.Signals.Draining

/-!
# Sweeps leave nothing deliverable

What handlers do to mailboxes in the middle of a sweep is bounded by `Leads`: every thread's signals
drain, and new threads start settled. A sink serves if all its deliveries, whatever they run, lead
to mailboxes in this way. The main statements are `Safe.sweep` and `Safe.changeMask`: with such a
sink, a sweep leaves the thread's signals settled although it works from the snapshot it took at the
beginning and looks at each list a bounded number of times, and so does a change of the mask.

The client may keep books on what goes through the mailboxes, and everything is shown together with
the agreement of these books. `Books` says what agreement has to withstand: changes of masks, and
the time between the removal of a record and its entry by the sink.
-/

namespace SignalKernel

open Kernel

namespace Mailbox

/-- The queue is sound and the number of slots is the one that was asked for. -/
structure Sound (box : Mailbox) : Prop where
  queue : box.signals.queue.Sound
  capacity : box.capacity = box.signals.queue.capacity

/-- No list is longer than the thread has slots. -/
theorem Sound.length_records_le {box : Mailbox} (h : box.Sound) (signal : Nat) :
    (box.signals.records signal).length ≤ box.capacity := by
  rw [h.capacity]
  exact PendingQueue.length_records_le h.queue signal

end Mailbox

namespace Mailboxes

variable {v v' : Mailboxes} {id : ThreadId} {box : Mailbox} {s : SignalState}

/-- All mailboxes are sound. -/
def Sound (v : Mailboxes) : Prop :=
  ∀ id box, v id = some box → box.Sound

/-- The threads that are not busy have nothing deliverable. -/
def Calm (busy : List ThreadId) (v : Mailboxes) : Prop :=
  ∀ id box, v id = some box → id ∉ busy → box.signals.Settled

/-- Threads stay, with the slots they have, and their signals drain. New ones are settled. -/
structure Leads (v v' : Mailboxes) : Prop where
  kept : ∀ id box, v id = some box →
    ∃ box', v' id = some box' ∧ box'.capacity = box.capacity ∧ box.signals.Drains box'.signals
  fresh : ∀ id box', v id = none → v' id = some box' → box'.signals.Settled

theorem Leads.refl (v : Mailboxes) : Leads v v where
  kept _ box hbox := ⟨box, hbox, rfl, .refl _⟩
  fresh id box' hnone hbox' := by
    rw [hnone] at hbox'
    cases hbox'

theorem Leads.trans {v'' : Mailboxes} (h : Leads v v') (h' : Leads v' v'') : Leads v v'' where
  kept id box hbox := by
    obtain ⟨box', hbox', hcapacity, hdrains⟩ := h.kept id box hbox
    obtain ⟨box'', hbox'', hcapacity', hdrains'⟩ := h'.kept id box' hbox'
    exact ⟨box'', hbox'', hcapacity'.trans hcapacity, hdrains.trans hdrains'⟩
  fresh id box'' hnone hbox'' := by
    cases hmiddle : v' id with
    | none => exact h'.fresh id box'' hmiddle hbox''
    | some box' =>
        obtain ⟨kept, hkept, -, hdrains⟩ := h'.kept id box' hmiddle
        rw [hbox''] at hkept
        cases hkept
        exact hdrains.settled (h.fresh id box' hnone hmiddle)

/-- A thread that has nothing deliverable keeps it so. -/
theorem Leads.calm (h : Leads v v') {busy : List ThreadId} (hv : Calm busy v) : Calm busy v' := by
  intro id box' hbox' hidle
  cases hbefore : v id with
  | none => exact h.fresh id box' hbefore hbox'
  | some box =>
      obtain ⟨kept, hkept, -, hdrains⟩ := h.kept id box hbefore
      rw [hbox'] at hkept
      cases hkept
      exact hdrains.settled (hv id box hbefore hidle)

/-- Changing one mailbox so that its signals drain. -/
theorem leads_update (hbox : v id = some box) (h : box.signals.Drains s) :
    Leads v (Function.update v id (some { box with signals := s })) where
  kept other box' hbox' := by
    by_cases hother : other = id
    · subst hother
      rw [hbox] at hbox'
      cases hbox'
      exact ⟨_, Function.update_self .., rfl, h⟩
    · rw [Function.update_of_ne hother]
      exact ⟨box', hbox', rfl, .refl _⟩
  fresh other box' hnone hbox' := by
    have hother : other ≠ id := by
      rintro rfl
      rw [hbox] at hnone
      cases hnone
    rw [Function.update_of_ne hother, hnone] at hbox'
    cases hbox'

/-- A change of one mailbox that does not drain is made good if its signals are settled in
the end. -/
theorem Leads.of_update (h : Leads (Function.update v id (some { box with signals := s })) v')
    (hbox : v id = some box) (hsettled : ∀ box', v' id = some box' → box'.signals.Settled) :
    Leads v v' where
  kept other box' hbox' := by
    by_cases hother : other = id
    · subst hother
      rw [hbox] at hbox'
      cases hbox'
      obtain ⟨after, hafter, hcapacity, -⟩ := h.kept other _ (Function.update_self ..)
      exact ⟨after, hafter, hcapacity, (hsettled after hafter).drains _⟩
    · rw [← Function.update_of_ne hother (some { box with signals := s }) v] at hbox'
      exact h.kept other box' hbox'
  fresh other box' hnone hbox' := by
    have hother : other ≠ id := by
      rintro rfl
      rw [hbox] at hnone
      cases hnone
    rw [← Function.update_of_ne hother (some { box with signals := s }) v] at hnone
    exact h.fresh other box' hnone hbox'

theorem Sound.update (h : Sound v) (hbox : v id = some box) (hs : s.queue.Sound)
    (hcapacity : s.queue.capacity = box.signals.queue.capacity) :
    Sound (Function.update v id (some { box with signals := s })) := by
  intro other box' hbox'
  by_cases hother : other = id
  · subst hother
    rw [Function.update_self] at hbox'
    cases hbox'
    exact ⟨hs, (h other box hbox).capacity.trans hcapacity.symm⟩
  · rw [Function.update_of_ne hother] at hbox'
    exact h other box' hbox'

/-- A new thread is settled and has a sound queue. -/
theorem leads_spawn (hnone : v id = none) (config : ThreadConfig) :
    Leads v (Function.update v id (some (Thread.ofConfig id config).mailbox)) where
  kept other box' hbox' := by
    have hother : other ≠ id := by
      rintro rfl
      rw [hnone] at hbox'
      cases hbox'
    rw [Function.update_of_ne hother]
    exact ⟨box', hbox', rfl, .refl _⟩
  fresh other box' hbefore hbox' := by
    by_cases hother : other = id
    · subst hother
      rw [Function.update_self] at hbox'
      cases hbox'
      exact SignalState.settled_ofMask _ _
    · rw [Function.update_of_ne hother, hbefore] at hbox'
      cases hbox'

theorem Sound.spawn (h : Sound v) (config : ThreadConfig) :
    Sound (Function.update v id (some (Thread.ofConfig id config).mailbox)) := by
  intro other box' hbox'
  by_cases hother : other = id
  · subst hother
    rw [Function.update_self] at hbox'
    cases hbox'
    exact ⟨.ofCapacity _, rfl⟩
  · rw [Function.update_of_ne hother] at hbox'
    exact h other box' hbox'

/-- What a busy thread has may change. -/
theorem Calm.update_of_mem {busy : List ThreadId} (h : Calm busy v) (hid : id ∈ busy)
    (box : Mailbox) : Calm busy (Function.update v id (some box)) := by
  intro other box' hbox' hidle
  have hother : other ≠ id := by
    rintro rfl
    exact hidle hid
  rw [Function.update_of_ne hother] at hbox'
  exact h other box' hbox' hidle

theorem Calm.cons {busy : List ThreadId} (h : Calm busy v) (id : ThreadId) : Calm (id :: busy) v :=
  fun other box hbox hidle ↦ h other box hbox fun hmem ↦ hidle (List.mem_cons_of_mem _ hmem)

end Mailboxes

/-- Books that a client keeps on what goes through the mailboxes. -/
structure Books (γ : Type) where
  /-- The books agree with the mailboxes. -/
  agree : γ → Mailboxes → Prop
  /-- They agree once they have an entry for the occurrence that is being handed over. -/
  owe : γ → Mailboxes → ThreadId → Timing → Occurrence → Prop
  mask : ∀ {client v id box} (mode : MaskMode) (set : SignalSet), agree client v → v id = some box →
    agree client
      (Function.update v id (some { box with signals := box.signals.changeMask mode set }))
  take : ∀ {client v id box signal o left}, v.Sound → agree client v → v id = some box →
    box.signals.Taken signal o left →
      owe client (Function.update v id (some { box with signals := left })) id .deferred o

/-- The kernel's mailboxes are sound, threads that are not busy have nothing deliverable, and the
books agree. -/
structure Kernel.Safe {γ : Type} (B : Books γ) (busy : List ThreadId) (kernel : Kernel γ) :
    Prop where
  sound : kernel.mailboxes.Sound
  calm : kernel.mailboxes.Calm busy
  books : B.agree kernel.client kernel.mailboxes

/-- From a kernel to a safe one, with mailboxes that lead to each other. -/
structure Kernel.Advance {γ : Type} (B : Books γ) (busy : List ThreadId)
    (kernel after : Kernel γ) : Prop where
  safe : after.Safe B busy
  leads : kernel.mailboxes.Leads after.mailboxes

/-- Whatever a delivery runs, it advances if the books owe the occurrence that is handed over. While
a sweep delivers to a thread, that thread is busy. -/
def Sink.Serves {γ : Type} (sink : Sink γ) (B : Books γ) (busy : List ThreadId) : Prop :=
  ∀ id timing o (kernel : Kernel γ), kernel.mailboxes.Sound →
    kernel.mailboxes.Calm (timing.sweeping id busy) →
      B.owe kernel.client kernel.mailboxes id timing o →
        kernel.Advance B (timing.sweeping id busy) (sink id timing o kernel).2

namespace Kernel

variable {γ : Type} {B : Books γ} {busy : List ThreadId} {kernel middle after : Kernel γ}

theorem Safe.cons (h : kernel.Safe B busy) (id : ThreadId) : kernel.Safe B (id :: busy) :=
  ⟨h.sound, h.calm.cons id, h.books⟩

theorem Safe.refl (h : kernel.Safe B busy) : kernel.Advance B busy kernel :=
  ⟨h, .refl _⟩

theorem Safe.alike (h : kernel.Safe B busy) (halike : Alike kernel after) :
    kernel.Advance B busy after := by
  obtain ⟨hmailboxes, hclient⟩ := halike
  constructor
  case safe =>
    refine ⟨?_, ?_, ?_⟩
    · rw [hmailboxes]
      exact h.sound
    · rw [hmailboxes]
      exact h.calm
    · rw [hmailboxes, hclient]
      exact h.books
  case leads =>
    rw [hmailboxes]
    exact .refl _

theorem Advance.trans (h : kernel.Advance B busy middle) (h' : middle.Advance B busy after) :
    kernel.Advance B busy after :=
  ⟨h'.safe, h.leads.trans h'.leads⟩

theorem Advance.alike (h : kernel.Advance B busy middle) (halike : Alike middle after) :
    kernel.Advance B busy after :=
  h.trans (h.safe.alike halike)

/-- Going from one kernel to another by changing one mailbox so that its signals drain. -/
theorem leads_of_update {id : ThreadId} {box : Mailbox} {s : SignalState}
    (hbox : kernel.mailboxes id = some box)
    (hmailboxes : after.mailboxes =
      Function.update kernel.mailboxes id (some { box with signals := s }))
    (hdrains : box.signals.Drains s) : kernel.mailboxes.Leads after.mailboxes := by
  rw [hmailboxes]
  exact Mailboxes.leads_update hbox hdrains

section Operations

variable {sink : Sink γ} {id : ThreadId} {box : Mailbox}

/-- Posting advances, if the books are ready for whatever becomes of the occurrence. -/
theorem advance_post (hsound : kernel.mailboxes.Sound) (hcalm : kernel.mailboxes.Calm busy)
    (hsink : sink.Serves B busy) (hbox : kernel.mailboxes id = some box) {o : Occurrence}
    (hrefused : Signal.isValid o.signal = false → B.agree kernel.client kernel.mailboxes)
    (hkept : Signal.isValid o.signal = true → (box.signals.receive o).1 ≠ .ok .delivered →
      B.agree kernel.client (Function.update kernel.mailboxes id
        (some { box with signals := (box.signals.receive o).2 })))
    (hhanded : Signal.isValid o.signal = true → (box.signals.receive o).1 = .ok .delivered →
      B.owe kernel.client kernel.mailboxes id .immediate o) :
    kernel.Advance B busy (post sink id o kernel).2 := by
  have hq := (hsound id box hbox).queue
  cases hvalid : Signal.isValid o.signal with
  | false =>
      rw [post_of_invalid hvalid]
      exact Safe.refl ⟨hsound, hcalm, hrefused hvalid⟩
  | true =>
      by_cases hfate : (box.signals.receive o).1 = .ok .delivered
      · obtain ⟨handed, ⟨⟨hmailboxes, hclient⟩, -⟩, hafter⟩ :=
          post_of_delivered hbox hvalid hfate
        have howe := hhanded hvalid hfate
        rw [← hmailboxes] at hsound hcalm
        rw [← hclient, ← hmailboxes] at howe
        rw [hafter]
        obtain ⟨hsafe, hleads⟩ := hsink id .immediate o handed hsound hcalm howe
        rw [hmailboxes] at hleads
        exact ⟨hsafe, hleads⟩
      · obtain ⟨hclient, hmailboxes, -⟩ := post_of_ne_delivered sink hbox hvalid hfate
        have hleads := leads_of_update hbox hmailboxes (SignalState.drains_receive hq o)
        refine ⟨⟨?_, hleads.calm hcalm, ?_⟩, hleads⟩
        · rw [hmailboxes]
          exact hsound.update hbox (SignalState.sound_receive hq o)
            (SignalState.capacity_receive _ o)
        · rw [hclient, hmailboxes]
          exact hkept hvalid hfate

/-- Draining one signal advances and leaves the signal clean, if the signal is blocked or its list
is no longer than the limit. Every record that is taken makes the list shorter, and what the
handler does in between cannot make it longer again. -/
theorem Safe.drain (h : kernel.Safe B (id :: busy)) (hsink : sink.Serves B busy)
    (hbox : kernel.mailboxes id = some box) {signal limit : Nat}
    (hlimit : signal ∈ box.signals.blocked ∨ (box.signals.records signal).length ≤ limit)
    (delivered : Nat) :
    kernel.Advance B (id :: busy) (drain sink id signal limit delivered kernel).2 ∧
      ∃ box', (drain sink id signal limit delivered kernel).2.mailboxes id = some box' ∧
        box'.signals.Clean signal := by
  induction limit generalizing kernel box delivered with
  | zero =>
      refine ⟨h.refl, box, hbox, ?_⟩
      rwa [Nat.le_zero, List.length_eq_zero_iff] at hlimit
  | succ limit ih =>
      have hq := (h.sound id box hbox).queue
      obtain ⟨htaken, hclient, hmailboxes⟩ := run_withSignals hbox (·.takeUnblocked signal)
      rw [Kernel.drain, run_bind]
      cases htake : (box.signals.takeUnblocked signal).1 with
      | none =>
          obtain ⟨hclean, hkept⟩ := SignalState.takeUnblocked_of_none hq htake
          rw [htake] at htaken
          rw [htaken]
          rw [hkept, Mailboxes.update_signals_self hbox] at hmailboxes
          exact ⟨h.alike ⟨hmailboxes, hclient⟩, box, (congrFun hmailboxes id).trans hbox, hclean⟩
      | some o =>
          have hfrom := SignalState.takeUnblocked_of_some hq htake
          rw [htake] at htaken
          rw [htaken]
          have hleads := leads_of_update hbox hmailboxes hfrom.drains
          have hnoticed := (alike_notify (.recordTaken id o)
            (withSignals id (·.takeUnblocked signal) kernel).2).trans
              (alike_notify (.delivering o.signal id) _)
          have hsound := h.sound.update hbox hfrom.sound hfrom.capacity_eq
          have hcalm := hleads.calm h.calm
          have howe := B.take h.sound h.books hbox hfrom
          rw [← hmailboxes, ← hnoticed.mailboxes] at hsound
          rw [← hnoticed.mailboxes] at hcalm
          rw [← hmailboxes, ← hclient, ← hnoticed.mailboxes, ← hnoticed.client] at howe
          have hserved := hsink id .deferred o _ hsound hcalm howe
          obtain ⟨box', hbox', -, hdrains⟩ := hserved.leads.kept id _
            ((congrFun (hnoticed.mailboxes.trans hmailboxes) id).trans (Function.update_self ..))
          -- one record fewer and one round fewer: the handler blocked the signal, or it could not
          -- make the list longer
          have hlimit' : signal ∈ box'.signals.blocked ∨
              (box'.signals.records signal).length ≤ limit := by
            by_cases hblocked : signal ∈ box'.signals.blocked
            · exact .inl hblocked
            · have hlength := hlimit.resolve_left hfrom.not_blocked
              rw [hfrom.records_eq, List.length_cons] at hlength
              rcases hdrains signal hblocked with hempty | ⟨-, hle⟩
              · rw [hempty]
                exact .inr (Nat.zero_le _)
              · exact .inr (hle.trans (Nat.le_of_succ_le_succ hlength))
          obtain ⟨hrest, hclean⟩ := ih hserved.safe hbox' hlimit' (delivered + 1)
          rw [← hnoticed.mailboxes] at hleads
          exact ⟨⟨hrest.safe, (hleads.trans hserved.leads).trans hrest.leads⟩, hclean⟩

/-- Draining several signals leaves all of them clean. A signal that was drained stays clean while
the others are drained. -/
theorem Safe.drainEach (h : kernel.Safe B (id :: busy)) (hsink : sink.Serves B busy)
    (hbox : kernel.mailboxes id = some box) (signals : List Nat) (delivered : Nat) :
    kernel.Advance B (id :: busy)
        (drainEach sink id box.capacity signals delivered kernel).2 ∧
      ∃ box', (drainEach sink id box.capacity signals delivered kernel).2.mailboxes id = some box' ∧
        ∀ signal, box.signals.Clean signal ∨ signal ∈ signals → box'.signals.Clean signal := by
  induction signals generalizing kernel box delivered with
  | nil => exact ⟨h.refl, box, hbox, fun signal hclean ↦ hclean.resolve_right List.not_mem_nil⟩
  | cons first rest ih =>
      have hlimit := (h.sound id box hbox).length_records_le first
      obtain ⟨hdrained, box', hbox', hclean⟩ := h.drain hsink hbox (.inr hlimit) delivered
      obtain ⟨kept, hkept, hcapacity, hdrains⟩ := hdrained.leads.kept id box hbox
      rw [hbox'] at hkept
      cases hkept
      rw [Kernel.drainEach, run_bind, ← hcapacity]
      rw [← hcapacity] at hdrained hbox'
      obtain ⟨hrest, box'', hbox'', hclean'⟩ := ih hdrained.safe hbox' _
      refine ⟨hdrained.trans hrest, box'', hbox'', fun signal hsignal ↦ ?_⟩
      rw [List.mem_cons] at hsignal
      rcases hsignal with hsignal | rfl | hsignal
      · exact hclean' signal (.inl (hdrains.clean hsignal))
      · exact hclean' signal (.inl hclean)
      · exact hclean' signal (.inr hsignal)

/-- A sweep leaves nothing deliverable. -/
theorem Safe.sweep (h : kernel.Safe B (id :: busy)) (hsink : sink.Serves B busy)
    (hbox : kernel.mailboxes id = some box) :
    kernel.Advance B (id :: busy) (sweep sink id kernel).2 ∧
      ∃ box', (sweep sink id kernel).2.mailboxes id = some box' ∧ box'.signals.Settled := by
  have hq := (h.sound id box hbox).queue
  obtain ⟨hready, halike⟩ := run_readSignals id (·.deliverable) kernel
  obtain ⟨hsignals, -⟩ := signals_thread hbox
  rw [hsignals] at hready
  have hread := h.alike halike
  have hbox' := (congrFun halike.mailboxes id).trans hbox
  rw [Kernel.sweep, run_bind, hready]
  split
  · rename_i hempty
    have hsettled := (SignalState.settled_iff_deliverable hq).2 (SignalSet.isEmpty_iff.1 hempty)
    exact ⟨hread, box, hbox', hsettled⟩
  · rw [run_bind]
    show kernel.Advance B (id :: busy) (Kernel.drainEach sink id
        ((readSignals id (·.deliverable) kernel).2.thread id).pendingCapacity _ _ _).2 ∧
      ∃ box', (Kernel.drainEach sink id
          ((readSignals id (·.deliverable) kernel).2.thread id).pendingCapacity _ _ _).2.mailboxes
        id = some box' ∧ box'.signals.Settled
    rw [(signals_thread hbox').2]
    obtain ⟨hdrained, box', hbox'', hclean⟩ :=
      hread.safe.drainEach hsink hbox' box.signals.deliverable.toList 0
    -- the snapshot has all that is not clean, and what was clean stays so
    refine ⟨hread.trans hdrained, box', hbox'', fun signal ↦ hclean signal ?_⟩
    rw [SignalState.clean_iff hq, SignalSet.mem_toList]
    exact (em _).symm

/-- A sweep with nothing to deliver delivers nothing and is no more than an empty critical
section. -/
theorem sweep_of_settled (sink : Sink γ) (hbox : kernel.mailboxes id = some box)
    (hq : box.signals.queue.Sound) (hsettled : box.signals.Settled) :
    sweep sink id kernel =
      (0, { kernel with core := kernel.core.enter.2.leave kernel.core.enter.1 }) := by
  have hready : (readSignals id (·.deliverable) kernel).1.isEmpty = true := by
    show ((kernel.thread id).signals.deliverable).isEmpty = true
    rw [(signals_thread hbox).1, SignalSet.isEmpty_iff]
    exact (SignalState.settled_iff_deliverable hq).1 hsettled
  rw [Kernel.sweep, run_bind, if_pos hready]
  rfl

/-- A change of the mask leaves nothing deliverable. Writing the mask does not drain, but once the
sweep is over everything has. -/
theorem Safe.installMask (h : kernel.Safe B busy) (hsink : sink.Serves B busy)
    (hbox : kernel.mailboxes id = some box) (old : SignalSet) (mode : MaskMode) (set : SignalSet) :
    kernel.Advance B busy (installMask sink id old mode set kernel).2 ∧
      ∃ box', (installMask sink id old mode set kernel).2.mailboxes id = some box' ∧
        box'.signals.Settled := by
  let change : SignalState → SignalSet × SignalState := fun signals ↦
    ((signals.changeMask mode set).blocked, signals.changeMask mode set)
  obtain ⟨-, hclient, hmailboxes⟩ := run_withSignals hbox change
  have hqueue := box.signals.queue_changeMask mode set
  -- from the new mask on until the sweep is over, the thread may have something deliverable
  have hchanged : (withSignals id change kernel).2.Safe B (id :: busy) := by
    refine ⟨?_, ?_, ?_⟩
    · rw [hmailboxes]
      refine h.sound.update hbox ?_ (congrArg _ hqueue)
      rw [hqueue]
      exact (h.sound id box hbox).queue
    · rw [hmailboxes]
      exact (h.calm.cons id).update_of_mem (List.mem_cons_self ..) _
    · rw [hclient, hmailboxes]
      exact B.mask mode set h.books hbox
  have hnotified := hchanged.alike
    (alike_notify (.maskChanged id old (withSignals id change kernel).1 mode set) _)
  obtain ⟨notified, hnotice, -, -⟩ := hnotified.leads.kept id _
    ((congrFun hmailboxes id).trans (Function.update_self ..))
  obtain ⟨hswept, box', hafter, hsettled⟩ := hnotified.safe.sweep hsink hnotice
  have hadvance := hnotified.trans hswept
  have hleads := hadvance.leads
  rw [hmailboxes] at hleads
  have hleads' : kernel.mailboxes.Leads
      (Kernel.installMask sink id old mode set kernel).2.mailboxes := by
    refine hleads.of_update hbox fun other hother ↦ ?_
    rw [hafter] at hother
    cases hother
    exact hsettled
  exact ⟨⟨⟨hadvance.safe.sound, hleads'.calm h.calm, hadvance.safe.books⟩, hleads'⟩, box', hafter,
    hsettled⟩

/-- A request for a change leaves nothing deliverable if the change is made. -/
theorem Safe.requestMask (h : kernel.Safe B busy) (hsink : sink.Serves B busy)
    (hbox : kernel.mailboxes id = some box) (old : SignalSet) (how : Int)
    (set : Option SignalSet) :
    kernel.Advance B busy (requestMask sink id old how set kernel).2 ∧
      (set.isSome → (requestMask sink id old how set kernel).1 = .ok () →
        ∃ box', (requestMask sink id old how set kernel).2.mailboxes id = some box' ∧
          box'.signals.Settled) := by
  cases set with
  | none => exact ⟨h.refl, fun hset ↦ absurd hset (by simp)⟩
  | some set =>
      rw [Kernel.requestMask]
      cases MaskMode.ofCode how with
      | error error =>
          refine ⟨h.alike (alike_notify (.modeRefused how id) kernel), fun _ houtcome ↦ ?_⟩
          cases houtcome
      | ok mode =>
          obtain ⟨hadvance, hsettled⟩ := h.installMask hsink hbox old mode set
          exact ⟨hadvance, fun _ _ ↦ hsettled⟩

/-- A call on the mask leaves nothing deliverable if it makes a change. -/
theorem Safe.changeMask (h : kernel.Safe B busy) (hsink : sink.Serves B busy)
    (hbox : kernel.mailboxes id = some box) (how : Int) (set : Option SignalSet) :
    kernel.Advance B busy (changeMask sink id how set kernel).2 ∧
      (set.isSome → (changeMask sink id how set kernel).1.outcome = .ok () →
        ∃ box', (changeMask sink id how set kernel).2.mailboxes id = some box' ∧
          box'.signals.Settled) := by
  have hlocked := h.alike (alike_lockScheduler id kernel)
  have hread := hlocked.alike (run_readSignals id (·.blocked) _).2
  obtain ⟨box', hbox', -⟩ := hread.leads.kept id box hbox
  obtain ⟨hrequested, hsettled⟩ := hread.safe.requestMask hsink hbox'
    (readSignals id (·.blocked) (lockScheduler id kernel).2).1 how set
  have hunlocked := alike_unlockScheduler id (Kernel.requestMask sink id
    (readSignals id (·.blocked) (lockScheduler id kernel).2).1 how set
    (readSignals id (·.blocked) (lockScheduler id kernel).2).2).2
  simp only [Kernel.changeMask, run_bind, run_pure]
  refine ⟨(hread.trans hrequested).alike hunlocked, fun hset houtcome ↦ ?_⟩
  obtain ⟨after, hafter, hdone⟩ := hsettled hset houtcome
  exact ⟨after, (congrFun hunlocked.mailboxes id).trans hafter, hdone⟩

/-- The same for the thread that runs. -/
theorem Safe.sigprocmask (h : kernel.Safe B busy) (hsink : sink.Serves B busy) (how : Int)
    (set : Option SignalSet) :
    kernel.Advance B busy (sigprocmask sink how set kernel).2 ∧
      (set.isSome → (sigprocmask sink how set kernel).1.outcome = .ok () →
        ∃ box', (sigprocmask sink how set kernel).2.mailboxes (current kernel).1.id = some box' ∧
          box'.signals.Settled) := by
  obtain ⟨box, hbox⟩ := mailboxes_current kernel
  have hread : kernel.Advance B busy (current kernel).2 := h.alike (alike_readScheduler _ kernel)
  obtain ⟨hchanged, hsettled⟩ := hread.safe.changeMask hsink hbox how set
  have hstored := (rests_storeErrno (current kernel).1.id MaskError.errno
    (Kernel.changeMask sink (current kernel).1.id how set (current kernel).2).1.outcome
    (Kernel.changeMask sink (current kernel).1.id how set (current kernel).2).2).toAlike
  simp only [Kernel.sigprocmask, run_bind, run_pure]
  refine ⟨(hread.trans hchanged).alike hstored, fun hset houtcome ↦ ?_⟩
  obtain ⟨after, hafter, hdone⟩ := hsettled hset houtcome
  exact ⟨after, (congrFun hstored.mailboxes _).trans hafter, hdone⟩

end Operations

end Kernel

end SignalKernel
