import SignalKernel.Proofs.Kernel.Draining
import SignalKernel.Proofs.Program.Runs

/-!
# What histories say about mailboxes

A chronicle is a relation between the history of a run and the mailboxes that the run has come to,
together with what has to be shown for each kind of moment. `Chronicle.final_agree` says that the
relation then holds at the end of every run, whatever handlers do and however deep deliveries nest.
At each moment the mailboxes are known to be sound, and threads without a sweep in progress to have
nothing deliverable.
-/

namespace SignalKernel.Program

open SignalKernel.Kernel

/-- What becomes of a post. -/
def Post.outcome (post : Post) : Except SignalError Fate :=
  if Signal.isValid post.occurrence.signal then (post.found.receive post.occurrence).1
  else .error .invalidSignal

theorem Post.outcome_eq_ok_iff {post : Post} {fate : Fate} : post.outcome = .ok fate ↔
    Signal.isValid post.occurrence.signal = true ∧
      (post.found.receive post.occurrence).1 = .ok fate := by
  unfold Post.outcome
  split
  · rename_i hvalid
    simp [hvalid]
  · rename_i hinvalid
    simp [hinvalid]

/-- A delivery of an occurrence to a thread. -/
structure Delivery.Is (delivery : Delivery) (id : ThreadId) (timing : Timing) (o : Occurrence) :
    Prop where
  id_eq : delivery.id = id
  timing_eq : delivery.timing = timing
  occurrence_eq : delivery.occurrence = o

/-- A relation between histories and mailboxes that the moments of a run maintain. -/
structure Chronicle where
  /-- The calls on signals for which it does. -/
  allows : SignalCall → Bool
  allows_reset : ∀ id mask capacity, allows (.resetState id mask capacity) = false
  agree : List Moment → Mailboxes → Prop
  mask : ∀ {history v id box} (mode : MaskMode) (set : SignalSet), agree history v →
    v id = some box → agree history
      (Function.update v id (some { box with signals := box.signals.changeMask mode set }))
  spawn : ∀ {history v id} (config : ThreadConfig), agree history v → v id = none →
    agree history (Function.update v id (some (Thread.ofConfig id config).mailbox))
  point : ∀ {history busy holding} {scheduler : Scheduler}, scheduler.mailboxes.Sound →
    scheduler.mailboxes.Calm busy → agree history scheduler.mailboxes →
      agree (history ++ [.passed ⟨scheduler, busy, holding⟩]) scheduler.mailboxes
  swept : ∀ {history v id box}, v.Sound → v id = some box → box.signals.Settled →
    agree history v → agree (history ++ [.swept id box.signals]) v
  /-- A post that is not delivered at once. -/
  kept : ∀ {history v busy id box o}, v.Sound → v.Calm busy → v id = some box →
    Post.outcome ⟨id, o, box.signals, busy⟩ ≠ .ok .delivered → agree history v →
      agree (history ++ [.posted ⟨id, o, box.signals, busy⟩])
        (Function.update v id (some { box with signals := (box.signals.receive o).2 }))
  /-- A post that is delivered at once, with its delivery. -/
  handed : ∀ {history v busy id box o} {delivery : Delivery}, v.Sound → v.Calm busy →
    v id = some box → Post.outcome ⟨id, o, box.signals, busy⟩ = .ok .delivered → agree history v →
      delivery.Is id .immediate o →
        agree (history ++ [.posted ⟨id, o, box.signals, busy⟩] ++ [.delivered delivery]) v
  /-- A record that is taken, with its delivery. -/
  taken : ∀ {history v id box signal o left} {delivery : Delivery}, v.Sound → agree history v →
    v id = some box → box.signals.Taken signal o left → delivery.Is id .deferred o →
      agree (history ++ [.delivered delivery])
        (Function.update v id (some { box with signals := left }))
  /-- A delivery that no post is behind. -/
  bare : ∀ {history v o} (delivery : Delivery), allows (.deliver o) = true → agree history v →
    agree (history ++ [.delivered delivery]) v

namespace Chronicle

variable (C : Chronicle)

/-- The history and the handlers as books on the mailboxes. -/
def books : Books Session where
  agree session v :=
    C.agree session.history.toList v ∧ session.handlers.every (Call.onSignals C.allows) = true
  owe session v id timing o :=
    (∀ delivery : Delivery, delivery.Is id timing o →
      C.agree (session.history.toList ++ [.delivered delivery]) v) ∧
        session.handlers.every (Call.onSignals C.allows) = true
  mask mode set h hbox := ⟨C.mask mode set h.1 hbox, h.2⟩
  take hsound h hbox htaken :=
    ⟨fun _ hdelivery ↦ C.taken hsound h.1 hbox htaken hdelivery, h.2⟩

variable {C} {busy : List ThreadId} {kernel after : Kernel Session} {sink : Sink Session}
  {id : ThreadId} {box : Mailbox} {o : Occurrence}

/-- Only mailboxes, the history and the handlers matter. -/
theorem advance_of_eq (h : kernel.Safe C.books busy)
    (hmailboxes : after.mailboxes = kernel.mailboxes)
    (hbooks : C.books.agree after.client kernel.mailboxes) :
    kernel.Advance C.books busy after := by
  constructor
  case safe =>
    refine ⟨?_, ?_, ?_⟩
    · rw [hmailboxes]
      exact h.sound
    · rw [hmailboxes]
      exact h.calm
    · rw [hmailboxes]
      exact hbooks
  case leads =>
    rw [hmailboxes]
    exact .refl _

theorem advance_of_quiet (h : kernel.Safe C.books busy) (hquiet : Quiet kernel after) :
    kernel.Advance C.books busy after := by
  refine advance_of_eq h hquiet.mailboxes ⟨?_, ?_⟩
  · rw [hquiet.history]
    exact h.books.1
  · rw [hquiet.handlers]
    exact h.books.2

theorem advance_quiet {last : Kernel Session} (h : kernel.Advance C.books busy after)
    (hquiet : Quiet after last) : kernel.Advance C.books busy last :=
  h.trans (advance_of_quiet h.safe hquiet)

theorem advance_spawn (h : kernel.Safe C.books busy) (config : ThreadConfig) :
    kernel.Advance C.books busy (Kernel.spawn config kernel).2 := by
  obtain ⟨hclient, hsame | ⟨hnone, hmailboxes⟩⟩ := mailboxes_spawn config kernel
  · exact h.alike ⟨hsame, hclient⟩
  · have hleads : kernel.mailboxes.Leads (Kernel.spawn config kernel).2.mailboxes := by
      rw [hmailboxes]
      exact Mailboxes.leads_spawn hnone config
    refine ⟨⟨?_, hleads.calm h.calm, ?_⟩, hleads⟩
    · rw [hmailboxes]
      exact h.sound.spawn config
    · rw [hmailboxes, hclient]
      exact ⟨C.spawn config h.books.1 hnone, h.books.2⟩

/-! ## Marking moments -/

theorem advance_mark (h : kernel.Safe C.books busy) (moment : Moment)
    (hmoment : C.agree (kernel.client.history.toList ++ [moment]) kernel.mailboxes) :
    kernel.Advance C.books busy (mark moment kernel).2 := by
  refine advance_of_eq h rfl ⟨?_, h.books.2⟩
  rw [toList_mark]
  exact hmoment

theorem advance_markPoint (h : kernel.Safe C.books busy) :
    kernel.Advance C.books busy (markPoint busy kernel).2 :=
  advance_mark h _ (C.point h.sound h.calm h.books.1)

theorem advance_markSwept (h : kernel.Safe C.books busy) (hbox : kernel.mailboxes id = some box)
    (hsettled : box.signals.Settled) : kernel.Advance C.books busy (markSwept id kernel).2 := by
  refine advance_mark h (.swept id (kernel.thread id).signals) ?_
  rw [(signals_thread hbox).1]
  exact C.swept h.sound hbox hsettled h.books.1

theorem advance_markMasked (h : kernel.Safe C.books busy) {set : Option SignalSet}
    {outcome : Except MaskError Unit}
    (hsettled : set.isSome → outcome = .ok () →
      ∃ box, kernel.mailboxes id = some box ∧ box.signals.Settled) :
    kernel.Advance C.books busy (markMasked id set outcome kernel).2 := by
  cases set with
  | none => exact h.refl
  | some set =>
      cases outcome with
      | error error => exact h.refl
      | ok _ =>
          obtain ⟨box, hbox, hdone⟩ := hsettled rfl rfl
          exact advance_markSwept h hbox hdone

/-- The end of a change of a mask, and the mark that its sweep is over. -/
theorem advance_endMasking {changed : Kernel Session} (h : kernel.Advance C.books busy changed)
    {set : Option SignalSet} {outcome : Except MaskError Unit}
    (hsettled : set.isSome → outcome = .ok () →
      ∃ box, changed.mailboxes id = some box ∧ box.signals.Settled) :
    kernel.Advance C.books busy (markMasked id set outcome (endMasking changed).2).2 := by
  have hended := advance_quiet h (quiet_endMasking changed)
  exact hended.trans (advance_markMasked hended.safe hsettled)

/-! ## Calls on signals -/

theorem advance_onThread {body : ThreadId → ProgramM Answer}
    (hbody : ∀ {target box} {kernel : Kernel Session}, kernel.Safe C.books busy →
      kernel.mailboxes target = some box → kernel.Advance C.books busy (body target kernel).2)
    (id : Option ThreadId) (h : kernel.Safe C.books busy) :
    kernel.Advance C.books busy (onThread id body kernel).2 := by
  obtain ⟨found, hfound, hrun | ⟨target, box, hbox, hrun⟩⟩ := run_onThread id body kernel
  · rw [hrun]
    exact h.alike hfound.rests.toAlike
  · rw [hrun]
    have hbefore := h.alike hfound.rests.toAlike
    exact hbefore.trans (hbody hbefore.safe hbox)

section Calls

variable (hsink : sink.Serves C.books busy)
include hsink

/-- A post is marked before it is made, so that its entry is there when a delivery comes of it. -/
theorem advance_post (h : kernel.Safe C.books busy) (hbox : kernel.mailboxes id = some box)
    {found : Kernel Session} (hfound : Alike (markPost busy id o kernel).2 found) :
    kernel.Advance C.books busy (post sink id o found).2 := by
  let post : Post := ⟨id, o, box.signals, busy⟩
  have hmarked : (markPost busy id o kernel).2.client.history.toList =
      kernel.client.history.toList ++ [.posted post] := by
    have hsignals : (kernel.thread id).signals = box.signals := (signals_thread hbox).1
    rw [← show (⟨id, o, (kernel.thread id).signals, busy⟩ : Post) = post by rw [hsignals]]
    exact toList_mark _ kernel
  have hmailboxes : found.mailboxes = kernel.mailboxes := hfound.mailboxes
  have hhistory : found.client.history.toList = kernel.client.history.toList ++ [.posted post] := by
    rw [hfound.client]
    exact hmarked
  have hhandlers : found.client.handlers.every (Call.onSignals C.allows) = true := by
    rw [hfound.client]
    exact h.books.2
  -- the books do not agree from the mark on, but only once the post has done its work
  have hkept (hne : post.outcome ≠ .ok .delivered) := C.kept h.sound h.calm hbox hne h.books.1
  have hadvance : found.Advance C.books busy (Kernel.post sink id o found).2 := by
    have hsound := h.sound
    have hcalm := h.calm
    have hbox' := hbox
    rw [← hmailboxes] at hsound hcalm hbox'
    refine Kernel.advance_post hsound hcalm hsink hbox' ?refused ?kept ?handed
    case refused =>
      intro hinvalid
      have houtcome : post.outcome ≠ .ok .delivered := by simp [Post.outcome, post, hinvalid]
      have hagree := hkept houtcome
      rw [SignalState.receive_of_invalid hinvalid, Mailboxes.update_signals_self hbox] at hagree
      refine ⟨?_, hhandlers⟩
      rw [hhistory, hmailboxes]
      exact hagree
    case kept =>
      intro hvalid hne
      have houtcome : post.outcome ≠ .ok .delivered :=
        fun houtcome ↦ hne (Post.outcome_eq_ok_iff.1 houtcome).2
      refine ⟨?_, hhandlers⟩
      rw [hhistory, hmailboxes]
      exact hkept houtcome
    case handed =>
      intro hvalid hfate
      have houtcome : post.outcome = .ok .delivered :=
        Post.outcome_eq_ok_iff.2 ⟨hvalid, hfate⟩
      refine ⟨fun delivery hdelivery ↦ ?_, hhandlers⟩
      rw [hhistory, hmailboxes]
      exact C.handed h.sound h.calm hbox houtcome h.books.1 hdelivery
  have hleads := hadvance.leads
  rw [hmailboxes] at hleads
  exact ⟨hadvance.safe, hleads⟩

/-- Other threads are not concerned by a sweep, and the thread itself has nothing deliverable at the
end, so that it need not count as busy any more. -/
theorem advance_sweep (h : kernel.Safe C.books busy) (hbox : kernel.mailboxes id = some box) :
    kernel.Advance C.books busy (markSwept id (Kernel.sweep sink id kernel).2).2 := by
  obtain ⟨hswept, box', hbox', hsettled⟩ := (h.cons id).sweep hsink hbox
  -- the sweep lets other threads be, so that what was calm before is calm again
  have hadvance : kernel.Advance C.books busy (Kernel.sweep sink id kernel).2 :=
    ⟨⟨hswept.safe.sound, hswept.leads.calm h.calm, hswept.safe.books⟩, hswept.leads⟩
  exact hadvance.trans (advance_markSwept hadvance.safe hbox' hsettled)

/-- What is sent is marked as a post exactly if it is posted. -/
theorem advance_send (h : kernel.Safe C.books busy) (id : ThreadId)
    (occurrence : ThreadId → Occurrence) :
    kernel.Advance C.books busy (send sink id occurrence
      (markSent busy id (occurrence (current kernel).1.id) kernel).2).2 := by
  cases hbox : kernel.mailboxes id with
  | none =>
      rw [markSent_of_none hbox]
      exact h.alike ((run_send sink id occurrence kernel).of_none hbox).2.toAlike
  | some box =>
      by_cases hzero : (occurrence (current kernel).1.id).signal = 0
      · rw [markSent_of_zero hzero]
        exact h.alike ((run_send sink id occurrence kernel).of_zero hbox hzero).2.toAlike
      · rw [markSent_of_some hbox hzero]
        have hbox' : (markPost busy id (occurrence (current kernel).1.id) kernel).2.mailboxes id =
            some box := hbox
        obtain ⟨found, hfound, -, hafter⟩ := (run_send sink id occurrence
          (markPost busy id (occurrence (current kernel).1.id) kernel).2).of_some hbox' hzero
        exact (advance_post hsink h hbox hfound.toAlike).alike hafter.toAlike

/-- Every allowed call on signals advances. -/
theorem advance_signalCall (h : kernel.Safe C.books busy) {call : SignalCall}
    (hallowed : C.allows call = true) :
    kernel.Advance C.books busy (call.run ⟨sink, busy⟩ kernel).2 := by
  have hread : kernel.Advance C.books busy (current kernel).2 :=
    h.alike (alike_readScheduler _ kernel)
  cases call with
  | changeMask id how set wantsOld =>
      refine advance_onThread (fun {target box kernel} h hbox ↦ ?_) id h
      have hbegun := advance_of_quiet h (quiet_beginMasking target kernel)
      obtain ⟨hchanged, hsettled⟩ := hbegun.safe.changeMask hsink hbox how set
      have hmarked := advance_endMasking (hbegun.trans hchanged) hsettled
      simp only [run_bind, run_pure, run_whileMasking]
      exact hmarked.alike (run_readSignals target (·.blocked) _).2
  | sigprocmask how set wantsOld =>
      have hbegun := advance_quiet hread (quiet_beginMasking (current kernel).1.id _)
      obtain ⟨hchanged, hsettled⟩ := hbegun.safe.sigprocmask hsink how set
      have hmarked := advance_endMasking (hbegun.trans hchanged) hsettled
      simp only [SignalCall.run, run_bind, run_pure, run_get, run_whileMasking]
      exact hmarked.alike (run_readSignals (current kernel).1.id (·.blocked) _).2
  | kill id signal =>
      have hsent := hread.trans (advance_send hsink hread.safe id (.plain signal))
      simp only [SignalCall.run, run_bind, run_pure, run_get]
      exact advance_quiet hsent (idle_noteSent id _ _ _).toQuiet
  | sigqueue id signal value =>
      have hsent := hread.trans
        (advance_send hsink hread.safe id fun sender ↦ .carrying signal sender value)
      simp only [SignalCall.run, run_bind, run_pure, run_get]
      exact advance_quiet hsent (idle_noteSent id _ _ _).toQuiet
  | post id o =>
      refine advance_onThread (fun {target box kernel} h hbox ↦ ?_) id h
      have hposted := advance_post hsink h hbox (.refl (markPost busy target o kernel).2)
      exact advance_quiet hposted ⟨rfl, rfl, rfl⟩
  | sweep id => exact advance_onThread (fun h hbox ↦ advance_sweep hsink h hbox) id h
  | deliver o =>
      have hserved := hsink (current kernel).1.id .immediate o (current kernel).2 hread.safe.sound
        hread.safe.calm ⟨fun delivery _ ↦ C.bare delivery hallowed h.books.1, h.books.2⟩
      exact hread.trans hserved
  | resetState id mask capacity =>
      rw [C.allows_reset] at hallowed
      cases hallowed
  | _ => exact advance_of_quiet h (idle_signalCall rfl _ kernel).toQuiet

end Calls

/-! ## Runs -/

/-- A sink that marks deliveries enters them into the books. -/
theorem serves_marking {handle : List ThreadId → Sink Session}
    (hhandle : ∀ busy id timing o, Keeps (Kernel.Safe C.books)
      (fun kernel after ↦ kernel.mailboxes.Leads after.mailboxes) busy (handle busy id timing o))
    (busy : List ThreadId) : Sink.Serves (marking busy handle) C.books busy := by
  intro id timing o kernel hsound hcalm howe
  let entry : Moment := .delivered (delivery kernel id timing o)
  have hmarked : (mark entry kernel).2.Safe C.books (timing.sweeping id busy) := by
    refine ⟨hsound, hcalm, ?_, howe.2⟩
    rw [toList_mark]
    exact howe.1 _ ⟨rfl, rfl, rfl⟩
  have hpassed := advance_markPoint hmarked
  obtain ⟨hsafe, hleads⟩ := hhandle (timing.sweeping id busy) id timing o _ hpassed.safe
  exact ⟨hsafe, hpassed.leads.trans hleads⟩

/-- Only calls that create a thread concern mailboxes, of all calls on the scheduler. -/
theorem advance_schedulingCall (h : kernel.Safe C.books busy) (call : SchedulingCall) :
    kernel.Advance C.books busy (call.run kernel).2 := by
  by_cases hspawn : ∃ config, call = .spawn config
  · obtain ⟨config, rfl⟩ := hspawn
    exact (advance_spawn h config).alike
      (run_readSignals (Kernel.spawn config kernel).1.id (·.blocked) _).2
  · exact advance_of_quiet h (quiet_schedulingCall (not_exists.1 hspawn) kernel)

/-- What all operations keep: the mailboxes are safe, and lead to each other. -/
def invariant (C : Chronicle) : RunInvariant where
  allows := Call.onSignals C.allows
  holds := Kernel.Safe C.books
  ended := Kernel.Safe C.books
  leads kernel after := kernel.mailboxes.Leads after.mailboxes
  serves busy sink := sink.Serves C.books busy
  trans h h' := h.trans h'
  ended_of_holds h := h
  handlers h := h.books.2
  idle {kernel after} hmailboxes hhistory _ _ _ hhandlers := by
    have hkeeps (busy : List ThreadId) (h : kernel.Safe C.books busy) :=
      (advance_of_eq h hmailboxes ⟨by rw [hhistory]; exact h.books.1, hhandlers⟩).safe
    refine ⟨?_, fun busy ↦ ⟨hkeeps busy, hkeeps busy⟩⟩
    rw [hmailboxes]
    exact .refl kernel.mailboxes
  point busy kernel h := by
    have hadvance := advance_markPoint h
    exact ⟨hadvance.safe, hadvance.leads⟩
  scheduling {_ call} _ kernel h := by
    have hadvance := advance_schedulingCall h call
    exact ⟨hadvance.safe, hadvance.leads⟩
  signal hsink hallowed kernel h := by
    have hadvance := advance_signalCall hsink h hallowed
    exact ⟨hadvance.safe, hadvance.leads⟩
  marking := serves_marking

/-- The mailboxes before a run: only the idle thread exists. -/
def initial : Mailboxes :=
  Scheduler.mailboxes {}

theorem mailbox_initial (hbox : initial id = some box) :
    box = (Thread.ofConfig 0 .idle).mailbox := by
  obtain ⟨thread, hthread, rfl⟩ := Option.map_eq_some_iff.1 hbox
  rw [List.mem_singleton.1 (List.mem_of_find?_eq_some hthread)]

theorem sound_initial : initial.Sound := by
  intro id box hbox
  rw [mailbox_initial hbox]
  exact ⟨.ofCapacity _, rfl⟩

theorem calm_initial (busy : List ThreadId) : initial.Calm busy := by
  intro id box hbox _
  rw [mailbox_initial hbox]
  exact SignalState.settled_ofMask _ _

/-- The history of a program's run agrees with the mailboxes that the run comes to, if the empty one
agrees with those at the start. -/
theorem final_agree {program : Program} (honly : program.only C.allows = true)
    (hinitial : C.agree [] initial) : C.agree program.history program.final.mailboxes := by
  rw [← Program.every_onSignals] at honly
  refine (C.invariant.final_holds honly fun kernel hscheduler hclient ↦ ?_).books.1
  have hmailboxes : kernel.mailboxes = initial := by
    rw [mailboxes, hscheduler]
    rfl
  refine ⟨?_, ?_, ?_⟩
  · rw [hmailboxes]
    exact sound_initial
  · rw [hmailboxes]
    exact calm_initial []
  · rw [hmailboxes, hclient]
    exact ⟨hinitial, (Bool.and_eq_true_iff.1 honly).2⟩

end Chronicle

/-! ## Every moment of a run -/

/-- What is true of the signals that a moment of a run finds. -/
def Moment.Calm : Moment → Prop
  | .passed point => point.scheduler.mailboxes.Sound ∧ point.scheduler.mailboxes.Calm point.sweeping
  | .posted post => post.found.queue.Sound ∧ (post.id ∉ post.sweeping → post.found.Settled)
  | .delivered _ => True
  | .swept _ left => left.queue.Sound ∧ left.Settled

/-- Where a list with more elements behind it has an element, it has it itself, or it is one of
those. -/
theorem append_split {α : Type} {l marks before after : List α} {a : α}
    (h : l ++ marks = before ++ a :: after) :
    (∃ earlier, l = before ++ a :: earlier ∧ after = earlier ++ marks) ∨
      ∃ later, marks = later ++ a :: after ∧ before = l ++ later := by
  rcases List.append_eq_append_iff.1 h with ⟨later, hbefore, hmarks⟩ | ⟨rest, hl, hrest⟩
  · exact .inr ⟨later, hmarks, hbefore⟩
  · cases rest with
    | nil =>
        rw [List.append_nil] at hl
        exact .inr ⟨[], hrest.symm, by rw [hl, List.append_nil]⟩
    | cons first earlier =>
        obtain ⟨rfl, hafter⟩ := List.cons.inj hrest
        exact .inl ⟨earlier, hl, hafter⟩

/-- It has it itself if it is none of those. -/
theorem append_split_of_not_mem {α : Type} {l marks before after : List α} {a : α}
    (h : l ++ marks = before ++ a :: after) (ha : a ∉ marks) :
    ∃ earlier, l = before ++ a :: earlier ∧ after = earlier ++ marks := by
  rcases append_split h with hearlier | ⟨later, rfl, -⟩
  · exact hearlier
  · exact absurd (List.mem_append_right later (List.mem_cons_self ..)) ha

/-- Where a list has an element, it has it at the end or before the last element. -/
theorem concat_split {α : Type} {l before after : List α} {last a : α}
    (h : l ++ [last] = before ++ a :: after) :
    (l = before ∧ last = a ∧ after = []) ∨
      ∃ earlier, l = before ++ a :: earlier ∧ after = earlier ++ [last] := by
  rcases append_split h with hearlier | ⟨later, hlast, hbefore⟩
  · exact .inr hearlier
  · cases later with
    | nil =>
        obtain ⟨rfl, rfl⟩ := List.cons.inj hlast
        exact .inl ⟨by rw [hbefore, List.append_nil], rfl, rfl⟩
    | cons first rest => simp at hlast

namespace Chronicle

/-- What a history shows once it is over: the chronicle agreed at every point, and every moment was
calm. -/
structure Past (C : Chronicle) (history : List Moment) : Prop where
  points : ∀ before point after, history = before ++ .passed point :: after →
    C.agree before point.scheduler.mailboxes
  calm : ∀ moment ∈ history, moment.Calm

variable {C : Chronicle} {history : List Moment}

/-- One more moment. If it is a point of the run, the chronicle has to agree right before it. -/
theorem Past.append (h : C.Past history) {moment : Moment} (hcalm : moment.Calm)
    (hpoint : ∀ point, moment = .passed point → C.agree history point.scheduler.mailboxes) :
    C.Past (history ++ [moment]) := by
  constructor
  case points =>
    intro before point after hsplit
    rcases concat_split hsplit with ⟨rfl, hlast, -⟩ | ⟨earlier, hearlier, -⟩
    · exact hpoint point hlast
    · exact h.points before point earlier hearlier
  case calm =>
    intro m hm
    rw [List.mem_append, List.mem_singleton] at hm
    rcases hm with hbefore | rfl
    · exact h.calm m hbefore
    · exact hcalm

theorem Past.posted (h : C.Past history) {v : Mailboxes} {busy : List ThreadId} {id : ThreadId}
    {box : Mailbox} (o : Occurrence) (hsound : v.Sound) (hcalm : v.Calm busy)
    (hbox : v id = some box) : C.Past (history ++ [.posted ⟨id, o, box.signals, busy⟩]) :=
  h.append ⟨(hsound id box hbox).queue, hcalm id box hbox⟩ fun _ hpoint ↦ by cases hpoint

theorem Past.delivered (h : C.Past history) (delivery : Delivery) :
    C.Past (history ++ [.delivered delivery]) :=
  h.append trivial fun _ hpoint ↦ by cases hpoint

/-- The chronicle together with the past of its history. -/
def throughout (C : Chronicle) : Chronicle where
  allows := C.allows
  allows_reset := C.allows_reset
  agree history v := C.agree history v ∧ C.Past history
  mask mode set h hbox := ⟨C.mask mode set h.1 hbox, h.2⟩
  spawn config h hnone := ⟨C.spawn config h.1 hnone, h.2⟩
  point hsound hcalm h := by
    refine ⟨C.point hsound hcalm h.1, h.2.append ⟨hsound, hcalm⟩ fun point hpoint ↦ ?_⟩
    cases hpoint
    exact h.1
  swept hsound hbox hsettled h := by
    refine ⟨C.swept hsound hbox hsettled h.1, h.2.append ⟨(hsound _ _ hbox).queue, hsettled⟩ ?_⟩
    intro point hpoint
    cases hpoint
  kept hsound hcalm hbox houtcome h :=
    ⟨C.kept hsound hcalm hbox houtcome h.1, h.2.posted _ hsound hcalm hbox⟩
  handed hsound hcalm hbox houtcome h hdelivery :=
    ⟨C.handed hsound hcalm hbox houtcome h.1 hdelivery,
      (h.2.posted _ hsound hcalm hbox).delivered _⟩
  taken hsound h hbox htaken hdelivery :=
    ⟨C.taken hsound h.1 hbox htaken hdelivery, h.2.delivered _⟩
  bare delivery hallowed h := ⟨C.bare delivery hallowed h.1, h.2.delivered delivery⟩

/-- The chronicle agreed at every point of a program's run, if the empty history agrees with the
mailboxes at the start, and every moment was calm. -/
theorem past {program : Program} (honly : program.only C.allows = true)
    (hinitial : C.agree [] initial) : C.Past program.history := by
  have hempty : C.Past [] := by
    constructor
    case points =>
      intro before point after hsplit
      exact absurd hsplit.symm (List.append_ne_nil_of_right_ne_nil _ (List.cons_ne_nil _ _))
    case calm =>
      intro moment hmem
      cases hmem
  exact (C.throughout.final_agree honly ⟨hinitial, hempty⟩).2

end Chronicle

end SignalKernel.Program
