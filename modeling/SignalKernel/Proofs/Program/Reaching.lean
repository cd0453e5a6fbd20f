import SignalKernel.Proofs.Program.Stages

/-!
# Runs come to stages only

Every operation of a program leads from stage to stage by the steps of `Stage.Next`, whatever
handlers do and however deep deliveries nest. So a run keeps what all steps keep: `reaching` makes
an invariant of runs of every `StageInvariant`. The first of these is that a stage can be reached
from the start, and the main statement is `reached_final`. What is proved of all stages, by a case
for each kind of step, is thereby proved of all runs.
-/

namespace SignalKernel.Program

open SignalKernel.Kernel

/-- The stage that a kernel is at. -/
def stage (kernel : Kernel Session) : Stage :=
  ⟨kernel.scheduler, kernel.client.history.toList, kernel.client.holding⟩

/-- No thread is gone, and the same changes of masks are in progress. -/
structure Stays (kernel after : Kernel Session) : Prop where
  threads : ∀ id box, kernel.mailboxes id = some box → ∃ box', after.mailboxes id = some box'
  masking : after.client.masking = kernel.client.masking

theorem Stays.trans {first second third : Kernel Session} (h : Stays first second)
    (h' : Stays second third) : Stays first third where
  threads id box hbox := by
    obtain ⟨box', hbox'⟩ := h.threads id box hbox
    exact h'.threads id box' hbox'
  masking := h'.masking.trans h.masking

/-- A property of stages that all steps keep, if they are made by allowed calls. It is a property of
stages with sound queues. -/
structure StageInvariant where
  allows : Call → Bool
  holds : Phase → Stage → Prop
  next : ∀ {phase s phase' s'}, holds phase s → s.Next allows phase phase' s' → holds phase' s'
  sound : ∀ {phase s id box}, holds phase s → s.scheduler.mailboxes id = some box →
    box.signals.queue.Sound

/-- A run may come to the stage. -/
def reachable (allows : Call → Bool) : StageInvariant where
  allows := allows
  holds := Reached allows
  next := .next
  sound h := h.sound

/-- A kernel at a stage with the property, with handlers that make only allowed calls. -/
structure Arrived (I : StageInvariant) (phase : Phase) (kernel : Kernel Session) : Prop where
  handlers : kernel.client.handlers.every I.allows = true
  holds : I.holds phase (stage kernel)

/-- From `kernel` a run came to `after`. -/
structure Moves (I : StageInvariant) (phase : Phase) (kernel after : Kernel Session) : Prop
    extends Arrived I phase after, Stays kernel after

theorem Moves.trans {I : StageInvariant} {phase phase' : Phase}
    {first second third : Kernel Session} (h : Moves I phase first second)
    (h' : Moves I phase' second third) : Moves I phase' first third :=
  ⟨h'.toArrived, h.toStays.trans h'.toStays⟩

/-- The moments are marked, and otherwise the client keeps what it has. -/
structure Marked (marks : List Moment) (kernel after : Kernel Session) : Prop where
  history : after.client.history.toList = kernel.client.history.toList ++ marks
  handlers : after.client.handlers = kernel.client.handlers
  locks : after.client.locks = kernel.client.locks
  masking : after.client.masking = kernel.client.masking

theorem Marked.holding {marks : List Moment} {kernel after : Kernel Session}
    (h : Marked marks kernel after) : after.client.holding = kernel.client.holding := by
  rw [Session.holding, h.locks, h.masking]
  rfl

theorem marked_of_client {kernel after : Kernel Session} (h : after.client = kernel.client) :
    Marked [] kernel after := by
  constructor <;> simp [h]

theorem Marked.of_client {marks : List Moment} {kernel after last : Kernel Session}
    (h : Marked marks kernel after) (hclient : last.client = after.client) :
    Marked marks kernel last := by
  obtain ⟨hhistory, hhandlers, hlocks, hmasking⟩ := h
  constructor <;> rw [hclient] <;> assumption

theorem marked_mark (moment : Moment) (kernel : Kernel Session) :
    Marked [moment] kernel (mark moment kernel).2 :=
  ⟨toList_mark moment kernel, rfl, rfl, rfl⟩

theorem marked_markPost {kernel : Kernel Session} {id : ThreadId} {box : Mailbox}
    (hbox : kernel.mailboxes id = some box) (busy : List ThreadId) (o : Occurrence) :
    Marked [.posted ⟨id, o, box.signals, busy⟩] kernel (markPost busy id o kernel).2 := by
  rw [← (signals_thread hbox).1]
  exact marked_mark (.posted ⟨id, o, (kernel.thread id).signals, busy⟩) kernel

/-! ## Threads stay -/

theorem exists_update {v : Mailboxes} {id other : ThreadId} {box box' : Mailbox}
    (h : v other = some box) : ∃ box'', Function.update v id (some box') other = some box'' := by
  by_cases hother : other = id
  · subst hother
    exact ⟨box', Function.update_self ..⟩
  · rw [Function.update_of_ne hother]
    exact ⟨box, h⟩

section Threads

variable {allows : Call → Bool} {v v' : Mailboxes} {id other : ThreadId} {box : Mailbox}
  {marks : List Moment}

theorem Exchange.threads (h : Exchange v marks v') (hbox : v other = some box) :
    ∃ box', v' other = some box' := by
  cases h with
  | none => exact ⟨box, hbox⟩
  | swept id left => exact ⟨box, hbox⟩
  | _ => exact exists_update hbox

theorem Handover.threads {timing : Timing} {o : Occurrence}
    (h : Handover allows v id timing o marks v') (hbox : v other = some box) :
    ∃ box', v' other = some box' := by
  cases h with
  | taken _ _ => exact exists_update hbox
  | _ => exact ⟨box, hbox⟩

theorem Turn.threads {scheduler after : Scheduler} {holding left : List ThreadId}
    (h : Turn allows scheduler holding after left) (hbox : scheduler.mailboxes other = some box) :
    ∃ box', after.mailboxes other = some box' := by
  rcases h.mailboxes_eq with hsame | ⟨id, config, -, hadded⟩
  · rw [hsame]
    exact ⟨box, hbox⟩
  · rw [hadded]
    exact exists_update hbox

end Threads

/-! ## Steps of kernels -/

/-- A sink serves if it goes on from the delivery that is made to it. -/
def Serves (I : StageInvariant) (sink : Sink Session) : Prop :=
  ∀ id timing o kernel, kernel.client.handlers.every I.allows = true →
    (∀ (sweeping : List ThreadId) (delivery : Delivery), delivery.Is id timing o →
      delivery.Finds kernel.scheduler → I.holds .during ⟨kernel.scheduler,
        kernel.client.history.toList ++
          [.delivered delivery, .passed ⟨kernel.scheduler, sweeping, kernel.client.holding⟩],
        kernel.client.holding⟩) →
      Moves I .during kernel (sink id timing o kernel).2

namespace Arrived

variable {I : StageInvariant} {phase : Phase} {kernel after : Kernel Session}
  {marks : List Moment} {sink : Sink Session} {id : ThreadId} {box : Mailbox}

theorem refl (h : Arrived I phase kernel) : Moves I phase kernel kernel :=
  ⟨h, fun _ box hbox ↦ ⟨box, hbox⟩, rfl⟩

theorem worked (h : Arrived I phase kernel) (hmarked : Marked marks kernel after)
    (hturns : kernel.scheduler.SameTurns after.scheduler)
    (hexchange : Exchange kernel.mailboxes marks after.mailboxes) :
    Moves I phase kernel after := by
  have hreached := I.next h.holds (.worked hturns hexchange)
  constructor
  case toArrived =>
    constructor
    case handlers =>
      rw [hmarked.handlers]
      exact h.handlers
    case holds =>
      rw [stage, hmarked.history, hmarked.holding]
      exact hreached
  case toStays => exact ⟨fun _ _ ↦ hexchange.threads, hmarked.masking⟩

theorem idle (h : Arrived I phase kernel) (hidle : Idle kernel after) :
    Moves I phase kernel after := by
  have hmarked : Marked [] kernel after := by
    refine ⟨?_, hidle.handlers, hidle.locks, hidle.masking⟩
    rw [hidle.history, List.append_nil]
  refine h.worked hmarked hidle.turns ?_
  rw [hidle.mailboxes]
  exact .none

theorem rests (h : Arrived I phase kernel) (hrests : Rests kernel after) :
    Moves I phase kernel after :=
  h.idle (idle_of_rests hrests)

/-- An occurrence is handed to a sink that serves. -/
theorem handed {handed : Kernel Session} {timing : Timing} {o : Occurrence}
    (h : Arrived I .during kernel) (hsink : Serves I sink)
    (hmarked : Marked marks kernel handed)
    (hturns : kernel.scheduler.SameTurns handed.scheduler)
    (hhandover : Handover I.allows kernel.mailboxes id timing o marks handed.mailboxes) :
    Moves I .during kernel (sink id timing o handed).2 := by
  have hhandlers : handed.client.handlers.every I.allows = true := by
    rw [hmarked.handlers]
    exact h.handlers
  have hserved := hsink id timing o handed hhandlers fun sweeping delivery his hfinds ↦ by
    obtain ⟨rfl, rfl, rfl⟩ := his
    rw [hmarked.history, hmarked.holding]
    exact I.next h.holds (.delivered sweeping hturns hhandover hfinds)
  refine ⟨hserved.toArrived, ?_⟩
  exact Stays.trans ⟨fun _ _ ↦ hhandover.threads, hmarked.masking⟩ hserved.toStays

/-- A call is over once the turn at its end is made. -/
theorem turned (h : Arrived I .during kernel)
    (hturn : Turn I.allows kernel.scheduler kernel.client.holding after.scheduler
      after.client.holding)
    (hquiet : after.client.history = kernel.client.history ∧
      after.client.handlers = kernel.client.handlers ∧
        after.client.masking = kernel.client.masking) :
    Moves I .ended kernel after := by
  obtain ⟨hhistory, hhandlers, hmasking⟩ := hquiet
  constructor
  case toArrived =>
    constructor
    case handlers =>
      rw [hhandlers]
      exact h.handlers
    case holds =>
      rw [stage, hhistory]
      exact I.next h.holds (.turned hturn)
  case toStays => exact ⟨fun _ _ ↦ hturn.threads, hmasking⟩

/-- The same if the client does not take part. -/
theorem turned_of_client (h : Arrived I .during kernel)
    (hturn : Turn I.allows kernel.scheduler kernel.client.holding after.scheduler
      kernel.client.holding)
    (hclient : after.client = kernel.client) : Moves I .ended kernel after := by
  refine h.turned ?_ ?_
  · rw [hclient]
    exact hturn
  · rw [hclient]
    exact ⟨rfl, rfl, rfl⟩

end Arrived

theorem Moves.ended {I : StageInvariant} {kernel after : Kernel Session}
    (h : Moves I .during kernel after) : Moves I .ended kernel after :=
  h.trans (h.turned .none ⟨rfl, rfl, rfl⟩)

theorem Moves.idle {I : StageInvariant} {phase : Phase} {kernel after last : Kernel Session}
    (h : Moves I phase kernel after) (hidle : Idle after last) :
    Moves I phase kernel last :=
  h.trans (h.toArrived.idle hidle)

theorem Moves.rests {I : StageInvariant} {phase : Phase} {kernel after last : Kernel Session}
    (h : Moves I phase kernel after) (hrests : Rests after last) :
    Moves I phase kernel last :=
  h.idle (idle_of_rests hrests)

/-! ## Posting and sweeping -/

section Operations

variable {I : StageInvariant} {busy : List ThreadId} {kernel found : Kernel Session}
  {sink : Sink Session} {id : ThreadId} {box : Mailbox} {o : Occurrence}

/-- A post is marked before it is made. -/
theorem moves_post (h : Arrived I .during kernel) (hsink : Serves I sink)
    (hbox : kernel.mailboxes id = some box) (hfound : Rests (markPost busy id o kernel).2 found) :
    Moves I .during kernel (post sink id o found).2 := by
  have hmarked := (marked_markPost hbox busy o).of_client hfound.client
  have hmailboxes : found.mailboxes = kernel.mailboxes := hfound.mailboxes
  have hbox' : found.mailboxes id = some box := (congrFun hmailboxes id).trans hbox
  by_cases houtcome : Post.outcome ⟨id, o, box.signals, busy⟩ = .ok .delivered
  · obtain ⟨hvalid, hfate⟩ := Post.outcome_eq_ok_iff.1 houtcome
    obtain ⟨handed, hhanded, hafter⟩ := post_of_delivered hbox' hvalid hfate
    rw [hafter]
    refine h.handed hsink (hmarked.of_client hhanded.client)
      (hfound.turns.trans hhanded.turns) ?_
    rw [hhanded.mailboxes, hmailboxes]
    exact .posted hbox houtcome
  · have hkept := Exchange.kept hbox houtcome
    cases hvalid : Signal.isValid o.signal with
    | true =>
        obtain ⟨hclient, hafter, hturns⟩ := post_of_ne_delivered sink hbox' hvalid fun hfate ↦
          houtcome (Post.outcome_eq_ok_iff.2 ⟨hvalid, hfate⟩)
        refine h.worked (hmarked.of_client hclient) (hfound.turns.trans hturns) ?_
        rw [hafter, hmailboxes]
        exact hkept
    | false =>
        rw [SignalState.receive_of_invalid hvalid, Mailboxes.update_signals_self hbox] at hkept
        rw [post_of_invalid hvalid]
        refine h.worked hmarked hfound.turns ?_
        rw [hmailboxes]
        exact hkept

/-- Each record that a sweep takes is handed over, as long as there is one to take. -/
theorem moves_drain (hsink : Serves I sink) (signal limit delivered : Nat)
    (h : Arrived I .during kernel) (hbox : kernel.mailboxes id = some box) :
    Moves I .during kernel (drain sink id signal limit delivered kernel).2 := by
  induction limit generalizing kernel box delivered with
  | zero => exact h.refl
  | succ limit ih =>
      have hq := I.sound h.holds hbox
      obtain ⟨htaken, hclient, hmailboxes⟩ := run_withSignals hbox (·.takeUnblocked signal)
      have hturns := turns_withSignals id (·.takeUnblocked signal) kernel
      rw [Kernel.drain, run_bind]
      cases htake : (box.signals.takeUnblocked signal).1 with
      | none =>
          rw [htake] at htaken
          rw [htaken]
          rw [(SignalState.takeUnblocked_of_none hq htake).2,
            Mailboxes.update_signals_self hbox] at hmailboxes
          exact h.rests ⟨⟨hmailboxes, hclient⟩, hturns⟩
      | some o =>
          have hfrom := SignalState.takeUnblocked_of_some hq htake
          rw [htake] at htaken
          rw [htaken]
          let taken := (withSignals id (·.takeUnblocked signal) kernel).2
          let noticed :=
            (notify (.delivering o.signal id) (notify (.recordTaken id o) taken).2).2
          have hnoticed : Same taken noticed := (same_notify _ _).trans (same_notify _ _)
          have hhandover :
              Handover I.allows kernel.mailboxes id .deferred o [] noticed.mailboxes := by
            rw [hnoticed.rests.mailboxes, hmailboxes]
            exact .taken hbox hfrom
          have hhanded := h.handed hsink (marked_of_client (hnoticed.client.trans hclient))
            (hturns.trans hnoticed.rests.turns) hhandover
          obtain ⟨box', hbox'⟩ := hhanded.threads id box hbox
          exact hhanded.trans (ih (delivered + 1) hhanded.toArrived hbox')

theorem moves_drainEach (hsink : Serves I sink) (limit : Nat) (signals : List Nat)
    (delivered : Nat) (h : Arrived I .during kernel)
    (hbox : kernel.mailboxes id = some box) :
    Moves I .during kernel (drainEach sink id limit signals delivered kernel).2 := by
  induction signals generalizing kernel box delivered with
  | nil => exact h.refl
  | cons signal rest ih =>
      have hdrained := moves_drain hsink signal limit delivered h hbox
      obtain ⟨box', hbox'⟩ := hdrained.threads id box hbox
      rw [Kernel.drainEach, run_bind]
      exact hdrained.trans (ih _ hdrained.toArrived hbox')

theorem moves_sweep (h : Arrived I .during kernel) (hsink : Serves I sink)
    (hbox : kernel.mailboxes id = some box) :
    Moves I .during kernel (sweep sink id kernel).2 := by
  have hread := h.rests (same_readSignals id (·.deliverable) kernel).rests
  rw [Kernel.sweep, run_bind]
  split
  · exact hread
  · exact hread.trans (moves_drainEach hsink _ _ 0 hread.toArrived hbox)

/-! ## Changing masks -/

theorem moves_installMask (h : Arrived I .during kernel) (hsink : Serves I sink)
    (hbox : kernel.mailboxes id = some box) (old : SignalSet) (mode : MaskMode)
    (set : SignalSet) :
    Moves I .during kernel (installMask sink id old mode set kernel).2 := by
  let change : SignalState → SignalSet × SignalState := fun signals ↦
    ((signals.changeMask mode set).blocked, signals.changeMask mode set)
  obtain ⟨-, hclient, hmailboxes⟩ := run_withSignals hbox change
  have hchanged := h.worked (marked_of_client hclient) (turns_withSignals id change kernel) <| by
    rw [hmailboxes]
    exact .masked mode set hbox
  have hnotified := hchanged.rests (same_notify
    (.maskChanged id old (withSignals id change kernel).1 mode set) _).rests
  obtain ⟨box', hbox'⟩ := hnotified.threads id box hbox
  rw [Kernel.installMask, run_bind, run_bind, run_discard]
  exact hnotified.trans (moves_sweep hnotified.toArrived hsink hbox')

theorem moves_requestMask (h : Arrived I .during kernel) (hsink : Serves I sink)
    (hbox : kernel.mailboxes id = some box) (old : SignalSet) (how : Int)
    (set : Option SignalSet) :
    Moves I .during kernel (requestMask sink id old how set kernel).2 := by
  cases set with
  | none => exact h.refl
  | some set =>
      rw [Kernel.requestMask]
      cases MaskMode.ofCode how with
      | error error => exact h.rests (same_notify (.modeRefused how id) kernel).rests
      | ok mode => exact moves_installMask h hsink hbox old mode set

theorem depth?_of_mailboxes {scheduler : Scheduler} (h : scheduler.mailboxes id = some box) :
    ∃ depth, scheduler.depth? id = some depth := by
  obtain ⟨thread, hthread, -⟩ := Option.map_eq_some_iff.1 h
  exact ⟨thread.lockDepth, congrArg (Option.map Thread.lockDepth) hthread⟩

theorem mailboxes_endMasking (kernel : Kernel Session) :
    (endMasking kernel).2.mailboxes = kernel.mailboxes :=
  rfl

theorem scheduler_endMasking (kernel : Kernel Session) :
    (endMasking kernel).2.scheduler = kernel.scheduler :=
  rfl

/-- Ending a change commutes with work that leaves the client alone. -/
theorem rests_endMasking {after : Kernel Session} (h : Rests kernel after) :
    Rests (endMasking kernel).2 (endMasking after).2 := by
  refine ⟨⟨h.mailboxes, ?_⟩, h.turns⟩
  show ({ after.client with masking := after.client.masking.tail } : Session) =
    { kernel.client with masking := kernel.client.masking.tail }
  rw [h.client]

/-- A change of a mask begins with one more level of the scheduler lock, which is counted. -/
theorem arrived_locked {begun : Kernel Session} (h : Arrived I .during kernel)
    (hbox : kernel.mailboxes id = some box) (hbegun : Same (beginMasking id kernel).2 begun) :
    Arrived I .during (lockScheduler id begun).2 := by
  constructor
  case handlers =>
    show begun.client.handlers.every I.allows = true
    rw [hbegun.client]
    exact h.handlers
  case holds =>
    have hholding : begun.client.holding.Perm (id :: kernel.client.holding) := by
      rw [hbegun.client]
      exact List.perm_middle
    have hnext := I.next h.holds (.locked (depth?_of_mailboxes hbox) hholding)
    show I.holds .during
      ⟨begun.scheduler.lock id, begun.client.history.toList, begun.client.holding⟩
    rw [hbegun.scheduler]
    rw [hbegun.client] at hnext ⊢
    exact hnext

/-- It gives this level back in the end. -/
theorem arrived_unlocked {masking : List ThreadId} (h : Arrived I .during kernel)
    (hmasking : kernel.client.masking = id :: masking) :
    Arrived I .ended (endMasking (unlockScheduler id kernel).2).2 := by
  obtain ⟨hscheduler, hclient⟩ := run_unlockScheduler id kernel
  let ended := (endMasking (unlockScheduler id kernel).2).2
  constructor
  case handlers =>
    show (unlockScheduler id kernel).2.client.handlers.every I.allows = true
    rw [hclient]
    exact h.handlers
  case holds =>
    have hleft : kernel.client.holding.Perm (id :: ended.client.holding) := by
      show kernel.client.holding.Perm
        (id :: ((unlockScheduler id kernel).2.client.locks.filterMap _ ++
          (unlockScheduler id kernel).2.client.masking.tail))
      rw [hclient, Session.holding, hmasking]
      exact List.perm_middle
    have hnext := I.next h.holds (.turned (.unlocked hleft))
    show I.holds .ended ⟨(unlockScheduler id kernel).2.scheduler,
      (unlockScheduler id kernel).2.client.history.toList, ended.client.holding⟩
    rw [hscheduler, hclient]
    exact hnext

theorem moves_changeMask {begun after : Kernel Session} (h : Arrived I .during kernel)
    (hsink : Serves I sink) (hbox : kernel.mailboxes id = some box)
    (hbegun : Same (beginMasking id kernel).2 begun) (how : Int) (set : Option SignalSet)
    (hafter : Rests (changeMask sink id how set begun).2 after) :
    Moves I .ended kernel (endMasking after).2 := by
  let locked := (lockScheduler id begun).2
  let requested := (requestMask sink id (readSignals id (·.blocked) locked).1 how set
    (readSignals id (·.blocked) locked).2).2
  have hmailboxes : locked.mailboxes = kernel.mailboxes :=
    (alike_lockScheduler id begun).mailboxes.trans hbegun.rests.mailboxes
  have hread := (arrived_locked h hbox hbegun).rests (same_readSignals id (·.blocked) locked).rests
  have hrequested : Moves I .during locked requested :=
    hread.trans (moves_requestMask hread.toArrived hsink
      ((congrFun hmailboxes id).trans hbox) _ how set)
  -- deliveries begin and end changes of their own, so that this one is the last to begin again
  have hmasking : requested.client.masking = id :: kernel.client.masking := by
    refine hrequested.masking.trans ?_
    show begun.client.masking = id :: kernel.client.masking
    rw [hbegun.client]
    rfl
  have hended : Moves I .ended kernel (endMasking (unlockScheduler id requested).2).2 := by
    refine ⟨arrived_unlocked hrequested.toArrived hmasking, ?threads, ?masking⟩
    case threads =>
      intro other box hbox
      rw [← hmailboxes] at hbox
      obtain ⟨box', hbox'⟩ := hrequested.threads other box hbox
      rw [mailboxes_endMasking, (alike_unlockScheduler id requested).mailboxes]
      exact ⟨box', hbox'⟩
    case masking =>
      show (unlockScheduler id requested).2.client.masking.tail = kernel.client.masking
      rw [(run_unlockScheduler id requested).2, hmasking]
      rfl
  exact hended.rests (rests_endMasking hafter)

/-- The same for the thread that runs. -/
theorem moves_sigprocmask (h : Arrived I .during kernel) (hsink : Serves I sink)
    (how : Int) (set : Option SignalSet) :
    Moves I .ended kernel (endMasking (sigprocmask sink how set
      (beginMasking (current kernel).1.id kernel).2).2).2 := by
  obtain ⟨box, hbox⟩ := mailboxes_current kernel
  let id := (current kernel).1.id
  let begun := (current (beginMasking id kernel).2).2
  let changed := changeMask sink id how set begun
  have hbegun : Same (beginMasking id kernel).2 begun := same_readScheduler _ _
  have hstored := rests_storeErrno id MaskError.errno changed.1.outcome changed.2
  rw [Kernel.sigprocmask, run_bind, run_bind, run_bind, run_pure]
  exact moves_changeMask h hsink hbox hbegun how set hstored

/-! ## Calls on signals -/

theorem moves_markSwept (h : Arrived I .ended kernel) (id : ThreadId) :
    Moves I .ended kernel (markSwept id kernel).2 :=
  h.worked (marked_mark (.swept id (kernel.thread id).signals) kernel) (.refl _) (.swept _ _)

theorem moves_markMasked (h : Arrived I .ended kernel) (id : ThreadId)
    (set : Option SignalSet) (outcome : Except MaskError Unit) :
    Moves I .ended kernel (markMasked id set outcome kernel).2 := by
  cases set with
  | none => exact h.refl
  | some set =>
      cases outcome with
      | error error => exact h.refl
      | ok _ => exact moves_markSwept h id

theorem moves_onThread {body : ThreadId → ProgramM Answer}
    (hbody : ∀ {target box} {kernel : Kernel Session}, Arrived I .during kernel →
      kernel.mailboxes target = some box → Moves I .ended kernel (body target kernel).2)
    (id : Option ThreadId) (h : Arrived I .during kernel) :
    Moves I .ended kernel (onThread id body kernel).2 := by
  obtain ⟨found, hfound, hrun | ⟨target, box, hbox, hrun⟩⟩ := run_onThread id body kernel
  · rw [hrun]
    exact (h.rests hfound.rests).ended
  · rw [hrun]
    have hbefore := h.rests hfound.rests
    exact hbefore.trans (hbody hbefore.toArrived hbox)

/-- What is sent is marked as a post exactly if it is posted. -/
theorem moves_send (h : Arrived I .during kernel) (hsink : Serves I sink)
    (busy : List ThreadId) (id : ThreadId) (occurrence : ThreadId → Occurrence) :
    Moves I .during kernel (send sink id occurrence
      (markSent busy id (occurrence (current kernel).1.id) kernel).2).2 := by
  cases hbox : kernel.mailboxes id with
  | none =>
      rw [markSent_of_none hbox]
      exact h.rests ((run_send sink id occurrence kernel).of_none hbox).2
  | some box =>
      by_cases hzero : (occurrence (current kernel).1.id).signal = 0
      · rw [markSent_of_zero hzero]
        exact h.rests ((run_send sink id occurrence kernel).of_zero hbox hzero).2
      · rw [markSent_of_some hbox hzero]
        have hbox' : (markPost busy id (occurrence (current kernel).1.id) kernel).2.mailboxes id =
            some box := hbox
        obtain ⟨found, hfound, -, hafter⟩ := (run_send sink id occurrence
          (markPost busy id (occurrence (current kernel).1.id) kernel).2).of_some hbox' hzero
        exact (moves_post h hsink hbox hfound).rests hafter

/-- Every allowed call on signals is made up of steps. -/
theorem moves_signalCall (h : Arrived I .during kernel) (hsink : Serves I sink)
    (busy : List ThreadId) {call : SignalCall} (hallowed : I.allows (.signal call) = true) :
    Moves I .ended kernel (call.run ⟨sink, busy⟩ kernel).2 := by
  have hread := h.rests (same_readScheduler (·.currentThread) kernel).rests
  cases call with
  | changeMask id how set wantsOld =>
      refine moves_onThread (fun {target box kernel} h hbox ↦ ?_) id h
      have hchanged := moves_changeMask h hsink hbox (.refl _) how set (.refl _)
      simp only [run_bind, run_pure, run_whileMasking]
      refine Moves.rests ?_ (same_readSignals target (·.blocked) _).rests
      exact hchanged.trans (moves_markMasked hchanged.toArrived target set _)
  | sigprocmask how set wantsOld =>
      have hchanged := hread.trans (moves_sigprocmask hread.toArrived hsink how set)
      simp only [SignalCall.run, run_bind, run_pure, run_get, run_whileMasking]
      refine Moves.rests ?_ (same_readSignals (current kernel).1.id (·.blocked) _).rests
      exact hchanged.trans (moves_markMasked hchanged.toArrived (current kernel).1.id set _)
  | kill id signal =>
      have hsent := hread.trans (moves_send hread.toArrived hsink busy id (.plain signal))
      simp only [SignalCall.run, run_bind, run_pure, run_get]
      exact (hsent.idle (idle_noteSent id _ _ _)).ended
  | sigqueue id signal value =>
      have hsent := hread.trans (moves_send hread.toArrived hsink busy id fun sender ↦
        .carrying signal sender value)
      simp only [SignalCall.run, run_bind, run_pure, run_get]
      exact (hsent.idle (idle_noteSent id _ _ _)).ended
  | post id o =>
      refine moves_onThread (fun {target box kernel} h hbox ↦ ?_) id h
      have hposted := moves_post h hsink hbox (.refl (markPost busy target o kernel).2)
      exact (hposted.idle (idle_note _ _)).ended
  | sweep id =>
      refine moves_onThread (fun {target box kernel} h hbox ↦ ?_) id h
      have hswept := (moves_sweep h hsink hbox).ended
      exact hswept.trans (moves_markSwept hswept.toArrived target)
  | deliver o =>
      let running := (current kernel).1.id
      have hhandover :
          Handover I.allows kernel.mailboxes running .immediate o [] kernel.mailboxes :=
        .bare hallowed
      have hhanded := hread.toArrived.handed hsink (marked_of_client rfl) (.refl _) hhandover
      exact (hread.trans hhanded).ended
  | resetState id mask capacity =>
      refine moves_onThread (fun {target box kernel} h hbox ↦ ?_) id h
      let change : SignalState → Answer × SignalState := fun _ ↦
        let fresh := SignalState.ofMask mask capacity
        (.set fresh.blocked, fresh)
      obtain ⟨-, hclient, hmailboxes⟩ := run_withSignals hbox change
      refine (h.worked (marked_of_client hclient) (turns_withSignals target change kernel) ?_).ended
      rw [hmailboxes]
      exact .replaced mask capacity hbox
  | _ => exact (h.idle (idle_signalCall rfl _ kernel)).ended

/-! ## Calls on the scheduler -/

/-- A kept level that is given back is one level less. -/
theorem perm_filterMap_set {locks : List (Option ThreadId)} {index : Nat}
    (h : locks[index]? = some (some id)) :
    (locks.filterMap fun lock ↦ lock).Perm
      (id :: (locks.set index none).filterMap fun lock ↦ lock) := by
  induction locks generalizing index with
  | nil => cases h
  | cons lock rest ih =>
      cases index with
      | zero =>
          cases h
          exact .refl _
      | succ index =>
          cases lock with
          | none => exact ih h
          | some other => exact ((ih h).cons other).trans (.swap id other _)

theorem moves_unlock (h : Arrived I .during kernel) (index : Nat) :
    Moves I .ended kernel ((SchedulingCall.unlock index).run kernel).2 := by
  simp only [SchedulingCall.run, run_bind, run_get]
  rcases hlock : kernel.client.locks[index]? with _ | _ | id
  · exact h.refl.ended
  · exact h.refl.ended
  · let given := (modifySession (fun session ↦
      { session with locks := session.locks.set index none }) kernel).2
    obtain ⟨hscheduler, hclient⟩ := run_unlockScheduler id given
    simp only [run_bind, run_pure]
    refine h.turned ?_ ?_
    · have hleft : kernel.client.holding.Perm (id :: given.client.holding) :=
        (perm_filterMap_set hlock).append_right kernel.client.masking
      rw [hscheduler, hclient]
      exact .unlocked hleft
    · rw [hclient]
      exact ⟨rfl, rfl, rfl⟩

theorem moves_lock (h : Arrived I .during kernel) (id : Option ThreadId) :
    Moves I .ended kernel ((SchedulingCall.lock id).run kernel).2 := by
  refine moves_onThread (fun {target box kernel} h hbox ↦ ?_) id h
  let locked := (modifySession (fun session ↦
    { session with locks := session.locks ++ [some target] }) (lockScheduler target kernel).2).2
  have hholding : locked.client.holding.Perm (target :: kernel.client.holding) := by
    show ((kernel.client.locks ++ [some target]).filterMap _ ++ _).Perm _
    rw [List.filterMap_append, List.append_assoc]
    exact List.perm_middle
  have hlocked : Moves I .during kernel locked := by
    refine ⟨⟨h.handlers, ?_⟩, ?_, rfl⟩
    · exact I.next h.holds (.locked (depth?_of_mailboxes hbox) hholding)
    · intro other box hbox
      exact ⟨box, (congrFun (alike_lockScheduler target kernel).mailboxes other).trans hbox⟩
  exact hlocked.ended

/-- Every allowed call on the scheduler is made up of steps. -/
theorem moves_schedulingCall (h : Arrived I .during kernel) {call : SchedulingCall}
    (hallowed : I.allows (.scheduling call) = true) :
    Moves I .ended kernel (call.run kernel).2 := by
  cases call with
  | spawn config =>
      have hspawned : Moves I .ended kernel (Kernel.spawn config kernel).2 := by
        refine h.turned_of_client ?_ (mailboxes_spawn config kernel).1
        rw [scheduler_spawn]
        exact .spawned config
      exact hspawned.rests (same_readSignals (Kernel.spawn config kernel).1.id (·.blocked) _).rests
  | current =>
      have hread := h.rests (same_readScheduler (·.currentThread) kernel).rests
      exact (hread.rests (same_readScheduler (·.current) _).rests).ended
  | setCurrent id => exact h.turned_of_client (.madeCurrent hallowed) rfl
  | requestResched => exact h.turned_of_client .requested rfl
  | isReschedRequested => exact h.refl.ended
  | contextSwitches => exact h.refl.ended
  | preemptionPoint =>
      refine h.turned_of_client ?_ (alike_preemptionPoint kernel).client
      show Turn _ _ _ (Kernel.preemptionPoint kernel).2.scheduler _
      rw [(run_preemptionPoint kernel).2]
      exact .preempted
  | schedule =>
      refine h.turned_of_client ?_ (alike_schedule kernel).client
      show Turn _ _ _ (Kernel.schedule kernel).2.scheduler _
      rw [(run_schedule kernel).2]
      exact .rotated hallowed
  | lock id => exact moves_lock h id
  | unlock index => exact moves_unlock h index
  | lockDepth id => exact (h.idle (idle_onThread (fun _ kernel ↦ .refl kernel) id kernel)).ended
  | describe id => exact (h.idle (idle_onThread (fun _ kernel ↦ .refl kernel) id kernel)).ended

end Operations

/-! ## Runs -/

/-- A sink that marks deliveries goes on from the point that it marks. -/
theorem marking_serves {I : StageInvariant} {handle : List ThreadId → Sink Session}
    (hhandle : ∀ busy id timing o, Keeps (fun _ ↦ Arrived I .during) Stays busy
      (handle busy id timing o)) (busy : List ThreadId) : Serves I (marking busy handle) := by
  intro id timing o kernel hhandlers hready
  let entry : Moment := .delivered (delivery kernel id timing o)
  let marked := (markPoint (timing.sweeping id busy) (mark entry kernel).2).2
  have hmarked : Arrived I .during marked := by
    refine ⟨hhandlers, ?_⟩
    have hhistory : marked.client.history.toList = kernel.client.history.toList ++
        [entry, .passed ⟨kernel.scheduler, timing.sweeping id busy, kernel.client.holding⟩] := by
      refine (toList_mark _ _).trans ?_
      rw [toList_mark, List.append_assoc]
      rfl
    rw [stage, hhistory]
    exact hready _ _ ⟨rfl, rfl, rfl⟩ ⟨rfl, rfl⟩
  obtain ⟨harrived, hstays⟩ := hhandle (timing.sweeping id busy) id timing o marked hmarked
  exact ⟨harrived, hstays.threads, hstays.masking⟩

/-- What all steps keep is kept by all operations. -/
def reaching (I : StageInvariant) : RunInvariant where
  allows := I.allows
  holds _ := Arrived I .during
  ended _ := Arrived I .ended
  leads := Stays
  serves _ := Serves I
  trans := Stays.trans
  ended_of_holds h := h.refl.ended.toArrived
  handlers h := h.handlers
  idle {kernel after} hmailboxes hhistory hturns hlocks hmasking hhandlers := by
    have hkeeps {phase} (h : Arrived I phase kernel) : Arrived I phase after := by
      have hexchange : Exchange kernel.mailboxes [] after.mailboxes := by
        rw [hmailboxes]
        exact .none
      have hnext := I.next h.holds (.worked hturns hexchange)
      rw [List.append_nil] at hnext
      refine ⟨hhandlers, ?_⟩
      rw [stage, hhistory, Session.holding, hlocks, hmasking]
      exact hnext
    refine ⟨⟨fun id box hbox ↦ ⟨box, ?_⟩, hmasking⟩, fun _ ↦ ⟨hkeeps, hkeeps⟩⟩
    rw [hmailboxes]
    exact hbox
  point busy kernel h := by
    refine ⟨⟨h.handlers, ?_⟩, fun _ box hbox ↦ ⟨box, hbox⟩, rfl⟩
    rw [stage, markPoint, run_bind, toList_mark]
    exact I.next h.holds (.passed busy)
  scheduling hallowed kernel h := by
    have hmoves := moves_schedulingCall h hallowed
    exact ⟨hmoves.toArrived, hmoves.toStays⟩
  signal {busy} _ _ hsink hallowed kernel h := by
    have hmoves := moves_signalCall h hsink busy hallowed
    exact ⟨hmoves.toArrived, hmoves.toStays⟩
  marking := marking_serves

/-- Every run of a program comes to a stage. -/
theorem reached_final {allows : Call → Bool} {program : Program}
    (hevery : program.every allows = true) :
    Reached allows .during (stage program.final) := by
  refine ((reaching (reachable allows)).final_holds hevery fun kernel hscheduler hclient ↦ ?_).holds
  refine ⟨?_, ?_⟩
  · rw [hclient]
    exact (Bool.and_eq_true_iff.1 hevery).2
  · rw [stage, hscheduler, hclient]
    exact .start

/-- So does it at every point that it passes. -/
theorem reached_point {allows : Call → Bool} {program : Program}
    (hevery : program.every allows = true) {point : Point}
    (hpoint : .passed point ∈ program.history) :
    ∃ history, Reached allows .during ⟨point.scheduler, history, point.holding⟩ :=
  (reached_final hevery).of_mem_points (mem_points.2 hpoint)

end SignalKernel.Program
