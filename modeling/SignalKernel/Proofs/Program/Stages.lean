import SignalKernel.Proofs.Program.Chronicle

/-!
# The stages of a run

A stage is what a run has come to: the scheduler with all threads, the history, and the threads
whose scheduler lock is held. `Stage.Next` says all that can happen from one stage to the next one,
and `Reached` which stages there are. A property that holds at the start and is kept by each step
holds at every stage, and every point of a history is a stage itself. That the runs of programs come
to such stages only is shown in `Program.Reaching`.

Turns and mailboxes hardly ever change in the same step. Steps are therefore made up of an
`Exchange` or a `Handover`, which are about mailboxes, or of a `Turn`, which is about turns.
-/

namespace SignalKernel.Program

open SignalKernel.Kernel

/-- What a run has come to. -/
structure Stage where
  scheduler : Scheduler
  history : List Moment
  /-- The threads whose scheduler lock is held, once for each level. -/
  holding : List ThreadId

/-- A stage is in the middle of a call, or the call is over and the next point is not marked yet. -/
inductive Phase where
  | during
  | ended

/-- What a step without a delivery marks, and what it makes of the mailboxes `v`. -/
inductive Exchange (v : Mailboxes) : List Moment → Mailboxes → Prop
  | none : Exchange v [] v
  | masked {id box} (mode : MaskMode) (set : SignalSet) (hbox : v id = some box) :
      Exchange v [] (Function.update v id
        (some { box with signals := box.signals.changeMask mode set }))
  | replaced {id box} (mask : SignalSet) (capacity : Nat) (hbox : v id = some box) :
      Exchange v [] (Function.update v id (some { box with signals := .ofMask mask capacity }))
  | swept (id : ThreadId) (left : SignalState) : Exchange v [.swept id left] v
  /-- An occurrence is posted and not delivered at once. -/
  | kept {id box o busy} (hbox : v id = some box)
      (houtcome : Post.outcome ⟨id, o, box.signals, busy⟩ ≠ .ok .delivered) :
      Exchange v [.posted ⟨id, o, box.signals, busy⟩] (Function.update v id
        (some { box with signals := (box.signals.receive o).2 }))

/-- How an occurrence comes to be handed to the sink: what is marked before its delivery, and what
is made of the mailboxes `v`. -/
inductive Handover (allows : Call → Bool) (v : Mailboxes) (id : ThreadId) :
    Timing → Occurrence → List Moment → Mailboxes → Prop
  | posted {box o busy} (hbox : v id = some box)
      (houtcome : Post.outcome ⟨id, o, box.signals, busy⟩ = .ok .delivered) :
      Handover allows v id .immediate o [.posted ⟨id, o, box.signals, busy⟩] v
  | taken {box signal o left} (hbox : v id = some box)
      (htaken : box.signals.Taken signal o left) :
      Handover allows v id .deferred o [] (Function.update v id
        (some { box with signals := left }))
  | bare {o} (hallowed : allows (.signal (.deliver o)) = true) :
      Handover allows v id .immediate o [] v

/-- The delivery tells of its thread's signals what the scheduler has. -/
structure Delivery.Finds (delivery : Delivery) (scheduler : Scheduler) : Prop where
  mask_eq : delivery.mask = (scheduler.threads.get delivery.id).signals.blocked
  pending_eq : delivery.pending = (scheduler.threads.get delivery.id).signals.pending

/-- What the end of a call makes of the scheduler and of the levels that are held. -/
inductive Turn (allows : Call → Bool) (scheduler : Scheduler) (holding : List ThreadId) :
    Scheduler → List ThreadId → Prop
  | none : Turn allows scheduler holding scheduler holding
  | spawned (config : ThreadConfig) :
      Turn allows scheduler holding (scheduler.spawn config).2 holding
  | requested :
      Turn allows scheduler holding { scheduler with reschedRequested := true } holding
  | preempted : Turn allows scheduler holding scheduler.preempt.2 holding
  | rotated (hallowed : allows (.scheduling .schedule) = true) :
      Turn allows scheduler holding scheduler.rotate.2 holding
  | madeCurrent {id} (hallowed : allows (.scheduling (.setCurrent id)) = true) :
      Turn allows scheduler holding (scheduler.setCurrent id).2 holding
  | unlocked {id left} (hleft : holding.Perm (id :: left)) :
      Turn allows scheduler holding (scheduler.unlock id) left

/-- All that can happen from one stage to the next. -/
inductive Stage.Next (allows : Call → Bool) : Stage → Phase → Phase → Stage → Prop
  | worked {phase s scheduler marks} (hturns : s.scheduler.SameTurns scheduler)
      (hexchange : Exchange s.scheduler.mailboxes marks scheduler.mailboxes) :
      Next allows s phase phase ⟨scheduler, s.history ++ marks, s.holding⟩
  /-- A delivery is marked, and the point after it, at which the sink takes over. -/
  | delivered {s scheduler marks} {delivery : Delivery} (sweeping : List ThreadId)
      (hturns : s.scheduler.SameTurns scheduler)
      (hhandover : Handover allows s.scheduler.mailboxes delivery.id delivery.timing
        delivery.occurrence marks scheduler.mailboxes)
      (hfinds : delivery.Finds scheduler) :
      Next allows s .during .during
        ⟨scheduler,
          s.history ++ marks ++
            [.delivered delivery, .passed ⟨scheduler, sweeping, s.holding⟩], s.holding⟩
  | locked {s id holding} (hthread : ∃ depth, s.scheduler.depth? id = some depth)
      (hholding : holding.Perm (id :: s.holding)) :
      Next allows s .during .during ⟨s.scheduler.lock id, s.history, holding⟩
  | turned {s scheduler holding} (hturn : Turn allows s.scheduler s.holding scheduler holding) :
      Next allows s .during .ended ⟨scheduler, s.history, holding⟩
  | passed {s} (sweeping : List ThreadId) :
      Next allows s .ended .during
        ⟨s.scheduler, s.history ++ [.passed ⟨s.scheduler, sweeping, s.holding⟩], s.holding⟩

/-- The stages that a run may come to. It starts once the scheduler exists. -/
inductive Reached (allows : Call → Bool) : Phase → Stage → Prop
  | start : Reached allows .ended ⟨{}, [], []⟩
  | next {phase s phase' s'} (h : Reached allows phase s)
      (hnext : s.Next allows phase phase' s') : Reached allows phase' s'

/-! ## Points of a history -/

/-- The point, if the moment is one. -/
def Moment.point? : Moment → Option Point
  | .passed point => some point
  | _ => none

/-- The points that a run passed, the first one first. -/
def points (history : List Moment) : List Point :=
  history.filterMap Moment.point?

theorem mem_points {history : List Moment} {point : Point} :
    point ∈ points history ↔ .passed point ∈ history := by
  refine List.mem_filterMap.trans ⟨?_, fun h ↦ ⟨_, h, rfl⟩⟩
  rintro ⟨moment, hmoment, hpoint⟩
  cases moment <;> cases hpoint
  exact hmoment

theorem points_append (history marks : List Moment) :
    points (history ++ marks) = points history ++ points marks :=
  List.filterMap_append

variable {allows : Call → Bool}

theorem Exchange.points_eq {v v' : Mailboxes} {marks : List Moment} (h : Exchange v marks v') :
    points marks = [] := by
  cases h <;> rfl

theorem Handover.points_eq {v v' : Mailboxes} {id : ThreadId} {timing : Timing} {o : Occurrence}
    {marks : List Moment} (h : Handover allows v id timing o marks v') : points marks = [] := by
  cases h <;> rfl

/-- A step passes no point, or the one at which the run is then. -/
theorem Stage.Next.points_eq {phase phase' : Phase} {s s' : Stage}
    (h : s.Next allows phase phase' s') :
    points s'.history = points s.history ∨
      ∃ sweeping, phase' = .during ∧
        points s'.history = points s.history ++ [⟨s'.scheduler, sweeping, s'.holding⟩] := by
  cases h with
  | worked hturns hexchange =>
      left
      rw [points_append, hexchange.points_eq, List.append_nil]
  | delivered sweeping hturns hhandover hfinds =>
      refine .inr ⟨sweeping, rfl, ?_⟩
      rw [points_append, points_append, hhandover.points_eq, List.append_nil]
      rfl
  | locked hthread hholding => exact .inl rfl
  | turned hturn => exact .inl rfl
  | passed sweeping =>
      refine .inr ⟨sweeping, rfl, ?_⟩
      rw [points_append]
      rfl

/-- Every point of a history is a stage that the run came to. -/
theorem Reached.of_mem_points {phase : Phase} {s : Stage} (h : Reached allows phase s)
    {point : Point} (hpoint : point ∈ points s.history) :
    ∃ history, Reached allows .during ⟨point.scheduler, history, point.holding⟩ := by
  induction h with
  | start => cases hpoint
  | next h hnext ih =>
      rcases hnext.points_eq with hsame | ⟨sweeping, rfl, hpassed⟩
      · rw [hsame] at hpoint
        exact ih hpoint
      · rw [hpassed, List.mem_append, List.mem_singleton] at hpoint
        rcases hpoint with hpoint | rfl
        · exact ih hpoint
        · exact ⟨_, .next h hnext⟩

/-! ## Deliveries of a history -/

theorem Exchange.not_delivered {v v' : Mailboxes} {marks : List Moment} (h : Exchange v marks v')
    (delivery : Delivery) : .delivered delivery ∉ marks := by
  cases h <;> simp

theorem Handover.not_delivered {v v' : Mailboxes} {id : ThreadId} {timing : Timing}
    {o : Occurrence} {marks : List Moment} (h : Handover allows v id timing o marks v')
    (delivery : Delivery) : .delivered delivery ∉ marks := by
  cases h <;> simp

/-- A delivery was made from a stage that the run came to, and is followed by the point that tells
what it found. -/
structure Delivery.Made (allows : Call → Bool) (delivery : Delivery) (before : List Moment)
    (point : Point) : Prop where
  step : ∃ (earlier : Stage) (marks : List Moment), Reached allows .during earlier ∧
    before = earlier.history ++ marks ∧
      Handover allows earlier.scheduler.mailboxes delivery.id delivery.timing delivery.occurrence
        marks point.scheduler.mailboxes
  finds : delivery.Finds point.scheduler
  reached : Reached allows .during
    ⟨point.scheduler, before ++ [.delivered delivery, .passed point], point.holding⟩

/-- A step delivers nothing, or it makes one delivery as the last thing but a point. -/
theorem Stage.Next.of_delivered {phase phase' : Phase} {s s' : Stage}
    (hs : Reached allows phase s) (h : s.Next allows phase phase' s') {delivery : Delivery}
    {before after : List Moment} (hsplit : s'.history = before ++ .delivered delivery :: after) :
    (∃ earlier later, s.history = before ++ .delivered delivery :: earlier ∧
      after = earlier ++ later) ∨
        ∃ point, after = [.passed point] ∧ delivery.Made allows before point := by
  cases h with
  | worked hturns hexchange =>
      obtain ⟨earlier, hearlier⟩ :=
        append_split_of_not_mem hsplit (hexchange.not_delivered delivery)
      exact .inl ⟨earlier, _, hearlier⟩
  | delivered sweeping hturns hhandover hfinds =>
      rcases append_split hsplit with ⟨middle, hmiddle, rfl⟩ | ⟨later, hlater, rfl⟩
      · obtain ⟨earlier, hearlier, rfl⟩ :=
          append_split_of_not_mem hmiddle (hhandover.not_delivered delivery)
        exact .inl ⟨earlier, _, hearlier, List.append_assoc ..⟩
      · rcases later with _ | ⟨first, _ | ⟨second, rest⟩⟩
        · obtain ⟨hdelivery, rfl⟩ := List.cons.inj hlater
          cases hdelivery
          rw [List.append_nil]
          exact .inr ⟨_, rfl, ⟨s, _, hs, rfl, hhandover⟩, hfinds,
            hs.next (.delivered sweeping hturns hhandover hfinds)⟩
        · cases (List.cons.inj (List.cons.inj hlater).2).1
        · simp at hlater
  | locked hthread hholding => exact .inl ⟨after, [], hsplit, (List.append_nil _).symm⟩
  | turned hturn => exact .inl ⟨after, [], hsplit, (List.append_nil _).symm⟩
  | passed sweeping =>
      rcases concat_split hsplit with ⟨-, hlast, -⟩ | ⟨earlier, hearlier⟩
      · cases hlast
      · exact .inl ⟨earlier, _, hearlier⟩

/-- Every delivery of a history was made from a stage that the run came to. -/
theorem Reached.of_delivered {phase : Phase} {s : Stage} (h : Reached allows phase s)
    {delivery : Delivery} {before after : List Moment}
    (hsplit : s.history = before ++ .delivered delivery :: after) :
    ∃ point rest, after = .passed point :: rest ∧ delivery.Made allows before point := by
  induction h generalizing after with
  | start => simp at hsplit
  | next h hnext ih =>
      rcases hnext.of_delivered h hsplit with ⟨earlier, later, hearlier, rfl⟩ | ⟨point, rfl, hmade⟩
      · obtain ⟨point, rest, rfl, hmade⟩ := ih hearlier
        exact ⟨point, rest ++ later, rfl, hmade⟩
      · exact ⟨point, [], rfl, hmade⟩

/-! ## Signals at every stage -/

/-- A property of a thread's signals that new ones have and that all operations keep. -/
structure Lasting (P : SignalState → Prop) : Prop where
  fresh : ∀ mask capacity, P (.ofMask mask capacity)
  masked : ∀ {s : SignalState} mode set, P s → P (s.changeMask mode set)
  received : ∀ {s : SignalState} o, P s → P (s.receive o).2
  taken : ∀ {s left : SignalState} {signal o}, P s → s.Taken signal o left → P left

section Signals

variable {P : SignalState → Prop} {v v' : Mailboxes} {id : ThreadId} {box : Mailbox}

/-- The signals of all threads have a property. -/
def AllSignals (P : SignalState → Prop) (v : Mailboxes) : Prop :=
  ∀ id box, v id = some box → P box.signals

theorem AllSignals.update (h : AllSignals P v) (hbox : P box.signals) :
    AllSignals P (Function.update v id (some box)) := by
  intro other box' hbox'
  by_cases hother : other = id
  · subst hother
    rw [Function.update_self] at hbox'
    cases hbox'
    exact hbox
  · rw [Function.update_of_ne hother] at hbox'
    exact h other box' hbox'

theorem Exchange.allSignals {marks : List Moment} (h : Exchange v marks v') (hP : Lasting P)
    (hv : AllSignals P v) : AllSignals P v' := by
  cases h with
  | none => exact hv
  | masked mode set hbox => exact hv.update (hP.masked mode set (hv _ _ hbox))
  | replaced mask capacity hbox => exact hv.update (hP.fresh mask capacity)
  | swept id left => exact hv
  | kept hbox houtcome => exact hv.update (hP.received _ (hv _ _ hbox))

theorem Handover.allSignals {timing : Timing} {o : Occurrence} {marks : List Moment}
    (h : Handover allows v id timing o marks v') (hP : Lasting P) (hv : AllSignals P v) :
    AllSignals P v' := by
  cases h with
  | posted hbox houtcome => exact hv
  | taken hbox htaken => exact hv.update (hP.taken (hv _ _ hbox) htaken)
  | bare hallowed => exact hv

/-- The end of a call leaves mailboxes alone, but for that of a new thread. -/
theorem Turn.mailboxes_eq {scheduler after : Scheduler} {holding left : List ThreadId}
    (h : Turn allows scheduler holding after left) :
    after.mailboxes = scheduler.mailboxes ∨
      ∃ id config, scheduler.mailboxes id = .none ∧
        after.mailboxes = Function.update scheduler.mailboxes id
          (some (Thread.ofConfig id config).mailbox) := by
  cases h with
  | none => exact .inl rfl
  | spawned config =>
      exact (scheduler.mailboxes_spawn config).imp_right fun hadded ↦ ⟨_, config, hadded⟩
  | requested => exact .inl rfl
  | preempted => exact .inl (Scheduler.mailboxes_of_threads (Scheduler.threads_preempt _))
  | rotated hallowed => exact .inl (Scheduler.mailboxes_of_threads (Scheduler.threads_rotate _))
  | madeCurrent hallowed =>
      exact .inl (Scheduler.mailboxes_of_threads (Scheduler.threads_setCurrent _ _))
  | unlocked hleft => exact .inl (scheduler.mailboxes_unlock _)

theorem Turn.allSignals {scheduler after : Scheduler} {holding left : List ThreadId}
    (h : Turn allows scheduler holding after left) (hP : Lasting P)
    (hv : AllSignals P scheduler.mailboxes) : AllSignals P after.mailboxes := by
  rcases h.mailboxes_eq with hsame | ⟨id, config, -, hadded⟩
  · rw [hsame]
    exact hv
  · rw [hadded]
    exact hv.update (hP.fresh config.initialMask config.pendingCapacity)

theorem Stage.Next.allSignals {phase phase' : Phase} {s s' : Stage}
    (h : s.Next allows phase phase' s') (hP : Lasting P)
    (hs : AllSignals P s.scheduler.mailboxes) : AllSignals P s'.scheduler.mailboxes := by
  cases h with
  | worked hturns hexchange => exact hexchange.allSignals hP hs
  | delivered sweeping hturns hhandover hfinds => exact hhandover.allSignals hP hs
  | locked hthread hholding =>
      rw [Scheduler.mailboxes_lock]
      exact hs
  | turned hturn => exact hturn.allSignals hP hs
  | passed sweeping => exact hs

/-- What lasts holds of the signals of all threads at every stage. -/
theorem Reached.allSignals {phase : Phase} {s : Stage} (h : Reached allows phase s)
    (hP : Lasting P) : AllSignals P s.scheduler.mailboxes := by
  induction h with
  | start =>
      intro id box hbox
      rw [Chronicle.mailbox_initial hbox]
      exact hP.fresh _ _
  | next h hnext ih => exact hnext.allSignals hP ih

theorem lasting_sound : Lasting fun s ↦ s.queue.Sound where
  fresh _ capacity := .ofCapacity capacity
  masked {s} mode set h := by
    rw [SignalState.queue_changeMask]
    exact h
  received o h := SignalState.sound_receive h o
  taken _ htaken := htaken.sound

/-- All queues are sound at every stage. -/
theorem Reached.sound {phase : Phase} {s : Stage} (h : Reached allows phase s)
    (hbox : s.scheduler.mailboxes id = some box) : box.signals.queue.Sound :=
  h.allSignals lasting_sound id box hbox

end Signals

end SignalKernel.Program
