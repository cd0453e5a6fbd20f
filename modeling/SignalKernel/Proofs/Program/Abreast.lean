import SignalKernel.Proofs.Program.Settings

/-!
# Calls in different settings

Every call of a program is the same work in all settings, and so is every handler that a delivery
starts, however deep deliveries nest. Calls on the log and on the core's interrupts are left to the
comparison, which says what it has to know of them.
-/

namespace SignalKernel.Program

open SignalKernel.Kernel

variable {C : Comparison} {α β δ ε : Type} {tell : Setting → α → β} {tell' : Setting → δ → ε}

/-- An answer in a setting. -/
def Answer.told (setting : Setting) : Answer → Answer :=
  Answer.deepen setting.offset

/-- Answers in a setting. -/
def Answer.allTold (setting : Setting) : List Answer → List Answer :=
  Answer.deepenAll setting.offset

/-- A computation whose answer is the same in all settings, except for depths. -/
def Answers (C : Comparison) (m : ProgramM Answer) : Prop :=
  Uniform C Answer.told fun _ ↦ m

theorem answers_pure (answer : Answer) (h : ∀ offset, answer.deepen offset = answer) :
    Answers C (pure answer) :=
  fun common ↦ ⟨answer, common, fun _ ↦ rfl,
    fun setting _ _ hshows ↦ ⟨(h setting.offset).symm, hshows⟩⟩

/-- A step that returns an answer without depths. -/
theorem Steady.answers {m : ProgramM Answer} (hm : Steady C m)
    (hdepth : ∀ kernel offset, (m kernel).1.deepen offset = (m kernel).1) : Answers C m := by
  intro common
  obtain ⟨answer, after, hbalanced, hafter⟩ := hm common
  refine ⟨answer, after, hbalanced, fun setting hadmits kernel hshows ↦ ?_⟩
  obtain ⟨hanswer, hshows'⟩ := hafter setting hadmits kernel hshows
  refine ⟨?_, hshows'⟩
  show (m kernel).1 = answer.deepen setting.offset
  rw [← hdepth kernel setting.offset]
  exact congrArg (Answer.deepen setting.offset) hanswer

/-! ## Keeping track -/

/-- A change of the session that has nothing to do with events, moments and handlers. -/
theorem Steady.modifySession (change : Session → Session)
    (hchange : ∀ (setting : Setting) session,
      change (setting.session session) = setting.session (change session))
    (hhandlers : ∀ session, (change session).handlers = session.handlers) :
    Steady C (modifySession change) := by
  intro common
  have hallowed : (change common.session).handlers.every C.allows = true := by
    rw [hhandlers]
    exact common.allowed
  refine ⟨(), { common with session := change common.session, allowed := hallowed },
    fun _ ↦ rfl, fun setting _ kernel hshows ↦ ⟨rfl, hshows.scheduler, hshows.depth,
      hshows.number, hshows.logger, ?_⟩⟩
  show change kernel.client = setting.session (change common.session)
  rw [hshows.client, hchange]

theorem Uniform.note (event : Event) :
    Uniform C (fun _ a ↦ a) fun setting ↦ note (event.deepen setting.offset) := by
  intro common
  let session := { common.session with events := common.session.events.push event }
  refine ⟨(), { common with session, allowed := common.allowed },
    fun _ ↦ rfl, fun setting _ kernel hshows ↦ ⟨rfl, hshows.scheduler, hshows.depth,
      hshows.number, hshows.logger, ?_⟩⟩
  show { kernel.client with events := kernel.client.events.push (event.deepen setting.offset) } =
    setting.session session
  rw [hshows.client]
  simp [Setting.session, session]

theorem Uniform.mark (moment : Moment) :
    Uniform C (fun _ a ↦ a) fun setting ↦ mark (moment.deepen setting.offset) := by
  intro common
  let session := { common.session with history := common.session.history.push moment }
  refine ⟨(), { common with session, allowed := common.allowed },
    fun _ ↦ rfl, fun setting _ kernel hshows ↦ ⟨rfl, hshows.scheduler, hshows.depth,
      hshows.number, hshows.logger, ?_⟩⟩
  show { kernel.client with history := kernel.client.history.push (moment.deepen setting.offset) } =
    setting.session session
  rw [hshows.client]
  simp [Setting.session, session]

theorem steady_markPoint (sweeping : List ThreadId) : Steady C (markPoint sweeping) := by
  refine .of_shows fun common ↦
    ⟨_, .mark (.passed ⟨common.scheduler, sweeping, common.session.holding⟩), ?_⟩
  intro setting hadmits kernel hshows
  show Program.mark (.passed ⟨kernel.scheduler, sweeping, kernel.client.holding⟩) kernel = _
  rw [hshows.scheduler, hshows.client]
  rfl

theorem steady_markPost (sweeping : List ThreadId) (id : ThreadId) (o : Occurrence) :
    Steady C (markPost sweeping id o) :=
  .read (fun scheduler ↦ (scheduler.threads.get id).signals)
    fun found ↦ .mark (.posted ⟨id, o, found, sweeping⟩)

theorem steady_markSent (sweeping : List ThreadId) (id : ThreadId) (o : Occurrence) :
    Steady C (markSent sweeping id o) := by
  let markIf (posts : Bool) : ProgramM Unit := do
    if posts then markPost sweeping id o
  have hmark (posts : Bool) : Steady C (markIf posts) := by
    cases posts with
    | true => exact steady_markPost sweeping id o
    | false => exact .pure ()
  exact .read (fun scheduler ↦ (scheduler.threads.find? id).isSome && o.signal != 0) hmark

theorem steady_markSwept (id : ThreadId) : Steady C (markSwept id) :=
  .read (fun scheduler ↦ (scheduler.threads.get id).signals) fun left ↦ .mark (.swept id left)

theorem steady_markMasked (id : ThreadId) (set : Option SignalSet)
    (outcome : Except MaskError Unit) : Steady C (markMasked id set outcome) := by
  rcases set with _ | set <;> rcases outcome with _ | _
  · exact .pure ()
  · exact .pure ()
  · exact .pure ()
  · exact steady_markSwept id

theorem steady_noteSent (id : ThreadId) (o : Occurrence)
    (outcome : Except SignalError (Option Fate)) : Steady C (noteSent id o outcome) := by
  rcases outcome with (_ | _ | _) | (_ | fate)
  · exact .note (.posted id o (.error .invalidSignal))
  · exact .note (.posted id o (.error .queueFull))
  · exact .pure ()
  · exact .pure ()
  · exact .note (.posted id o (.ok fate))

theorem steady_whileMasking (id : ThreadId) {change : ProgramM α} (h : Steady C change) :
    Steady C (whileMasking id change) := by
  refine Steady.bind (.modifySession _ (fun _ _ ↦ rfl) fun _ ↦ rfl) fun _ ↦ ?_
  refine h.bind fun result ↦ ?_
  exact Steady.bind (.modifySession _ (fun _ _ ↦ rfl) fun _ ↦ rfl) fun _ ↦ .pure result

/-- A delivery to a thread as it is in common. -/
def Common.delivery {allows : Call → Bool} (common : Common allows) (id : ThreadId)
    (timing : Timing) (o : Occurrence) : Delivery :=
  let thread := common.scheduler.threads.get id
  { id
    timing
    occurrence := o
    mask := thread.signals.blocked
    pending := thread.signals.pending
    current := common.scheduler.current
    lockDepth := thread.lockDepth
    interruptDepth := common.depth }

theorem delivery_of_shows {allows : Call → Bool} {setting : Setting} {common : Common allows}
    {kernel : Kernel Session} (h : Shows setting common kernel) (id : ThreadId) (timing : Timing)
    (o : Occurrence) :
    delivery kernel id timing o = (common.delivery id timing o).deepen setting.offset := by
  unfold delivery Kernel.thread
  rw [h.scheduler, h.depth]
  rfl

/-- A delivery is marked with the depth at which it is made. -/
theorem steady_markDelivery (id : ThreadId) (timing : Timing) (o : Occurrence) :
    Steady C (get >>= fun kernel ↦ mark (.delivered (delivery kernel id timing o))) := by
  refine .of_shows fun common ↦ ⟨_, .mark (.delivered (common.delivery id timing o)), ?_⟩
  intro setting hadmits kernel hshows
  rw [run_bind, run_get, delivery_of_shows hshows]
  rfl

theorem steady_noteDelivery (id : ThreadId) (timing : Timing) (o : Occurrence) :
    Steady C (noteDelivery id timing o) := by
  refine .of_shows fun common ↦ ⟨_, .note (.delivered (common.delivery id timing o)), ?_⟩
  intro setting hadmits kernel hshows
  rw [noteDelivery, run_bind, run_get, delivery_of_shows hshows]
  rfl

/-- The handler that is taken is the same in all settings, and makes allowed calls only. -/
theorem Uniform.takeHandler (signal : Nat) {f : Setting → List Call → ProgramM ε}
    (hf : ∀ script, Call.allEvery C.allows script = true →
      Uniform C tell' fun setting ↦ f setting script) :
    Uniform C tell' fun setting ↦ takeHandler signal >>= f setting := by
  intro common
  obtain ⟨hallowed, hleft⟩ := Handlers.every_take signal common.allowed
  let taken := common.session.handlers.take signal
  let middle : Common C.allows :=
    { common with session := { common.session with handlers := taken.2 }, allowed := hleft }
  obtain ⟨a, after, hbalanced, hafter⟩ := hf _ hallowed middle
  refine ⟨a, after, hbalanced, fun setting hadmits kernel hshows ↦ ?_⟩
  have hhandlers : kernel.client.handlers = common.session.handlers := by
    rw [hshows.client]
    rfl
  have hmiddle : Shows setting middle (Program.takeHandler signal kernel).2 := by
    refine ⟨hshows.scheduler, hshows.depth, hshows.number, hshows.logger, ?_⟩
    show { kernel.client with handlers := (kernel.client.handlers.take signal).2 } =
      setting.session middle.session
    rw [hhandlers, hshows.client]
    rfl
  have htaken : (Program.takeHandler signal kernel).1 = taken.1.getD [] := by
    show (kernel.client.handlers.take signal).1.getD [] = _
    rw [hhandlers]
  show (f setting (Program.takeHandler signal kernel).1 _).1 = _ ∧
    Shows setting after (f setting (Program.takeHandler signal kernel).1 _).2
  rw [htaken]
  exact hafter setting hadmits _ hmiddle

/-! ## Calls on the scheduler -/

theorem steady_operation {operation : Sink Session → ProgramM α}
    (h : Operation Session operation) {sink : Sink Session}
    (hsink : ∀ id timing o, Steady C (sink id timing o)) : Steady C (operation sink) := by
  show (steadiness C).rel (operation sink) (operation sink)
  exact h.related (steadiness C) hsink

theorem steady_discarding (id : ThreadId) (timing : Timing) (o : Occurrence) :
    Steady C (discarding id timing o) :=
  .log _

theorem answers_onThread (id : Option ThreadId) {body : ThreadId → ProgramM Answer}
    (hbody : ∀ id, Answers C (body id)) : Answers C (onThread id body) := by
  cases id with
  | none => exact (Steady.readScheduler _).bind fun caller ↦ hbody caller.id
  | some id =>
      refine (Steady.readScheduler _).bind fun found ↦ ?_
      cases found with
      | none => exact answers_pure .noThread fun _ ↦ rfl
      | some thread => exact hbody thread.id

/-- Release a lock, once it is looked up. -/
def unlockHeld (index : Nat) (held : Option (Option ThreadId)) : ProgramM Answer :=
  match held with
  | some (some id) => do
      modifySession fun session ↦ { session with locks := session.locks.set index none }
      unlockScheduler id
      pure (.truth true)
  | _ => pure (.truth false)

theorem answers_schedulingCall (call : SchedulingCall) : Answers C call.run := by
  have hoperation {α : Type} {operation : Sink Session → ProgramM α}
      (h : Operation Session operation) : Steady C (operation discarding) :=
    steady_operation h steady_discarding
  cases call with
  | spawn config =>
      refine (hoperation (.spawn config)).bind fun thread ↦ ?_
      exact (Steady.readSignals _ _).bind fun _ ↦ answers_pure _ fun _ ↦ rfl
  | current =>
      refine (Steady.readScheduler _).bind fun thread ↦ ?_
      exact (Steady.readScheduler _).bind fun _ ↦ answers_pure _ fun _ ↦ rfl
  | setCurrent id => exact (hoperation (.setCurrent id)).bind fun _ ↦ answers_pure _ fun _ ↦ rfl
  | requestResched => exact (hoperation .requestResched).bind fun _ ↦ answers_pure _ fun _ ↦ rfl
  | isReschedRequested => exact .read (·.reschedRequested) fun _ ↦ answers_pure _ fun _ ↦ rfl
  | contextSwitches => exact .read (·.contextSwitches.toNat) fun _ ↦ answers_pure _ fun _ ↦ rfl
  | preemptionPoint => exact (hoperation .preemptionPoint).bind fun _ ↦ answers_pure _ fun _ ↦ rfl
  | schedule => exact (hoperation .schedule).bind fun _ ↦ answers_pure _ fun _ ↦ rfl
  | lock id =>
      refine answers_onThread id fun id ↦ ?_
      refine (hoperation (.lockScheduler id)).bind fun _ ↦ ?_
      refine Steady.bind (.modifySession _ (fun _ _ ↦ rfl) fun _ ↦ rfl) fun _ ↦ ?_
      exact .read (fun scheduler ↦ (scheduler.threads.get id).lockDepth.toNat)
        fun _ ↦ answers_pure _ fun _ ↦ rfl
  | unlock index =>
      have hunlock (held : Option (Option ThreadId)) : Answers C (unlockHeld index held) := by
        rcases held with _ | _ | id
        · exact answers_pure _ fun _ ↦ rfl
        · exact answers_pure _ fun _ ↦ rfl
        · refine Steady.bind (.modifySession _ (fun _ _ ↦ rfl) fun _ ↦ rfl) fun _ ↦ ?_
          exact (hoperation (.unlockScheduler id)).bind fun _ ↦ answers_pure _ fun _ ↦ rfl
      exact .readSession (fun session ↦ session.locks[index]?) (fun _ _ ↦ rfl) hunlock
  | lockDepth id =>
      refine answers_onThread id fun id ↦ ?_
      exact .read (fun scheduler ↦ (scheduler.threads.get id).lockDepth.toNat)
        fun _ ↦ answers_pure _ fun _ ↦ rfl
  | describe id =>
      refine answers_onThread id fun id ↦ ?_
      exact .read (fun scheduler ↦ scheduler.threads.get id)
        fun thread ↦ answers_pure (.described thread.name thread.display) fun _ ↦ rfl

/-! ## Calls on signals -/

/-- What is seen in a critical section is seen one level deeper. -/
theorem answers_state (id : ThreadId) : Answers C (critical do
    let kernel ← get
    pure (.signals (viewSignals kernel.core (kernel.thread id)))) := by
  intro common
  let core : Core := { interrupts := ⟨common.depth + 1⟩ }
  refine ⟨.signals (viewSignals core (common.scheduler.threads.get id)), common, fun _ ↦ rfl, ?_⟩
  intro setting hadmits kernel hshows
  refine ⟨?_, hshows.scheduler, ?_, hshows.number, hshows.logger, hshows.client⟩
  · have hdepth : kernel.core.enter.2.interrupts.depth = common.depth + 1 + setting.offset := by
      show kernel.core.interrupts.depth + 1 = _
      rw [hshows.depth, InterruptDepth.add_one_offset]
    show Answer.signals (viewSignals kernel.core.enter.2 (kernel.scheduler.threads.get id)) = _
    unfold viewSignals
    rw [hshows.scheduler, hdepth]
    rfl
  · exact (congrArg InterruptDepth.depth (InterruptDepth.restore_save ..)).trans hshows.depth

section Sink

variable {sink : Sink Session} (hsink : ∀ id timing o, Steady C (sink id timing o))
include hsink

/-- Sending is marked before, and noted afterwards. -/
theorem answers_send (sweeping : List ThreadId) (id : ThreadId)
    (occurrence : ThreadId → Occurrence) : Answers C (do
      let caller ← current
      markSent sweeping id (occurrence caller.id)
      let outcome ← send sink id occurrence
      noteSent id (occurrence caller.id) outcome
      pure (.sent (.ofOutcome outcome) ((← get).thread caller.id).errno)) := by
  refine (Steady.readScheduler _).bind fun caller ↦ ?_
  refine (steady_markSent sweeping id (occurrence caller.id)).bind fun _ ↦ ?_
  refine (steady_operation (.send id occurrence) hsink).bind fun outcome ↦ ?_
  refine (steady_noteSent id (occurrence caller.id) outcome).bind fun _ ↦ ?_
  exact .read (fun scheduler ↦ (scheduler.threads.get caller.id).errno)
    fun errno ↦ answers_pure (.sent (.ofOutcome outcome) errno) fun _ ↦ rfl

theorem answers_signalCall (sweeping : List ThreadId) (call : SignalCall) :
    Answers C (call.run ⟨sink, sweeping⟩) := by
  cases call with
  | changeMask id how set wantsOld =>
      refine answers_onThread id fun id ↦ ?_
      refine (steady_whileMasking id
        (steady_operation (.changeMask id how set) hsink)).bind fun reply ↦ ?_
      refine (steady_markMasked id set reply.outcome).bind fun _ ↦ ?_
      exact (Steady.readSignals id _).bind fun _ ↦ answers_pure _ fun _ ↦ rfl
  | sigprocmask how set wantsOld =>
      refine (Steady.readScheduler _).bind fun caller ↦ ?_
      refine (steady_whileMasking caller.id
        (steady_operation (.sigprocmask how set) hsink)).bind fun reply ↦ ?_
      refine (steady_markMasked caller.id set reply.outcome).bind fun _ ↦ ?_
      let told (errno : Errno) : ProgramM Answer := do
        pure (.maskStatus (.ofOutcome reply.outcome) (whenWanted wantsOld reply.old) errno
          (← readSignals caller.id (·.blocked)))
      have htold (errno : Errno) : Answers C (told errno) :=
        (Steady.readSignals caller.id _).bind fun _ ↦ answers_pure _ fun _ ↦ rfl
      exact .read (fun scheduler ↦ (scheduler.threads.get caller.id).errno) htold
  | sigpending =>
      exact (steady_operation .sigpending hsink).bind fun _ ↦ answers_pure _ fun _ ↦ rfl
  | kill id signal => exact answers_send hsink sweeping id (.plain signal)
  | sigqueue id signal value =>
      exact answers_send hsink sweeping id fun sender ↦ .carrying signal sender value
  | post id o =>
      refine answers_onThread id fun id ↦ ?_
      refine (steady_markPost sweeping id o).bind fun _ ↦ ?_
      refine (steady_operation (.post id o) hsink).bind fun outcome ↦ ?_
      refine Steady.bind (.note (.posted id o outcome)) fun _ ↦ ?_
      exact answers_pure _ fun _ ↦ rfl
  | sweep id =>
      refine answers_onThread id fun id ↦ ?_
      refine (steady_operation (.sweep id) hsink).bind fun count ↦ ?_
      exact (steady_markSwept id).bind fun _ ↦ answers_pure _ fun _ ↦ rfl
  | deliver o =>
      refine (Steady.readScheduler _).bind fun caller ↦ ?_
      exact (hsink caller.id .immediate o).bind fun _ ↦ answers_pure _ fun _ ↦ rfl
  | errno id =>
      refine answers_onThread id fun id ↦ ?_
      exact .read (fun scheduler ↦ (scheduler.threads.get id).errno)
        fun errno ↦ answers_pure (.errno errno) fun _ ↦ rfl
  | setErrno id code =>
      refine answers_onThread id fun id ↦ ?_
      exact (Steady.onScheduler (·.modifyThread id _)).bind fun _ ↦ answers_pure _ fun _ ↦ rfl
  | state id =>
      rw [SignalCall.run]
      exact answers_onThread id answers_state
  | query id signal =>
      rw [SignalCall.run]
      exact answers_onThread id fun id ↦ (Steady.readSignals id _).answers fun _ _ ↦ rfl
  | resetState id mask capacity =>
      rw [SignalCall.run]
      exact answers_onThread id fun id ↦ (Steady.withSignals id _).answers fun _ _ ↦ rfl

end Sink

/-! ## Calls in order -/

/-- What has to be known of the allowed calls on the log and on interrupts. -/
structure Comparison.Covers (C : Comparison) : Prop where
  log : ∀ call : LogCall, C.allows (.log call) = true → Answers C call.run
  interrupt : ∀ call : InterruptCall, C.allows (.interrupt call) = true → Answers C call.run

/-- What is the same in all settings is the same one level deeper. -/
theorem uniform_asInterrupt {m : Setting → ProgramM β} (h : Uniform C tell m) :
    Uniform C tell fun setting ↦ asInterrupt (m setting) := by
  intro common
  obtain ⟨a, after, hbalanced, hafter⟩ := h { common with depth := common.depth + 1 }
  refine ⟨a, { after with depth := after.depth - 1 }, fun hbalance ↦ ?_, ?_⟩
  · show after.depth - 1 = common.depth
    rw [hbalanced hbalance, UInt64.add_sub_cancel]
  · intro setting hadmits kernel hshows
    let masked : Kernel Session :=
      interrupts.set (InterruptControl.save (interrupts.get kernel)).2 kernel
    have hdepth : masked.core.interrupts.depth = common.depth + 1 + setting.offset := by
      show kernel.core.interrupts.depth + 1 = _
      rw [hshows.depth, InterruptDepth.add_one_offset]
    obtain ⟨hresult, hshows'⟩ := hafter setting hadmits masked
      ⟨hshows.scheduler, hdepth, hshows.number, hshows.logger, hshows.client⟩
    refine ⟨hresult, hshows'.scheduler, ?_, hshows'.number, hshows'.logger, hshows'.client⟩
    show (m setting masked).2.core.interrupts.depth - 1 = after.depth - 1 + setting.offset
    rw [hshows'.depth, InterruptDepth.sub_one_offset]

/-- The second core is the same in all settings. -/
theorem uniform_withoutFlag {m : ProgramM β} (h : Uniform C tell fun _ ↦ m) :
    Uniform C tell fun _ ↦ withoutInterrupts flagInterrupts m := by
  let setFlag (flagCore : InterruptFlag) : ProgramM Unit :=
    modifySession fun session ↦ { session with flagCore }
  let runFrom (before : InterruptFlag) : ProgramM β := do
    setFlag (InterruptControl.save before).2
    let result ← m
    modifySession fun session ↦ { session with
      flagCore := InterruptControl.restore (InterruptControl.save before).1 session.flagCore }
    pure result
  have hrun (before : InterruptFlag) : Uniform C tell fun _ ↦ runFrom before := by
    refine Steady.bind (.modifySession _ (fun _ _ ↦ rfl) fun _ ↦ rfl) fun _ ↦ ?_
    refine Uniform.bind h fun a ↦ ?_
    exact Steady.bind (.modifySession _ (fun _ _ ↦ rfl) fun _ ↦ rfl) fun _ ↦ .pure a
  exact .readSession Session.flagCore (fun _ _ ↦ rfl) hrun

section Calls

variable {sink : Sink Session}

mutual

/-- Every call is answered the same in all settings. -/
theorem answers_call (hcovers : C.Covers) (hsink : ∀ id timing o, Steady C (sink id timing o))
    (sweeping : List ThreadId) : ∀ call : Call, call.every C.allows = true →
      Answers C (call.run ⟨sink, sweeping⟩)
  | .scheduling call, _ => answers_schedulingCall call
  | .signal call, _ => answers_signalCall hsink sweeping call
  | .log call, h => hcovers.log call h
  | .interrupt call, h => hcovers.interrupt call h
  | .masked calls, h => by
      have hcalls := answers_calls hcovers hsink sweeping calls h
      refine Uniform.bind (uniform_asInterrupt hcalls) fun answers ↦ ?_
      exact .pure (Answer.several answers)
  | .flagMasked calls, h => by
      have hcalls := answers_calls hcovers hsink sweeping calls h
      refine Uniform.bind (uniform_withoutFlag hcalls) fun answers ↦ ?_
      exact .readSession (fun session ↦ InterruptControl.isEnabled session.flagCore)
        (fun _ _ ↦ rfl) fun isEnabled ↦ .pure (Answer.flagMasked answers isEnabled)
  | .unknown, _ => answers_pure _ fun _ ↦ rfl

/-- So are calls in order. -/
theorem answers_calls (hcovers : C.Covers) (hsink : ∀ id timing o, Steady C (sink id timing o))
    (sweeping : List ThreadId) : ∀ calls : List Call, Call.allEvery C.allows calls = true →
      Uniform C Answer.allTold fun _ ↦ Call.runAll ⟨sink, sweeping⟩ calls
  | [], _ => .pure []
  | call :: rest, h => by
      rw [Call.allEvery, Bool.and_eq_true] at h
      refine Uniform.bind (answers_call hcovers hsink sweeping call h.1) fun answer ↦ ?_
      refine (steady_markPoint sweeping).bind fun _ ↦ ?_
      exact Uniform.bind (answers_calls hcovers hsink sweeping rest h.2)
        fun answers ↦ .pure (answer :: answers)

end

theorem steady_runHandler (hcovers : C.Covers)
    (hsink : ∀ id timing o, Steady C (sink id timing o)) (sweeping : List ThreadId)
    {calls : List Call} (h : Call.allEvery C.allows calls = true) :
    Steady C (runHandler ⟨sink, sweeping⟩ calls) := by
  induction calls with
  | nil => exact .pure ()
  | cons call rest ih =>
      rw [Call.allEvery, Bool.and_eq_true] at h
      refine Uniform.bind (answers_call hcovers hsink sweeping call h.1) fun answer ↦ ?_
      refine Uniform.bind (.note (.answered answer)) fun _ ↦ ?_
      exact (steady_markPoint sweeping).bind fun _ ↦ ih h.2

end Calls

/-! ## Deliveries -/

theorem steady_marking {handle : List ThreadId → Sink Session}
    (hhandle : ∀ sweeping id timing o, Steady C (handle sweeping id timing o))
    (sweeping : List ThreadId) (id : ThreadId) (timing : Timing) (o : Occurrence) :
    Steady C (marking sweeping handle id timing o) :=
  (steady_markDelivery id timing o).bind fun _ ↦
    (steady_markPoint _).bind fun _ ↦ hhandle _ id timing o

/-- Deliveries with all that their handlers do are the same in all settings, at any depth. -/
theorem steady_recorder (hcovers : C.Covers) (depth : Nat) (sweeping : List ThreadId)
    (id : ThreadId) (timing : Timing) (o : Occurrence) :
    Steady C (recorder depth sweeping id timing o) := by
  induction depth generalizing sweeping id timing o with
  | zero => exact steady_marking (fun _ ↦ steady_noteDelivery) sweeping id timing o
  | succ depth ih =>
      refine steady_marking (fun sweeping id timing o ↦ ?_) sweeping id timing o
      refine (steady_noteDelivery id timing o).bind fun _ ↦ ?_
      exact .takeHandler o.signal fun script hscript ↦
        steady_runHandler hcovers (ih sweeping) sweeping hscript

/-- So are those of every program's sink. -/
theorem steady_site (hcovers : C.Covers) (program : Program) (id : ThreadId) (timing : Timing)
    (o : Occurrence) : Steady C (program.site.sink id timing o) := by
  unfold Program.site
  cases program.discards with
  | true => exact steady_marking (fun _ ↦ steady_discarding) [] id timing o
  | false => exact steady_recorder hcovers _ [] id timing o

end SignalKernel.Program
