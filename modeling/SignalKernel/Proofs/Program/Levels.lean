import SignalKernel.Proofs.Program.Abreast

/-!
# Logging does not interfere

How a kernel logs makes no difference to anything but the log. The main theorem,
`logging_apart`, compares the runs of a program with different thresholds, with the console attached
or not: answers, events and final states are the same. Moreover what a run hands to the console is
given by one list of records for all thresholds, of which each threshold lets its part through.
-/

namespace SignalKernel.Program

open SignalKernel.Kernel

/-- The call neither changes how the kernel logs nor asks for it. It may log. -/
def Call.keepsLogging : Call → Bool
  | .log (.log _) | .log .flush => true
  | .log _ => false
  | _ => true

/-- Runs of such calls, with interrupts masked to the same depth. -/
def atAnyLevel : Comparison where
  allows := Call.keepsLogging
  admits offset := offset = 0
  balanced := False

/-! ## Calls on interrupts -/

section Interrupts

variable {α δ ε : Type} {tell' : Setting → δ → ε}

/-- A computation that goes on with what it read of interrupts and of the core's number. -/
theorem uniform_readCore (part : InterruptDepth → UInt64 → α) {f : Setting → α → ProgramM ε}
    (hf : ∀ a, Uniform atAnyLevel tell' fun setting ↦ f setting a) :
    Uniform atAnyLevel tell' fun setting ↦
      get >>= fun kernel ↦ f setting (part kernel.core.interrupts kernel.core.number) := by
  refine .of_shows fun common ↦ ⟨_, hf (part ⟨common.depth⟩ common.number), ?_⟩
  intro setting hadmits kernel hshows
  have hinterrupts : kernel.core.interrupts = ⟨common.depth⟩ := by
    refine congrArg InterruptDepth.mk (hshows.depth.trans ?_)
    rw [show setting.offset = 0 from hadmits, UInt64.add_zero]
  rw [← hinterrupts, ← hshows.number]
  rfl

/-- A change of the core's interrupts. -/
theorem steady_onInterrupts {m : ProgramM Unit} (change : InterruptDepth → InterruptDepth)
    (hscheduler : ∀ kernel, (m kernel).2.scheduler = kernel.scheduler)
    (hinterrupts : ∀ kernel, (m kernel).2.core.interrupts = change kernel.core.interrupts)
    (hnumber : ∀ kernel, (m kernel).2.core.number = kernel.core.number)
    (hlogger : ∀ kernel, (m kernel).2.logger = kernel.logger)
    (hclient : ∀ kernel, (m kernel).2.client = kernel.client) : Steady atAnyLevel m := by
  intro common
  refine ⟨(), { common with depth := (change ⟨common.depth⟩).depth }, False.elim, ?_⟩
  intro setting hadmits kernel hshows
  have hzero : setting.offset = 0 := hadmits
  have hbefore : kernel.core.interrupts = ⟨common.depth⟩ := by
    refine congrArg InterruptDepth.mk (hshows.depth.trans ?_)
    rw [hzero, UInt64.add_zero]
  refine ⟨rfl, (hscheduler kernel).trans hshows.scheduler, ?_, (hnumber kernel).trans hshows.number,
    (hlogger kernel).trans hshows.logger, (hclient kernel).trans hshows.client⟩
  show (m kernel).2.core.interrupts.depth = _
  rw [hinterrupts, hbefore, hzero, UInt64.add_zero]

theorem steady_modifyInterrupts (change : InterruptDepth → InterruptDepth) :
    Steady atAnyLevel (modifyComponent interrupts change) :=
  steady_onInterrupts change (fun _ ↦ rfl) (fun _ ↦ rfl) (fun _ ↦ rfl) (fun _ ↦ rfl) fun _ ↦ rfl

theorem steady_leave (entered : CriticalSection) : Steady atAnyLevel (leave entered) :=
  steady_onInterrupts (InterruptControl.restore entered.flags) (fun _ ↦ rfl) (fun _ ↦ rfl)
    (fun _ ↦ rfl) (fun _ ↦ rfl) fun _ ↦ rfl

theorem steady_enter : Steady atAnyLevel enter := by
  let enterCore : ProgramM Unit := modify fun kernel ↦ { kernel with core := kernel.core.enter.2 }
  have henter : Steady atAnyLevel enterCore :=
    steady_onInterrupts (fun interrupts ↦ (InterruptControl.save interrupts).2) (fun _ ↦ rfl)
      (fun _ ↦ rfl) (fun _ ↦ rfl) (fun _ ↦ rfl) fun _ ↦ rfl
  exact uniform_readCore (fun interrupts _ ↦ (InterruptControl.save interrupts).1)
    fun flags ↦ henter.bind fun _ ↦ .pure (CriticalSection.mk flags)

theorem steady_interruptDepth : Steady atAnyLevel interruptDepth :=
  uniform_readCore (fun interrupts _ ↦ interrupts.depth) .pure

/-- Calls that answer with the depth. -/
theorem answers_depth {answer : UInt64 → Answer}
    (h : ∀ depth offset, (answer depth).deepen offset = answer depth) :
    Answers atAnyLevel (do pure (answer (← interruptDepth))) :=
  steady_interruptDepth.bind fun depth ↦ answers_pure (answer depth) (h depth)

theorem answers_flagEnabled {answer : Bool → Answer}
    (h : ∀ isEnabled offset, (answer isEnabled).deepen offset = answer isEnabled) :
    Answers atAnyLevel (do pure (answer (← flagEnabled))) :=
  .readSession (fun session ↦ InterruptControl.isEnabled session.flagCore) (fun _ _ ↦ rfl)
    fun isEnabled ↦ answers_pure (answer isEnabled) (h isEnabled)

/-- Restore saved flags, once they are looked up. -/
def restoreKept {σ : Type} [InterruptControl σ] (component : Component (Kernel Session) σ)
    (answer : ProgramM Answer) (kept : Option InterruptFlags) : ProgramM Answer :=
  match kept with
  | none => pure .noFlags
  | some flags => do
      modifyComponent component (InterruptControl.restore flags)
      answer

theorem answers_restoreFlags {σ : Type} [InterruptControl σ]
    {component : Component (Kernel Session) σ} (index : Nat) {answer : ProgramM Answer}
    (hrestore : ∀ flags : InterruptFlags,
      Steady atAnyLevel (modifyComponent component (InterruptControl.restore flags)))
    (hanswer : Answers atAnyLevel answer) :
    Answers atAnyLevel (restoreFlags component index answer) := by
  have hkept (kept : Option InterruptFlags) :
      Answers atAnyLevel (restoreKept component answer kept) := by
    cases kept with
    | none => exact answers_pure .noFlags fun _ ↦ rfl
    | some flags => exact (hrestore flags).bind fun _ ↦ hanswer
  exact .readSession (fun session ↦ session.flags[index]?) (fun _ _ ↦ rfl) hkept

/-- A change of the second core's interrupts is a change of the session. -/
theorem steady_modifyFlag (change : InterruptFlag → InterruptFlag) :
    Steady atAnyLevel (modifyComponent flagInterrupts change) :=
  Steady.modifySession (fun session ↦ { session with flagCore := change session.flagCore })
    (fun _ _ ↦ rfl) fun _ ↦ rfl

/-- Leave a critical section, once it is looked up. -/
def leaveKept (index : Nat) (kept : Option (Option CriticalSection)) : ProgramM Answer :=
  match kept with
  | some (some entered) => do
      modifySession fun session ↦ { session with sections := session.sections.set index none }
      Kernel.leave entered
      pure (.atDepth true (← interruptDepth))
  | _ => do pure (.atDepth false (← interruptDepth))

theorem answers_leave (index : Nat) : Answers atAnyLevel (InterruptCall.leave index).run := by
  have hkept (kept : Option (Option CriticalSection)) :
      Answers atAnyLevel (leaveKept index kept) := by
    rcases kept with _ | _ | entered
    · exact answers_depth fun _ _ ↦ rfl
    · exact answers_depth fun _ _ ↦ rfl
    · refine Steady.bind (.modifySession _ (fun _ _ ↦ rfl) fun _ ↦ rfl) fun _ ↦ ?_
      exact (steady_leave entered).bind fun _ ↦ answers_depth fun _ _ ↦ rfl
  exact .readSession (fun session ↦ session.sections[index]?) (fun _ _ ↦ rfl) hkept

theorem answers_critical {body : ProgramM Answer} (h : Answers atAnyLevel body) :
    Answers atAnyLevel (critical body) := by
  refine steady_enter.bind fun entered ↦ ?_
  refine Uniform.bind h fun answer ↦ ?_
  exact (steady_leave entered).bind fun _ ↦ .pure answer

theorem answers_addToCell (value : UInt64) :
    Answers atAnyLevel (InterruptCall.addToCell value).run := by
  let tellCell (cell : UInt64) : ProgramM Answer := do
    pure (.cell cell (← get).core.interrupts.depth)
  have hcell (cell : UInt64) : Answers atAnyLevel (tellCell cell) :=
    uniform_readCore (fun interrupts _ ↦ interrupts.depth)
      fun depth ↦ answers_pure (.cell cell depth) fun _ ↦ rfl
  refine answers_critical (Steady.bind (.modifySession _ (fun _ _ ↦ rfl) fun _ ↦ rfl) fun _ ↦ ?_)
  exact .readSession Session.cell (fun _ _ ↦ rfl) hcell

/-- Flags are kept as they are saved. -/
theorem steady_saveFlags {σ : Type} [InterruptControl σ] {component : Component (Kernel Session) σ}
    (hread : ∀ {f : σ → ProgramM InterruptFlags}, (∀ state, Steady atAnyLevel (f state)) →
      Steady atAnyLevel (get >>= fun kernel ↦ f (component.get kernel)))
    (hset : ∀ state, Steady atAnyLevel (modifyComponent component fun _ ↦ state)) :
    Steady atAnyLevel (saveFlags component) := by
  let saveFrom (state : σ) : ProgramM InterruptFlags := do
    modifyComponent component fun _ ↦ (InterruptControl.save state).2
    modifySession fun session ↦
      { session with flags := session.flags ++ [(InterruptControl.save state).1] }
    pure (InterruptControl.save state).1
  have hsave (state : σ) : Steady atAnyLevel (saveFrom state) := by
    refine (hset _).bind fun _ ↦ ?_
    exact Steady.bind (.modifySession _ (fun _ _ ↦ rfl) fun _ ↦ rfl) fun _ ↦ .pure _
  exact hread hsave

theorem answers_interruptCall (call : InterruptCall) : Answers atAnyLevel call.run := by
  cases call with
  | status =>
      exact uniform_readCore (fun interrupts number ↦ (interrupts, number)) fun core ↦
        answers_pure (.core core.1.depth (InterruptControl.isEnabled core.1) core.2) fun _ ↦ rfl
  | enable =>
      exact (steady_modifyInterrupts _).bind fun _ ↦ answers_depth fun _ _ ↦ rfl
  | disable =>
      exact (steady_modifyInterrupts _).bind fun _ ↦ answers_depth fun _ _ ↦ rfl
  | save =>
      refine (steady_saveFlags (uniform_readCore fun interrupts _ ↦ interrupts)
        fun _ ↦ steady_modifyInterrupts _).bind fun flags ↦ ?_
      exact answers_depth fun _ _ ↦ rfl
  | restore index =>
      exact answers_restoreFlags index (fun _ ↦ steady_modifyInterrupts _)
        (answers_depth fun _ _ ↦ rfl)
  | enter =>
      refine steady_enter.bind fun entered ↦ ?_
      refine Steady.bind (.modifySession _ (fun _ _ ↦ rfl) fun _ ↦ rfl) fun _ ↦ ?_
      exact answers_depth fun _ _ ↦ rfl
  | leave index => exact answers_leave index
  | addToCell value => exact answers_addToCell value
  | setCell value =>
      refine Steady.bind (.modifySession _ (fun _ _ ↦ rfl) fun _ ↦ rfl) fun _ ↦ ?_
      exact answers_depth fun _ _ ↦ rfl
  | flagStatus => exact answers_flagEnabled fun _ _ ↦ rfl
  | flagEnable => exact (steady_modifyFlag _).bind fun _ ↦ answers_pure .done fun _ ↦ rfl
  | flagSave =>
      refine (steady_saveFlags (.readSession Session.flagCore fun _ _ ↦ rfl)
        fun _ ↦ steady_modifyFlag _).bind fun flags ↦ ?_
      exact answers_flagEnabled fun _ _ ↦ rfl
  | flagRestore index =>
      exact answers_restoreFlags index (fun _ ↦ steady_modifyFlag _)
        (answers_flagEnabled fun _ _ ↦ rfl)

end Interrupts

theorem atAnyLevel_covers : atAnyLevel.Covers where
  log call h := by
    cases call with
    | log record => exact (Steady.log record).bind fun _ ↦ answers_pure .done fun _ ↦ rfl
    | flush => exact answers_pure .done fun _ ↦ rfl
    | _ => cases h
  interrupt call _ := answers_interruptCall call

/-! ## The console -/

/-- The lines of the records that a threshold lets through. -/
def lines (threshold : Threshold) (records : List Record) : List String :=
  (records.filter fun record ↦ threshold.allows record.level).map Record.line

theorem lines_concat (threshold : Threshold) (records : List Record) (record : Record) :
    lines threshold (records ++ [record]) = lines threshold records ++
      if threshold.allows record.level then [record.line] else [] := by
  rw [lines, List.filter_append, List.map_append]
  cases hlevel : threshold.allows record.level with
  | true => simp [lines, hlevel]
  | false => simp [lines, hlevel]

/-- The threshold for trace lets everything through. -/
theorem lines_trace (records : List Record) :
    lines (.upTo .trace) records = records.map Record.line := by
  rw [lines, List.filter_eq_self.2]
  intro record _
  cases record.level <;> rfl

/-- What records do to a logger: they go to the console, as far as its threshold lets them through,
if it is attached. -/
structure Logged (logger : Logger) (records : List Record) (after : Logger) : Prop where
  threshold : after.threshold = logger.threshold
  isAttached : after.isAttached = logger.isAttached
  console : after.console.toList = logger.console.toList ++
    if logger.isAttached then lines logger.threshold records else []

/-- One more record is one more line, or none. -/
theorem Logged.log {logger after : Logger} {records : List Record} (h : Logged logger records after)
    (record : Record) : Logged logger (records ++ [record]) (after.log record) := by
  cases hlevel : after.isEnabled record.level with
  | false =>
      have hlevel' : logger.threshold.allows record.level = false := by
        rw [← h.threshold]
        exact hlevel
      rw [Logger.log, hlevel, if_neg Bool.false_ne_true]
      refine ⟨h.threshold, h.isAttached, ?_⟩
      simp [h.console, lines_concat, hlevel']
  | true =>
      have hlevel' : logger.threshold.allows record.level = true := by
        rw [← h.threshold]
        exact hlevel
      rw [Logger.log, hlevel, if_pos rfl]
      by_cases hattached : after.isAttached = true
      · rw [if_pos hattached]
        refine ⟨h.threshold, h.isAttached, ?_⟩
        rw [h.isAttached] at hattached
        simp [h.console, hattached, lines_concat, hlevel']
      · rw [if_neg hattached]
        refine ⟨h.threshold, h.isAttached, ?_⟩
        rw [h.isAttached] at hattached
        simp [h.console, hattached]

theorem logged_foldl (logger : Logger) (records : List Record) :
    Logged logger records (records.foldl Logger.log logger) := by
  induction records using List.reverseRecOn with
  | nil => exact ⟨rfl, rfl, by simp [lines]⟩
  | append_singleton records record ih =>
      rw [List.foldl_concat]
      exact ih.log record

/-! ## What can be seen of calls -/

/-- What can be seen of a call in any setting: its answer, the events of its run, and the records
that were logged. -/
structure Trace where
  answer : Answer
  events : List Event
  records : List Record

/-- What can be seen of the call in a setting. -/
def Trace.step (setting : Setting) (trace : Trace) : Step where
  answer := trace.answer.told setting
  events := trace.events.map (Event.deepen setting.offset)
  console := if setting.logger.isAttached then lines setting.logger.threshold trace.records else []

section Observe

variable {C : Comparison}

/-- What runs have in common, with what was noted and logged so far left to the setting. -/
def Common.fresh {allows : Call → Bool} (common : Common allows) : Common allows :=
  { common with
    records := []
    session := { common.session with events := #[], history := #[] }
    allowed := common.allowed }

/-- What runs have in common after they had `later` in common from `common` on. -/
def Common.append {allows : Call → Bool} (common later : Common allows) : Common allows :=
  { later with
    records := common.records ++ later.records
    session := { later.session with
      events := common.session.events ++ later.session.events
      history := common.session.history ++ later.session.history }
    allowed := later.allowed }

theorem shows_fresh {allows : Call → Bool} {setting : Setting} {common : Common allows}
    {kernel : Kernel Session} (h : Shows setting common kernel) :
    Shows (.before kernel setting.offset) common.fresh kernel where
  scheduler := h.scheduler
  depth := h.depth
  number := h.number
  logger := rfl
  client := by
    rw [h.client]
    simp [Setting.before, Setting.session, Common.fresh, h.client]

theorem shows_append {allows : Call → Bool} {setting : Setting} {common later : Common allows}
    {kernel after : Kernel Session} (h : Shows setting common kernel)
    (hafter : Shows (.before kernel setting.offset) later after) :
    Shows setting (common.append later) after where
  scheduler := hafter.scheduler
  depth := hafter.depth
  number := hafter.number
  logger := by
    rw [hafter.logger, Common.append, List.foldl_append, ← h.logger]
    rfl
  client := by
    rw [hafter.client]
    simp [Setting.before, Setting.session, Common.append, h.client]

/-- What is behind a part of an array is what was added to it. -/
theorem toList_extract_of_append {α : Type} {before after : Array α} {added : List α}
    (h : after.toList = before.toList ++ added) :
    (after.extract before.size after.size).toList = added := by
  have hsize : after.size = before.size + added.length := by
    rw [← Array.length_toList, h, List.length_append, Array.length_toList]
  simp [h, hsize]

theorem isShown_deepen (offset : UInt64) (event : Event) :
    (event.deepen offset).isShown = event.isShown := by
  cases event <;> rfl

theorem filter_isShown_deepen (offset : UInt64) (events : List Event) :
    (events.map (Event.deepen offset)).filter Event.isShown =
      (events.filter Event.isShown).map (Event.deepen offset) := by
  rw [List.filter_map]
  congr 2
  exact funext (isShown_deepen offset)

/-- What a computation notes and hands to the console, starting with nothing noted or logged. -/
theorem seen_of_shows {allows : Call → Bool} {offset : UInt64} {kernel after : Kernel Session}
    {later : Common allows} (h : Shows (.before kernel offset) later after) :
    ((after.client.events.extract kernel.client.events.size
        after.client.events.size).toList.filter Event.isShown =
      (later.session.events.toList.filter Event.isShown).map (Event.deepen offset)) ∧
    (after.logger.console.extract kernel.logger.console.size after.logger.console.size).toList =
      if kernel.logger.isAttached then lines kernel.logger.threshold later.records else [] := by
  have hevents : after.client.events.toList =
      kernel.client.events.toList ++ later.session.events.toList.map (Event.deepen offset) := by
    rw [h.client]
    simp [Setting.session, Setting.before]
  have hlogged : Logged kernel.logger later.records after.logger := by
    rw [h.logger]
    exact logged_foldl kernel.logger later.records
  rw [toList_extract_of_append hevents, toList_extract_of_append hlogged.console,
    filter_isShown_deepen]
  exact ⟨rfl, rfl⟩

variable {site : Site} (hcovers : C.Covers)
  (hsink : ∀ id timing o, Steady C (site.sink id timing o))
include hcovers hsink

/-- What can be seen of a call is the same in all settings, but for the console. -/
theorem uniform_observe {call : Call} (h : call.every C.allows = true) :
    Uniform C Trace.step fun _ ↦ observe site call := by
  let answerAndMark : ProgramM Answer := do
    let answer ← call.run site
    markPoint site.sweeping
    pure answer
  have hanswer : Uniform C Answer.told fun _ ↦ answerAndMark := by
    refine Uniform.bind (answers_call hcovers hsink site.sweeping call h) fun answer ↦ ?_
    exact (steady_markPoint site.sweeping).bind fun _ ↦ .pure answer
  intro common
  -- a step tells what it adds, so the call is looked at as if nothing had been noted before
  obtain ⟨answer, later, hdepth, hlater⟩ := hanswer common.fresh
  refine ⟨⟨answer, later.session.events.toList.filter Event.isShown, later.records⟩,
    common.append later, hdepth, fun setting hadmits kernel hshows ↦ ?_⟩
  obtain ⟨hsame, hafter⟩ := hlater (.before kernel setting.offset) hadmits kernel
    (shows_fresh hshows)
  have hlogged : Logged setting.logger common.records kernel.logger := by
    rw [hshows.logger]
    exact logged_foldl setting.logger common.records
  obtain ⟨hevents, hconsole⟩ := seen_of_shows hafter
  rw [hlogged.isAttached, hlogged.threshold] at hconsole
  refine ⟨?_, shows_append hshows hafter⟩
  show Step.mk (answerAndMark kernel).1 _ _ = _
  rw [hsame]
  exact congrArg₂ (Step.mk _) hevents hconsole

theorem uniform_observeAll {calls : List Call} (h : Call.allEvery C.allows calls = true) :
    Uniform C (fun setting (traces : List Trace) ↦ traces.map (Trace.step setting))
      fun _ ↦ observeAll site calls := by
  induction calls with
  | nil => exact .pure []
  | cons call rest ih =>
      rw [Call.allEvery, Bool.and_eq_true] at h
      refine Uniform.bind (uniform_observe hcovers hsink h.1) fun trace ↦ ?_
      exact Uniform.bind (ih h.2) fun traces ↦ .pure (trace :: traces)

end Observe

/-! ## Programs that log differently -/

/-- The program with another threshold, and with the console attached or not. -/
def logging (program : Program) (threshold : Threshold) (isAttached : Bool) : Program :=
  { program with threshold, isAttached }

/-- The setting that a program starts in. -/
def Setting.start (threshold : Threshold) (isAttached : Bool) : Setting where
  logger := { threshold, isAttached }
  offset := 0
  events := #[]
  history := #[]

/-- What runs that log differently have in common: what can be seen of their calls, what they come
to, and the records of the creation of the scheduler. -/
structure CommonRun (program : Program) where
  created : List Record
  traces : List Trace
  last : Common Call.keepsLogging
  created_eq : ∀ threshold isAttached, (program.logging threshold isAttached).run.created =
    if isAttached then lines threshold created else []
  steps_eq : ∀ threshold isAttached, (program.logging threshold isAttached).run.steps =
    traces.map (Trace.step (.start threshold isAttached))
  shows : ∀ threshold isAttached,
    Shows (.start threshold isAttached) last (program.logging threshold isAttached).final

theorem commonRun (program : Program) (h : program.every Call.keepsLogging = true) :
    Nonempty (CommonRun program) := by
  rw [Program.every, Bool.and_eq_true] at h
  obtain ⟨hcalls, hhandlers⟩ := h
  let making : ProgramM Unit := do
    Kernel.notify .schedulerCreated
    markPoint []
  have hmaking : Steady atAnyLevel making :=
    (Steady.log _).bind fun _ ↦ steady_markPoint []
  let first : Common Call.keepsLogging :=
    { scheduler := {}, depth := 0, number := 0, records := []
      session := { handlers := program.handlers }, allowed := hhandlers }
  obtain ⟨_, created, -, hcreated⟩ := hmaking first
  have hstart (threshold : Threshold) (isAttached : Bool) :
      Shows (.start threshold isAttached) created (program.logging threshold isAttached).start :=
    (hcreated (.start threshold isAttached) rfl _
      ⟨rfl, rfl, rfl, rfl, by simp [Setting.session, Setting.start, first, logging]⟩).2
  obtain ⟨traces, last, -, hlast⟩ := uniform_observeAll atAnyLevel_covers
    (steady_site atAnyLevel_covers program) hcalls created
  have hrun (threshold : Threshold) (isAttached : Bool) :=
    hlast (.start threshold isAttached) rfl _ (hstart threshold isAttached)
  refine ⟨created.records, traces, last, fun threshold isAttached ↦ ?_,
    fun threshold isAttached ↦ (hrun threshold isAttached).1,
    fun threshold isAttached ↦ (hrun threshold isAttached).2⟩
  have hlogged := logged_foldl (Setting.start threshold isAttached).logger created.records
  rw [← (hstart threshold isAttached).logger] at hlogged
  exact hlogged.console

/-- How the kernel logs makes no difference to a program, and decides only which lines of one log
the console gets. -/
structure LoggingApart (program : Program) : Prop where
  /-- The answers and the events of all calls, deliveries among them, are the same. -/
  seen : ∀ threshold isAttached threshold' isAttached',
    (program.logging threshold isAttached).run.steps.map (fun step ↦ (step.answer, step.events)) =
      (program.logging threshold' isAttached').run.steps.map fun step ↦ (step.answer, step.events)
  /-- So are the states of the scheduler and of all threads at the end. -/
  scheduler : ∀ threshold isAttached threshold' isAttached',
    (program.logging threshold isAttached).final.scheduler =
      (program.logging threshold' isAttached').final.scheduler
  /-- So is all that the program keeps, its history included. -/
  session : ∀ threshold isAttached threshold' isAttached',
    (program.logging threshold isAttached).final.client =
      (program.logging threshold' isAttached').final.client
  interrupts : ∀ threshold isAttached threshold' isAttached',
    (program.logging threshold isAttached).final.core.interrupts =
      (program.logging threshold' isAttached').final.core.interrupts
  /-- The lines at the threshold for trace are those of all records. Any other threshold leaves out
  the lines of the records that it does not let through, and no other line. -/
  console : ∃ (created : List Record) (logged : List (List Record)),
    ((program.logging (.upTo .trace) true).run.created = created.map Record.line ∧
      (program.logging (.upTo .trace) true).run.steps.map Step.console =
        logged.map fun records ↦ records.map Record.line) ∧
    ∀ threshold, (program.logging threshold true).run.created = lines threshold created ∧
      (program.logging threshold true).run.steps.map Step.console = logged.map (lines threshold)

theorem CommonRun.loggingApart {program : Program} (common : CommonRun program) :
    LoggingApart program := by
  have hconsole (threshold : Threshold) :
      (program.logging threshold true).run.created = lines threshold common.created ∧
        (program.logging threshold true).run.steps.map Step.console =
          (common.traces.map Trace.records).map (lines threshold) := by
    refine ⟨common.created_eq threshold true, ?_⟩
    rw [common.steps_eq, List.map_map, List.map_map]
    rfl
  constructor
  case seen =>
    intro threshold isAttached threshold' isAttached'
    rw [common.steps_eq, common.steps_eq, List.map_map, List.map_map]
    rfl
  case scheduler =>
    intro threshold isAttached threshold' isAttached'
    rw [(common.shows threshold isAttached).scheduler,
      (common.shows threshold' isAttached').scheduler]
  case session =>
    intro threshold isAttached threshold' isAttached'
    rw [(common.shows threshold isAttached).client, (common.shows threshold' isAttached').client]
    rfl
  case interrupts =>
    intro threshold isAttached threshold' isAttached'
    have hdepth := (common.shows threshold isAttached).depth
    exact congrArg InterruptDepth.mk (hdepth.trans (common.shows threshold' isAttached').depth.symm)
  case console =>
    refine ⟨common.created, common.traces.map Trace.records, ?_, hconsole⟩
    have htrace := hconsole (.upTo .trace)
    simp only [lines_trace, funext lines_trace] at htrace
    exact htrace

/-- Whatever calls a program and its handlers make, as long as none of them changes how the kernel
logs or asks for it: logging does not interfere. -/
theorem logging_apart (program : Program) (h : program.every Call.keepsLogging = true) :
    LoggingApart program := by
  obtain ⟨common⟩ := commonRun program h
  exact common.loggingApart

/-- A sweep with a handler that logs, and posts once more from inside of a critical section. -/
def logsInHandler : Program where
  handlers := [(10, [[
    .log (.log ⟨.warn, "handler", "called"⟩),
    .interrupt .enter,
    .signal (.sigqueue 1 12 3),
    .interrupt (.leave 0)]])]
  calls := [
    .scheduling (.spawn { pendingCapacity := 2, initialMask := .ofList [10] }),
    .signal (.kill 1 10),
    .signal (.changeMask (some 1) MaskMode.unblock.code (some (.ofList [10])) false)]

/-- How many lines each call hands to the console. -/
def lineCounts (program : Program) : List Nat :=
  program.run.steps.map fun step ↦ step.console.length

theorem logging_apart_logsInHandler :
    logsInHandler.every Call.keepsLogging = true ∧
      lineCounts (logsInHandler.logging (.upTo .trace) true) = [1, 1, 5] ∧
      lineCounts (logsInHandler.logging (.upTo .warn) true) = [0, 0, 1] ∧
      LoggingApart logsInHandler :=
  ⟨by decide, by decide +kernel, by decide +kernel, logging_apart logsInHandler (by decide)⟩

end SignalKernel.Program
