import SignalKernel.Program.Run
import SignalKernel.Proofs.Logging.BootBuffer

/-!
# No line of the log is lost, and none comes twice

Until a console is attached, the lines of the records that get through go to the boot buffer, as
long as they fit. Attaching the console hands all of them over in one piece, and from then on each
line goes to the console by itself. The main theorem is `lines_conserved`. It is about any calls on
the log, in any order, made on a logger that starts out empty.
-/

namespace SignalKernel.Program

open SignalKernel.Kernel

/-- What a call on the log does to the logger. -/
def LogCall.effect (logger : Logger) : LogCall → Logger
  | .setThreshold threshold => { logger with threshold }
  | .log record => logger.log record
  | .attach => logger.attach.2
  | .isEnabled _ | .flush | .buffered | .bufferedSize | .install _ => logger

/-- Logging does the same to the logger inside of a critical section and outside. -/
theorem logger_log {γ : Type} (record : Record) (kernel : Kernel γ) :
    (Kernel.log record kernel).2.logger = kernel.logger.log record := by
  show ((if kernel.logger.buffers record.level then critical (modifyLogger (·.log record))
    else modifyLogger (·.log record)) kernel).2.logger = _
  split <;> rfl

theorem logger_run (call : LogCall) (kernel : Kernel Session) :
    (call.run kernel).2.logger = call.effect kernel.logger := by
  cases call with
  | log record => exact logger_log record kernel
  | _ => rfl

/-- Calls on the log act on the logger one after the other. -/
theorem logger_runAll (site : Site) (calls : List LogCall) (kernel : Kernel Session) :
    (Call.runAll site (calls.map .log) kernel).2.logger =
      calls.foldl LogCall.effect kernel.logger := by
  induction calls generalizing kernel with
  | nil => rfl
  | cons call rest ih =>
    rw [List.foldl_cons, ← logger_run call kernel]
    exact ih (markPoint site.sweeping (call.run kernel).2).2

/-- The threshold after calls on the log. -/
def thresholdAfter (threshold : Threshold) : List LogCall → Threshold
  | [] => threshold
  | .setThreshold threshold :: rest => thresholdAfter threshold rest
  | _ :: rest => thresholdAfter threshold rest

/-- The line of a record, if the record gets through. -/
def enabledLine (threshold : Threshold) (record : Record) : List String :=
  if threshold.allows record.level then [record.line] else []

/-- The lines of the records that get through when they are logged. -/
def enabledLines (threshold : Threshold) : List LogCall → List String
  | [] => []
  | .setThreshold threshold :: rest => enabledLines threshold rest
  | .log record :: rest => enabledLine threshold record ++ enabledLines threshold rest
  | _ :: rest => enabledLines threshold rest

theorem log_of_not_attached {logger : Logger} (h : logger.isAttached = false) (record : Record) :
    logger.log record =
      { logger with
        buffer := (enabledLine logger.threshold record).foldl .append logger.buffer } := by
  rw [Logger.log, Logger.isEnabled, enabledLine]
  split
  · rw [if_neg (by simp [h]), List.foldl_cons, List.foldl_nil]
  · rw [List.foldl_nil]

theorem log_of_attached {logger : Logger} (h : logger.isAttached = true) (record : Record) :
    logger.log record =
      { logger with
        console := logger.console ++ (enabledLine logger.threshold record).toArray } := by
  rw [Logger.log, Logger.isEnabled, enabledLine]
  split
  · rw [Array.push_eq_append]
  · rw [Array.append_empty]

theorem attach_of_attached {logger : Logger} (h : logger.isAttached = true) :
    logger.attach = (false, logger) :=
  if_pos h

/-- Without a console, calls that attach none offer the lines to the boot buffer. -/
theorem effects_of_not_attached {calls : List LogCall} (hcalls : .attach ∉ calls) (logger : Logger)
    (hlogger : logger.isAttached = false) :
    calls.foldl LogCall.effect logger =
      { logger with
        threshold := thresholdAfter logger.threshold calls
        buffer := (enabledLines logger.threshold calls).foldl .append logger.buffer } := by
  induction calls generalizing logger with
  | nil => rfl
  | cons call rest ih =>
    have hrest : .attach ∉ rest := fun h ↦ hcalls (List.mem_cons_of_mem call h)
    rw [List.foldl_cons]
    cases call with
    | attach => exact absurd List.mem_cons_self hcalls
    | setThreshold threshold => exact ih hrest { logger with threshold } hlogger
    | log record =>
      rw [LogCall.effect, log_of_not_attached hlogger record, enabledLines, List.foldl_append]
      exact ih hrest { logger with buffer := _ } hlogger
    | _ => exact ih hrest logger hlogger

/-- With a console, every line goes there by itself, and the console stays. -/
theorem effects_of_attached (calls : List LogCall) (logger : Logger)
    (hlogger : logger.isAttached = true) :
    calls.foldl LogCall.effect logger =
      { logger with
        threshold := thresholdAfter logger.threshold calls
        console := logger.console ++ (enabledLines logger.threshold calls).toArray } := by
  induction calls generalizing logger with
  | nil => rw [enabledLines, Array.append_empty, List.foldl_nil, thresholdAfter]
  | cons call rest ih =>
    rw [List.foldl_cons]
    cases call with
    | attach =>
      rw [LogCall.effect, attach_of_attached hlogger]
      exact ih logger hlogger
    | setThreshold threshold => exact ih { logger with threshold } hlogger
    | log record =>
      rw [LogCall.effect, log_of_attached hlogger record, enabledLines, ← List.append_toArray,
        ← Array.append_assoc]
      exact ih { logger with console := _ } hlogger
    | _ => exact ih logger hlogger

/-- What a console gets of the text that was kept: all of it in one piece, or nothing if there is
none. -/
def handedOver (kept : String) : List String :=
  if kept.isEmpty then [] else [kept]

/-- The first console gets the text that was kept, and the boot buffer is empty from then on. -/
theorem attach_of_not_attached {logger : Logger} {kept : String} (h : logger.isAttached = false)
    (hbytes : logger.buffer.bytes = kept.toUTF8) :
    logger.attach =
      (true,
        { logger with
          isAttached := true
          buffer := {}
          console := logger.console ++ (handedOver kept).toArray }) := by
  have hcontents : logger.buffer.contents = kept := BootBuffer.contents_of_bytes hbytes
  simp only [Logger.attach, h, hcontents, handedOver]
  split
  case isTrue => contradiction
  case isFalse =>
  split
  case isTrue hempty =>
    -- a buffer without a text is not cleared, since it has no bytes anyway
    have hbuffer : logger.buffer = {} := by
      rw [String.isEmpty_iff.1 hempty] at hbytes
      exact congrArg BootBuffer.mk hbytes
    rw [hbuffer, Array.append_empty]
  case isFalse => rw [Array.push_eq_append]

/-- What the boot buffer keeps of the lines that get through, as one text. -/
def bootText (threshold : Threshold) (calls : List LogCall) : String :=
  String.join (fitting 8192 (enabledLines threshold calls))

/-- A logger that starts with a threshold and nothing else, after calls that attach no console. -/
def bootLogger (threshold : Threshold) (calls : List LogCall) : Logger where
  threshold := thresholdAfter threshold calls
  buffer := (enabledLines threshold calls).foldl .append {}

theorem bytes_bootLogger (threshold : Threshold) (calls : List LogCall) :
    (bootLogger threshold calls).buffer.bytes = (bootText threshold calls).toUTF8 :=
  BootBuffer.bytes_appendAll (enabledLines threshold calls)

/-- The same logger after calls of which one attaches a console for the first time. -/
def consoleLogger (threshold : Threshold) (earlier later : List LogCall) : Logger where
  threshold := thresholdAfter (thresholdAfter threshold earlier) later
  isAttached := true
  console := (handedOver (bootText threshold earlier) ++
    enabledLines (thresholdAfter threshold earlier) later).toArray

theorem effects_boot (threshold : Threshold) {calls : List LogCall} (h : .attach ∉ calls) :
    calls.foldl LogCall.effect { threshold } = bootLogger threshold calls :=
  effects_of_not_attached h { threshold } rfl

theorem effects_console (threshold : Threshold) {earlier : List LogCall} (later : List LogCall)
    (h : .attach ∉ earlier) :
    (earlier ++ .attach :: later).foldl LogCall.effect { threshold } =
      consoleLogger threshold earlier later := by
  rw [List.foldl_append, effects_boot threshold h, List.foldl_cons, LogCall.effect,
    attach_of_not_attached rfl (bytes_bootLogger threshold earlier),
    effects_of_attached later _ rfl]
  simp [consoleLogger, bootLogger]

/-- The boot buffer always holds one text, and no more of it than there is room for. -/
theorem exists_buffered (threshold : Threshold) (calls : List LogCall) :
    ∃ text : String, text.utf8ByteSize ≤ 8192 ∧
      (calls.foldl LogCall.effect { threshold }).buffer.bytes = text.toUTF8 := by
  by_cases hattach : .attach ∈ calls
  case pos =>
    obtain ⟨earlier, later, rfl, hearlier⟩ := List.eq_append_cons_of_mem hattach
    rw [effects_console threshold later hearlier]
    exact ⟨"", Nat.zero_le _, rfl⟩
  case neg =>
    rw [effects_boot threshold hattach, bytes_bootLogger]
    exact ⟨bootText threshold calls, utf8ByteSize_join_fitting_le _ _, rfl⟩

/-- What calls on the log leave behind that were made in order on a logger with a threshold and
nothing else. -/
structure LinesConserved (threshold : Threshold) (calls : List LogCall) (after : Kernel Session) :
    Prop where
  size_le : after.logger.buffer.bytes.size ≤ 8192
  /-- What is in the boot buffer is always a text, so nothing else is ever read in its place. -/
  isText : String.fromUTF8? after.logger.buffer.bytes = some after.logger.buffer.contents
  /-- Before a console is attached, the lines that fit are kept in order and can be read. -/
  booting : .attach ∉ calls →
    after.logger.console = #[] ∧
      (LogCall.buffered.run after).1 =
        .buffered (bootText threshold calls) (after.core.interrupts.depth + 1)
  /-- Attaching the first console succeeds and hands over what was kept. -/
  attaching : .attach ∉ calls →
    (LogCall.attach.run after).1 = .truth true ∧
      (LogCall.attach.run after).2.logger =
        { threshold := thresholdAfter threshold calls
          isAttached := true
          console := (handedOver (bootText threshold calls)).toArray }
  /-- After that the boot buffer stays empty, and each line goes to the console by itself. -/
  attached : ∀ earlier later, calls = earlier ++ .attach :: later → .attach ∉ earlier →
    after.logger.buffer = {} ∧
      after.logger.console.toList =
        handedOver (bootText threshold earlier) ++
          enabledLines (thresholdAfter threshold earlier) later
  /-- Attaching another console is refused, and is no more than an empty critical section. -/
  refused : .attach ∈ calls →
    LogCall.attach.run after =
      (.truth false, { after with core := after.core.enter.2.leave after.core.enter.1 })

theorem linesConserved_of_effects {threshold : Threshold} {calls : List LogCall}
    {after : Kernel Session}
    (hlogger : after.logger = calls.foldl LogCall.effect { threshold }) :
    LinesConserved threshold calls after := by
  obtain ⟨text, hroom, hbytes⟩ := exists_buffered threshold calls
  rw [← hlogger] at hbytes
  constructor
  case size_le =>
    rw [hbytes, String.toUTF8_eq_toByteArray, String.size_toByteArray]
    exact hroom
  case isText => rw [BootBuffer.fromUTF8?_bytes hbytes, BootBuffer.contents_of_bytes hbytes]
  case booting =>
    intro hnone
    rw [effects_boot threshold hnone] at hlogger
    refine ⟨by rw [hlogger, bootLogger], ?_⟩
    show Answer.buffered after.logger.buffer.contents (after.core.interrupts.depth + 1) = _
    rw [hlogger, BootBuffer.contents_of_bytes (bytes_bootLogger threshold calls)]
  case attaching =>
    intro hnone
    rw [effects_boot threshold hnone] at hlogger
    show Answer.truth after.logger.attach.1 = .truth true ∧ after.logger.attach.2 = _
    rw [hlogger, attach_of_not_attached rfl (bytes_bootLogger threshold calls)]
    simp [bootLogger]
  case attached =>
    rintro earlier later rfl hearlier
    rw [effects_console threshold later hearlier] at hlogger
    rw [hlogger]
    exact ⟨rfl, rfl⟩
  case refused =>
    intro hattach
    obtain ⟨earlier, later, rfl, hearlier⟩ := List.eq_append_cons_of_mem hattach
    rw [effects_console threshold later hearlier] at hlogger
    have hrefused : after.logger.attach = (false, after.logger) :=
      attach_of_attached (by rw [hlogger, consoleLogger])
    show (Answer.truth after.logger.attach.1,
      { after with
        core := after.core.enter.2.leave after.core.enter.1
        logger := after.logger.attach.2 }) = _
    rw [hrefused]

/-- However records are logged, thresholds set and consoles attached, the boot buffer and the
console get the lines that they should, each once and in order. -/
theorem lines_conserved (site : Site) (kernel : Kernel Session) (threshold : Threshold)
    (calls : List LogCall) :
    LinesConserved threshold calls
      (Call.runAll site (calls.map .log) { kernel with logger := { threshold } }).2 :=
  linesConserved_of_effects (logger_runAll site calls { kernel with logger := { threshold } })

end SignalKernel.Program
