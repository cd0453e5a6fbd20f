import Mathlib.Data.List.Forall2
import SignalKernel.Proofs.Logging.Handover
import SignalKernel.Proofs.Logging.Truncation

/-!
# Where lines end

The end of a line is the last fragment of a record and has to fit into the line with all the others.
So a record has a line of its own only if what it says has less than 256 bytes: the line of a longer
record is cut before its end, and the next record goes on where it stops. The main theorem is
`newline_unless_cut`. It says what the boot buffer and the console get together, as one text.
-/

namespace SignalKernel

open SignalKernel.Text

namespace Record

/-- What the record's line says, without the end of the line. -/
def saying (record : Record) : String :=
  "[" ++ padStart 5 ' ' record.level.name ++ "] " ++ record.target ++ ": " ++ record.message

/-- There is room for what the record says and for the end of the line. -/
def IsShort (record : Record) : Prop :=
  record.saying.utf8ByteSize < 256

instance (record : Record) : Decidable record.IsShort :=
  inferInstanceAs (Decidable (_ < _))

/-- What the record says goes on one line. -/
def IsPlain (record : Record) : Prop :=
  '\n' ∉ record.target.toList ∧ '\n' ∉ record.message.toList

instance (record : Record) : Decidable record.IsPlain :=
  inferInstanceAs (Decidable (_ ∧ _))

variable {record : Record}

theorem join_fragments (record : Record) :
    String.join record.fragments = record.saying ++ "\n" := by
  simp only [fragments, saying, String.join_cons, String.join_nil, String.append_empty,
    String.append_assoc]

theorem isCut_line (record : Record) :
    IsCut 256 (record.saying ++ "\n") record.line := by
  rw [← join_fragments]
  exact (Line.holds_writeAll record.fragments).isCut

/-- A short record's line has its end. -/
theorem line_of_isShort (h : record.IsShort) : record.line = record.saying ++ "\n" := by
  refine record.isCut_line.eq_iff.2 ?_
  rw [String.utf8ByteSize_append]
  exact h

/-- The end of a long record's line is cut, and nothing else matters. -/
theorem isCut_line_of_not_isShort (h : ¬ record.IsShort) :
    IsCut 256 record.saying record.line :=
  record.isCut_line.of_append (Nat.le_of_not_lt h)

theorem newline_notMem_saying (h : record.IsPlain) : '\n' ∉ record.saying.toList := by
  have hlevel : '\n' ∉ (padStart 5 ' ' record.level.name).toList := by
    cases record.level <;> decide +kernel
  simp [saying, h.1, h.2, hlevel]

/-- A plain record's line has one newline or none. -/
theorem count_newline_line (h : record.IsPlain) :
    record.line.toList.count '\n' = if record.IsShort then 1 else 0 := by
  have hsaying := newline_notMem_saying h
  split
  case isTrue hshort =>
    rw [line_of_isShort hshort, String.toList_append, List.count_append,
      List.count_eq_zero.2 hsaying]
    rfl
  case isFalse hlong =>
    exact List.count_eq_zero.2 fun hmem ↦
      hsaying ((isCut_line_of_not_isShort hlong).beginning.subset hmem)

end Record

/-! ## Records on lines of their own -/

/-- The text has one line for each record, in order. Each line shows the beginning of what its
record says and ends with the only newline in it. -/
def OneLineEach (records : List Record) (text : String) : Prop :=
  ∃ shown : List String, text = String.join (shown.map (· ++ "\n")) ∧
    List.Forall₂ (fun line record ↦
      '\n' ∉ line.toList ∧ line.toList <+: record.saying.toList) shown records

theorem count_newline_of_oneLineEach {records : List Record} {text : String}
    (h : OneLineEach records text) : text.toList.count '\n' = records.length := by
  obtain ⟨shown, rfl, hshown⟩ := h
  induction hshown with
  | nil => rfl
  | cons hline _ ih =>
      rw [List.map_cons, String.join_cons, String.toList_append, List.count_append, ih,
        String.toList_append, List.count_append, List.count_eq_zero.2 hline.1, List.length_cons]
      exact Nat.add_comm ..

theorem count_newline_lines {records : List Record} (h : ∀ record ∈ records, record.IsPlain) :
    (String.join (records.map Record.line)).toList.count '\n' =
      records.countP fun record ↦ record.IsShort := by
  induction records with
  | nil => rfl
  | cons record rest ih =>
      obtain ⟨hrecord, hrest⟩ := List.forall_mem_cons.1 h
      rw [List.map_cons, String.join_cons, String.toList_append, List.count_append, ih hrest,
        Record.count_newline_line hrecord, List.countP_cons]
      simp only [decide_eq_true_eq]
      exact Nat.add_comm ..

/-- No line has more than 256 bytes, so thirty-two of them always fit in the boot buffer. -/
theorem utf8ByteSize_lines_le (records : List Record) :
    (String.join (records.map Record.line)).utf8ByteSize ≤ 256 * records.length := by
  induction records with
  | nil => exact Nat.zero_le _
  | cons record rest ih =>
      have hline := record.isCut_line.fits
      rw [List.map_cons, String.join_cons, String.utf8ByteSize_append, List.length_cons,
        Nat.mul_succ]
      omega

theorem oneLineEach_of_isShort {records : List Record} (hplain : ∀ record ∈ records, record.IsPlain)
    (hshort : ∀ record ∈ records, record.IsShort) :
    OneLineEach records (String.join (records.map Record.line)) := by
  refine ⟨records.map Record.saying, ?_, ?_⟩
  · rw [List.map_map]
    refine congrArg String.join (List.map_congr_left fun record hrecord ↦ ?_)
    exact Record.line_of_isShort (hshort record hrecord)
  · rw [List.forall₂_map_left_iff, List.forall₂_same]
    exact fun record hrecord ↦
      ⟨Record.newline_notMem_saying (hplain record hrecord), List.prefix_refl _⟩

/-- What becomes of the ends of lines in the text that is made of records. -/
structure LinesEnd (records : List Record) (text : String) : Prop where
  text_eq : text = String.join (records.map Record.line)
  short : ∀ record ∈ records, record.IsShort → record.line = record.saying ++ "\n"
  /-- A record that is not short has no newline, however much longer it is. -/
  long : ∀ record ∈ records, ¬ record.IsShort → IsCut 256 record.saying record.line
  newlines : text.toList.count '\n' = records.countP fun record ↦ record.IsShort
  oneLineEach_iff : OneLineEach records text ↔ ∀ record ∈ records, record.IsShort

theorem linesEnd {records : List Record} (h : ∀ record ∈ records, record.IsPlain) :
    LinesEnd records (String.join (records.map Record.line)) := by
  constructor
  case text_eq => rfl
  case short => exact fun _ _ ↦ Record.line_of_isShort
  case long => exact fun _ _ ↦ Record.isCut_line_of_not_isShort
  case newlines => exact count_newline_lines h
  case oneLineEach_iff =>
    constructor
    case mp =>
      intro heach
      have hall := (count_newline_lines h).symm.trans (count_newline_of_oneLineEach heach)
      simpa using List.countP_eq_length.1 hall
    case mpr => exact oneLineEach_of_isShort h

/-! ## The text that the log makes -/

namespace Program

open SignalKernel.Kernel

/-- The records that get through when they are logged. -/
def enabledRecords (threshold : Threshold) : List LogCall → List Record
  | [] => []
  | .setThreshold threshold :: rest => enabledRecords threshold rest
  | .log record :: rest =>
      if threshold.allows record.level then record :: enabledRecords threshold rest
      else enabledRecords threshold rest
  | _ :: rest => enabledRecords threshold rest

theorem enabledLines_eq_map (threshold : Threshold) (calls : List LogCall) :
    enabledLines threshold calls = (enabledRecords threshold calls).map Record.line := by
  induction calls generalizing threshold with
  | nil => rfl
  | cons call rest ih =>
      cases call with
      | setThreshold threshold => exact ih threshold
      | log record =>
          rw [enabledLines, enabledRecords, enabledLine, ih]
          split <;> rfl
      | _ => exact ih threshold

theorem enabledRecords_append (threshold : Threshold) (earlier later : List LogCall) :
    enabledRecords threshold (earlier ++ later) =
      enabledRecords threshold earlier ++
        enabledRecords (thresholdAfter threshold earlier) later := by
  induction earlier generalizing threshold with
  | nil => rfl
  | cons call rest ih =>
      cases call with
      | setThreshold threshold => exact ih threshold
      | log record =>
          show (if threshold.allows record.level then
              record :: enabledRecords threshold (rest ++ later)
            else enabledRecords threshold (rest ++ later)) = _
          rw [ih, enabledRecords]
          split <;> rfl
      | _ => exact ih threshold

theorem join_handedOver (kept : String) : String.join (handedOver kept) = kept := by
  rw [handedOver]
  split
  case isTrue hempty => exact (String.isEmpty_iff.1 hempty).symm
  case isFalse => rw [String.join_cons, String.join_nil, String.append_empty]

/-- If all lines fit in the boot buffer, the console gets the lines of all records. -/
theorem join_consoleLogger (threshold : Threshold) (earlier later : List LogCall)
    (hroom : (String.join (enabledLines threshold earlier)).utf8ByteSize ≤ 8192) :
    String.join (consoleLogger threshold earlier later).console.toList =
      String.join ((enabledRecords threshold (earlier ++ .attach :: later)).map Record.line) := by
  rw [consoleLogger, bootText, fitting_eq_self hroom, String.join_append, join_handedOver,
    enabledRecords_append, List.map_append, String.join_append, enabledLines_eq_map,
    enabledLines_eq_map]
  rfl

/-- What a console gets as one text: a logger with a threshold and nothing else is called, the first
console is attached, and the logger is called again. -/
def consoleText (site : Site) (kernel : Kernel Session) (threshold : Threshold)
    (earlier later : List LogCall) : String :=
  String.join (Call.runAll site ((earlier ++ .attach :: later).map .log)
    { kernel with logger := { threshold } }).2.logger.console.toList

/-- Each record has a line of its own in the text that the log makes, unless its line is cut: a
line that is cut does not end, and the next record goes on in it. -/
theorem newline_unless_cut (site : Site) (kernel : Kernel Session) (threshold : Threshold)
    (earlier later : List LogCall) (hfirst : .attach ∉ earlier)
    (hroom : (String.join (enabledLines threshold earlier)).utf8ByteSize ≤ 8192)
    (hplain : ∀ record ∈ enabledRecords threshold (earlier ++ .attach :: later), record.IsPlain) :
    LinesEnd (enabledRecords threshold (earlier ++ .attach :: later))
      (consoleText site kernel threshold earlier later) := by
  rw [consoleText, logger_runAll, effects_console threshold later hfirst,
    join_consoleLogger threshold earlier later hroom]
  exact linesEnd hplain

/-- A record with a message of so many letters. -/
def letters (count : Nat) : Record where
  level := .info
  target := "kernel"
  message := String.ofList (List.replicate count 'x')

theorem isPlain_letters (count : Nat) : (letters count).IsPlain := by
  have htarget : '\n' ∉ "kernel".toList := by decide
  refine ⟨htarget, ?_⟩
  rw [letters, String.toList_ofList, List.mem_replicate]
  exact fun h ↦ absurd h.2 (by decide)

/-- The end of the line is the first byte there is no room for. Both records are on one line. -/
theorem newline_unless_cut_runTogether :
    ¬ OneLineEach [letters 240, letters 1] (consoleText ⟨Kernel.discarding, []⟩ { client := {} }
      (.upTo .info) [.log (letters 240)] [.log (letters 1)]) := by
  have henabled : enabledRecords (.upTo .info)
      ([.log (letters 240)] ++ .attach :: [.log (letters 1)]) = [letters 240, letters 1] := rfl
  have hroom : (String.join (enabledLines (.upTo .info) [.log (letters 240)])).utf8ByteSize ≤
      8192 := by
    have hlines := utf8ByteSize_lines_le [letters 240]
    exact Nat.le_trans hlines (by decide)
  have hlines := newline_unless_cut ⟨Kernel.discarding, []⟩ { client := {} } (.upTo .info)
    [.log (letters 240)] [.log (letters 1)] (by simp) hroom
    (by rw [henabled]; simp [isPlain_letters])
  rw [henabled] at hlines
  intro heach
  have hshort := hlines.oneLineEach_iff.1 heach (letters 240) List.mem_cons_self
  revert hshort
  decide +kernel

end Program

end SignalKernel
