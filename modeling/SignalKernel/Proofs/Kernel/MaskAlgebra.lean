import SignalKernel.Proofs.Kernel.Asking

/-!
# How changes of masks combine

With a sink that makes no calls, several changes of a thread's mask in sequence leave the mask that
the sets alone would give: a mask that was saved is restored, to make a change twice is to make it
once, and to block or unblock one set after the other is to do so with their union. The reason is
that no stored mask holds kill or stop, and that keeping these two out commutes with each mode. The
queues follow, as long as a call may hand over all records of a signal. The main statements are
`maskLaws` and `queueLaws`.
-/

namespace SignalKernel

/-! ## Sets -/

namespace SignalSet

theorem union_comm (set other : SignalSet) : set ∪ other = other ∪ set := by
  apply ext_mem
  intro signal
  rw [mem_union, mem_union]
  exact or_comm

theorem sdiff_inter (set other : SignalSet) : (set \ other) ∩ other = ∅ := by
  apply ext_mem
  intro signal
  rw [mem_inter, mem_sdiff]
  exact iff_of_false (fun h ↦ h.1.2 h.2) (not_mem_empty signal)

theorem sdiff_of_disjoint {set other : SignalSet} (h : set ∩ other = ∅) : set \ other = set := by
  apply ext_mem
  intro signal
  have hnone : ¬ (signal ∈ set ∧ signal ∈ other) := by
    rw [← mem_inter, h]
    exact not_mem_empty signal
  rw [mem_sdiff]
  exact and_iff_left_of_imp fun hmem hother ↦ hnone ⟨hmem, hother⟩

end SignalSet

namespace MaskMode

/-- To make a change of a mask twice is to make it once. -/
theorem combine_idem (mode : MaskMode) (mask set : SignalSet) :
    mode.combine (mode.combine mask set \ .unblockable) set \ .unblockable =
      mode.combine mask set \ .unblockable := by
  apply SignalSet.ext_mem
  intro signal
  cases mode <;> simp only [combine, SignalSet.mem_sdiff, SignalSet.mem_union] <;> grind

/-- To block or unblock one set after the other is to do so with both. -/
theorem combine_combine {mode : MaskMode} (hmode : mode ≠ .setExactly)
    (mask set set' : SignalSet) :
    mode.combine (mode.combine mask set \ .unblockable) set' \ .unblockable =
      mode.combine mask (set ∪ set') \ .unblockable := by
  apply SignalSet.ext_mem
  intro signal
  cases mode with
  | setExactly => exact absurd rfl hmode
  | block =>
      simp only [combine, SignalSet.mem_sdiff, SignalSet.mem_union]
      grind
  | unblock =>
      simp only [combine, SignalSet.mem_sdiff, SignalSet.mem_union]
      grind

/-- What was blocked and then unblocked is not blocked. -/
theorem combine_unblock_block {mask : SignalSet} (hmask : mask ∩ .unblockable = ∅)
    (set : SignalSet) :
    unblock.combine (block.combine mask set \ .unblockable) set \ .unblockable = mask \ set := by
  rw [← SignalSet.sdiff_of_disjoint hmask]
  apply SignalSet.ext_mem
  intro signal
  simp only [combine, SignalSet.mem_sdiff, SignalSet.mem_union]
  grind

/-- A number that is some mode's is the code of a mode. -/
theorem exists_code {how : Int} (h : ¬ (how ≠ 0 ∧ how ≠ 1 ∧ how ≠ 2)) :
    ∃ mode : MaskMode, how = mode.code := by
  by_cases hblock : how = 0
  · exact ⟨.block, hblock⟩
  by_cases hunblock : how = 1
  · exact ⟨.unblock, hunblock⟩
  · exact ⟨.setExactly, not_not.1 fun hset ↦ h ⟨hblock, hunblock, hset⟩⟩

end MaskMode

namespace Kernel

variable {γ : Type}

/-! ## Masks and queues -/

/-- A thread's mask, if there is a thread of that identity. -/
def maskOf (kernel : Kernel γ) (id : ThreadId) : Option SignalSet :=
  (kernel.scheduler.threads.find? id).map (·.signals.blocked)

/-- The records of a thread's signal. -/
def queueOf (kernel : Kernel γ) (id : ThreadId) (signal : Nat) : Option (List Occurrence) :=
  (kernel.scheduler.threads.find? id).map (·.signals.records signal)

/-- The kernel after a change of a thread's mask. -/
def masked (sink : Sink γ) (id : ThreadId) (mode : MaskMode) (set : SignalSet)
    (kernel : Kernel γ) : Kernel γ :=
  (changeMask sink id mode.code (some set) kernel).2

/-- A call on a mask. -/
inductive MaskCall where
  | ofThread (id : ThreadId) (how : Int) (set : Option SignalSet)
  | ofCaller (how : Int) (set : Option SignalSet)

/-- Make a call on a mask. -/
def MaskCall.run (sink : Sink γ) : MaskCall → KernelM γ MaskReply
  | ofThread id how set => changeMask sink id how set
  | ofCaller how set => sigprocmask sink how set

/-- The call concerns a thread that exists. -/
def MaskCall.Exists (kernel : Kernel γ) : MaskCall → Prop
  | ofThread id _ _ => ∃ thread, kernel.scheduler.threads.find? id = some thread
  | ofCaller _ _ => True

/-- Make calls on masks in order. -/
def runMaskCalls (sink : Sink γ) : List MaskCall → KernelM γ Unit
  | [] => pure ()
  | call :: rest => do
      discard (call.run sink)
      runMaskCalls sink rest

/-- Save a thread's mask while changing it, make other calls on masks, and restore the mask. -/
def saveAndRestore (sink : Sink γ) (id : ThreadId) (how : Int) (set : Option SignalSet)
    (calls : List MaskCall) : KernelM γ MaskReply := do
  let saved ← changeMask sink id how set
  runMaskCalls sink calls
  changeMask sink id MaskMode.setExactly.code (some saved.old)

/-- How changes of a thread's mask combine. -/
structure MaskLaws (sink : Sink γ) (kernel : Kernel γ) (id : ThreadId) (mask : SignalSet) :
    Prop where
  /-- A mask is restored, whatever was done to it and to other masks since it was saved. -/
  restored : ∀ how set calls, (∀ call ∈ calls, call.Exists kernel) →
    maskOf (saveAndRestore sink id how set calls kernel).2 id = some mask
  /-- To make a change twice is to make it once. -/
  repeated : ∀ mode set other,
    maskOf (masked sink id mode set (masked sink id mode set kernel)) other =
      maskOf (masked sink id mode set kernel) other
  /-- What was blocked and then unblocked is not blocked. -/
  unblocked : ∀ set,
    maskOf (masked sink id .unblock set (masked sink id .block set kernel)) id =
      some (mask \ set)
  /-- If it was not blocked before, the mask is what it was. -/
  unchanged : ∀ set, mask ∩ set = ∅ →
    maskOf (masked sink id .unblock set (masked sink id .block set kernel)) id = some mask
  /-- To block or unblock one set after the other, in either order, is to do so with both. -/
  united : ∀ mode, mode ≠ .setExactly → ∀ set set' other,
    maskOf (masked sink id mode set' (masked sink id mode set kernel)) other =
        maskOf (masked sink id mode (set ∪ set') kernel) other ∧
      maskOf (masked sink id mode set (masked sink id mode set' kernel)) other =
        maskOf (masked sink id mode (set ∪ set') kernel) other

/-- What combined changes of a thread's mask leave in the queues. -/
structure QueueLaws (sink : Sink γ) (kernel : Kernel γ) (id : ThreadId) : Prop where
  /-- A change that is made again takes nothing out of any queue, and hands nothing over. -/
  repeated : ∀ mode set,
    (masked sink id mode set (masked sink id mode set kernel)).client =
        (masked sink id mode set kernel).client ∧
      ∀ other signal,
        queueOf (masked sink id mode set (masked sink id mode set kernel)) other signal =
          queueOf (masked sink id mode set kernel) other signal
  /-- To unblock one set after the other takes the records that unblocking both takes. -/
  united : ∀ set set' other signal,
    queueOf (masked sink id .unblock set' (masked sink id .unblock set kernel)) other signal =
        queueOf (masked sink id .unblock (set ∪ set') kernel) other signal ∧
      queueOf (masked sink id .unblock set (masked sink id .unblock set' kernel)) other signal =
        queueOf (masked sink id .unblock (set ∪ set') kernel) other signal

/-! ## One change -/

/-- A queue that is sound, and a mask that holds neither kill nor stop. -/
structure Well (s : SignalState) : Prop where
  sound : s.queue.Sound
  mask : s.blocked ∩ .unblockable = ∅

section Change

variable {noted : γ → Handed → γ} {sink : Sink γ} (hsink : Sink.Notes sink noted)
  {kernel : Kernel γ} {id : ThreadId} {thread : Thread}
  (hthread : kernel.scheduler.threads.find? id = some thread) (hwell : Well thread.signals)

theorem maskOf_of_find? (hthread : kernel.scheduler.threads.find? id = some thread) :
    maskOf kernel id = some thread.signals.blocked := by
  rw [maskOf, hthread, Option.map_some]

theorem queueOf_of_find? (hthread : kernel.scheduler.threads.find? id = some thread)
    (signal : Nat) : queueOf kernel id signal = some (thread.signals.records signal) := by
  rw [queueOf, hthread, Option.map_some]

include hsink hthread hwell

/-- The thread has other signals, but it is the same thread. -/
theorem exists_masked (mode : MaskMode) (set : SignalSet) :
    ∃ signals : SignalState,
      (masked sink id mode set kernel).scheduler.threads.find? id = some { thread with signals } ∧
      Well signals ∧
      signals.blocked = mode.combine thread.signals.blocked set \ .unblockable ∧
      ∀ signal, signals.records signal =
        if signal ∈ mode.combine thread.signals.blocked set \ .unblockable then
          thread.signals.records signal
        else (thread.signals.records signal).drop thread.pendingCapacity := by
  obtain ⟨signals, hfound, hmask, hsound, hrecords⟩ :=
    (changeMask_installs hsink hthread hwell.sound hwell.mask mode set).changed
  refine ⟨signals, hfound, ⟨hsound, ?_⟩, hmask, hrecords⟩
  rw [hmask]
  exact SignalSet.sdiff_inter _ _

theorem find?_masked_of_ne {other : ThreadId} (hother : other ≠ id) (mode : MaskMode)
    (set : SignalSet) :
    (masked sink id mode set kernel).scheduler.threads.find? other =
      kernel.scheduler.threads.find? other :=
  (changeMask_installs hsink hthread hwell.sound hwell.mask mode set).others other hother

theorem maskOf_masked (mode : MaskMode) (set : SignalSet) :
    maskOf (masked sink id mode set kernel) id =
      some (mode.combine thread.signals.blocked set \ .unblockable) := by
  obtain ⟨signals, hfound, -, hmask, -⟩ := exists_masked hsink hthread hwell mode set
  rw [maskOf_of_find? hfound, hmask]

/-- Two changes in sequence, as the mask shows them. -/
theorem maskOf_masked_masked (mode mode' : MaskMode) (set set' : SignalSet) :
    maskOf (masked sink id mode' set' (masked sink id mode set kernel)) id =
      some (mode'.combine (mode.combine thread.signals.blocked set \ .unblockable) set' \
        .unblockable) := by
  obtain ⟨signals, hfound, hwell', hmask, -⟩ := exists_masked hsink hthread hwell mode set
  rw [maskOf_masked hsink hfound hwell', hmask]

/-- Other threads are not touched by two changes either. -/
theorem find?_masked_masked_of_ne {other : ThreadId} (hother : other ≠ id)
    (mode mode' : MaskMode) (set set' : SignalSet) :
    (masked sink id mode' set' (masked sink id mode set kernel)).scheduler.threads.find? other =
      kernel.scheduler.threads.find? other := by
  obtain ⟨signals, hfound, hwell', -⟩ := exists_masked hsink hthread hwell mode set
  rw [find?_masked_of_ne hsink hfound hwell' hother,
    find?_masked_of_ne hsink hthread hwell hother]

end Change

/-! ## Calls in between -/

/-- The signals of all threads are well. -/
def AllWell (kernel : Kernel γ) : Prop :=
  ∀ id thread, kernel.scheduler.threads.find? id = some thread → Well thread.signals

/-- No thread is lost, and if the signals of all threads were well, they still are. -/
structure KeepsWell (kernel after : Kernel γ) : Prop where
  found : ∀ id, (∃ thread, kernel.scheduler.threads.find? id = some thread) →
    ∃ thread, after.scheduler.threads.find? id = some thread
  well : AllWell kernel → AllWell after

theorem KeepsWell.refl (kernel : Kernel γ) : KeepsWell kernel kernel :=
  ⟨fun _ h ↦ h, fun h ↦ h⟩

theorem KeepsWell.trans {first second third : Kernel γ} (h : KeepsWell first second)
    (h' : KeepsWell second third) : KeepsWell first third :=
  ⟨fun id hfound ↦ h'.found id (h.found id hfound), fun hwell ↦ h'.well (h.well hwell)⟩

theorem MaskCall.Exists.later {kernel after : Kernel γ} (h : KeepsWell kernel after) :
    ∀ {call : MaskCall}, call.Exists kernel → call.Exists after
  | .ofThread id _ _, hexists => h.found id hexists
  | .ofCaller _ _, _ => trivial

section Calls

variable {noted : γ → Handed → γ} {sink : Sink γ} (hsink : Sink.Notes sink noted)
  {kernel : Kernel γ}

/-- What keeps the signals of all threads keeps them well. -/
theorem keepsWell_of_find? {after : Kernel γ} {change : ThreadId → Thread → Thread}
    (hsignals : ∀ id thread, (change id thread).signals = thread.signals)
    (hfound : ∀ id, after.scheduler.threads.find? id =
      (kernel.scheduler.threads.find? id).map (change id)) : KeepsWell kernel after where
  found id := by
    rintro ⟨thread, hthread⟩
    exact ⟨change id thread, by rw [hfound, hthread, Option.map_some]⟩
  well hwell id thread hthread := by
    rw [hfound, Option.map_eq_some_iff] at hthread
    obtain ⟨before, hbefore, rfl⟩ := hthread
    rw [hsignals]
    exact hwell id before hbefore

include hsink

theorem keepsWell_masked (hwell : AllWell kernel) {id : ThreadId} {thread : Thread}
    (hthread : kernel.scheduler.threads.find? id = some thread) (mode : MaskMode)
    (set : SignalSet) : KeepsWell kernel (masked sink id mode set kernel) := by
  have hwell' := hwell id thread hthread
  obtain ⟨signals, hfound, hsignals, -⟩ := exists_masked hsink hthread hwell' mode set
  have hothers {other : ThreadId} (hother : other ≠ id) :=
    find?_masked_of_ne hsink hthread hwell' hother mode set
  constructor
  case found =>
    intro other hexists
    by_cases hother : other = id
    · rw [hother]
      exact ⟨_, hfound⟩
    · rw [hothers hother]
      exact hexists
  case well =>
    intro _ other thread' hthread'
    by_cases hother : other = id
    · rw [hother, hfound, Option.some_inj] at hthread'
      rw [← hthread']
      exact hsignals
    · rw [hothers hother] at hthread'
      exact hwell other thread' hthread'

theorem keepsWell_changeMask (hwell : AllWell kernel) {id : ThreadId} {thread : Thread}
    (hthread : kernel.scheduler.threads.find? id = some thread) (how : Int)
    (set : Option SignalSet) : KeepsWell kernel (changeMask sink id how set kernel).2 := by
  by_cases hkept : set = none ∨ IsRefused how set
  · obtain ⟨reply, after, hrun, -, hthreads⟩ := (asks hthread how set).kept hkept
    rw [hrun]
    exact keepsWell_of_find? (fun _ _ ↦ rfl) fun other ↦ by rw [hthreads, Option.map_id']
  · obtain ⟨hset, hmode⟩ := not_or.1 hkept
    obtain ⟨set, rfl⟩ := Option.ne_none_iff_exists'.1 hset
    obtain ⟨mode, rfl⟩ := MaskMode.exists_code fun h ↦ hmode ⟨rfl, h⟩
    exact keepsWell_masked hsink hwell hthread mode set

theorem keepsWell_sigprocmask (hwell : AllWell kernel) (how : Int) (set : Option SignalSet) :
    KeepsWell kernel (sigprocmask sink how set kernel).2 := by
  by_cases hrefused : IsRefused how set
  · obtain ⟨reply, after, hrun, -, hthreads⟩ := (callerAsks kernel how set).refused hrefused
    rw [hrun]
    refine keepsWell_of_find? (fun other thread ↦ ?_) hthreads
    split <;> rfl
  · obtain ⟨read, hread, hrun⟩ := (callerAsks kernel how set).unreported hrefused
    have hsame : KeepsWell kernel read := keepsWell_of_find? (fun _ _ ↦ rfl) fun other ↦ by
      rw [hread.scheduler, Option.map_id']
    have hcaller := find?_currentThread kernel
    rw [← hread.scheduler] at hcaller
    rw [hrun, ← hread.scheduler]
    exact hsame.trans (keepsWell_changeMask hsink (hsame.well hwell) hcaller how set)

theorem keepsWell_runMaskCalls (hwell : AllWell kernel) {calls : List MaskCall}
    (hexists : ∀ call ∈ calls, call.Exists kernel) :
    KeepsWell kernel (runMaskCalls sink calls kernel).2 := by
  induction calls generalizing kernel with
  | nil => exact .refl kernel
  | cons call rest ih =>
      obtain ⟨hcall, hrest⟩ := List.forall_mem_cons.1 hexists
      have hmade : KeepsWell kernel (call.run sink kernel).2 := by
        cases call with
        | ofThread id how set =>
            obtain ⟨thread, hthread⟩ := hcall
            exact keepsWell_changeMask hsink hwell hthread how set
        | ofCaller how set => exact keepsWell_sigprocmask hsink hwell how set
      exact hmade.trans (ih (hmade.well hwell) fun call hmem ↦ (hrest call hmem).later hmade)

end Calls

/-! ## The laws -/

section Laws

variable {noted : γ → Handed → γ} {sink : Sink γ} (hsink : Sink.Notes sink noted)
  {kernel : Kernel γ} (hwell : AllWell kernel) {id : ThreadId} {thread : Thread}
  (hthread : kernel.scheduler.threads.find? id = some thread)
include hsink hwell hthread

theorem maskOf_saveAndRestore (how : Int) (set : Option SignalSet) {calls : List MaskCall}
    (hexists : ∀ call ∈ calls, call.Exists kernel) :
    maskOf (saveAndRestore sink id how set calls kernel).2 id = some thread.signals.blocked := by
  have hold := (asks hthread how set).old sink
  have hsaved := keepsWell_changeMask hsink hwell hthread how set
  have hcalls := keepsWell_runMaskCalls hsink (hsaved.well hwell) fun call hmem ↦
    (hexists call hmem).later hsaved
  have hkept := hsaved.trans hcalls
  obtain ⟨last, hlast⟩ := hkept.found id ⟨thread, hthread⟩
  have hrestored := maskOf_masked hsink hlast (hkept.well hwell id last hlast) .setExactly
    thread.signals.blocked
  simp only [saveAndRestore, run_bind, hold]
  refine hrestored.trans (congrArg some ?_)
  exact SignalSet.sdiff_of_disjoint (hwell id thread hthread).mask

/-- How changes of a thread's mask combine. -/
theorem maskLaws : MaskLaws sink kernel id thread.signals.blocked where
  restored how set _ hexists := maskOf_saveAndRestore hsink hwell hthread how set hexists
  repeated mode set other := by
    have hwell' := hwell id thread hthread
    by_cases hother : other = id
    · rw [hother, maskOf_masked_masked hsink hthread hwell', maskOf_masked hsink hthread hwell',
        MaskMode.combine_idem]
    · rw [maskOf, maskOf, find?_masked_masked_of_ne hsink hthread hwell' hother,
        find?_masked_of_ne hsink hthread hwell' hother]
  unblocked set := by
    have hwell' := hwell id thread hthread
    rw [maskOf_masked_masked hsink hthread hwell', MaskMode.combine_unblock_block hwell'.mask]
  unchanged set hdisjoint := by
    have hwell' := hwell id thread hthread
    rw [maskOf_masked_masked hsink hthread hwell', MaskMode.combine_unblock_block hwell'.mask,
      SignalSet.sdiff_of_disjoint hdisjoint]
  united mode hmode set set' other := by
    have hwell' := hwell id thread hthread
    by_cases hother : other = id
    · rw [hother, maskOf_masked_masked hsink hthread hwell',
        maskOf_masked_masked hsink hthread hwell', maskOf_masked hsink hthread hwell',
        MaskMode.combine_combine hmode, MaskMode.combine_combine hmode, set'.union_comm]
      exact ⟨rfl, rfl⟩
    · rw [maskOf, maskOf, maskOf, find?_masked_masked_of_ne hsink hthread hwell' hother,
        find?_masked_masked_of_ne hsink hthread hwell' hother,
        find?_masked_of_ne hsink hthread hwell' hother]
      exact ⟨rfl, rfl⟩

/-! ## The queues -/

variable (hfits : ∀ signal, (thread.signals.records signal).length ≤ thread.pendingCapacity)
include hfits

omit hwell in
/-- A change leaves no record of a signal that is not blocked. -/
theorem exists_masked_of_fits (hwell : Well thread.signals) (mode : MaskMode) (set : SignalSet) :
    ∃ signals : SignalState,
      (masked sink id mode set kernel).scheduler.threads.find? id = some { thread with signals } ∧
      Well signals ∧
      signals.blocked = mode.combine thread.signals.blocked set \ .unblockable ∧
      ∀ signal, signals.records signal =
        if signal ∈ signals.blocked then thread.signals.records signal else [] := by
  obtain ⟨signals, hfound, hwell', hmask, hrecords⟩ :=
    exists_masked hsink hthread hwell mode set
  refine ⟨signals, hfound, hwell', hmask, fun signal ↦ ?_⟩
  rw [hrecords, hmask, List.drop_eq_nil_of_le (hfits signal)]

theorem queueOf_masked (mode : MaskMode) (set : SignalSet) (signal : Nat) :
    queueOf (masked sink id mode set kernel) id signal =
      some (if signal ∈ mode.combine thread.signals.blocked set \ .unblockable then
        thread.signals.records signal else []) := by
  obtain ⟨signals, hfound, -, hmask, hrecords⟩ :=
    exists_masked_of_fits hsink hthread hfits (hwell id thread hthread) mode set
  rw [queueOf_of_find? hfound, hrecords, hmask]

/-- Two changes in sequence leave what is blocked after both, and after the first. -/
theorem queueOf_masked_masked (mode mode' : MaskMode) (set set' : SignalSet) (signal : Nat) :
    queueOf (masked sink id mode' set' (masked sink id mode set kernel)) id signal =
      some (if signal ∈ mode'.combine (mode.combine thread.signals.blocked set \ .unblockable)
            set' \ .unblockable ∧
          signal ∈ mode.combine thread.signals.blocked set \ .unblockable then
        thread.signals.records signal else []) := by
  obtain ⟨signals, hfound, hwell', hmask, hrecords⟩ :=
    exists_masked_of_fits hsink hthread hfits (hwell id thread hthread) mode set
  have hfits' : ∀ signal, (signals.records signal).length ≤ thread.pendingCapacity := by
    intro signal
    rw [hrecords]
    split
    · exact hfits signal
    · exact Nat.zero_le _
  obtain ⟨signals', hfound', -, hmask', hrecords'⟩ :=
    exists_masked_of_fits hsink hfound hfits' hwell' mode' set'
  rw [queueOf_of_find? hfound', hrecords', hmask']
  change some (if signal ∈ mode'.combine signals.blocked set' \ .unblockable then
    signals.records signal else []) = _
  rw [hrecords, hmask, ite_and]

/-- A change that is made again hands nothing over. -/
theorem client_masked_masked (mode : MaskMode) (set : SignalSet) :
    (masked sink id mode set (masked sink id mode set kernel)).client =
      (masked sink id mode set kernel).client := by
  obtain ⟨signals, hfound, hwell', hmask, hrecords⟩ :=
    exists_masked_of_fits hsink hthread hfits (hwell id thread hthread) mode set
  have hhanded :=
    (changeMask_installs hsink hfound hwell'.sound hwell'.mask mode set).handed
  have hsame : mode.combine signals.blocked set \ .unblockable = signals.blocked := by
    rw [hmask, MaskMode.combine_idem]
  have hnone : signals.pending \ signals.blocked = ∅ := by
    apply SignalSet.ext_mem
    intro signal
    rw [SignalSet.mem_sdiff, SignalState.mem_pending hwell'.sound, hrecords]
    refine iff_of_false (fun ⟨hpending, hopen⟩ ↦ ?_) (SignalSet.not_mem_empty signal)
    exact hpending (if_neg hopen)
  refine hhanded.trans ?_
  show ((signals.oldestOf thread.pendingCapacity
    (signals.pending \ (mode.combine signals.blocked set \ .unblockable))).map _).foldl _ _ = _
  rw [hsame, hnone]
  simp [SignalState.oldestOf]

/-- What combined changes of a thread's mask leave in the queues, if no signal has more records than
the thread was created with slots. -/
theorem queueLaws : QueueLaws sink kernel id where
  repeated mode set := by
    refine ⟨client_masked_masked hsink hwell hthread hfits mode set, fun other signal ↦ ?_⟩
    by_cases hother : other = id
    · rw [hother, queueOf_masked_masked hsink hwell hthread hfits,
        queueOf_masked hsink hwell hthread hfits, MaskMode.combine_idem]
      exact congrArg some (if_congr (and_self_iff) rfl rfl)
    · have hwell' := hwell id thread hthread
      rw [queueOf, queueOf, find?_masked_masked_of_ne hsink hthread hwell' hother,
        find?_masked_of_ne hsink hthread hwell' hother]
  united set set' other signal := by
    have hboth (set set' : SignalSet) :
        queueOf (masked sink id .unblock set' (masked sink id .unblock set kernel)) id signal =
          queueOf (masked sink id .unblock (set ∪ set') kernel) id signal := by
      rw [queueOf_masked_masked hsink hwell hthread hfits,
        queueOf_masked hsink hwell hthread hfits, MaskMode.combine_combine (by decide)]
      -- what both sets leave blocked, the first one does
      refine congrArg some (if_congr (and_iff_left_of_imp fun hmem ↦ ?_) rfl rfl)
      simp only [MaskMode.combine, SignalSet.mem_sdiff, SignalSet.mem_union] at hmem ⊢
      grind
    by_cases hother : other = id
    · rw [hother, hboth, hboth, set'.union_comm]
      exact ⟨rfl, rfl⟩
    · have hwell' := hwell id thread hthread
      rw [queueOf, queueOf, queueOf, find?_masked_masked_of_ne hsink hthread hwell' hother,
        find?_masked_masked_of_ne hsink hthread hwell' hother,
        find?_masked_of_ne hsink hthread hwell' hother]
      exact ⟨rfl, rfl⟩

end Laws

end Kernel

end SignalKernel
