import SignalKernel.SignalSet.Basic
import SignalKernel.Signal.Error

/-!
# Signal masks

A mask is the set of signals that a thread blocks. A change names a mode and a set; `combine` is
what the mode makes of the current mask and the set, before the two signals that no mask may hold
are kept out.
-/

namespace SignalKernel

/-- The signals that no mask may hold. -/
def SignalSet.unblockable : SignalSet :=
  .ofList [Signal.kill, Signal.stop]

/-- How a change combines a set with the current mask. -/
inductive MaskMode where
  /-- The set is added to the mask. -/
  | block
  /-- The set is taken out of the mask. -/
  | unblock
  /-- The set becomes the mask. -/
  | setExactly
deriving DecidableEq

namespace MaskMode

/-- The mode's number in calls. -/
def code : MaskMode → Int
  | block => 0
  | unblock => 1
  | setExactly => 2

/-- The mode that a number stands for. -/
def ofCode (code : Int) : Except MaskError MaskMode :=
  if code = 0 then .ok block
  else if code = 1 then .ok unblock
  else if code = 2 then .ok setExactly
  else .error .invalidMode

/-- The mode's name in reports. -/
def name : MaskMode → String
  | block => "Block"
  | unblock => "Unblock"
  | setExactly => "SetMask"

/-- The mask that the mode makes of the current mask and a set. -/
def combine (mode : MaskMode) (current set : SignalSet) : SignalSet :=
  match mode with
  | block => current ∪ set
  | unblock => current \ set
  | setExactly => set

/-- A mode is read back from its number. -/
@[simp] theorem ofCode_code (mode : MaskMode) : ofCode mode.code = .ok mode := by
  cases mode <;> rfl

/-- Every number but the three codes is refused. -/
theorem ofCode_eq_error_iff {code : Int} :
    ofCode code = .error .invalidMode ↔ code ≠ 0 ∧ code ≠ 1 ∧ code ≠ 2 := by
  unfold ofCode
  split
  · simp_all
  · split
    · simp_all
    · split <;> simp_all

end MaskMode

end SignalKernel
