import SignalKernel.Interrupt.Control

/-!
# Interrupt state as a depth

This core counts how many times interrupts have been masked: they get through at depth 0 only. Each
save goes one level deeper and each restore one level back, whatever the saved flags say, so nested
sections may end in any order. The depth is a 64-bit word and wraps.
-/

namespace SignalKernel

/-- How many times interrupts have been masked and not restored. -/
structure InterruptDepth where
  depth : UInt64 := 0
deriving DecidableEq

namespace InterruptDepth

instance : InterruptControl InterruptDepth where
  enable _ := ⟨0⟩
  disable state := if state.depth = 0 then ⟨1⟩ else state
  isEnabled state := state.depth == 0
  save state := (⟨state.depth == 0⟩, ⟨state.depth + 1⟩)
  restore _ state := ⟨state.depth - 1⟩

/-- Restoring right after saving leaves the depth as it was, even where it wraps. -/
@[simp] theorem restore_save (flags : InterruptFlags) (state : InterruptDepth) :
    InterruptControl.restore flags (InterruptControl.save state).2 = state := by
  obtain ⟨depth⟩ := state
  simp [InterruptControl.restore, InterruptControl.save]

/-- One level deeper keeps two depths as far apart as they are. -/
theorem add_one_offset (depth offset : UInt64) : depth + offset + 1 = depth + 1 + offset := by
  rw [UInt64.add_assoc, UInt64.add_comm offset, ← UInt64.add_assoc]

/-- So does one level back. -/
theorem sub_one_offset (depth offset : UInt64) : depth + offset - 1 = depth - 1 + offset := by
  rw [UInt64.sub_eq_add_neg, UInt64.sub_eq_add_neg, UInt64.add_assoc, UInt64.add_comm offset,
    ← UInt64.add_assoc]

end InterruptDepth

end SignalKernel
