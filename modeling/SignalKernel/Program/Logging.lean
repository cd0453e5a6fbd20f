import SignalKernel.Program.Session

/-!
# Calls on the log, carried out
-/

namespace SignalKernel.Program

open SignalKernel.Kernel

/-- Carry out a call on the log. -/
def LogCall.run : LogCall → ProgramM Answer
  | .setThreshold threshold => do
      modifyLogger fun logger ↦ { logger with threshold }
      pure (.text threshold.name)
  | .isEnabled level => do
      pure (.truth ((← get).logger.isEnabled level))
  | .log record => do
      Kernel.log record
      pure .done
  | .flush => pure .done
  | .attach =>
      critical (modifyGet fun kernel ↦
        let (attached, logger) := kernel.logger.attach
        (.truth attached, { kernel with logger }))
  | .buffered =>
      critical do
        let kernel ← get
        pure (.buffered kernel.logger.buffer.contents kernel.core.interrupts.depth)
  | .bufferedSize =>
      critical do
        pure (.number (← get).logger.buffer.contents.utf8ByteSize)
  | .install threshold => do
      let logger := (← get).logger
      match logger.install threshold with
      | .error error => pure (.installRefused error logger.threshold)
      | .ok installed => do
          modifyLogger fun _ ↦ installed
          pure .done

end SignalKernel.Program
