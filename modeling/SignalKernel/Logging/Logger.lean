import SignalKernel.Logging.Line

/-!
# The logger

Lines go to a console once there is one. Until then they are kept in a boot buffer of 8192 bytes,
which a line enters as a whole or not at all; attaching the console hands the buffer over in one
piece. The console is the list of the texts handed to it.
-/

namespace SignalKernel

/-- The lines kept while no console is attached. -/
structure BootBuffer where
  bytes : ByteArray := .empty

namespace BootBuffer

/-- The most bytes that are kept. -/
def capacity : Nat := 8192

/-- Keep a text if there is room for all of it. -/
def append (buffer : BootBuffer) (text : String) : BootBuffer :=
  if text.utf8ByteSize > capacity - buffer.bytes.size then buffer
  else ⟨buffer.bytes ++ text.toUTF8⟩

/-- The text kept so far. -/
def contents (buffer : BootBuffer) : String :=
  (String.fromUTF8? buffer.bytes).getD "<invalid UTF-8>"

end BootBuffer

/-- The logger's state. -/
structure Logger where
  threshold : Threshold := .off
  buffer : BootBuffer := {}
  isAttached : Bool := false
  /-- What was handed to the console, in order. -/
  console : Array String := #[]

/-- Why a logger cannot be made the log's backend. -/
inductive InstallError where
  /-- There is a backend already. -/
  | alreadyInstalled

/-- The error's text. -/
def InstallError.message : InstallError → String
  | alreadyInstalled =>
      "attempted to set a logger after the logging system was already initialized"

namespace Logger

/-- Records of the level are logged. -/
def isEnabled (logger : Logger) (level : Level) : Bool :=
  logger.threshold.allows level

/-- A record of the level would go to the boot buffer. -/
def buffers (logger : Logger) (level : Level) : Bool :=
  logger.isEnabled level && !logger.isAttached

/-- Log one record. -/
def log (logger : Logger) (record : Record) : Logger :=
  if logger.isEnabled record.level then
    if logger.isAttached then { logger with console := logger.console.push record.line }
    else { logger with buffer := logger.buffer.append record.line }
  else logger

/-- Attach the console and hand over what was kept, unless a console is attached already. -/
def attach (logger : Logger) : Bool × Logger :=
  if logger.isAttached then (false, logger)
  else
    let kept := logger.buffer.contents
    (true,
      if kept.isEmpty then { logger with isAttached := true }
      else { logger with isAttached := true, buffer := {}, console := logger.console.push kept })

/-- Make the logger the log's backend with a threshold. A log gets its backend once, and a logger in
use is that backend already, so this is always refused. -/
def install (_ : Logger) (_ : Threshold) : Except InstallError Logger :=
  .error .alreadyInstalled

end Logger

end SignalKernel
