import SignalKernel.Signal.Number
import SignalKernel.Text.Display

/-!
# Occurrences of a signal

An occurrence says which signal was raised, by whom, and with which value. It is what a pending
queue records and what a delivery hands over, field for field.
-/

namespace SignalKernel

open SignalKernel.Text

/-- The identity of a thread. -/
abbrev ThreadId := UInt64

/-- What raised a signal. -/
inductive Origin where
  /-- A plain post by another thread. -/
  | user
  /-- A post by another thread that carries a value. -/
  | queue
  /-- The kernel itself or an interrupt handler. -/
  | kernel
  /-- An expired timer. -/
  | timer
deriving DecidableEq

/-- The origin's name in reports. -/
def Origin.name : Origin → String
  | user => "User"
  | queue => "Queue"
  | kernel => "Kernel"
  | timer => "Timer"

/-- One occurrence of a signal. Only threads have an identity, so what the kernel raises has no
sender. -/
structure Occurrence where
  signal : Nat
  origin : Origin
  sender : Option ThreadId := none
  value : UInt64 := 0
deriving DecidableEq

namespace Occurrence

/-- What an unused record slot holds. -/
def blank : Occurrence :=
  { signal := 0, origin := .kernel }

/-- What a thread sends as a plain signal. -/
def plain (signal : Nat) (sender : ThreadId) : Occurrence :=
  { signal, origin := .user, sender := some sender }

/-- What a thread sends as a signal with a value. -/
def carrying (signal : Nat) (sender : ThreadId) (value : UInt64) : Occurrence :=
  { signal, origin := .queue, sender := some sender, value }

/-- The occurrence written out. -/
def display (o : Occurrence) : Display :=
  .record "SigInfo"
    [("signo", .number o.signal),
      ("code", .text o.origin.name),
      ("sender", .optional (o.sender.map fun id ↦ .number id.toNat)),
      ("value", .number o.value.toNat)]

end Occurrence

end SignalKernel
