import SignalKernel.SignalSet.Register
import SignalKernel.Pending.Calls
import SignalKernel.Program.Run
import SignalKernel.Proofs.Pending.Chain
import SignalKernel.Proofs.Pending.Records
import SignalKernel.Proofs.Pending.SharedLists
import SignalKernel.Proofs.Signals.State
import SignalKernel.Proofs.Kernel.Turns
import SignalKernel.Proofs.Kernel.RunQueue
import SignalKernel.Proofs.Kernel.Preemption
import SignalKernel.Proofs.Kernel.Mailboxes
import SignalKernel.Proofs.Kernel.Draining
import SignalKernel.Proofs.Program.Quiet
import SignalKernel.Proofs.Program.Runs
import SignalKernel.Proofs.Program.Chronicle
import SignalKernel.Proofs.Program.Calm
import SignalKernel.Proofs.Program.Tally
import SignalKernel.Proofs.Program.Ledger
import SignalKernel.Proofs.Program.Overtaking
import SignalKernel.Proofs.Program.Stages
import SignalKernel.Proofs.Program.Reaching
import SignalKernel.Proofs.Program.Blocking
import SignalKernel.Proofs.Program.Unblockable
import SignalKernel.Proofs.Program.Queueing
import SignalKernel.Proofs.Program.Locking
import SignalKernel.Proofs.Program.Crowding
import SignalKernel.Proofs.Kernel.Congruence
import SignalKernel.Proofs.Kernel.Framing
import SignalKernel.Proofs.Kernel.Deepening
import SignalKernel.Proofs.Program.Settings
import SignalKernel.Proofs.Program.Abreast
import SignalKernel.Proofs.Program.Depths
import SignalKernel.Proofs.Program.Levels
import SignalKernel.Proofs.Signals.Gathering
import SignalKernel.Proofs.Kernel.Resemblance
import SignalKernel.Proofs.Program.Reordering
import SignalKernel.Proofs.Logging.Handover
import SignalKernel.Proofs.Logging.Truncation
import SignalKernel.Proofs.Logging.LineEnds
import SignalKernel.Proofs.Signals.Algebra
import SignalKernel.Proofs.Interrupt.Nesting
import SignalKernel.Proofs.Program.Unmasking
import SignalKernel.Proofs.Kernel.Guarding
import SignalKernel.Proofs.Kernel.Custody
import SignalKernel.Proofs.Kernel.PlainLoop
import SignalKernel.Proofs.Program.Discipline
import SignalKernel.Proofs.Program.Sections
import SignalKernel.Proofs.Program.Sweeping
import SignalKernel.Proofs.Kernel.Sending
import SignalKernel.Proofs.Kernel.Asking
import SignalKernel.Proofs.Program.Reporting
import SignalKernel.Proofs.Kernel.MaskAlgebra
import SignalKernel.Proofs.Program.Remasking
import SignalKernel.Proofs.Program.Detaining
import SignalKernel.Proofs.Program.Deferring
import SignalKernel.Proofs.Program.Releasing
import SignalKernel.Proofs.Kernel.Rotation
import SignalKernel.Proofs.Program.RoundRobin
import SignalKernel.Proofs.Pending.Arena
import SignalKernel.Proofs.Interrupt.Tokens
