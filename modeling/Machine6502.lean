import Machine6502.Command
import Machine6502.Demonstration
import Machine6502.Bench
import Machine6502.Main
import Machine6502.Proofs.Cells
import Machine6502.Proofs.Splitting
import Machine6502.Proofs.Cycles
import Machine6502.Proofs.Faults
import Machine6502.Proofs.StackPointer
import Machine6502.Proofs.StackModes
import Machine6502.Proofs.CallLog
import Machine6502.Proofs.Duration
import Machine6502.Proofs.Observation
import Machine6502.Proofs.Footprint
import Machine6502.Proofs.Accumulator
import Machine6502.Proofs.CommandLine
import Machine6502.Proofs.Invocation
import Machine6502.Proofs.CommandRun
import Machine6502.Proofs.PlainText
import Machine6502.Proofs.Transcript
import Machine6502.Proofs.Width
import Machine6502.Proofs.Interleaving
import Machine6502.Proofs.Tracing
import Machine6502.Proofs.DumpText
import Machine6502.Proofs.RoundTrip
import Machine6502.Proofs.SingleStep
import Machine6502.Proofs.Blocks
import Machine6502.Proofs.NumberText
import Machine6502.Proofs.ByteText
import Machine6502.Proofs.WrittenNumber
import Machine6502.Proofs.DumpRange
import Machine6502.Proofs.LastLoad
import Machine6502.Proofs.RegisterLine
import Machine6502.Proofs.WordAccess
