import Machine6502.Command.Report
import Machine6502.Run

/-!
# A demonstration

A machine that is reset, given a small program and run twice:

```
$FFFC  JSR $8000
$8000  LDA #$84
$8002  $A2, which is in no row of the instruction table
```

The first run is long enough for the two instructions, and the second one faults.
-/

namespace Machine6502

namespace Demonstration

/-- The machine with the program in its memory. -/
def machine : Except Fault Machine := do
  let machine := ({} : Machine).reset
  let memory ← machine.memory.load 0xFFFC [0x20, 0x00, 0x80]
  let memory ← memory.load 0x8000 [0xA9, 0x84, 0xA2]
  return { machine with memory }

/-- What is shown of a run that returned. -/
def runLines (used : Int) (registers : Registers) : List String :=
  ["Ran " ++ toString used ++ " cycles",
    "  PC=$" ++ hexText 4 registers.pc ++ " SP=$" ++ hexText 4 registers.sp ++
      " A=$" ++ hexText 2 registers.a,
    "  Z=" ++ toString registers.status.zero.toNat ++ " N=" ++
      toString registers.status.negative.toNat]

/-- What is shown of the two bytes of a return address. -/
def returnAddressLines : List UInt8 → List String
  | [low, high] => ["Return address on stack: $" ++ hexText 4 (Word.ofBytes low high)]
  | _ => []

/-- What is shown of a fault. -/
def faultLines (fault : Fault) : List String := ["Stopped: " ++ fault.message]

/-- What is shown of a fault where nothing is shown of a success. -/
def onlyFaultLines {α : Type} : Except Fault α → List String
  | .ok _ => []
  | .error fault => faultLines fault

/-- What is shown of the two runs and of the memory between them. -/
def machineLines (machine : Machine) : List String :=
  let first := machine.execute none 8
  match first.outcome.result with
  | .error fault => faultLines fault
  | .ok used =>
      runLines used first.machine.registers ++
        (match first.machine.memory.dump 0x0100 2 with
          | .ok bytes => returnAddressLines bytes
          | .error fault => faultLines fault) ++
        onlyFaultLines (first.machine.execute none 2).outcome.result

/-- The lines of the demonstration. -/
def lines : List String :=
  match machine with
  | .ok machine => machineLines machine
  | .error fault => faultLines fault

/-- The text of the demonstration. -/
def text : String := Command.joinLines lines

end Demonstration

end Machine6502
