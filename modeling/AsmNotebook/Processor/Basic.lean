import AsmNotebook.SortedMap

namespace AsmNotebook

/-!
What is known of the simulated processor: registers, flags and memory, as the
simulator reported them last.
-/

/-- Registers, flags and memory by name. -/
structure Processor where
  registers : SortedMap String
  flags : SortedMap Bool
  memory : SortedMap String
deriving DecidableEq

/-- What the simulator reports about the processor.  A section that is absent says nothing. -/
structure ProcessorUpdate where
  registers : Option (SortedMap String)
  flags : Option (SortedMap Bool)
  memory : Option (SortedMap String)
deriving DecidableEq

namespace ProcessorUpdate

def empty : ProcessorUpdate where
  registers := none
  flags := none
  memory := none

def isEmpty (update : ProcessorUpdate) : Bool :=
  update.registers.isNone && update.flags.isNone && update.memory.isNone

end ProcessorUpdate

/-- Changes of what is known of the processor. -/
inductive ProcessorAction
  /-- Replace every section that the update has. -/
  | apply (update : ProcessorUpdate)
  | reset
  | setMemory (address value : String)
  | clearMemory

/-- What a run does to the processor besides its output. -/
inductive ProcessorEffect
  | apply (update : ProcessorUpdate)
  | reset
deriving DecidableEq

namespace ProcessorEffect

/-- The change that an effect asks for. -/
def action : ProcessorEffect → ProcessorAction
  | apply update => .apply update
  | reset => .reset

end ProcessorEffect

namespace Processor

/-- The processor after power-on. -/
def powerOn : Processor where
  registers := .ofList
    ([("A", "00"), ("B", "00"), ("C", "00"), ("D", "00"), ("E", "00"), ("H", "00"), ("L", "00"),
      ("SP", "0000"), ("PC", "0000")])
  flags := .ofList [("S", false), ("Z", false), ("AC", false), ("P", false), ("C", false)]
  memory := .empty

/-- The processor after a change. -/
def act (processor : Processor) : ProcessorAction → Processor
  | .apply update =>
    { registers := update.registers.getD processor.registers
      flags := update.flags.getD processor.flags
      memory := update.memory.getD processor.memory }
  | .reset => powerOn
  | .setMemory address value => { processor with memory := processor.memory.insert address value }
  | .clearMemory => { processor with memory := .empty }

def register? (name : String) (processor : Processor) : Option String :=
  processor.registers.find? name

/-- Names of the flags that are set. -/
def activeFlags (processor : Processor) : List String :=
  (processor.flags.entries.filter Prod.snd).map Prod.fst

end Processor

end AsmNotebook
