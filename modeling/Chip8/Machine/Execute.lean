/-
  Executing one instruction. The word is looked up in the machine's table, the operation of its
  row is performed, the program counter moves on if the row says so, and the instruction is
  counted. An operation that stops half-way keeps what it did, and is not counted.
-/
import Chip8.Machine.Basic

namespace Chip8.Emulator

variable {δ : Type}

/-- Stores a byte at an address. -/
def store (address : Int) (value : Byte) : Act (Emulator δ) Unit :=
  tryMemory (·.store address value)

/-- Stores the three decimal digits of a register at the index. -/
def storeDecimal (x : Register) : Act (Emulator δ) Unit := do
  let e ← get
  let value := (e.machine.cpu.get x).toNat
  let address := e.machine.cpu.i
  store address (BitVec.ofNat 8 (value / 100))
  store (address + 1) (BitVec.ofNat 8 (value % 100 / 10))
  store (address + 2) (BitVec.ofNat 8 (value % 10))

/-- Stores the register number `k` at `k` bytes above the index. -/
def storeRegister (k : Nat) : Act (Emulator δ) Unit := do
  let c := (← get).machine.cpu
  store (c.i + k) (c.get (Register.ofNat k))

/-- Loads the register number `k` from `k` bytes above the index. -/
def loadRegister (k : Nat) : Act (Emulator δ) Unit := fun e =>
  match e.machine.memory.load (e.machine.cpu.i + k) with
  | .ok b => .ok () (e.mapCpu (·.set (Register.ofNat k) b))
  | .error fault => .error fault e

/-- The registers up to `x`, one after the other. -/
def eachRegister (x : Register) (act : Nat → Act (Emulator δ) Unit) : Act (Emulator δ) Unit :=
  (List.range (x.val + 1)).forM act

/-- Puts a random byte, masked, into a register. -/
def loadRandom (x : Register) (mask : Byte) (e : Emulator δ) : Emulator δ :=
  let (b, source) := e.machine.random.next
  e.mapMachine fun m => { m with random := source, cpu := m.cpu.set x (b &&& mask) }

/-- Puts the pressed key into a register. Without a key the program counter goes back, so that
moving on leads to the same instruction again. -/
def waitKey (x : Register) (e : Emulator δ) : Emulator δ :=
  let key := e.machine.keyboard.key
  if key = 0 then
    let e := e.mapCpu (·.rewind)
    e.mapHost (·.log "input" ("waiting for key pc=" ++ Numeral.hex 4 e.machine.cpu.pc))
  else e.mapCpu (·.set x key)

variable [Screen δ]

def clearScreen (e : Emulator δ) : Emulator δ := e.withStage (Screen.clear e.stage)

/-- Draws the sprite at the index, `count` rows high, at the place that two registers give. The
flag register tells whether a lit cell was met. -/
def drawSprite (x y : Register) (count : Nat) : Act (Emulator δ) Unit := fun e =>
  let c := e.machine.cpu
  let memory := e.machine.memory
  let finish (s : Sprite.Canvas δ) : Emulator δ :=
    (e.withStage s.screen).mapCpu (·.set flagRegister (if s.hit then 1 else 0))
  resultWithin finish
    (Sprite.draw e.machine.hint (fun row => memory.load (c.i + row)) (c.get x).toNat
      (c.get y).toNat count ⟨e.stage, false⟩)

/-- What an operation does with the fields of the instruction word. -/
def perform (op : Operation) (w : Word) : Act (Emulator δ) Unit :=
  let x := w.x
  let y := w.y
  match op with
  | .clearScreen => modify clearScreen
  | .ret => onCpu Cpu.ret
  | .jump => modify (mapCpu (·.jump w.nnn))
  | .call => tryCpu (·.call w.nnn)
  | .skipIfEqual => modify (mapCpu fun c => c.skipIf (c.get x == w.kk))
  | .skipIfNotEqual => modify (mapCpu fun c => c.skipIf (c.get x != w.kk))
  | .loadByte => modify (mapCpu (·.set x w.kk))
  | .addByte => modify (mapCpu fun c => c.set x (c.get x + w.kk))
  | .copy => modify (mapCpu fun c => c.set x (c.get y))
  | .and => modify (mapCpu fun c => c.set x (c.get x &&& c.get y))
  | .xor => modify (mapCpu fun c => c.set x (c.get x ^^^ c.get y))
  | .add => modify (mapCpu (·.add x y))
  | .subtract => modify (mapCpu (·.subtract x y))
  | .shiftRight => modify (mapCpu (·.shiftRight x))
  | .loadIndex => modify (mapCpu (·.loadIndex w.nnn))
  | .random => modify (loadRandom x w.kk)
  | .draw => drawSprite x y w.n
  | .skipIfKey => modify fun e => e.mapCpu fun c => c.skipIf (e.machine.keyboard.key == c.get x)
  | .skipIfNotKey =>
    modify fun e => e.mapCpu fun c => c.skipIf (e.machine.keyboard.key != c.get x)
  | .readDelay => tryCpu (·.readDelay x)
  | .waitKey => modify (waitKey x)
  | .setDelay => modify (mapCpu (·.setDelay x))
  | .setSound => modify (mapCpu (·.setSound x))
  | .addIndex => modify (mapCpu (·.addIndex x))
  | .pointAtGlyph => modify (mapCpu (·.pointAtGlyph x))
  | .storeDecimal => storeDecimal x
  | .storeRegisters => eachRegister x storeRegister
  | .loadRegisters => eachRegister x loadRegister

/-- The message about an instruction that is about to run. -/
def instructionText (pc : Int) (w : Word) (text : Text) : Text :=
  "pc=" ++ Numeral.hex 4 pc ++ " " ++ Numeral.hex 4 w.toNat ++ " " ++ text

/-- Prints the instruction, if processor messages are on. -/
def logInstruction (row : Opcode) (w : Word) : Act (Emulator δ) Unit := do
  let e ← get
  if e.host.isLogging "cpu" then
    let text ← Act.ofExcept (row.format w)
    onHost (Host.tryLog "cpu" (instructionText e.machine.cpu.pc w text))

/-- After an operation has succeeded. -/
def complete (row : Opcode) (e : Emulator δ) : Emulator δ :=
  let e := if row.advances then e.mapCpu (·.advance) else e
  e.mapMachine fun m => { m with executed := m.executed + 1 }

/-- What the handler of a row can be. -/
inductive Handler where
  | operation (op : Operation)
  | part (part : ProcessorPart)
deriving DecidableEq, Repr

/-- The handler of the given name, if the processor has one. -/
def handler? (m : Machine δ) (name : Text) : Option Handler := do
  let name ← name.string?
  match Operation.ofName? name with
  | some op => return .operation op
  | none =>
    if name == "PIXEL_HINT" then return .part (.refusing (.value m.hint.kind))
    else (ProcessorPart.ofName? name).map .part

/-- The processor as it was made, but with no table to look instructions up in. -/
def startOver : Emulator δ → Emulator δ :=
  mapMachine fun m => { m with cpu := {}, executed := 0, hint := Number.one, table := none }

/-- Hands an instruction word to a handler. -/
def handle (name : Text) (handler : Handler) (w : Word) : Act (Emulator δ) Unit :=
  match handler with
  | .operation op => perform op w
  | .part (.refusing refusal) => throw (.unfitHandler name refusal)
  | .part .idle => pure ()
  | .part .startOver => modify startOver

/-- Executes an instruction word that belongs to a row. -/
def executeRow (row : Opcode) (w : Word) : Act (Emulator δ) Unit := do
  match handler? (← get).machine row.handler with
  | none => throw (.missingHandler row.handler)
  | some handler =>
    logInstruction row w
    handle row.handler handler w
    modify (complete row)

/-- Executes an instruction word. -/
def execute (w : Word) : Act (Emulator δ) Unit := do
  match (← get).machine.table with
  | none => throw .tableLost
  | some table =>
    match table.lookup w with
    | none => throw (.unknownInstruction w)
    | some row => executeRow row w

/-- Fetches and executes the next instruction, and returns its word. -/
def step : Act (Emulator δ) Word := do
  let w ← fetch
  execute w
  return w

end Chip8.Emulator
