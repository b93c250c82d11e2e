/-
**A machine of cells.**

This is the machine as it is built: registers are numbers with a mask, rows are reached by computed
places, and an opcode is taken apart by masks and shifts. Nothing here holds a number below its
bound by its type; each sum, difference, product, shift and place is checked, and only what is meant
to wrap is reduced (`Cells.rewind`, the byte arithmetic, and the masks of memory and registers).

`Cells.operate` does what an owner may do with a machine, and ends at the first overrun.
-/

import Arcade.Proofs.Machine.Checked
import Arcade.Proofs.Machine.Operation

namespace Arcade

open Checked

/-! ### Cells -/

/-- A cell that holds a number, with a mask for what it has room for. -/
structure Cell where
  value : Nat
  mask : Nat

namespace Cell

/-- An empty cell of some bits, thirty-two at most. -/
def ofBits (bits : Nat) : Checked Cell :=
  if 32 ≤ bits then .ok ⟨0, 2 ^ 32 - 1⟩
  else do
    let above ← shiftLeft 32 1 bits
    let mask ← difference above 1
    .ok ⟨0, mask⟩

/-- An empty cell of some bytes. -/
def ofBytes (bytes : Nat) : Checked Cell := do
  let bits ← product 32 bytes 8
  ofBits bits

/-- The cell with a number stored as far as there is room for it. -/
def set (cell : Cell) (number : Nat) : Cell := { cell with value := number &&& cell.mask }

/-- The cell counted down by one, unless it is at zero. -/
def countDown (cell : Cell) : Checked Cell :=
  if 0 < cell.value then do
    let less ← difference cell.value 1
    .ok (cell.set less)
  else .ok cell

end Cell

/-- The operands that an opcode may have. -/
structure Operands where
  op : Nat
  x : Nat
  y : Nat
  n : Nat
  nn : Nat
  nnn : Nat

/-- An opcode taken apart. -/
def Operands.ofWord (word : Nat) : Checked Operands := do
  let op ← shiftRight 16 (word &&& 0xF000) 12
  let x ← shiftRight 16 (word &&& 0x0F00) 8
  let y ← shiftRight 16 (word &&& 0x00F0) 4
  .ok ⟨op % 2 ^ 8, x, y, (word &&& 0x000F) % 2 ^ 8, (word &&& 0x00FF) % 2 ^ 8, word &&& 0x0FFF⟩

/-- The word with the given upper and lower byte. -/
def wordOfBytes (upper lower : Nat) : Checked Nat := do
  let upper ← shiftLeft 16 upper 8
  .ok (upper ||| lower)

/-! ### The picture -/

/-- A picture with one number for each pixel. -/
abbrev Pixels := Vector Nat displaySize

namespace Pixels

/-- Flips one pixel if the value's lowest bit is set; says whether a lit pixel was erased. -/
def set (pixels : Pixels) (column row value : Nat) : Checked (Bool × Pixels) := do
  let above ← product 64 (row % displayHeight) displayWidth
  let place ← sum 64 (column % displayWidth) above
  let old ← read pixels place
  let new := old ^^^ (value &&& 1)
  let pixels ← write pixels place new
  .ok (old == 1 && new == 0, pixels)

/-- Draws some pixels of one row of a sprite. -/
def drawRow (pixels : Pixels) (erased : Bool) (pattern column row : Nat) :
    (offsets : List Nat) → Checked (Bool × Pixels)
  | [] => .ok (erased, pixels)
  | offset :: rest => do
    let distance ← difference 7 offset
    let shifted ← shiftRight 8 pattern distance
    if shifted &&& 1 == 1 then
      let place ← sum 64 column offset
      let (erases, pixels) ← pixels.set place row 1
      pixels.drawRow (erased || erases) pattern column row rest
    else
      pixels.drawRow erased pattern column row rest

/-- Draws the rows of a sprite from a given one on. -/
def draw (pixels : Pixels) (erased : Bool) (column row offset : Nat) :
    (sprite : List Nat) → Checked (Bool × Pixels)
  | [] => .ok (erased, pixels)
  | pattern :: rest => do
    let place ← sum 64 row offset
    let (erased, pixels) ← pixels.drawRow erased pattern column place (List.range 8)
    pixels.draw erased column row (offset + 1) rest

end Pixels

/-! ### The machine -/

/-- A machine with the clock that its timers go by in real time. -/
structure Cells where
  counter : Cell
  index : Cell
  registers : Vector Cell registerCount
  delay : Cell
  sound : Cell
  /-- A bit for each key. -/
  keys : Nat
  memory : Vector Nat memorySize
  slots : Vector Nat stackLimit
  depth : Nat
  picture : Pixels
  random : RandomSource
  timerMode : TimerMode
  timer : Clock

namespace Cells

/-- The byte at an address, which wraps. -/
def byteAt (cells : Cells) (address : Nat) : Checked Nat :=
  read cells.memory (address &&& (memorySize - 1))

/-- The machine with a byte written at an address, which wraps. -/
def setByteAt (cells : Cells) (address value : Nat) : Checked Cells := do
  let memory ← write cells.memory (address &&& (memorySize - 1)) ((value &&& 0xFF) % 2 ^ 8)
  .ok { cells with memory }

/-- The machine with a block of bytes written at some distance from an address. -/
def loadBlock (cells : Cells) (address offset : Nat) : (block : List UInt8) → Checked Cells
  | [] => .ok cells
  | byte :: rest => do
    let place ← sum 64 address offset
    let cells ← cells.setByteAt place byte.toNat
    cells.loadBlock address (offset + 1) rest

/-- The value of a general register. -/
def v (cells : Cells) (x : Nat) : Checked Nat := do
  let cell ← read cells.registers (x &&& 0xF)
  .ok (cell.value % 2 ^ 8)

/-- The machine with a general register set. -/
def setV (cells : Cells) (x number : Nat) : Checked Cells := do
  let cell ← read cells.registers (x &&& 0xF)
  let registers ← write cells.registers (x &&& 0xF) (cell.set number)
  .ok { cells with registers }

/-- The machine with the flag set to one or zero. -/
def setFlag (cells : Cells) (flag : Bool) : Checked Cells := cells.setV 0xF flag.toNat

/-- The machine with a result and then the flag written. -/
def setResult (cells : Cells) (x number : Nat) (flag : Bool) : Checked Cells := do
  let cells ← cells.setV x number
  cells.setFlag flag

/-- The program counter. -/
def pc (cells : Cells) : Nat := cells.counter.value % 2 ^ 16

/-- The index. -/
def address (cells : Cells) : Nat := cells.index.value % 2 ^ 16

/-- The machine with its program counter at an address. -/
def jump (cells : Cells) (address : Nat) : Cells :=
  { cells with counter := cells.counter.set address }

/-- The machine with its index at an address. -/
def setIndex (cells : Cells) (address : Nat) : Cells :=
  { cells with index := cells.index.set address }

/-- The machine with the next instruction passed over. -/
def skip (cells : Cells) : Checked Cells := do
  let next ← sum 32 cells.counter.value 2
  .ok (cells.jump next)

/-- The machine with the next instruction passed over under a condition. -/
def skipIf (cells : Cells) (condition : Bool) : Checked Cells :=
  if condition then cells.skip else .ok cells

/-- The machine moved back to the previous instruction; the difference is meant to wrap. -/
def rewind (cells : Cells) : Cells := cells.jump ((cells.counter.value + (2 ^ 32 - 2)) % 2 ^ 32)

/-- Counts both timers down. -/
def tickTimers (cells : Cells) : Checked Cells := do
  let delay ← cells.delay.countDown
  let sound ← cells.sound.countDown
  .ok { cells with delay, sound }

/-- Opens a call, unless every slot is in use. -/
def push (cells : Cells) (address : Nat) : Checked (Except Fault Cells) :=
  if stackLimit ≤ cells.depth then .ok (.error .stackOverflow)
  else do
    let slots ← write cells.slots cells.depth address
    let depth ← sum 64 cells.depth 1
    .ok (.ok { cells with slots, depth })

/-- Closes the youngest call and returns its address, unless none is open. -/
def pop (cells : Cells) : Checked (Except Fault (Nat × Cells)) :=
  if cells.depth = 0 then .ok (.error .stackUnderflow)
  else do
    let depth ← difference cells.depth 1
    let address ← read cells.slots depth
    .ok (.ok (address, { cells with depth }))

/-- The machine after a key went down or came up. -/
def setKey (cells : Cells) (key : Nat) (pressed : Bool) : Checked Cells := do
  let bit ← shiftLeft 16 1 key
  .ok { cells with
    keys := if pressed then cells.keys ||| bit else cells.keys &&& (bit ^^^ (2 ^ 16 - 1)) }

/-- Whether the key is down that the lowest four bits of a number name. -/
def isPressed (cells : Cells) (number : Nat) : Checked Bool := do
  let bit ← shiftLeft 16 1 (number &&& 0xF)
  .ok (cells.keys &&& bit != 0)

/-- The first of some keys that is down. -/
def firstPressed (cells : Cells) : (keys : List Nat) → Checked (Option Nat)
  | [] => .ok none
  | key :: rest => do
    if ← cells.isPressed key then .ok (some key) else cells.firstPressed rest

/-- The rows of the sprite at the index, by way of a buffer of fifteen rows. -/
def spriteRows (cells : Cells) (height : Nat) : Checked (List Nat) := do
  let buffer ← (List.range 15).mapM fun offset =>
    if offset < height then do
      let place ← sum 64 cells.address offset
      cells.byteAt place
    else .ok 0
  slice buffer height

/-- Draws the sprite at the index. The flag is cleared before the coordinates are read, and set if
a lit pixel is erased. -/
def drawSprite (cells : Cells) (x y height : Nat) : Checked Cells := do
  let cells ← cells.setFlag false
  let sprite ← cells.spriteRows height
  let column ← cells.v x
  let row ← cells.v y
  let (erased, picture) ← cells.picture.draw false column row 0 sprite
  let cells := { cells with picture }
  if erased then cells.setFlag true else .ok cells

/-- Stores the decimal digits of a register, hundreds first. -/
def storeDecimal (cells : Cells) (x : Nat) : Checked Cells := do
  let address := cells.address
  let value ← cells.v x
  let cells ← cells.setByteAt address (value / 100)
  let second ← sum 64 address 1
  let cells ← cells.setByteAt second (value / 10 % 10)
  let third ← sum 64 address 2
  cells.setByteAt third (value % 10)

/-- Stores the given registers in memory from an address on. -/
def saveRegisters (cells : Cells) (address : Nat) : (names : List Nat) → Checked Cells
  | [] => .ok cells
  | name :: rest => do
    let value ← cells.v name
    let place ← sum 64 address name
    let cells ← cells.setByteAt place value
    cells.saveRegisters address rest

/-- Reads the given registers from memory from an address on. -/
def restoreRegisters (cells : Cells) (address : Nat) : (names : List Nat) → Checked Cells
  | [] => .ok cells
  | name :: rest => do
    let place ← sum 64 address name
    let value ← cells.byteAt place
    let cells ← cells.setV name value
    cells.restoreRegisters address rest

/-! ### Opcodes -/

/-- Executes an arithmetic opcode. -/
def executeArithmetic (cells : Cells) (operands : Operands) : Checked (Flow × Cells) := do
  let x ← cells.v operands.x
  let y ← cells.v operands.y
  let result (number : Nat) : Checked (Flow × Cells) := do
    .ok (.plain, ← cells.setV operands.x number)
  let flagged (number : Nat) (flag : Bool) : Checked (Flow × Cells) := do
    .ok (.plain, ← cells.setResult operands.x number flag)
  match operands.n with
  | 0x0 => result y
  | 0x1 => result (x ||| y)
  | 0x2 => result (x &&& y)
  | 0x3 => result (x ^^^ y)
  | 0x4 => do
    let total ← sum 32 x y
    flagged total (0xFF < total)
  | 0x5 => flagged ((2 ^ 8 - y + x) % 2 ^ 8) (y < x)
  | 0x6 => do
    let half ← shiftRight 8 x 1
    flagged half (x &&& 1 == 1)
  | 0x7 => flagged ((2 ^ 8 - x + y) % 2 ^ 8) (x < y)
  | 0xE => do
    let twice ← shiftLeft 32 x 1
    let highest ← shiftRight 8 x 7
    flagged twice (highest &&& 1 == 1)
  | _ => .ok (.unsupported, cells)

/-- Executes an opcode about calls, the picture, keys, timers or memory. -/
def executeDevice (cells : Cells) (operands : Operands) : Checked (Except Fault Flow × Cells) := do
  let x := operands.x
  match operands.op, operands.nn with
  | 0x0, 0xE0 =>
    if x = 0 then
      .ok (.ok .plain, { cells with picture := Vector.replicate displaySize 0 })
    else .ok (.ok .unsupported, cells)
  | 0x0, 0xEE =>
    if x = 0 then
      match ← cells.pop with
      | .ok (address, popped) => .ok (.ok .jump, popped.jump address)
      | .error fault => .ok (.error fault, cells)
    else .ok (.ok .unsupported, cells)
  | 0xE, 0x9E => do
    let down ← cells.isPressed (← cells.v x)
    .ok (.ok .plain, ← cells.skipIf down)
  | 0xE, 0xA1 => do
    let down ← cells.isPressed (← cells.v x)
    .ok (.ok .plain, ← cells.skipIf !down)
  | 0xF, 0x07 => do .ok (.ok .plain, ← cells.setV x cells.delay.value)
  | 0xF, 0x0A =>
    match ← cells.firstPressed (List.range keyCount) with
    | some key => do .ok (.ok .plain, ← cells.setV x key)
    | none => .ok (.ok .keyWait, cells.rewind)
  | 0xF, 0x15 => do
    let value ← cells.v x
    .ok (.ok .plain, { cells with delay := cells.delay.set value })
  | 0xF, 0x18 => do
    let value ← cells.v x
    .ok (.ok .sound, { cells with sound := cells.sound.set value })
  | 0xF, 0x1E => do
    let value ← cells.v x
    let target ← sum 32 cells.index.value value
    .ok (.ok .plain, cells.setIndex target)
  | 0xF, 0x29 => do
    let value ← cells.v x
    let offset ← product 32 (value &&& 0xF) glyphHeight
    let target ← sum 32 fontStart.val offset
    .ok (.ok .plain, cells.setIndex target)
  | 0xF, 0x33 => do .ok (.ok .plain, ← cells.storeDecimal x)
  | 0xF, 0x55 => do
    .ok (.ok .plain, ← cells.saveRegisters cells.address (List.range (x + 1)))
  | 0xF, 0x65 => do
    .ok (.ok .plain, ← cells.restoreRegisters cells.address (List.range (x + 1)))
  | _, _ => .ok (.ok .unsupported, cells)

/-- Executes an opcode that the program counter points past. -/
def execute (cells : Cells) (opcode : Nat) : Checked (Except Fault Flow × Cells) := do
  let operands ← Operands.ofWord opcode
  let ⟨op, x, y, n, nn, nnn⟩ := operands
  let passed (condition : Bool) : Checked (Except Fault Flow × Cells) := do
    .ok (.ok .plain, ← cells.skipIf condition)
  match op with
  | 0x0 | 0xE | 0xF => cells.executeDevice operands
  | 0x1 => .ok (.ok .jump, cells.jump nnn)
  | 0x2 =>
    match ← cells.push cells.pc with
    | .ok pushed => .ok (.ok .jump, pushed.jump nnn)
    | .error fault => .ok (.error fault, cells)
  | 0x3 => do passed ((← cells.v x) == nn)
  | 0x4 => do passed ((← cells.v x) != nn)
  | 0x5 => do passed ((← cells.v x) == (← cells.v y))
  | 0x6 => do .ok (.ok .plain, ← cells.setV x nn)
  | 0x7 => do
    let value ← cells.v x
    .ok (.ok .plain, ← cells.setV x ((value + nn) % 2 ^ 8))
  | 0x8 => do
    let (flow, cells) ← cells.executeArithmetic operands
    .ok (.ok flow, cells)
  | 0x9 => do passed ((← cells.v x) != (← cells.v y))
  | 0xA => .ok (.ok .plain, cells.setIndex nnn)
  | 0xB => do
    let target ← sum 32 nnn (← cells.v 0)
    .ok (.ok .jump, cells.jump target)
  | 0xC => do
    let drawn := { cells with random := cells.random.next }
    .ok (.ok .plain, ← drawn.setV x (cells.random.byte.toNat &&& nn))
  | 0xD => do .ok (.ok .draw, ← cells.drawSprite x y n)
  | _ => .ok (.ok .unsupported, cells)

/-- The opcode at the program counter, and the machine that moved past it. -/
def fetch (cells : Cells) : Checked (Nat × Cells) := do
  let upper ← cells.byteAt cells.pc
  let behind ← sum 64 cells.pc 1
  let lower ← cells.byteAt behind
  let opcode ← wordOfBytes upper lower
  .ok (opcode, ← cells.skip)

/-! ### Operations -/

open Operation (Result)

/-- The machine with another state of its clock. -/
def setTimer (cells : Cells) (timer : Clock) : Cells := { cells with timer }

/-- The machine with the font in its memory. -/
def loadFont (cells : Cells) : Checked Cells := cells.loadBlock fontStart.val 0 font

/-- A machine of the given empty cells, with nothing in its memory. -/
def blank (counter index register : Cell) (timerMode : TimerMode) (random : RandomSource)
    (timer : Clock) : Cells where
  counter := counter
  index := index
  registers := Vector.replicate registerCount register
  delay := register
  sound := register
  keys := 0
  memory := Vector.replicate memorySize 0
  slots := Vector.replicate stackLimit 0
  depth := 0
  picture := Vector.replicate displaySize 0
  random := random
  timerMode := timerMode
  timer := timer

/-- A machine without a program, whose clock was started at a moment. -/
def new (timerMode : TimerMode) (random : RandomSource) (now : Moment) : Checked Cells := do
  let counter ← Cell.ofBits 12
  let register ← Cell.ofBytes 1
  let index ← Cell.ofBytes 2
  let timer : Clock := ⟨now, Span.ofHertz timerFrequency⟩
  (blank counter index register timerMode random timer).loadFont

/-- The machine with memory, stack and picture erased. -/
def clear (cells : Cells) : Cells :=
  { cells with
    memory := Vector.replicate memorySize 0
    slots := Vector.replicate stackLimit 0
    depth := 0
    picture := Vector.replicate displaySize 0 }

/-- Loads a program in place of the one before, if it fits. -/
def load (cells : Cells) (program : List UInt8) (now : Moment) :
    Checked (Except MachineError Unit × Cells) := do
  let limit ← difference memorySize programStart.val
  if program.length ≤ limit then
    let cells ← cells.clear.loadFont
    let cells ← cells.loadBlock programStart.val 0 program
    .ok (.ok (), (cells.jump programStart.val).setTimer (cells.timer.reset now))
  else .ok (.error .programTooLarge, cells)

/-- Counts the timers down after an instruction, as the mode says. -/
def countDown (cells : Cells) (now : Moment) : Checked Cells :=
  match cells.timerMode with
  | .perInstruction => cells.tickTimers
  | .realtime =>
    let (due, timer) := cells.timer.tick now
    if due then (cells.setTimer timer).tickTimers else .ok (cells.setTimer timer)

/-- Fetches and executes one opcode at a moment, and counts the timers down if that succeeds. -/
def step (cells : Cells) (now : Moment) : Checked (Except Fault Flow × Cells) := do
  let (opcode, cells) ← cells.fetch
  let (flow, cells) ← cells.execute opcode
  match flow with
  | .ok flow => do .ok (.ok flow, ← cells.countDown now)
  | .error fault => .ok (.error fault, cells)

/-- Steps once at each moment, until a step fails. -/
def cycle (cells : Cells) : (moments : List Moment) → Checked (Option Fault × Cells)
  | [] => .ok (none, cells)
  | now :: later => do
    let (flow, cells) ← cells.step now
    match flow with
    | .ok _ => cells.cycle later
    | .error fault => .ok (some fault, cells)

/-- What an operation returns, and what is left after it. -/
def operate (cells : Cells) : Operation → Checked (Result × Cells)
  | .load program now => do
    match ← cells.load program now with
    | (.ok (), cells) => .ok (.done, cells)
    | (.error error, cells) => .ok (.failed error, cells)
  | .fetch => do
    let (opcode, cells) ← cells.fetch
    .ok (.fetched ⟨UInt16.ofNat opcode⟩, cells)
  | .execute opcode => do
    match ← cells.execute opcode.toNat with
    | (.ok flow, cells) => .ok (.flowed flow, cells)
    | (.error fault, cells) => .ok (.failed (.fault fault), cells)
  | .step now => do
    match ← cells.step now with
    | (.ok flow, cells) => .ok (.flowed flow, cells)
    | (.error fault, cells) => .ok (.failed (.fault fault), cells)
  | .cycle moments => do
    match ← cells.cycle moments with
    | (none, cells) => .ok (.done, cells)
    | (some fault, cells) => .ok (.failed (.fault fault), cells)
  | .countDown => do .ok (.done, ← cells.tickTimers)
  | .press event => do .ok (.done, ← cells.setKey event.key.val event.pressed)

/-- What is left after some operations. -/
def run (cells : Cells) : (operations : List Operation) → Checked Cells
  | [] => .ok cells
  | operation :: later => do
    let (_, cells) ← cells.operate operation
    cells.run later

end Cells

end Arcade
