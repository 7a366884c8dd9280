/-
**Executing instructions.**

* `Kernel.readOperand`, `Kernel.writeOperand` — what an instruction works on.
* `Kernel.execute` — what an instruction does. A register is only written when nothing of the instruction
  can fail any more.
* `Kernel.step` — fetches, decodes and executes the next instruction.
-/

import StaticElf.Linux.Memory
import StaticElf.X86.Arithmetic
import StaticElf.X86.Decoder

namespace StaticElf.Linux

open X86 (Operand Address Segment Flag Outcome VectorOperand ax cx dx bx sp bp si di)

/-- What follows an instruction. -/
inductive Sequel where
  /-- The instruction at an address. -/
  | proceed (address : UInt64)
  /-- A system call. -/
  | call
  /-- A system call in the way of 32-bit programs. -/
  | oldCall
  deriving DecidableEq, Repr

/-- The fault of what is no instruction. -/
def illegalInstruction (address : UInt64) : SignalInfo :=
  { signal := Signal.illegal, code := 2, detail := [address] }

/-- The fault of a quotient that does not fit. -/
def divisionFault (address : UInt64) : SignalInfo :=
  { signal := Signal.arithmetic, code := 1, detail := [address] }

namespace Kernel

/-! ### Registers and operands -/

def register (index : Fin 16) : Kernel UInt64 := do return (← get).cpu.get index

def setRegister (index : Fin 16) (value : UInt64) : Kernel Unit :=
  modifyCpu (·.set index value)

def flags : Kernel UInt64 := do return (← get).cpu.flags

def setFlags (flags : UInt64) : Kernel Unit := modifyCpu fun cpu => { cpu with flags }

/-- Writes a part of a register. -/
def assign (destination : Machine.Destination) (value : UInt64) : Kernel Unit :=
  modifyCpu fun cpu => { cpu with registers := cpu.registers.assign destination value }

/-- Stops with a fault. -/
def raise {α : Type} (info : SignalInfo) : Kernel α := throw (.fault info)

/-- The base of a segment. -/
def segmentBase : Segment → Kernel UInt64
  | .flat => return 0
  | .fs => do return (← get).cpu.fsBase
  | .gs => do return (← get).cpu.gsBase

/-- The address of a place in memory, without its segment. -/
def offsetOf (next : UInt64) (address : Address) : Kernel UInt64 := do
  let cpu := (← get).cpu
  let base := match address.base with
    | some register => cpu.get register
    | none => if address.fromNext then next else 0
  let index := match address.index with
    | some register => cpu.get register <<< address.scale
    | none => 0
  let offset := base + index + address.displacement
  return if address.narrow then offset &&& 0xffffffff else offset

/-- A place on the stack. -/
def onStack (place : UInt64) : Kernel UInt64 :=
  if isAddress place then return place else raise stackFault

/-- The address of a place in memory. -/
def locate (next : UInt64) (address : Address) : Kernel UInt64 := do
  let place := (← segmentBase address.segment) + (← offsetOf next address)
  if address.onStack then onStack place else return place

def readOperand (next : UInt64) (width : OperandWidth) : Operand → Kernel UInt64
  | .register index => do return (← register index) &&& width.mask
  | .secondByte index => do
    return ((← register (X86.registerOf index.val)) >>> 8) &&& 0xff
  | .memory address => do load (← locate next address) width.bytes
  | .immediate value => return value &&& width.mask

def writeOperand (next : UInt64) (width : OperandWidth) (operand : Operand) (value : UInt64) :
    Kernel Unit :=
  match operand with
  | .register index => assign (.low index width) value
  | .secondByte index => assign (.secondByte index) value
  | .memory address => do store (← locate next address) width.bytes value
  | .immediate _ => pure ()

/-- Writes a result, then sets the flags. -/
def conclude (next : UInt64) (width : OperandWidth) (operand : Operand) (outcome : Outcome) :
    Kernel Unit := do
  writeOperand next width operand outcome.value
  setFlags outcome.flags

/-! ### The stack -/

/-- Puts a number on the stack. -/
def push (width : OperandWidth) (value : UInt64) : Kernel Unit := do
  let top ← onStack ((← register sp) - UInt64.ofNat width.bytes)
  store top width.bytes value
  setRegister sp top

/-- Takes a number from the stack. -/
def pop (width : OperandWidth) : Kernel UInt64 := do
  let top ← onStack (← register sp)
  let value ← load top width.bytes
  setRegister sp (top + UInt64.ofNat width.bytes)
  return value

/-- Does an action; the stack pointer is as before when it stops. -/
def keepingStack {α : Type} (action : Kernel α) : Kernel α := do
  let top ← register sp
  tryCatch action fun stop => do
    setRegister sp top
    throw stop

/-- Makes room on the stack for a procedure, with the frames of those around it. -/
def enterFrames : (levels : Nat) → (frame : UInt64) → Kernel Unit
  | 0, _ => pure ()
  | levels + 1, frame => do
    let frame := frame - 8
    push .qword (← load (← onStack frame) 8)
    enterFrames levels frame

def enter (size : UInt64) (level : Nat) : Kernel Unit := keepingStack do
  let caller ← register bp
  push .qword caller
  let frame ← register sp
  if 0 < level then
    enterFrames (level - 1) caller
    push .qword frame
  let _ ← touch .write ((← register sp) - size).toNat
  setRegister bp frame
  setRegister sp ((← register sp) - size)

/-! ### Strings -/

/-- A register as an address or a counter. -/
def cut (narrow : Bool) (value : UInt64) : UInt64 := if narrow then value &&& 0xffffffff else value

/-- Moves a register on to the next element. -/
def advance (narrow : Bool) (index : Fin 16) (bytes : Nat) : Kernel Unit := do
  let distance := UInt64.ofNat bytes
  let value ← register index
  let backwards := (← flags) &&& Flag.direction != 0
  setRegister index (cut narrow (if backwards then value - distance else value + distance))

/-- Does a string operation once. -/
def stringOnce (action : X86.StringAction) (width : OperandWidth) (segment : Segment)
    (narrow : Bool) : Kernel Unit := do
  let base ← segmentBase segment
  let source := base + cut narrow (← register si)
  let target := cut narrow (← register di)
  let bytes := width.bytes
  match action with
  | .move =>
    let value ← load source bytes
    store target bytes value
    advance narrow si bytes
    advance narrow di bytes
  | .compare =>
    let right ← load target bytes
    let left ← load source bytes
    setFlags (X86.sub width (← flags) left right 0).flags
    advance narrow si bytes
    advance narrow di bytes
  | .store =>
    store target bytes (← register ax)
    advance narrow di bytes
  | .load =>
    let value ← load source bytes
    assign (.low ax width) value
    advance narrow si bytes
  | .scan =>
    let right ← load target bytes
    let left := (← register ax) &&& width.mask
    setFlags (X86.sub width (← flags) left right 0).flags
    advance narrow di bytes

/-- Whether a string operation goes on after an element. -/
def goesOn (action : X86.StringAction) (repetition : X86.Repetition) (flags : UInt64) : Bool :=
  match action with
  | .compare | .scan => (flags &&& Flag.zero != 0) == (repetition = .whileEqual)
  | _ => true

/-- Does a string operation for at most so many elements, and says whether it is finished. -/
def stringMany (action : X86.StringAction) (width : OperandWidth) (repetition : X86.Repetition)
    (segment : Segment) (narrow : Bool) : (most : Nat) → Kernel Bool
  | 0 => return false
  | most + 1 => do
    let count := cut narrow (← register cx)
    if count = 0 then return true
    stringOnce action width segment narrow
    setRegister cx (count - 1)
    if goesOn action repetition (← flags) then
      stringMany action width repetition segment narrow most
    else return true

/-! ### Bits -/

/-- The place of a bit, and its number there. A register can name a bit of another place in memory. -/
def bitPlace (next : UInt64) (width : OperandWidth) (target index : Operand) :
    Kernel (Operand × UInt64) := do
  let number ← readOperand next width index
  let within := number &&& UInt64.ofNat (width.bits - 1)
  match target, index with
  | .memory address, .register _ =>
    let distance := width.toInt number / (width.bits : Int) * (width.bytes : Int)
    return (.memory { address with
      displacement := address.displacement + UInt64.ofInt distance }, within)
  | _, _ => return (target, within)

def bit (next : UInt64) (action : X86.BitAction) (width : OperandWidth) (target index : Operand) :
    Kernel Unit := do
  let (place, number) ← bitPlace next width target index
  let value ← readOperand next width place
  let one : UInt64 := 1 <<< number
  match action with
  | .test => pure ()
  | .set => writeOperand next width place (value ||| one)
  | .reset => writeOperand next width place (value &&& ~~~one)
  | .complement => writeOperand next width place (value ^^^ one)
  setFlags (((← flags) &&& ~~~Flag.carry) ||| Flag.ifSo (value &&& one != 0) Flag.carry)

def search (next : UInt64) (action : X86.BitSearch) (width : OperandWidth)
    (target source : Operand) : Kernel Unit := do
  let value ← readOperand next width source
  let before ← flags
  let plain := before &&& ~~~Flag.status
  let found (result : Nat) (flags : UInt64) : Kernel Unit := do
    writeOperand next width target (UInt64.ofNat result)
    setFlags flags
  let place (result : Nat) : Kernel Unit :=
    found result (plain ||| Flag.ifSo (Flag.evenOnes (UInt64.ofNat result)) Flag.parity)
  match action with
  | .lowest =>
    if value = 0 then setFlags (plain ||| Flag.zero ||| Flag.parity)
    else place (X86.trailingZeros value width.bits)
  | .highest =>
    if value = 0 then setFlags (plain ||| Flag.zero ||| Flag.parity)
    else place (X86.bitLength value - 1)
  | .trailingZeros =>
    let result := X86.trailingZeros value width.bits
    found result (plain ||| Flag.ifSo (value == 0) Flag.carry ||| Flag.ifSo (result == 0) Flag.zero)
  | .leadingZeros =>
    let result := width.bits - X86.bitLength value
    found result (plain ||| Flag.ifSo (value == 0) Flag.carry ||| Flag.ifSo (result == 0) Flag.zero)
  | .count => found (X86.onesIn value 64) (plain ||| Flag.ifSo (value == 0) Flag.zero)

/-! ### Products, quotients and exchanges -/

def multiply (next : UInt64) (signed : Bool) (width : OperandWidth) (source : Operand) :
    Kernel Unit := do
  let left := (← register ax) &&& width.mask
  let right ← readOperand next width source
  let (low, high) := X86.product signed width left right
  if width = .byte then assign (.low ax .word) ((high <<< 8) ||| low)
  else
    assign (.low ax width) low
    assign (.low dx width) high
  setFlags (X86.productFlags width (← flags) low (X86.exceeds signed width low high))

def divide (here next : UInt64) (signed : Bool) (width : OperandWidth) (source : Operand) :
    Kernel Unit := do
  let divisor ← readOperand next width source
  let accumulator ← register ax
  let data ← register dx
  let low := accumulator &&& width.mask
  let high := if width = .byte then (accumulator >>> 8) &&& 0xff else data &&& width.mask
  match X86.quotient? signed width low high divisor with
  | none => raise (divisionFault here)
  | some (quotient, remainder) =>
    if width = .byte then assign (.low ax .word) ((remainder <<< 8) ||| quotient)
    else
      assign (.low ax width) quotient
      assign (.low dx width) remainder

def compareExchange (next : UInt64) (width : OperandWidth) (target source : Operand) :
    Kernel Unit := do
  let old ← readOperand next width target
  let accumulator := (← register ax) &&& width.mask
  let outcome := X86.sub width (← flags) accumulator old 0
  if accumulator = old then writeOperand next width target (← readOperand next width source)
  else
    if target.isMemory then writeOperand next width target old
    assign (.low ax width) old
  setFlags outcome.flags

def compareExchangePair (next : UInt64) (width : OperandWidth) (address : Address) :
    Kernel Unit := do
  let place ← locate next address
  let second := place + UInt64.ofNat width.bytes
  if width = .qword && place % 16 != 0 then raise generalFault
  let low ← load place width.bytes
  let high ← load second width.bytes
  let equal := low = (← register ax) &&& width.mask && high = (← register dx) &&& width.mask
  let newLow ← if equal then register bx else pure low
  let newHigh ← if equal then register cx else pure high
  let _ ← touch .write second.toNat
  store place width.bytes newLow
  store second width.bytes newHigh
  if !equal then
    assign (.low ax width) low
    assign (.low dx width) high
  setFlags (((← flags) &&& ~~~Flag.zero) ||| Flag.ifSo equal Flag.zero)

/-! ### Vectors -/

/-- The two halves of a vector register. -/
def vector (index : Fin 16) : Kernel (UInt64 × UInt64) := do
  let vectors := (← get).cpu.vectors
  return (vectors.getD (2 * index.val) 0, vectors.getD (2 * index.val + 1) 0)

def setVector (index : Fin 16) (low high : UInt64) : Kernel Unit :=
  modifyCpu fun cpu => { cpu with
    vectors := (cpu.vectors.setIfInBounds (2 * index.val) low).setIfInBounds
      (2 * index.val + 1) high }

/-- The address of a vector in memory. -/
def locateVector (next : UInt64) (aligned : Bool) (address : Address) : Kernel UInt64 := do
  let place ← locate next address
  if aligned && place % 16 != 0 then raise generalFault
  return place

/-- A vector of so many bytes. -/
def readVector (next : UInt64) (bytes : Nat) (aligned : Bool) :
    VectorOperand → Kernel (UInt64 × UInt64)
  | .register index => vector index
  | .memory address => do
    let place ← locateVector next aligned address
    let low ← load place (min bytes 8)
    if bytes = 16 then return (low, ← load (place + 8) 8) else return (low, 0)

def moveVector (next : UInt64) (bytes : Nat) (aligned clears : Bool)
    (target source : VectorOperand) : Kernel Unit := do
  let aligned := aligned && bytes = 16
  let (low, high) ← readVector next bytes aligned source
  match target with
  | .register index =>
    let (oldLow, oldHigh) ← vector index
    let newLow := if bytes < 8 then
        (if clears then 0 else oldLow &&& 0xffffffff00000000) ||| (low &&& 0xffffffff)
      else low
    setVector index newLow (if bytes = 16 then high else if clears then 0 else oldHigh)
  | .memory address =>
    let place ← locateVector next aligned address
    if bytes = 16 then
      let _ ← touch .write (place + 8).toNat
      store place 8 low
      store (place + 8) 8 high
    else store place bytes low

def combineVectors (next : UInt64) (action : X86.VectorAction) (target : Fin 16)
    (source : VectorOperand) : Kernel Unit := do
  let (low, high) ← readVector next 16 true source
  let (oldLow, oldHigh) ← vector target
  let combine (old other : UInt64) : UInt64 := match action with
    | .and => old &&& other
    | .andNot => ~~~old &&& other
    | .or => old ||| other
    | .xor => old ^^^ other
  setVector target (combine oldLow low) (combine oldHigh high)

/-! ### The state of the processor -/

/-- Tells about the processor. -/
def identify : Kernel Unit := do
  if (← thread).featuresRefused then raise generalFault
  let leaf := (← register ax) &&& 0xffffffff
  let (a, b, c, d) : UInt64 × UInt64 × UInt64 × UInt64 :=
    if leaf = 0 then (0x20, 0x756e6547, 0x6c65746e, 0x49656e69)
    else if leaf = 0x80000000 then (0x80000008, 0, 0, 0)
    else (0, 0, 0, 0)
  setRegister ax a
  setRegister bx b
  setRegister cx c
  setRegister dx d

def readClock (withProcessor : Bool) : Kernel Unit := do
  if (← thread).clockRefused then raise generalFault
  let time := UInt64.ofNat (2 * (← get).clock + 0x100000000)
  setRegister ax (time &&& 0xffffffff)
  setRegister dx (time >>> 32)
  if withProcessor then setRegister cx 0

def writeKeyRights : Kernel Unit := do
  if (← register cx) &&& 0xffffffff != 0 || (← register dx) &&& 0xffffffff != 0 then
    raise generalFault
  let rights := (← register ax) &&& 0xffffffff
  modifyCpu fun cpu => { cpu with keyRights := rights }

def writeBase (segment : Segment) (value : UInt64) : Kernel Unit := do
  if !isAddress value then raise generalFault
  modifyCpu fun cpu => if segment = .fs then { cpu with fsBase := value }
    else { cpu with gsBase := value }

/-- Loads a segment register. Few values are allowed, and they make the base of the segment zero. -/
def writeSegment (segment : Nat) (value : UInt64) : Kernel Unit := do
  let allowed := value = 0x2b || (segment ≠ 2 && (value < 4 || value = 0x33 || value = 0x23))
  if !allowed then raise generalFault
  if segment = 4 then modifyCpu fun cpu => { cpu with fsBase := 0 }
  if segment = 5 then modifyCpu fun cpu => { cpu with gsBase := 0 }

/-! ### Instructions -/

/-- What an instruction does that only changes registers and memory. -/
def executePlain (here next : UInt64) : X86.Instruction → Kernel Unit
  | .arithmetic action width target source => do
    let left ← readOperand next width target
    let right ← readOperand next width source
    let outcome := X86.arithmetic action width (← flags) left right
    if action = .compare then setFlags outcome.flags else conclude next width target outcome
  | .test width left right => do
    let value := (← readOperand next width left) &&& (← readOperand next width right)
    setFlags (X86.bitwise width (← flags) value).flags
  | .move width target source => do
    writeOperand next width target (← readOperand next width source)
  | .extend signed width narrow target source => do
    let value ← readOperand next narrow source
    writeOperand next width target (if signed then narrow.extend value else value)
  | .loadAddress width target address => do
    writeOperand next width target (← offsetOf next address)
  | .exchange width left right => do
    let first ← readOperand next width left
    let second ← readOperand next width right
    writeOperand next width left second
    writeOperand next width right first
  | .push width source => do push width (← readOperand next width source)
  | .pop width target => keepingStack do
    let value ← pop width
    writeOperand next width target value
  | .pushFlags width => do push width (((← flags) &&& 0x244fd5) ||| 2)
  | .popFlags width => do
    let value ← pop width
    let changed := Flag.changeable &&& width.mask
    setFlags (((← flags) &&& ~~~changed) ||| (value &&& changed))
  | .increment width target => do
    let before ← flags
    let outcome := X86.add width before (← readOperand next width target) 1 0
    conclude next width target (X86.keepCarry before outcome)
  | .decrement width target => do
    let before ← flags
    let outcome := X86.sub width before (← readOperand next width target) 1 0
    conclude next width target (X86.keepCarry before outcome)
  | .negate width target => do
    conclude next width target (X86.sub width (← flags) 0 (← readOperand next width target) 0)
  | .invert width target => do
    writeOperand next width target (~~~(← readOperand next width target))
  | .multiply signed width source => multiply next signed width source
  | .multiplyInto width target left right => do
    let first ← readOperand next width left
    let second ← readOperand next width right
    let (low, high) := X86.product true width first second
    let exceeded := X86.exceeds true width low high
    conclude next width target ⟨low, X86.productFlags width (← flags) low exceeded⟩
  | .divide signed width source => divide here next signed width source
  | .shift action width target count => do
    let value ← readOperand next width target
    let distance ← readOperand next .byte count
    let constant := count.isConstant && !target.isMemory
    conclude next width target (X86.shift action width (← flags) value constant distance)
  | .shiftDouble left width target source count => do
    let value ← readOperand next width target
    let other ← readOperand next width source
    let count ← readOperand next .byte count
    conclude next width target (X86.shiftDouble left width (← flags) value other count)
  | .enter size level => enter size level
  | .leave width => do
    let frame ← onStack (← register bp)
    let value ← load frame width.bytes
    setRegister sp (frame + UInt64.ofNat width.bytes)
    assign (.low bp width) value
  | .setIf condition target => do
    writeOperand next .byte target (if X86.holds condition (← flags) then 1 else 0)
  | .moveIf condition width target source => do
    let value ← readOperand next width source
    let old ← readOperand next width target
    writeOperand next width target (if X86.holds condition (← flags) then value else old)
  | .widen width => do
    assign (.low ax width) (width.half.extend (← register ax))
  | .spreadSign width => do
    assign (.low dx width) (if width.isNegative (← register ax) then width.mask else 0)
  | .bit action width target index => bit next action width target index
  | .search action width target source => search next action width target source
  | .swapBytes width target => do
    let value ← register target
    assign (.low target width)
      (if width = .word then 0 else X86.swapped (value &&& width.mask) width.bytes)
  | .compareExchange width target source => compareExchange next width target source
  | .compareExchangePair width address => compareExchangePair next width address
  | .exchangeAdd width target source => do
    let old ← readOperand next width target
    let outcome := X86.add width (← flags) old (← readOperand next width source) 0
    if target.isMemory then
      writeOperand next width target outcome.value
      writeOperand next width source old
    else
      writeOperand next width source old
      writeOperand next width target outcome.value
    setFlags outcome.flags
  | .moveSwapped width target source => do
    writeOperand next width target (X86.swapped (← readOperand next width source) width.bytes)
  | .changeFlags cleared toggled => do setFlags (((← flags) &&& ~~~cleared) ^^^ toggled)
  | .loadFlags => do
    assign (.secondByte ⟨0, Nat.zero_lt_succ 3⟩) (((← flags) &&& 0xd5) ||| 2)
  | .storeFlags => do
    let value := (← register ax) >>> 8
    setFlags (((← flags) &&& ~~~(0xd5 : UInt64)) ||| (value &&& 0xd5))
  | .lookUp segment narrow => do
    let offset := cut narrow ((← register bx) + ((← register ax) &&& 0xff))
    assign (.low ax .byte) (← load ((← segmentBase segment) + offset) 1)
  | .identify => identify
  | .readClock withProcessor => readClock withProcessor
  | .readKeyRights => do
    if (← register cx) &&& 0xffffffff != 0 then raise generalFault
    setRegister ax (← get).cpu.keyRights
    setRegister dx 0
  | .writeKeyRights => writeKeyRights
  | .readFeatures => do
    if (← register cx) &&& 0xffffffff != 0 then raise generalFault
    setRegister ax 0xe7
    setRegister dx 0
  | .readBase width segment target => do
    writeOperand next width target (← segmentBase segment)
  | .writeBase width segment source => do writeBase segment (← readOperand next width source)
  | .readSegment width value target => writeOperand next width target value
  | .writeSegment segment source => do writeSegment segment (← readOperand next .word source)
  | .random width target => do
    writeOperand next width target (UInt64.ofNat ((← get).clock * 6364136223846793005 + 1442695))
    setFlags (((← flags) &&& ~~~Flag.status) ||| Flag.carry)
  | .moveVector bytes aligned clears target source =>
    moveVector next bytes aligned clears target source
  | .vectorFromNumber width target source => do
    setVector target (← readOperand next width source) 0
  | .numberFromVector width target source => do
    writeOperand next width target (← vector source).1
  | .combineVectors action target source => combineVectors next action target source
  | .nothing => pure ()
  | .privileged => raise generalFault
  | _ => raise (illegalInstruction here)

/-- How many elements of a string are done in one step. -/
def stringBatch : Nat := 512

/-- A trap behind an instruction. -/
def trapBehind {α : Type} (next : UInt64) (info : SignalInfo) : Kernel α := do
  modifyCpu fun cpu => { cpu with next }
  raise info

/-- A loop that counts. -/
def loop (next : UInt64) (kind : X86.LoopKind) (narrow : Bool) (distance : UInt64) :
    Kernel UInt64 := do
  let counter := cut narrow (← register cx)
  let equal := (← flags) &&& Flag.zero != 0
  let counted := cut narrow (counter - 1)
  let jumps : Bool := match kind with
    | .counterZero => counter = 0
    | .always => counted ≠ 0
    | .whileEqual => counted ≠ 0 && equal
    | .whileDifferent => counted ≠ 0 && !equal
  if kind ≠ .counterZero then setRegister cx counted
  return if jumps then next + distance else next

/-- An address that can be jumped to. -/
def target (address : UInt64) : Kernel UInt64 :=
  if isAddress address then return address else raise generalFault

/-- What an instruction does, and what follows it. -/
def execute (here next : UInt64) : X86.Instruction → Kernel Sequel
  | .jump distance => return .proceed (next + distance)
  | .jumpTo operand => do return .proceed (← target (← readOperand next .qword operand))
  | .jumpIf condition distance => do
    return .proceed (if X86.holds condition (← flags) then next + distance else next)
  | .loop kind narrow distance => do return .proceed (← loop next kind narrow distance)
  | .call distance => do
    push .qword next
    return .proceed (next + distance)
  | .callTo operand => do
    let address ← target (← readOperand next .qword operand)
    push .qword next
    return .proceed address
  | .return_ released => keepingStack do
    let address ← target (← pop .qword)
    setRegister sp ((← register sp) + released)
    return .proceed address
  | .string action width .once segment narrow => do
    stringOnce action width segment narrow
    return .proceed next
  | .string action width repetition segment narrow => do
    let finished ← stringMany action width repetition segment narrow stringBatch
    return .proceed (if finished then next else here)
  | .systemCall => return .call
  | .interrupt vector =>
    if vector = 0x80 then return .oldCall
    else if vector = 3 then trapBehind next { signal := Signal.trap, code := 128 }
    else if vector = 4 then trapBehind next generalFault
    else raise generalFault
  | .watchpoint => trapBehind next { signal := Signal.trap, code := 1, detail := [next] }
  | other => do
    executePlain here next other
    return .proceed next

/-- Fetches, decodes and executes the next instruction. Before a system call the processor stands behind
its instruction. A trap follows every instruction if the flags ask for it. -/
def step : Kernel Sequel := do
  let here := (← get).cpu.next
  let traced := (← flags) &&& Flag.trace != 0
  let bytes ← fetch here
  match X86.decode bytes with
  | none =>
    raise (if bytes.size < Machine.maxInstruction then
      segmentFault 1 (here.toNat + bytes.size) else generalFault)
  | some (instruction, length) =>
    let next := here + UInt64.ofNat length
    match ← execute here next instruction with
    | .proceed address =>
      modifyCpu fun cpu => { cpu with next := address }
      if traced then raise { signal := Signal.trap, code := 2, detail := [address] }
      return .proceed address
    | sequel =>
      modifyCpu fun cpu => { cpu with next }
      return sequel

end Kernel

end StaticElf.Linux
