/-
**Reading and writing open files.**

* `Kernel.readFrom`, `Kernel.writeTo` — moves bytes between an open file and ranges of memory, at a given
  place or at the position of the file.
* `Service.read`, `Service.write`, … — the system calls.
-/

import StaticElf.Linux.Lookup
import StaticElf.Linux.SocketTransfer

namespace StaticElf.Linux

namespace Kernel

/-! ### Contents -/

/-- Reads a content from a place on. -/
def readContent (number place : Nat) (spans : List Span) : Kernel Nat := do
  let bytes := (← content number).read place (Span.total spans)
  let count ← scatter bytes spans 0
  failIf (count = 0 && bytes.size ≠ 0) .badAddress
  return count

/-- The last place that a file can have. -/
def largestPlace : Nat := 0x7fffffffffffffff

/-- The largest size of a file on a device, and of one in memory. -/
def largestFile (description : Description) : Nat :=
  match description.opened with
  | .node _ => 0xffffffff000
  | _ => largestPlace

/-- How many bytes of a write are within the limits for files. -/
def allowedBytes (description : Description) (place count : Nat) : Kernel Nat := do
  let limit := (← process).limit .fileSize
  if limit ≤ place then
    signalSelf { signal := Signal.fileSize }
    fail .fileTooBig
  let largest := largestFile description
  failIf (largest ≤ place) .fileTooBig
  return min count (min limit largest - place)

/-- What changes about a file whose content was changed. -/
def noteChange (description : Description) : Kernel Unit := do
  match description.opened with
  | .node node => dropPrivileges node
  | _ => pure ()
  if !(← get).notes.isEmpty then
    modifyNotes (← fileKey description) fun notes =>
      { notes with times := { notes.times with modified := none } }

/-- Sees whether bytes can be written to a content of which something can no longer be done. -/
def checkSeals (content place count seals : Nat) : Kernel Unit := do
  let grows := (← Kernel.content content).size < place + count
  failIf (seals &&& 0x18 ≠ 0 || (seals &&& 4 ≠ 0 && grows)) .notPermitted

/-- Writes bytes to the content of an open file, at the position of the file or at a given place, and gives
their number. What is appended goes to the end in any case. The file reaches up to the place even when no
byte can be read from memory. -/
def writeContent (number content seals : Nat) (description : Description) (place : Option Nat)
    (appends : Bool) (spans : List Span) : Kernel Nat := do
  let count := Span.total spans
  if count = 0 then return 0
  let size := (← Kernel.content content).size
  let start := if appends then size else place.getD description.position
  let allowed ← allowedBytes description start count
  checkSeals content start allowed seals
  let bytes ← gather (Span.split allowed spans).1 ByteArray.empty
  if bytes.size = 0 then
    modifyContent content fun content => { content with size := max content.size start }
    fail .badAddress
  modifyContent content (·.write start bytes)
  noteChange description
  if place.isNone then modifyDescription number ({ · with position := start + bytes.size })
  return bytes.size

/-! ### Pipes -/

/-- Reads the bytes of some slots of a pipe, one slot after the other. -/
def readSlots (number : Nat) : List (Slot × Nat) → List Span → (done : Nat) → Kernel Nat
  | [], _, done => return done
  | (slot, count) :: rest, spans, done => do
    let (here, behind) := Span.split count spans
    let copied ← scatter (slot.bytes.extract 0 count) here 0
    if copied < count then
      failIf (done = 0) .badAddress
      return done
    modifyPipe number (·.take count)
    readSlots number rest behind (done + count)

def readPipe (number : Nat) (nonBlocking : Bool) (spans : List Span) : Kernel Nat := do
  let count := Span.total spans
  if count = 0 then return 0
  let pipe ← pipe number
  if pipe.slots.isEmpty then
    if !(← get).hasWriter number then return 0
    failIf nonBlocking .tryAgain
    wait
  readSlots number (Pipe.ready count pipe.slots) spans 0

/-- Writes parts of the given sizes to a pipe. The first of them goes into the last page if `merges`. -/
def writeParts (number : Nat) (nonBlocking packet : Bool) :
    (sizes : List Nat) → (merges : Bool) → List Span → (done : Nat) → Kernel Nat
  | [], _, _, done => return done
  | size :: sizes, merges, spans, done => do
    if !merges && (← pipe number).isFull then
      if nonBlocking then
        failIf (done = 0) .tryAgain
        return done
      modifyThread ({ · with progress := done })
      wait
    let (here, behind) := Span.split size spans
    let bytes ← gather here (ByteArray.emptyWithCapacity size)
    if bytes.size < size then
      failIf (done = 0) .badAddress
      return done
    modifyPipe number fun pipe =>
      if merges then pipe.extend bytes
      else pipe.push { bytes, used := size, open_ := !packet, packet }
    writeParts number nonBlocking packet sizes false behind (done + size)

def writePipe (number : Nat) (nonBlocking packet : Bool) (spans : List Span) : Kernel Nat := do
  let count := Span.total spans
  if count = 0 then return 0
  if !(← get).hasReader number then failBroken
  let done := (← thread).progress
  let left := count - done
  let pipe ← pipe number
  let rest := left % pageBytes
  let merges := !packet && done = 0 && rest ≠ 0 && pipe.fits rest
  let pages := List.replicate (left / pageBytes) pageBytes
  let sizes := if rest = 0 then pages else if merges then rest :: pages else pages ++ [rest]
  writeParts number nonBlocking packet sizes merges
    (Span.split done spans).2 done

/-! ### Other files -/

/-- Zeros in some ranges, not too many at once. -/
def readZeros (spans : List Span) : Kernel Nat := do
  let count := min (Span.total spans) 0x1000000
  let written ← scatter ⟨Array.replicate count 0⟩ spans 0
  failIf (written = 0 && count ≠ 0) .badAddress
  return written

/-- Bytes that nobody can foresee, in some ranges, not too many at once. -/
def randomBytes (count : Nat) : Kernel ByteArray := do
  let seed := UInt64.ofNat (← get).clock + 0x9e3779b97f4a7c15
  let step (state : UInt64 × ByteArray) : UInt64 × ByteArray :=
    let next := state.1 * 6364136223846793005 + 1442695040888963407
    (next, state.2.push (next >>> 33).toUInt8)
  return (X86.repeated step count (seed, ByteArray.empty)).2

def readRandom (spans : List Span) : Kernel Nat := do
  let bytes ← randomBytes (min (Span.total spans) 0x100000)
  let written ← scatter bytes spans 0
  failIf (written = 0 && bytes.size ≠ 0) .badAddress
  return written

/-- Takes the number of a counter, or one of it. -/
def readCounter (number value : Nat) (single nonBlocking : Bool) (spans : List Span) :
    Kernel Nat := do
  failIf (Span.total spans < 8) .invalidArgument
  if value = 0 then
    failIf nonBlocking .tryAgain
    wait
  let taken := if single then 1 else value
  modifyDescription number ({ · with opened := .counter (value - taken) single })
  let count ← scatter (wordBytes 8 (UInt64.ofNat taken)) spans 0
  failIf (count < 8) .badAddress
  return 8

/-- Bytes that are mixed into those that nobody can foresee. -/
def writeRandom (spans : List Span) : Kernel Nat := do
  let bytes ← gather spans ByteArray.empty
  failIf (bytes.size = 0 && Span.total spans ≠ 0) .badAddress
  return bytes.size

/-- Adds to the number of a counter. -/
def addToCounter (number : Nat) (nonBlocking : Bool) (span : Span) : Kernel Unit := do
  failIf (span.length ≠ 8) .invalidArgument
  let bytes ← copyIn span.start 8
  failIf (bytes.size < 8) .badAddress
  let added := (littleEndian bytes 0 8).toNat
  failIf (added = 0xffffffffffffffff) .invalidArgument
  match (← description number).opened with
  | .counter value single =>
    if 0xfffffffffffffffe < value + added then
      failIf nonBlocking .tryAgain
      wait
    modifyDescription number ({ · with opened := .counter (value + added) single })
  | _ => fail .invalidArgument

/-- Adds to the number of a counter what stands in some ranges, up to the first that cannot be added. -/
def writeCounter (number : Nat) (nonBlocking : Bool) : List Span → (done : Nat) → Kernel Nat
  | [], done => return done
  | span :: spans, done => do
    if done = 0 then
      addToCounter number nonBlocking span
      writeCounter number nonBlocking spans 8
    else match ← attempt (addToCounter number true span) with
      | .ok () => writeCounter number nonBlocking spans (done + 8)
      | .error _ => return done

/-- How often a clock has rung by now, and when it rings next. -/
def rung (due : Option Nat) (interval clock : Nat) : Nat × Option Nat :=
  match due with
  | none => (0, none)
  | some due =>
    if clock < due then (0, some due)
    else if interval = 0 then (1, none)
    else
      let times := (clock - due) / interval + 1
      (times, some (due + times * interval))

def readTimer (number : Nat) (due : Option Nat) (interval rang : Nat) (nonBlocking : Bool)
    (spans : List Span) : Kernel Nat := do
  failIf (Span.total spans < 8) .invalidArgument
  let (times, next) := rung due interval (← get).clock
  if rang + times = 0 then
    failIf nonBlocking .tryAgain
    wait
  modifyDescription number ({ · with opened := .timer next interval 0 })
  let count ← scatter (wordBytes 8 (UInt64.ofNat (rang + times))) spans 0
  failIf (count < 8) .badAddress
  return 8

/-- A signal as it is read from a file: what is told with it stands where it belongs for its kind. -/
def readableSignal (info : SignalInfo) : ByteArray :=
  let detail (index : Nat) : UInt64 := info.detail.getD index 0
  let isFault := Signal.isIn info.signal Signal.synchronous && 0 < info.code && info.code < 128
  let isChild := info.signal = Signal.child && 0 < info.code && info.code < 128
  let isTimer := info.code = -2
  let isValue := info.code < 0
  let identity := if isFault || isTimer then 0 else detail 0
  let status := if isChild then detail 1 else 0
  let value := if isValue then detail 1 else 0
  let times := if isChild then [detail 2, detail 3] else [0, 0]
  padded (wordBytes 4 (UInt64.ofNat info.signal) ++ wordBytes 4 (UInt64.ofNat info.errno)
    ++ wordBytes 4 (UInt64.ofInt info.code &&& 0xffffffff)
    ++ wordBytes 8 identity ++ wordBytes 4 0
    ++ wordBytes 4 (if isTimer then detail 0 &&& 0xffffffff else 0) ++ wordBytes 4 0
    ++ wordBytes 4 (if isTimer then detail 0 >>> 32 else 0) ++ wordBytes 4 0
    ++ wordBytes 4 status ++ wordBytes 4 (value &&& 0xffffffff) ++ wordBytes 8 value
    ++ packNumbers times ++ wordBytes 8 (if isFault then detail 0 else 0)) 128

/-- Reads so many signals at most, as long as some of a set have come. -/
def takeSignals (set : SignalSet) : (most : Nat) → Kernel ByteArray
  | 0 => return ByteArray.empty
  | most + 1 => do
    match nextOf? set (← thread) (← process) with
    | none => return ByteArray.empty
    | some info =>
      takeSignal info
      return readableSignal info ++ (← takeSignals set most)

def readSignals (set : SignalSet) (nonBlocking : Bool) (spans : List Span) : Kernel Nat := do
  failIf (Span.total spans < 128) .invalidArgument
  let bytes ← takeSignals set (Span.total spans / 128)
  if bytes.size = 0 then
    failIf nonBlocking .tryAgain
    wait
  let count ← scatter bytes spans 0
  failIf (count < bytes.size) .badAddress
  return count

/-! ### Open files -/

/-- Reads a node of the file system. -/
def readNode (node place : Nat) (spans : List Span) : Kernel Nat := do
  match (← files).kind? node with
  | some (.directory ..) => fail .isDirectory
  | some (.file (.regular content)) => readContent content place spans
  | some (.file .null) => return 0
  | some (.file .zero) | some (.file .full) => readZeros spans
  | some (.file .random) => readRandom spans
  | _ => fail .invalidArgument

/-- Whether an open file has positions. -/
def hasPositions (description : Description) : Bool :=
  match description.opened with
  | .node _ | .memory .. => true
  | _ => false

/-- Whether reading is something that can be asked of an open file. -/
def canRead (description : Description) : Bool :=
  match description.opened with
  | .watch _ | .process .. | .other => false
  | _ => true

/-- Whether writing is something that can be asked of an open file. -/
def canWrite (description : Description) : Bool :=
  match description.opened with
  | .watch _ | .timer .. | .signals _ | .process .. | .other => false
  | _ => true

/-- Sees whether so many bytes from a place on can be asked for. -/
def checkRange (description : Description) (place : Option Nat) (count : Nat) : Kernel Unit :=
  failIf (hasPositions description && largestPlace < place.getD description.position + count)
    .invalidArgument

/-- Reads from an open file into some ranges, and gives the number of bytes. -/
def readFrom (number : Nat) (description : Description) (place : Option Nat) (atOnce : Bool)
    (spans : List Span) : Kernel Nat := do
  checkRange description place (Span.total spans)
  let nonBlocking := atOnce || description.has OpenFlags.nonBlocking
  let from_ := place.getD description.position
  match description.opened with
  | .node node =>
    let count ← readNode node from_ spans
    if place.isNone && (← isRegular node) then
      modifyDescription number ({ · with position := from_ + count })
    return count
  | .memory content _ =>
    let count ← readContent content from_ spans
    if place.isNone then modifyDescription number ({ · with position := from_ + count })
    return count
  | .pipe pipe _ _ => readPipe pipe nonBlocking spans
  | .socket socket => receiveBytes socket nonBlocking spans
  | .counter value single => readCounter number value single nonBlocking spans
  | .timer due interval rang => readTimer number due interval rang nonBlocking spans
  | .signals set => readSignals set nonBlocking spans
  | .watch _ | .process .. | .other => fail .invalidArgument

/-- Writes some ranges to an open file, and gives the number of bytes. -/
def writeTo (number : Nat) (description : Description) (place : Option Nat) (appends atOnce : Bool)
    (spans : List Span) : Kernel Nat := do
  checkRange description place (Span.total spans)
  let nonBlocking := atOnce || description.has OpenFlags.nonBlocking
  match description.opened with
  | .node node =>
    match (← files).kind? node with
    | some (.directory ..) => fail .isDirectory
    | some (.file (.regular content)) =>
      failIf atOnce .notSupported
      writeContent number content 0 description place appends spans
    | some (.file .null) | some (.file .zero) => return Span.total spans
    | some (.file .random) => writeRandom spans
    | some (.file .full) => fail .noSpace
    | _ => fail .invalidArgument
  | .memory content seals => writeContent number content seals description place appends spans
  | .pipe pipe _ _ => writePipe pipe nonBlocking (description.has OpenFlags.direct) spans
  | .socket socket => sendBytes socket nonBlocking spans
  | .counter .. => writeCounter number nonBlocking spans 0
  | .timer .. | .signals _ | .watch _ | .process .. | .other => fail .invalidArgument

/-- The open file behind a descriptor, if it can be read. With a place, it has to have positions. -/
def openedToRead (descriptor : UInt64) (placed : Bool) : Kernel (Nat × Description) := do
  let (number, description) ← opened (low descriptor)
  failIf (placed && !hasPositions description) .noPosition
  failIf (!description.readable) .badDescriptor
  failIf (!canRead description) .invalidArgument
  return (number, description)

/-- The open file behind a descriptor, if it can be written. With a place, it has to have positions. -/
def openedToWrite (descriptor : UInt64) (placed : Bool) : Kernel (Nat × Description) := do
  let (number, description) ← opened (low descriptor)
  failIf (placed && !hasPositions description) .noPosition
  failIf (!description.writable) .badDescriptor
  failIf (!canWrite description) .invalidArgument
  return (number, description)

/-- A place in a file that is given as an argument. -/
def givenPlace (place : UInt64) : Kernel Nat := do
  failIf (isNegative place) .invalidArgument
  return place.toNat

end Kernel

/-- What can be asked for besides the bytes of a transfer. -/
structure TransferFlags where
  bits : Nat := 0

namespace TransferFlags

/-- Whether a flag is set. -/
def has (flags : TransferFlags) (flag : Nat) : Bool := flags.bits &&& flag != 0

/-- Not to wait. -/
def atOnce (flags : TransferFlags) : Bool := flags.has 8

/-- Whether a transfer appends to a file. -/
def appends (flags : TransferFlags) (description : Description) : Bool :=
  (description.has OpenFlags.append || flags.has 0x10) && !flags.has 0x20

end TransferFlags

namespace Kernel

/-- Whether the ranges of a transfer are moved one by one. -/
def isMovedSingly (description : Description) (writes : Bool) : Kernel Bool := do
  match description.opened with
  | .counter .. => return writes
  | .node node =>
    match (← files).kind? node with
    | some (.directory ..) => return true
    | some (.file .full) => return writes
    | _ => return false
  | _ => return false

/-- Whether an open file can be asked not to wait. -/
def knowsAtOnce (description : Description) : Kernel Bool := do
  match description.opened with
  | .memory .. => return false
  | .node node => return (← leafAt node) ≠ some .full
  | _ => return true

/-- Sees whether the kernel can do what is asked for besides. -/
def checkFlags (description : Description) (flags : TransferFlags) (writes : Bool) : Kernel Unit := do
  if flags.bits = 0 then return
  if ← isMovedSingly description writes then
    failIf (1 < flags.bits) .notSupported
  else
    failIf (0x1ff < flags.bits) .notSupported
    failIf (flags.has 0x10 && flags.has 0x20) .invalidArgument
    failIf (flags.atOnce && !(← knowsAtOnce description)) .notSupported
    failIf (flags.has 0x40) .notSupported
    let named := match description.opened with
      | .node node => isRegular node
      | _ => pure false
    failIf (flags.has 0x80 && !(← named)) .notSupported

/-- The ranges of a call that lists them. -/
def listed (arguments : Arguments) : Kernel (List Span) :=
  listedSpans arguments.second (UInt64.ofNat (low arguments.third))

/-- Reads into the ranges that a call lists. -/
def readListed (arguments : Arguments) (place : Option Nat) (flags : TransferFlags) :
    Kernel UInt64 := do
  let (number, description) ← openedToRead arguments.first place.isSome
  let spans ← listed arguments
  if Span.total spans = 0 then return 0
  checkRange description place (Span.total spans)
  checkFlags description flags false
  return result (← readFrom number description place flags.atOnce spans)

/-- Writes the ranges that a call lists. -/
def writeListed (arguments : Arguments) (place : Option Nat) (flags : TransferFlags) :
    Kernel UInt64 := do
  let (number, description) ← openedToWrite arguments.first place.isSome
  let spans ← listed arguments
  if Span.total spans = 0 then return 0
  checkRange description place (Span.total spans)
  checkFlags description flags true
  return result (← writeTo number description place (flags.appends description) flags.atOnce spans)

/-- The place of a call that may leave it open. -/
def optionalPlace (place : UInt64) : Kernel (Option Nat) :=
  if place = 0xffffffffffffffff then return none else some <$> givenPlace place

end Kernel

namespace Service

open Kernel

def read : Service := fun arguments => do
  let (number, description) ← openedToRead arguments.first false
  let spans ← givenSpan arguments.second arguments.third
  return result (← readFrom number description none false spans)

def write : Service := fun arguments => do
  let (number, description) ← openedToWrite arguments.first false
  let spans ← givenSpan arguments.second arguments.third
  let appends := description.has OpenFlags.append
  return result (← writeTo number description none appends false spans)

def readAt : Service := fun arguments => do
  let place ← givenPlace arguments.fourth
  let (number, description) ← openedToRead arguments.first true
  let spans ← givenSpan arguments.second arguments.third
  return result (← readFrom number description (some place) false spans)

def writeAt : Service := fun arguments => do
  let place ← givenPlace arguments.fourth
  let (number, description) ← openedToWrite arguments.first true
  let spans ← givenSpan arguments.second arguments.third
  let appends := description.has OpenFlags.append
  return result (← writeTo number description (some place) appends false spans)

def readListed : Service := fun arguments => Kernel.readListed arguments none {}

def writeListed : Service := fun arguments => Kernel.writeListed arguments none {}

def readListedAt : Service := fun arguments => do
  Kernel.readListed arguments (some (← givenPlace arguments.fourth)) {}

def writeListedAt : Service := fun arguments => do
  Kernel.writeListed arguments (some (← givenPlace arguments.fourth)) {}

def readListedWith : Service := fun arguments => do
  Kernel.readListed arguments (← optionalPlace arguments.fourth) ⟨low arguments.sixth⟩

def writeListedWith : Service := fun arguments => do
  Kernel.writeListed arguments (← optionalPlace arguments.fourth) ⟨low arguments.sixth⟩

end Service

end StaticElf.Linux
