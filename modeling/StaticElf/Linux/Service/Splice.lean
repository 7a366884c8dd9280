/-
**Moving bytes between open files.**

* `Kernel.fillPipe` — puts bytes of a file into the slots of a pipe, page by page.
* `Kernel.putBytes` — writes bytes to an open file.
* `Service.sendFile`, `Service.splice`, `Service.tee`, … — the system calls.
-/

import StaticElf.Linux.Service.Sizes

namespace StaticElf.Linux

namespace Kernel

/-! ### Pipes -/

/-- How many slots of a pipe can be filled at once. -/
def slotsAtOnce (pipe : Pipe) : Nat := if pipe.outside then pipe.capacity else pipe.room

/-- Waits until a pipe has a free slot. -/
def awaitRoom (number : Nat) (nonBlocking : Bool) : Kernel Unit := do
  if !(← get).hasReader number then failBroken
  if (← pipe number).isFull then
    failIf nonBlocking .tryAgain
    wait

/-- Waits until a pipe can be read, and says whether there is something to read. -/
def awaitBytes (number : Nat) (nonBlocking : Bool) : Kernel Bool := do
  if (← pipe number).slots.isEmpty then
    if !(← get).hasWriter number then return false
    failIf nonBlocking .tryAgain
    wait
  return true

/-- The lengths of the pieces of a range, page by page. -/
def pieceLengths (start length : Nat) : List Nat :=
  (Content.pieces start length).map fun (_, _, count) => count

/-- Puts bytes into slots of a pipe, one slot for each length. -/
def pushPieces (number : Nat) (bytes : ByteArray) : (lengths : List Nat) → (done : Nat) → Kernel Nat
  | [], done => return done
  | length :: rest, done => do
    let piece := bytes.extract done (done + length)
    modifyPipe number (·.push { bytes := piece, used := length, open_ := false })
    pushPieces number bytes rest (done + length)

/-! ### Files -/

/-- The bytes of an open file from a place on that can be put into a pipe. -/
def bytesAt (description : Description) (place count : Nat) : Kernel ByteArray := do
  match description.opened with
  | .memory content _ => return (← Kernel.content content).read place count
  | .node node =>
    match (← files).kind? node with
    | some (.file (.regular content)) => return (← Kernel.content content).read place count
    | some (.file .zero) | some (.file .full) => return ⟨Array.replicate count 0⟩
    | some (.file .random) => randomBytes count
    | _ => fail .invalidArgument
  | _ => fail .invalidArgument

/-- Puts bytes of an open file into a pipe, and gives their number. -/
def fillPipe (source : Description) (place count target : Nat) (nonBlocking : Bool) :
    Kernel Nat := do
  awaitRoom target nonBlocking
  if count = 0 then return 0
  let slots := slotsAtOnce (← pipe target)
  let bytes ← bytesAt source place (min count (slots * pageBytes))
  pushPieces target bytes ((pieceLengths place bytes.size).take slots) 0

/-- Bytes of a socket for a pipe. -/
def takeFromSocket (number count : Nat) (nonBlocking : Bool) : Kernel ByteArray := do
  settleSockets
  let kind := (← socket number).kind
  failIf (kind ≠ .stream) .invalidArgument
  if !(← awaitStream number nonBlocking 0) then return ByteArray.empty
  let messages := (← socket number).received
  let bytes := firstBytes count messages
  modifySocket number ({ · with received := dropBytes bytes.size messages })
  return bytes

/-- Writes bytes to an open file, at a place if it has positions. -/
def putBytes (description : Description) (place : Nat) (bytes : ByteArray) : Kernel Nat := do
  match description.opened with
  | .node node =>
    match (← files).kind? node with
    | some (.file (.regular content)) =>
      let count ← allowedBytes description place bytes.size
      modifyContent content (·.write place (bytes.extract 0 count))
      noteChange description
      return count
    | some (.file .null) | some (.file .zero) => return bytes.size
    | _ => fail .invalidArgument
  | .memory content seals =>
    let grows := (← Kernel.content content).size < place + bytes.size
    failIf (seals &&& 0x18 ≠ 0 || (seals &&& 4 ≠ 0 && grows)) .notPermitted
    let count ← allowedBytes description place bytes.size
    modifyContent content (·.write place (bytes.extract 0 count))
    return count
  | .socket number =>
    sendGathered number bytes
  | _ => fail .invalidArgument

/-- The bytes of some slots. -/
def slotBytes (slots : List (Slot × Nat)) : ByteArray :=
  slots.foldl (fun bytes (slot, count) => bytes ++ slot.bytes.extract 0 count) ByteArray.empty

/-- Takes so many bytes out of a pipe. -/
def drain (number : Nat) (slots : List (Slot × Nat)) : Kernel Unit :=
  slots.forM fun (_, count) => modifyPipe number (·.take count)

/-- A slot of a pipe as it goes to another one: what is left of a page is not used any more unless all of
the slot goes. -/
def passedSlot (slot : Slot) (count : Nat) : Slot :=
  if slot.bytes.size ≤ count then slot
  else { slot with
    bytes := slot.bytes.extract 0 count
    used := slot.used - (slot.bytes.size - count)
    open_ := false }

/-- A slot of a pipe as it is doubled. -/
def doubledSlot (slot : Slot) (count : Nat) : Slot := { passedSlot slot count with open_ := false }

/-- A number that is kept in memory, or another one if there is none. -/
def givenOr (address : UInt64) (otherwise : Nat) : Kernel UInt64 :=
  if address = 0 then return result otherwise else readNumber address 8

/-- A place in a file that is kept in memory, or the position of the file. -/
def placeOr (address : UInt64) (position : Nat) : Kernel Nat := do
  if address = 0 then return position
  let place ← readNumber address 8
  failIf (isNegative place) .invalidArgument
  return place.toNat

/-- Moves the place from which was read or to which was written. -/
def movePlace (address : UInt64) (number place : Nat) : Kernel Unit := do
  if address = 0 then modifyDescription number ({ · with position := place })
  else writeNumber address 8 (result place)

/-- The most bytes that a call moves. -/
def givenCount (count : UInt64) : Kernel Nat := do
  failIf (isNegative count) .invalidArgument
  return min count.toNat mostMoved

end Kernel

namespace Service

open Kernel

/-- The most bytes that are moved through a pipe of the kernel's own at once. -/
def mostAtOnce : Nat := 16 * pageBytes

/-- Moves bytes of one open file to another one in parts, until there are no more. What is moved to the end
of the same file is found again. -/
def copyParts (source target : Description) :
    (parts : Nat) → (sourcePlace targetPlace count done : Nat) → Kernel Nat
  | 0, _, _, _, done => return done
  | parts + 1, sourcePlace, targetPlace, count, done => do
    if count = 0 then return done
    let bytes ← bytesAt source sourcePlace (min count mostAtOnce)
    if bytes.size = 0 then return done
    match ← attempt (putBytes target targetPlace bytes) with
    | .error errno =>
      failIf (done = 0) errno
      return done
    | .ok moved =>
      if moved < bytes.size then return done + moved
      copyParts source target parts (sourcePlace + moved) (targetPlace + moved) (count - moved)
        (done + moved)

/-- Moves bytes of one open file to another one, which is no pipe. -/
def copyDirect (source target : Description) (sourcePlace targetPlace count : Nat) :
    Kernel Nat := do
  checkRange target none count
  failIf (target.has OpenFlags.append) .invalidArgument
  failIf ((pipeOf source).isSome || source.opened matches .socket _) .invalidArgument
  copyParts source target count sourcePlace targetPlace count 0

def sendFile : Service := fun arguments => do
  let given ← givenOr arguments.third 0
  let (sourceNumber, source) ← opened (low arguments.second)
  failIf (!source.readable) .badDescriptor
  failIf (arguments.third != 0 && !hasPositions source) .noPosition
  failIf (isNegative given || isNegative arguments.fourth) .invalidArgument
  let place := if arguments.third = 0 then source.position else given.toNat
  checkRange source (some place) arguments.fourth.toNat
  let (targetNumber, target) ← opened (low arguments.first)
  failIf (!target.writable) .badDescriptor
  let largest := min (largestFile source) (largestFile target)
  let count := min arguments.fourth.toNat mostMoved
  failIf (largest < place + count && largest ≤ place) .overflow
  let count := min count (largest - place)
  let moved ← match pipeOf target with
    | some pipe => fillPipe source place count pipe (target.has OpenFlags.nonBlocking)
    | none => do
      let moved ← copyDirect source target place target.position count
      if hasPositions target then
        modifyDescription targetNumber ({ · with position := target.position + moved })
      pure moved
  if 0 < moved && hasPositions source then
    if arguments.third = 0 then
      modifyDescription sourceNumber ({ · with position := place + moved })
  if arguments.third != 0 then writeNumber arguments.third 8 (result (place + moved))
  return result moved

/-- Moves slots of one pipe to another one. -/
def passSlots (source target count : Nat) (nonBlocking : Bool) : Kernel Nat := do
  failIf (source = target) .invalidArgument
  if !(← awaitBytes source nonBlocking) then return 0
  awaitRoom target nonBlocking
  let slots := (Pipe.ready count (← pipe source).slots).take (slotsAtOnce (← pipe target))
  slots.forM fun (slot, count) => modifyPipe target (·.push (passedSlot slot count))
  drain source slots
  return (slotBytes slots).size

/-- Moves bytes of a pipe to a file. -/
def emptyPipe (source : Nat) (target : Description) (place count : Nat) (nonBlocking : Bool) :
    Kernel Nat := do
  if !(← awaitBytes source nonBlocking) then return 0
  let slots := Pipe.ready count (← pipe source).slots
  let moved ← putBytes target place (slotBytes slots)
  drain source slots
  return moved

def splice : Service := fun arguments => do
  let flags := arguments.sixth
  failIf (15 < low flags) .invalidArgument
  if arguments.fifth = 0 then return 0
  let (sourceNumber, source) ← opened (low arguments.first)
  let (targetNumber, target) ← opened (low arguments.third)
  let sourcePipe := pipeOf source
  let targetPipe := pipeOf target
  failIf (sourcePipe.isSome && arguments.second != 0) .noPosition
  failIf (targetPipe.isSome && arguments.fourth != 0) .noPosition
  failIf (!source.readable || !target.writable) .badDescriptor
  let count ← givenCount arguments.fifth
  let asked := hasBits flags 2
  match sourcePipe, targetPipe with
  | some fromPipe, some toPipe =>
    let nonBlocking := asked || source.has OpenFlags.nonBlocking || target.has OpenFlags.nonBlocking
    return result (← passSlots fromPipe toPipe count nonBlocking)
  | some fromPipe, none =>
    failIf (arguments.fourth != 0 && !hasPositions target) .invalidArgument
    failIf (target.has OpenFlags.append) .invalidArgument
    let place ← placeOr arguments.fourth target.position
    let moved ← emptyPipe fromPipe target place count asked
    if hasPositions target then movePlace arguments.fourth targetNumber (place + moved)
    return result moved
  | none, some toPipe =>
    failIf (arguments.second != 0 && !hasPositions source) .invalidArgument
    let nonBlocking := asked || target.has OpenFlags.nonBlocking
    match source.opened with
    | .socket number =>
      awaitRoom toPipe nonBlocking
      let room := slotsAtOnce (← pipe toPipe) * pageBytes
      let bytes ← takeFromSocket number (min count room) nonBlocking
      return result (← pushPieces toPipe bytes (pieceLengths 0 bytes.size) 0)
    | _ =>
      let place ← placeOr arguments.second source.position
      let moved ← fillPipe source place count toPipe nonBlocking
      if 0 < moved then movePlace arguments.second sourceNumber (place + moved)
      return result moved
  | none, none => fail .invalidArgument

def tee : Service := fun arguments => do
  failIf (15 < low arguments.fourth) .invalidArgument
  if arguments.third = 0 then return 0
  let (_, source) ← opened (low arguments.first)
  let (_, target) ← opened (low arguments.second)
  failIf (!source.readable || !target.writable) .badDescriptor
  let fromPipe ← ofOption (pipeOf source) .invalidArgument
  let toPipe ← ofOption (pipeOf target) .invalidArgument
  failIf (fromPipe = toPipe) .invalidArgument
  let nonBlocking := hasBits arguments.fourth 2 || source.has OpenFlags.nonBlocking
    || target.has OpenFlags.nonBlocking
  if !(← awaitBytes fromPipe nonBlocking) then return 0
  awaitRoom toPipe nonBlocking
  let count := arguments.third.toNat
  let slots := (Pipe.ready count (← pipe fromPipe).slots).take (slotsAtOnce (← pipe toPipe))
  slots.forM fun (slot, count) => modifyPipe toPipe (·.push (doubledSlot slot count))
  return result (slotBytes slots).size

/-- Puts the pages of some ranges into slots of a pipe, up to the first that cannot be read. -/
def pushPages (number : Nat) : List Span → (slots : Nat) → (done : Nat) → Kernel Nat
  | [], _, done => return done
  | span :: spans, slots, done => do
    let lengths := (pieceLengths span.start (min span.length (slots * pageBytes))).take slots
    let wanted := lengths.foldr (· + ·) 0
    let bytes ← copyIn span.start wanted
    let whole := pieceLengths span.start bytes.size
    let moved ← pushPieces number bytes whole 0
    if moved < span.length then
      failIf (done + moved = 0) .badAddress
      return done + moved
    else pushPages number spans (slots - lengths.length) (done + moved)

def splicePages : Service := fun arguments => do
  failIf (15 < low arguments.fourth) .invalidArgument
  let (_, description) ← opened (low arguments.first)
  let pipe ← ofOption (pipeOf description) .badDescriptor
  failIf (!description.readable && !description.writable) .badDescriptor
  let nonBlocking := hasBits arguments.fourth 2
  let spans ← listedSpans arguments.second (UInt64.ofNat (low arguments.third))
  if Span.total spans = 0 then return 0
  if description.writable then
    awaitRoom pipe nonBlocking
    let slots := slotsAtOnce (← Kernel.pipe pipe)
    return result (← pushPages pipe (spans.filter (·.length ≠ 0)) slots 0)
  else return result (← readPipe pipe nonBlocking spans)

/-- Sees whether bytes can be copied from one open file to another one. -/
def checkCopy (source target : Description) : Kernel Unit := do
  let kinds := [← kindOf source, ← kindOf target]
  failIf (kinds.contains 0o040000) .isDirectory
  failIf (kinds.any (· ≠ 0o100000)) .invalidArgument
  failIf (!source.readable || !target.writable || target.has OpenFlags.append) .badDescriptor
  let named (description : Description) : Bool := match description.opened with
    | .node _ => true
    | _ => false
  failIf (named source != named target) .otherDevice

def copyFileRange : Service := fun arguments => do
  let (sourceNumber, source) ← opened (low arguments.first)
  let (targetNumber, target) ← opened (low arguments.third)
  let sourcePlace ← givenOr arguments.second source.position
  let targetPlace ← givenOr arguments.fourth target.position
  failIf (low arguments.sixth ≠ 0) .invalidArgument
  checkCopy source target
  let asked := arguments.fifth
  failIf (sourcePlace + asked < sourcePlace || targetPlace + asked < targetPlace) .overflow
  let (fromContent, _) ← ofOption (← contentOf source) .invalidArgument
  let (toContent, _) ← ofOption (← contentOf target) .invalidArgument
  let size := (← Kernel.content fromContent).size
  let count := min asked.toNat (size - sourcePlace.toNat)
  let count ← allowedBytes target targetPlace.toNat count
  failIf (fromContent = toContent && sourcePlace.toNat < targetPlace.toNat + count
    && targetPlace.toNat < sourcePlace.toNat + count) .invalidArgument
  failIf (isNegative sourcePlace || isNegative targetPlace) .invalidArgument
  if count = 0 then return 0
  let bytes ← bytesAt source sourcePlace.toNat (min count mostMoved)
  let moved ← putBytes target targetPlace.toNat bytes
  movePlace arguments.second sourceNumber (sourcePlace.toNat + moved)
  movePlace arguments.fourth targetNumber (targetPlace.toNat + moved)
  return result moved

end Service

end StaticElf.Linux
