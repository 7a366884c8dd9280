/-
**The memory of the running thread.**

* `Kernel.touch` — the mapping in which an access is allowed, or the fault that it is.
* `Kernel.load`, `Kernel.store` — a number of up to eight bytes, as an instruction accesses it.
* `Kernel.copyIn`, `Kernel.copyOut` — ranges of bytes, as a system call accesses them: what comes before
  the first byte that cannot be accessed is copied.
* `Kernel.fetch` — the bytes of an instruction.
-/

import StaticElf.Linux.World

namespace StaticElf.Linux

/-- A number in some bytes, at an offset. -/
def littleEndian (bytes : ByteArray) (offset : Nat) : (width : Nat) → UInt64
  | 0 => 0
  | width + 1 =>
    (littleEndian bytes (offset + 1) width <<< 8) ||| (bytes[offset]?.getD 0).toUInt64

/-- The bytes of a number. -/
def wordBytes (width : Nat) (value : UInt64) : ByteArray := ⟨(leBytes width value.toNat).toArray⟩

/-- Numbers of eight bytes, one after the other. -/
def packNumbers (numbers : List UInt64) : ByteArray :=
  numbers.foldl (fun bytes number => bytes ++ wordBytes 8 number) ByteArray.empty

/-- Bytes, and zeros up to a length. -/
def padded (bytes : ByteArray) (length : Nat) : ByteArray :=
  bytes ++ ⟨Array.replicate (length - bytes.size) 0⟩

/-- Puts the bytes of a number into a page. -/
def Page.putNumber (page : Page) (offset : Nat) (value : UInt64) : (width : Nat) → Page
  | 0 => page
  | width + 1 => Page.putNumber (page.set! offset value.toUInt8) (offset + 1) (value >>> 8) width

/-- The fault of an access to memory: nothing is there (1) or it is not allowed (2). -/
def segmentFault (code : Int) (address : Nat) : SignalInfo :=
  { signal := Signal.segment, code, detail := [UInt64.ofNat address] }

/-- The fault of an access behind the end of a file. -/
def busFault (address : Nat) : SignalInfo :=
  { signal := Signal.bus, code := 2, detail := [UInt64.ofNat address] }

/-- The fault of what an instruction cannot do. -/
def generalFault : SignalInfo := { signal := Signal.segment, code := 128, detail := [0] }

/-- The fault of a place on the stack at what is no address. -/
def stackFault : SignalInfo := { signal := Signal.bus, code := 128, detail := [0] }

/-- Whether a number is an address: its highest bits are all the same. -/
def isAddress (value : UInt64) : Bool := value + 0x800000000000 < 0x1000000000000

namespace Kernel

/-- Whether a mapping that grows may reach down to a page: it keeps away from the one before it. -/
def mayReach (space : Space) (page : Nat) : Bool :=
  match (space.mappings.filter fun mapping => mapping.stop ≤ page).getLast? with
  | none => true
  | some mapping => mapping.growsDown || mapping.access = 0 || mapping.stop + 0x100000 ≤ page

/-- Lets a mapping that grows take an address in, if it can. -/
def grow (address : Nat) : Kernel Bool := do
  let page := address / pageBytes * pageBytes
  match (← space).findFrom? address with
  | none => return false
  | some mapping =>
    if mapping.growsDown && mapping.stop - page ≤ (← process).limit .stack
        && mayReach (← space) page then
      modifySpace fun space => { space with
        mappings := space.mappings.map fun other =>
          if other.start = mapping.start then { other with start := page } else other }
      return true
    else return false

/-- What an access is when nothing is mapped at its address. -/
def missing (address : Nat) : SignalInfo :=
  if isAddress (UInt64.ofNat address) then segmentFault 1 address else generalFault

/-- The mapping at an address, if there is one and it allows an access. -/
def grantAccess (access : Access) (address : Nat) : Option Mapping → Kernel Mapping
  | none => throw (.fault (missing address))
  | some mapping => do
    if mapping.allows (← get).cpu.keyRights access then return mapping
    else if mapping.allows 0 access then throw (.fault (segmentFault 4 address))
    else throw (.fault (segmentFault 2 address))

/-- The mapping in which an access is allowed. -/
def touch (access : Access) (address : Nat) : Kernel Mapping := do
  match (← space).find? address with
  | some mapping => grantAccess access address (some mapping)
  | none =>
    if ← grow address then grantAccess access address ((← space).find? address)
    else grantAccess access address none

/-- The page of a content that a mapping shows at an address. From now on it is in memory. -/
def shownPage (number offset : Nat) (mapping : Mapping) (address : Nat) : Kernel Page := do
  let place := offset + (address / pageBytes * pageBytes - mapping.start)
  let content ← content number
  if pageAligned content.size ≤ place then throw (.fault (busFault address))
  match content.pages[place / pageBytes]? with
  | some page => return page
  | none =>
    modifyContent number fun content => { content with
      pages := content.pages.insert (place / pageBytes) Page.zeros }
    return Page.zeros

/-- The page at an address of a mapping. -/
def pageIn (mapping : Mapping) (address : Nat) : Kernel Page := do
  if mapping.shared then
    match mapping.source with
    | .content number offset => shownPage number offset mapping address
    | .zeros => return Page.zeros
  else match (← space).pages[address / pageBytes]? with
    | some page => return page
    | none =>
      match mapping.source with
      | .content number offset => shownPage number offset mapping address
      | .zeros =>
        modifySpace fun space => { space with
          pages := space.pages.insert (address / pageBytes) Page.zeros }
        return Page.zeros

/-- Changes the page at an address of a mapping. -/
def alterPage (mapping : Mapping) (address : Nat) (change : Page → Page) : Kernel Unit := do
  let page := address / pageBytes
  match mapping.shared, mapping.source with
  | true, .content number offset =>
    let _ ← shownPage number offset mapping address
    let place := (offset + (page * pageBytes - mapping.start)) / pageBytes
    modifyContent number fun content => { content with
      pages := content.pages.alter place fun old => some (change (old.getD Page.zeros)) }
  | _, _ =>
    let present := (← space).pages.contains page
    let shown ← if present then pure Page.zeros else pageIn mapping address
    modifySpace fun space => { space with
      pages := space.pages.alter page fun old => some (change (old.getD shown)) }

/-! ### Numbers -/

/-- Whether a number of some bytes lies in one page. -/
def inOnePage (address width : Nat) : Bool := address % pageBytes + width ≤ pageBytes

/-- The address that follows another one by some bytes. -/
def addressAfter (address count : Nat) : Nat := (address + count) % 0x10000000000000000

/-- A number in memory. -/
def load (address : UInt64) (width : Nat) : Kernel UInt64 := do
  let first := address.toNat
  let mapping ← touch .read first
  let page ← pageIn mapping first
  let offset := first % pageBytes
  if inOnePage first width then return littleEndian page offset width
  else
    let here := pageBytes - offset
    let second := addressAfter first here
    let mapping ← touch .read second
    let next ← pageIn mapping second
    return littleEndian page offset here
      ||| (littleEndian next 0 (width - here) <<< UInt64.ofNat (8 * here))

/-- Puts a number into memory. Nothing is written when a part of it cannot be. -/
def store (address : UInt64) (width : Nat) (value : UInt64) : Kernel Unit := do
  let first := address.toNat
  let mapping ← touch .write first
  let offset := first % pageBytes
  if inOnePage first width then alterPage mapping first fun page => page.putNumber offset value width
  else
    let here := pageBytes - offset
    let second := addressAfter first here
    let next ← touch .write second
    alterPage next second fun page =>
      page.putNumber 0 (value >>> UInt64.ofNat (8 * here)) (width - here)
    alterPage mapping first fun page => page.putNumber offset value here

/-- The bytes that can be run from an address on, at most fifteen. -/
def fetch (address : UInt64) : Kernel ByteArray := do
  let first := address.toNat
  let mapping ← touch .run first
  let page ← pageIn mapping first
  let offset := first % pageBytes
  if offset + Machine.maxInstruction ≤ pageBytes then
    return page.extract offset (offset + Machine.maxInstruction)
  else
    let here := page.extract offset pageBytes
    let second := addressAfter first here.size
    let rest ← tryCatch
      (do
        let mapping ← touch .run second
        let next ← pageIn mapping second
        return next.extract 0 (Machine.maxInstruction - here.size))
      fun _ => return ByteArray.empty
    return here ++ rest

/-! ### Ranges -/

/-- An action that touches memory for a system call, and whether it could. -/
def reaching {α : Type} (action : Kernel α) : Kernel (Option α) :=
  tryCatch (some <$> action) fun
    | .fault _ => return none
    | stop => throw stop

/-- The bytes of a range, up to the first that cannot be read. The pages of the range are counted. -/
def copyPages (bytes : ByteArray) (address count : Nat) : (pages : Nat) → Kernel ByteArray
  | 0 => return bytes
  | pages + 1 => do
    if count = 0 then return bytes
    let offset := address % pageBytes
    let here := min count (pageBytes - offset)
    match ← reaching (do pageIn (← touch .read address) address) with
    | none => return bytes
    | some page =>
      copyPages (page.copySlice offset bytes bytes.size here) (address + here) (count - here) pages

/-- A bound for the pages of a range. -/
def pagesOf (count : Nat) : Nat := count / pageBytes + 2

/-- The bytes of a range, up to the first that cannot be read. -/
def copyIn (address count : Nat) : Kernel ByteArray :=
  copyPages (ByteArray.emptyWithCapacity (min count 65536)) address
    (min count (addressLimit - address)) (pagesOf count)

/-- Puts bytes into memory, up to the first place that cannot be written, and gives their number. -/
def putPages (bytes : ByteArray) (done address : Nat) : (pages : Nat) → Kernel Nat
  | 0 => return done
  | pages + 1 => do
    if bytes.size ≤ done then return done
    let offset := address % pageBytes
    let here := min (bytes.size - done) (pageBytes - offset)
    let written ← reaching do
      let mapping ← touch .write address
      alterPage mapping address fun page => bytes.copySlice done page offset here
    match written with
    | none => return done
    | some () => putPages bytes (done + here) (address + here) pages

/-- Puts bytes into memory, up to the first place that cannot be written, and gives their number. -/
def copyOut (address : Nat) (bytes : ByteArray) : Kernel Nat :=
  if addressLimit ≤ address then return 0 else putPages bytes 0 address (pagesOf bytes.size)

/-- The bytes of a range, all of them. -/
def readMemory (address : UInt64) (count : Nat) : Kernel ByteArray := do
  failIf (addressLimit < address.toNat + count) .badAddress
  let bytes ← copyIn address.toNat count
  failIf (bytes.size < count) .badAddress
  return bytes

/-- Puts bytes into memory, all of them. -/
def writeMemory (address : UInt64) (bytes : ByteArray) : Kernel Unit := do
  failIf (addressLimit < address.toNat + bytes.size) .badAddress
  let count ← copyOut address.toNat bytes
  failIf (count < bytes.size) .badAddress

/-- A number in memory, for a system call. -/
def readNumber (address : UInt64) (width : Nat) : Kernel UInt64 := do
  return littleEndian (← readMemory address width) 0 width

/-- Puts a number into memory, for a system call. -/
def writeNumber (address : UInt64) (width : Nat) (value : UInt64) : Kernel Unit :=
  writeMemory address (wordBytes width value)

/-- Numbers of eight bytes that follow each other in memory. -/
def readNumbers (address : UInt64) (count : Nat) : Kernel (List UInt64) := do
  let bytes ← readMemory address (8 * count)
  return (List.range count).map fun i => littleEndian bytes (8 * i) 8

/-- Puts numbers of eight bytes into memory. -/
def writeNumbers (address : UInt64) (numbers : List UInt64) : Kernel Unit :=
  writeMemory address (packNumbers numbers)

/-- The bytes of a structure that may be longer or shorter than the one that is known. What is missing is
zero, and so has to be what is unknown. -/
def readSized (address : UInt64) (length least known : Nat) : Kernel ByteArray := do
  failIf (pageBytes < length) .listTooLong
  failIf (length < least) .invalidArgument
  let rest ← readMemory (address + UInt64.ofNat known) (length - known)
  failIf (rest.toList.any (· != 0)) .listTooLong
  return padded (← readMemory address (min length known)) known

/-- The bytes before the first zero, of which there may be at most `limit`. -/
def readText (address : UInt64) (limit : Nat) (errno : Errno) : Kernel Bytes := do
  let bytes := (← copyIn address.toNat limit).toList
  let text := bytes.takeWhile (· != 0)
  failIf (text.length = bytes.length) (if bytes.length < limit then .badAddress else errno)
  return text

/-- The path at an address, which may be empty. -/
def readName (address : UInt64) : Kernel Bytes := readText address 4096 .nameTooLong

/-- The path at an address. -/
def readPath (address : UInt64) : Kernel Bytes := do
  let path ← readName address
  failIf path.isEmpty .noEntry
  return path

/-! ### Several ranges -/

/-- The bytes of some ranges, up to the first that cannot be read. -/
def gather : List Span → ByteArray → Kernel ByteArray
  | [], bytes => return bytes
  | span :: spans, bytes => do
    let part ← copyIn span.start span.length
    if part.size < span.length then return bytes ++ part else gather spans (bytes ++ part)

/-- Puts bytes into some ranges, up to the first place that cannot be written, and gives their number. -/
def scatter (bytes : ByteArray) : List Span → (done : Nat) → Kernel Nat
  | [], done => return done
  | span :: spans, done => do
    let part := bytes.extract done (done + span.length)
    let count ← copyOut span.start part
    if count < part.size || part.size < span.length then return done + count
    else scatter bytes spans (done + count)

/-- The most bytes that are moved at once. -/
def mostMoved : Nat := 0x7ffff000

/-- A range that is given by its start and length. -/
def givenSpan (address length : UInt64) : Kernel (List Span) := do
  failIf (addressLimit < address.toNat + length.toNat) .badAddress
  failIf (0x8000000000000000 ≤ length) .invalidArgument
  return [⟨address.toNat, min length.toNat mostMoved⟩]

/-- A range that is given by its start and length, of which no more is used than is moved at once. -/
def cappedSpan (address length : UInt64) : Kernel (List Span) := do
  let length := min length.toNat mostMoved
  failIf (addressLimit < address.toNat + length) .badAddress
  return [⟨address.toNat, length⟩]

/-- The ranges that are listed in memory, each by its start and its length. -/
def listedSpans (list count : UInt64) : Kernel (List Span) := do
  let count := count.toNat
  failIf (1024 < count) .invalidArgument
  let numbers ← readNumbers list (2 * count)
  let rec spans : List UInt64 → List Span
    | start :: length :: rest => ⟨start.toNat, length.toNat⟩ :: spans rest
    | _ => []
  let listed := spans numbers
  failIf (listed.any fun span => 0x8000000000000000 ≤ span.length) .invalidArgument
  failIf (listed.any fun span => addressLimit < span.start + span.length) .badAddress
  return (Span.split mostMoved listed).1

end Kernel

end StaticElf.Linux
