/-
**Assemblies: two payloads and their placement.**

* `Assembly` — the code and the data of a program with the place of each in the file and in memory.
* `Assembly.message` — the byte string that identifies an assembly.
* `Assembly.digest` — its hash in hexadecimal; `Assembly.digestBy` leaves open which hash it is.
-/

import StaticElf.Blake2b
import StaticElf.Text.Numeral

namespace StaticElf

/-- Where a segment lies in the file and in memory. -/
structure Placement where
  offset : UInt64 := 0
  virtualAddress : UInt64 := 0
  physicalAddress : UInt64 := 0
  memorySize : UInt64 := 0
  deriving DecidableEq, Repr

/-- The payloads of an executable and their placement. -/
structure Assembly where
  code : Bytes := []
  data : Bytes := []
  codeAt : Placement := {}
  dataAt : Placement := {}
  deriving DecidableEq, Repr

namespace Assembly

/-- The address at which execution starts. -/
def entry (assembly : Assembly) : UInt64 := assembly.codeAt.virtualAddress

/-- The placement and the length of a payload, in front of the payload. -/
def segmentMessage (place : Placement) (payload : Bytes) : Bytes :=
  u64Bytes place.offset ++ u64Bytes place.virtualAddress ++ u64Bytes place.physicalAddress
    ++ u64Bytes place.memorySize ++ u64Bytes (UInt64.ofNat payload.length) ++ payload

/-- The byte string that identifies an assembly. -/
def message (assembly : Assembly) : Bytes :=
  segmentMessage assembly.codeAt assembly.code ++ segmentMessage assembly.dataAt assembly.data

/-- The hash of the identifying byte string, in hexadecimal. -/
def digestBy (hash : Bytes → Bytes) (assembly : Assembly) : String :=
  Text.hexPairs (hash assembly.message)

/-- The build id. -/
def digest (assembly : Assembly) : String := assembly.digestBy Blake2b.hash256

end Assembly

end StaticElf
