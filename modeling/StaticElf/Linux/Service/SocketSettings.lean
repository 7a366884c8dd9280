/-
**What is set for a socket, as system calls.**

* `Kernel.settingBytes` — what is told about a setting.
* `Kernel.applySetting` — what is done when something is set.
* `Service.tellOption`, `Service.setOption` — the system calls.
-/

import StaticElf.Linux.Service.Sockets

namespace StaticElf.Linux

namespace Kernel

open Setting

/-- A number with a sign as four bytes. -/
def signedBytes (value : Int) : ByteArray := wordBytes 4 (UInt64.ofInt value)

/-! ### Asking -/

/-- The settings that say whether messages tell when they came, of which at most one is on. -/
def stampSettings : List Nat := [29, 35, 63, 64]

/-- The most that a timeout is off, in nanoseconds. -/
def tickLength : Nat := 4000000

/-- A time limit as it is told. -/
def timeBytes (limit : Int) : ByteArray :=
  let limit := limit.toNat
  packNumbers [result (limit / 1000000000), result (limit % 1000000000 / 1000)]

/-- The name of the only device of the network. -/
def deviceName : ByteArray := "lo".toUTF8.push 0

/-- What is told about a common setting that is not told by its value alone. -/
def commonBytes (number : Nat) (socket : Socket) (setting room : Nat) :
    Kernel (Option ByteArray) := do
  let value (initial : Int) : Int := socket.value commonLevel setting initial
  let word (number : Nat) : Kernel (Option ByteArray) := pure (some (wordBytes 4 (result number)))
  match setting with
  | 3 => word socket.type
  | 4 =>
    modifySocket number ({ · with error := none })
    word ((socket.error.map (·.code.toNat)).getD 0)
  | 7 => word socket.sendRoom
  | 8 => word socket.receiveRoom
  | 12 => return some (signedBytes (value 0))
  | 13 =>
    return some (match socket.setValue? commonLevel 13 with
      | some seconds => wordBytes 4 1 ++ signedBytes seconds
      | none => padded ByteArray.empty 8)
  | 17 =>
    return some (match socket.peerProcess with
      | some process => wordBytes 4 (result process) ++ wordBytes 8 (result userNumber)
      | none => wordBytes 4 0 ++ wordBytes 8 0xffffffffffffffff)
  | 18 => return some (signedBytes (value 1))
  | 19 => word 1
  | 20 | 21 => return some (timeBytes (value 0))
  | 66 => return some (timeBytes (socket.value commonLevel 20 0))
  | 67 => return some (timeBytes (socket.value commonLevel 21 0))
  | 25 =>
    if socket.value commonLevel 62 0 = 0 then return some ByteArray.empty
    failIf (room < 16) .invalidArgument
    return some deviceName
  | 26 => return some ByteArray.empty
  | 28 =>
    let name ← Service.peerNameBytes socket
    failIf (name.size < room) .invalidArgument
    return some name
  | 29 | 35 | 63 | 64 => word (if socket.value commonLevel 29 0 = setting then 1 else 0)
  | 30 => word (if socket.stage = .listening then 1 else 0)
  | 37 | 65 => return some (signedBytes (socket.value commonLevel 37 0))
  | 38 => word socket.protocol
  | 39 => word socket.family.number
  | 47 =>
    let rate := value (-1)
    return some (if 8 ≤ room then wordBytes 8 (UInt64.ofInt rate) else signedBytes rate)
  | 55 =>
    let taken := socket.received.foldr (fun message room => message.charge + room) 0
    let numbers := [if socket.isRemoteDatagram then taken else 0, socket.receiveRoom,
      ← roomTaken number, socket.sendRoom, 0, 0, 0, 0, 0]
    return some (numbers.foldl (fun bytes number => bytes ++ wordBytes 4 (result number))
      ByteArray.empty)
  | 57 =>
    failIf (room < 8) .invalidArgument
    return some (wordBytes 8 (result (number + 1)))
  | 59 | 77 =>
    failIf (socket.peerProcess.isNone || socket.family ≠ .machine) .noData
    if setting = 59 then return some ByteArray.empty
    let world ← get
    let index := world.processes.findIdx? fun process =>
      some process.number = socket.peerProcess && !process.told
    word (← install { opened := .process index none, flags := OpenFlags.readWrite } true)
  | 62 => return some (signedBytes (value 0))
  | 71 =>
    failIf (room ≠ 8) .invalidArgument
    return some (wordBytes 8 1)
  | 73 => word 0
  | 74 =>
    failIf (!socket.isRemoteStream) .notSupported
    return some (signedBytes (value 1))
  | 16 | 34 =>
    failIf socket.family.hasHosts .notSupported
    return none
  | 42 =>
    failIf (socket.family = .kernel) .notSupported
    return none
  | 76 | 83 =>
    failIf (socket.family ≠ .machine) .notSupported
    return none
  | _ => return none

/-- The way in which streams between hosts share the network. -/
def congestionName : ByteArray := "bbr".toUTF8

/-- What is told about a setting of a stream between hosts that is not told by its value alone. -/
def streamBytes (socket : Socket) (setting room : Nat) : Kernel (Option ByteArray) := do
  let value (initial : Int) : Int := socket.value streamLevel setting initial
  let joined := socket.stage = .connected
  match setting with
  | 2 => return some (signedBytes (if joined then 32741 else value 536))
  | 8 | 9 => return some (signedBytes (value (if setting = 8 then 60 else 0)))
  | 10 => return some (signedBytes (value (if joined then 65536 else 0)))
  | 11 =>
    let stage := match socket.stage with
      | .connected => if socket.finished then 8 else 1
      | .listening => 10
      | _ => 7
    return some (padded (wordBytes 1 stage) 104)
  | 13 => return some (padded congestionName 16)
  | 17 | 26 => return some (signedBytes 0)
  | 20 | 21 | 29 => fail .invalidArgument
  | 35 =>
    failIf (room < 40) .invalidArgument
    failIf (socket.stage = .listening) .notConnected
    return some (padded ByteArray.empty 40)
  | 42 => fail .notPermitted
  | _ => return none

/-- What is told about a setting of a socket between hosts that is not told by its value alone. -/
def hostBytes (socket : Socket) (level setting : Nat) : Kernel (Option ByteArray) := do
  let value (initial : Int) : Int := socket.value level setting initial
  if level = shortHostLevel then
    match setting with
    | 1 | 51 => return some (signedBytes (value 0))
    | 2 => return some (signedBytes (value 64))
    | 4 => return some ByteArray.empty
    | 14 =>
      failIf (socket.stage ≠ .connected) .notConnected
      return some (signedBytes 65535)
    | 33 => return some (signedBytes (value 1))
    | 41 | 48 => fail .invalidArgument
    | 64 | 65 | 66 | 67 | 83 | 96 | 97 | 98 | 99 => fail .notPermitted
    | 80 =>
      failIf (socket.kind = .stream) .invalidArgument
      return none
    | 52 => return some (signedBytes socket.port)
    | _ => return none
  else match setting with
    | 1 | 61 => fail .notConnected
    | 16 => return some (signedBytes (value 64))
    | 18 => return some (signedBytes (value 1))
    | 24 =>
      failIf (socket.stage ≠ .connected) .notConnected
      return some (signedBytes 65536)
    | 26 => return some (signedBytes (value (if socket.kind = .stream then 0 else 0)))
    | 48 => fail .invalidArgument
    | 64 | 65 | 68 | 69 => fail .notPermitted
    | 67 => return some (signedBytes (value 0))
    | 72 => return some (signedBytes (value 1280))
    | _ => return none

/-- How a socket tells that it has no such setting, or no such level. -/
def missingAt (socket : Socket) (level : Nat) : Errno :=
  if level ≠ commonLevel && (socket.family = .machine
    || (socket.family = .shortHost && (socket.settingsAt level).isNone)) then .notSupported
  else .unknownOption

/-- What is told about a setting. -/
def settingBytes (number : Nat) (socket : Socket) (level setting room : Nat) : Kernel ByteArray := do
  let missing := missingAt socket level
  let special ← if level = commonLevel then commonBytes number socket setting room
    else if level = streamLevel && socket.isRemoteStream then streamBytes socket setting room
    else if level = shortHostLevel && socket.family.hasHosts then hostBytes socket level setting
    else if level = longHostLevel && socket.family = .longHost then hostBytes socket level setting
    else pure none
  match special with
  | some bytes => return bytes
  | none =>
    let settings ← ofOption (socket.settingsAt level) missing
    let entry ← ofOption (settings.find? (·.number = setting)) missing
    let initial ← ofOption entry.initial missing
    return signedBytes (socket.value level setting initial)

/-! ### Setting -/

/-- Keeps a value that was set. -/
def keepValue (number level setting : Nat) (value : Int) : Kernel Unit :=
  modifySocket number (·.withValue level setting value)

/-- The number that stands in memory, if it has as many bytes as are needed. -/
def readSettingValue (address : UInt64) (length : Nat) : Kernel Int := do
  failIf (length < 4) .invalidArgument
  return lowSigned (← readNumber address 4)

/-- The time limit that stands in memory, in whole ticks. One that has passed is negative. -/
def readTimeLimit (address : UInt64) (length : Nat) : Kernel Int := do
  failIf (length < 16) .invalidArgument
  let numbers ← readNumbers address 2
  let seconds := (numbers.getD 0 0).toInt64.toInt
  let microseconds := (numbers.getD 1 0).toInt64.toInt
  failIf (microseconds < 0 || 1000000 ≤ microseconds) .outOfDomain
  if seconds < 0 then return -1
  if 0x1000000000000 < seconds then return 0
  let nanoseconds := (seconds * 1000000000 + microseconds * 1000).toNat
  return ((nanoseconds + tickLength - 1) / tickLength * tickLength : Nat)

/-- The most room that can be asked for. -/
def mostSocketRoom : Nat := 4194304

/-- Room that was asked for: twice as much is taken. -/
def roomFor (value : Int) (least : Nat) : Int :=
  let wanted := (value % 0x100000000).toNat
  (max (2 * min wanted mostSocketRoom) least : Nat)

/-- Chooses the device that a socket is for. There is only one, and it is chosen once. -/
def bindDevice (number : Nat) (socket : Socket) (index : Int) : Kernel Unit := do
  failIf (socket.value commonLevel 62 0 ≠ 0) .notPermitted
  failIf (index < 0) .invalidArgument
  keepValue number commonLevel 62 index

/-- Sets something that all sockets have. Whether it is known is said. -/
def applyCommon (number : Nat) (socket : Socket) (setting : Nat) (address : UInt64) (length : Nat) :
    Kernel Bool := do
  if setting = 25 then
    let bytes ← readMemory address (min length 15)
    let name := bytes.toList.takeWhile (· != 0)
    failIf (!name.isEmpty && name ≠ "lo".toUTF8.toList) .unknownDevice
    bindDevice number socket (if name.isEmpty then 0 else 1)
    return true
  let value ← readSettingValue address length
  let keep (setting : Nat) (value : Int) : Kernel Bool := do
    keepValue number commonLevel setting value
    return true
  match setting with
  | 7 => keep 7 (roomFor value 4608)
  | 8 => keep 8 (roomFor value 2304)
  | 12 =>
    failIf (value < 0 || 6 < value) .notPermitted
    keep 12 value
  | 13 =>
    failIf (length < 8) .invalidArgument
    let seconds := lowSigned (← readNumber (address + 4) 4)
    if value = 0 then
      modifySocket number fun socket => { socket with
        settings := socket.settings.filter fun (key, _) => key ≠ (commonLevel, 13) }
      return true
    keep 13 seconds
  | 18 =>
    let most : Int := if socket.isRemoteStream then 16777216 else 0x7fffffff
    keep 18 (if value < 0 then most else if value = 0 then 1 else min value most)
  | 20 | 66 => keep 20 (← readTimeLimit address length)
  | 21 | 67 => keep 21 (← readTimeLimit address length)
  | 29 | 35 | 63 | 64 => keep 29 (if value = 0 then 0 else setting)
  | 37 | 65 =>
    failIf (value < 0) .invalidArgument
    failIf (0x8000 ≤ value) .notSupported
    let unjoined := socket.isRemoteStream && socket.stage ≠ .connected
    failIf (unjoined && value.toNat &&& 0x80 ≠ 0) .invalidArgument
    keep 37 value
  | 50 | 52 =>
    let _ ← opened (low (UInt64.ofInt value))
    fail .invalidArgument
  | 62 =>
    bindDevice number socket value
    return true
  | 70 =>
    failIf (value < 0) .invalidArgument
    failIf (value ≠ 0) .notPermitted
    return true
  | 73 => fail (if value < 0 then .invalidArgument else .notSupported)
  | 74 =>
    failIf (!socket.isRemoteStream) .notSupported
    failIf (value < -1 || 1 < value) .invalidArgument
    keep 74 (if value = -1 then 1 else value)
  | 16 | 34 =>
    failIf socket.family.hasHosts .notSupported
    return false
  | 42 =>
    failIf (socket.family = .kernel) .notSupported
    return false
  | 76 | 83 =>
    failIf (socket.family ≠ .machine) .notSupported
    return false
  | _ => return false

/-- The time that is waited for the first bytes of a connection, in the steps in which it can be. -/
def deferredTime (seconds : Int) : Int :=
  if seconds ≤ 0 then 0
  else ([1, 3, 7, 15, 31, 63, 127, 247, 367, 487, 607, 727, 847, 967, 1087].find? (seconds ≤ ·)).getD
    (min 29887 ((seconds - 1087 + 119) / 120 * 120 + 1087))

/-- Sets something that streams between hosts have. Whether it is known is said. -/
def applyStream (number : Nat) (socket : Socket) (setting : Nat) (address : UInt64) (length : Nat) :
    Kernel Bool := do
  let keep (value : Int) : Kernel Bool := do
    keepValue number streamLevel setting value
    return true
  if setting = 13 || setting = 31 then
    failIf (length < 1) .invalidArgument
    let bytes ← readMemory address (min length 15)
    let isKnown := setting = 13 && bytes.toList.takeWhile (· != 0) = congestionName.toList
    failIf (!isKnown) .noEntry
    return true
  if setting = 33 then fail .invalidArgument
  let value ← readSettingValue address length
  match setting with
  | 2 =>
    failIf (value ≠ 0 && (value < 88 || 32767 < value)) .invalidArgument
    keep (if value = 0 then 536 else value)
  | 8 => keep (if value < 0 then -1 else if value = 0 then 60 else min value 120)
  | 9 => keep (deferredTime value)
  | 10 =>
    failIf (value = 0 && socket.stage ≠ .idle) .invalidArgument
    keep (if value = 0 then 0 else max value 1152)
  | 17 =>
    failIf (value < 0 || 1 < value) .invalidArgument
    return true
  | 20 => fail .notPermitted
  | 21 => fail (if socket.stage = .idle then .invalidArgument else .notPermitted)
  | 29 | 42 => fail .notPermitted
  | 45 | 46 =>
    failIf (value < 4000 || 200000 < value) .invalidArgument
    keep ((value + 3999) / 4000 * 4000)
  | _ => return false

/-- Sets something that sockets between hosts have. Whether it is known is said. -/
def applyHost (number : Nat) (socket : Socket) (level setting : Nat) (value : Int) : Kernel Bool := do
  let stream := socket.kind = .stream
  let keep (value : Int) : Kernel Bool := do
    keepValue number level setting value
    return true
  let orUsual (usual least : Int) : Kernel Bool := do
    failIf (value ≠ -1 && (value < least || 255 < value)) .invalidArgument
    keep (if value = -1 then usual else value)
  let marks := (value % 256 : Int).toNat
  let shown : Int := if stream then (marks &&& 0xfc : Nat) else marks
  if level = shortHostLevel then
    match setting with
    | 1 => keep shown
    | 2 => orUsual 64 1
    | 33 =>
      failIf stream .invalidArgument
      orUsual 1 0
    | 41 => fail .invalidArgument
    | 51 =>
      let low := (value % 65536).toNat
      let high := ((value % 0x100000000) / 65536).toNat
      failIf (low ≠ 0 && high ≠ 0 && high < low) .invalidArgument
      keep value
    | _ => return false
  else match setting with
    | 1 =>
      failIf (value = 2) .notConnected
      fail .invalidArgument
    | 16 => orUsual 64 0
    | 18 =>
      failIf stream .unknownOption
      orUsual 1 0
    | 17 =>
      failIf stream .unknownOption
      failIf (1 < value || value < 0) .unknownDevice
      return false
    | 24 =>
      failIf (value ≠ 0 && value < 1280) .invalidArgument
      return true
    | 64 | 65 => fail .notPermitted
    | 67 =>
      failIf (value < -1 || 255 < value) .invalidArgument
      keep (if value = -1 then 0 else shown)
    | _ => return false

/-- Sets a value by its rule. -/
def applyRule (number : Nat) (socket : Socket) (level setting : Nat) (value : Int) : Kernel Unit := do
  let missing : Errno := if socket.family = .machine && level ≠ commonLevel then .notSupported
    else .unknownOption
  let settings ← ofOption (socket.settingsAt level) missing
  let entry ← ofOption (settings.find? (·.number = setting)) missing
  let rule ← ofOption entry.rule missing
  match ← ofExcept (rule.apply value) with
  | some value => keepValue number level setting value
  | none => pure ()

/-- Sets something. -/
def applySetting (number : Nat) (socket : Socket) (level setting : Nat) (address : UInt64)
    (length : Nat) : Kernel Unit := do
  if level = commonLevel then
    if !(← applyCommon number socket setting address length) then
      applyRule number socket level setting (← readSettingValue address length)
  else if level = streamLevel && socket.isRemoteStream then
    if !(← applyStream number socket setting address length) then
      applyRule number socket level setting (← readSettingValue address length)
  else if level = shortHostLevel && socket.family.hasHosts then
    failIf (setting = 51 && length ≠ 4) .invalidArgument
    let width := if length < 4 then min length 1 else 4
    let value ← if width = 0 then pure 0 else lowSigned <$> readNumber address width
    if !(← applyHost number socket level setting value) then
      applyRule number socket level setting value
  else if level = longHostLevel && socket.family = .longHost then
    let value ← readSettingValue address length
    if !(← applyHost number socket level setting value) then
      applyRule number socket level setting value
  else if (socket.settingsAt level).isSome then
    applyRule number socket level setting (← readSettingValue address length)
  else applyRule number socket level setting 0

end Kernel

namespace Service

open Kernel

def tellOption : Service := fun arguments => do
  let (number, socket, _) ← openSocket arguments.first
  let level := low arguments.second
  failIf (socket.settingsAt level).isNone (missingAt socket level)
  let room := lowSigned (← readNumber arguments.fifth 4)
  failIf (room < 0) .invalidArgument
  let bytes ← settingBytes number socket level (low arguments.third) room.toNat
  let value := littleEndian (padded bytes 4) 0 4
  let short := level = Setting.shortHostLevel && 0 < room && room < 4 && value ≤ 255
  let told := if short then bytes.extract 0 1 else bytes.extract 0 room.toNat
  if told.size ≠ 0 then writeMemory arguments.fourth told
  writeNumber arguments.fifth 4 (result told.size)
  return 0

def setOption : Service := fun arguments => do
  let (number, socket, _) ← openSocket arguments.first
  let length := lowSigned arguments.fifth
  failIf (length < 0) .invalidArgument
  applySetting number socket (low arguments.second) (low arguments.third) arguments.fourth length.toNat
  return 0

end Service

end StaticElf.Linux
