/-
**What can be set for a socket.**

* `SettingRule` — which values can be set, and what is kept of them.
* `Setting` — a setting with its value at the start.
* `Socket.settingsAt` — the settings of a socket at a level.
-/

import StaticElf.Linux.Socket

namespace StaticElf.Linux

/-- Which values can be set, and what is kept of them. -/
inductive SettingRule where
  /-- Whether the value is zero. -/
  | flag
  /-- Any value. -/
  | kept
  /-- A value between two others. -/
  | between (least most : Int)
  /-- A value that is not too large; a larger one is cut. -/
  | upTo (most : Int)
  /-- Any value, and nothing is kept of it. -/
  | ignored
  /-- Nothing but zero. -/
  | zeroOr (errno : Errno)
  /-- None. -/
  | refused (errno : Errno)
  deriving DecidableEq, Repr

/-- What is kept of a value, if it is not refused. -/
def SettingRule.apply (rule : SettingRule) (value : Int) : Except Errno (Option Int) :=
  match rule with
  | .flag => .ok (some (if value = 0 then 0 else 1))
  | .kept => .ok (some value)
  | .between least most =>
    if least ≤ value && value ≤ most then .ok (some value) else .error .invalidArgument
  | .upTo most => if value < 0 then .error .invalidArgument else .ok (some (min value most))
  | .ignored => .ok none
  | .zeroOr errno => if value = 0 then .ok (some 0) else .error errno
  | .refused errno => .error errno

/-- A setting of a socket. -/
structure Setting where
  number : Nat
  /-- The value at the start, if it can be asked for. -/
  initial : Option Int := some 0
  /-- What can be set, if anything. -/
  rule : Option SettingRule := none
  deriving DecidableEq, Repr

namespace Setting

/-- Settings that are on or off, and off at the start. -/
def flags (numbers : List Nat) : List Setting :=
  numbers.map fun number => { number, rule := some .flag }

/-- Settings that have one value and can only be asked for. -/
def told (entries : List (Nat × Int)) : List Setting :=
  entries.map fun (number, value) => { number, initial := some value }

/-- Settings that cannot be set and tell nothing but zero. -/
def refused (errno : Errno) (numbers : List Nat) : List Setting :=
  numbers.map fun number => { number, rule := some (.refused errno) }

/-- Settings that cannot be set and cannot be asked for. -/
def barred (errno : Errno) (numbers : List Nat) : List Setting :=
  numbers.map fun number => { number, initial := none, rule := some (.refused errno) }

/-- Settings with a value at the start and a rule. -/
def ruled (entries : List (Nat × Int × SettingRule)) : List Setting :=
  entries.map fun (number, value, rule) => { number, initial := some value, rule := some rule }

/-! ### Levels -/

def commonLevel : Nat := 1
def shortHostLevel : Nat := 0
def streamLevel : Nat := 6
def datagramLevel : Nat := 17
/-- The level of messages of which only a part is checked, which others have too. -/
def partlyCheckedLevel : Nat := 136
def longHostLevel : Nat := 41
def kernelLevel : Nat := 270

end Setting

namespace Socket

open Setting

/-- The settings of all sockets. -/
def commonSettings (socket : Socket) : List Setting :=
  let hosts := socket.family.hasHosts
  let stream := socket.isRemoteStream
  let own := socket.family = .machine
  let only (holds : Bool) (rule : SettingRule) : SettingRule :=
    if holds then rule else .refused .notSupported
  let shown (holds : Bool) (number : Nat) (value : Int) (rule : SettingRule) : List Setting :=
    if holds then [{ number, initial := some value, rule := some rule }] else []
  flags [2, 5, 6, 9, 10, 11, 40, 41, 43, 44, 45, 75, 82]
    ++ told [(56, 0), (48, 64)]
    ++ ruled [(1, 0, .zeroOr .permissionDenied), (14, 0, .ignored), (46, 0, .between 0 0x7fffffff),
      (47, -1, .kept), (49, -1, .kept), (69, 0, .zeroOr .notPermitted), (72, 0, .between 0 3),
      (36, 0, .refused .notPermitted),
      (15, 0, if hosts then .flag else .zeroOr .notSupported),
      (60, 0, only hosts (.between 0 1)),
      (61, 0, .refused .invalidArgument)]
    ++ shown (!hosts) 16 0 .flag ++ shown (!hosts) 34 0 .flag
    ++ shown own 76 0 .flag ++ shown own 83 1 .flag
    ++ (if socket.family = .kernel then [] else ruled [(42, -1, .kept)])
    ++ (if stream then [] else barred .invalidArgument [26])
    ++ (if stream then barred .notPermitted [26] else [])
    ++ [{ number := 53, initial := none, rule := some .ignored }]
    ++ barred .noEntry [27] ++ barred .notPermitted [32, 33] ++ barred .invalidArgument [51, 68]
    ++ barred (if stream then .invalidArgument else .badDescriptor) [80]
    ++ (if own && socket.kind = .stream
        then [{ number := 84, initial := none, rule := some (.between 0 1) }] else [])

/-- The settings of a stream between hosts. -/
def streamSettings (socket : Socket) : List Setting :=
  let joined := socket.stage = .connected
  let idle := socket.stage = .idle
  let barredIf (holds : Bool) (rule : SettingRule) : SettingRule :=
    if holds then .refused .invalidArgument else rule
  flags [1, 3]
    ++ ruled [(4, 7200, .between 1 32767), (5, 75, .between 1 32767), (6, 9, .between 1 127),
      (7, 6, .between 1 127), (12, 1, .flag), (16, 0, .between 0 1),
      (18, 0, .between 0 0x7fffffff), (25, 0, .kept), (27, 0, .between 0 2), (36, 0, .between 0 1),
      (37, 0, .between 0 0x7fffffff), (44, 120000, .between 1000 120000), (45, 200000, .between 4000 200000),
      (46, 200000, .between 4000 200000), (23, 0, barredIf joined (.upTo 4096)),
      (30, 0, barredIf (!idle) (.between 0 1)), (34, 0, barredIf joined (.between 0 1))]
    ++ refused .notPermitted [19, 24] ++ told [(28, 0), (43, 0)]
    ++ barred .invalidArgument [14, 22, 32]
    ++ refused .noEntry [31] ++ refused .invalidArgument [33]

/-- The settings of messages between hosts. -/
def datagramSettings : List Setting :=
  flags [1, 101, 102, 104] ++ told [(10, 0), (11, 0), (100, 0)] ++ ruled [(103, 0, .between 0 65535)]

/-- The settings of sockets whose hosts have four bytes. -/
def shortHostSettings (socket : Socket) : List Setting :=
  let stream := socket.kind = .stream
  let mayNot (rule : SettingRule) : SettingRule :=
    if stream then .refused .invalidArgument else rule
  flags [6, 7, 8, 11, 12, 13, 15, 18, 20, 23, 24, 34]
    ++ told [(3, 0), (22, 0)]
    ++ (if stream then told [(9, 0)] else [])
    ++ ruled [(10, 1, .between 0 2), (21, 0, .between 0 255), (26, 0, .between 0 1),
      (19, 0, .zeroOr .notPermitted), (25, 0, mayNot .flag),
      (32, 0, mayNot (.zeroOr .addressNotHere)),
      (50, 0, .zeroOr .addressNotHere), (5, 0, .refused .invalidArgument),
      (49, if socket.family = .longHost then 0 else 1, .between 0 1)]
    ++ [{ number := 4, initial := none, rule := some .ignored }]
    ++ barred .notPermitted [16, 17, 64, 65, 96, 97]
    ++ barred (if stream then .protocolError else .invalidArgument) [35, 36]
    ++ barred .invalidArgument [37, 38, 39, 40, 42, 43, 44, 45, 46, 47, 48]

/-- The settings of sockets whose hosts have sixteen bytes. -/
def longHostSettings (socket : Socket) : List Setting :=
  let stream := socket.kind = .stream
  flags [2, 3, 4, 5, 8, 11, 25, 30, 33, 49, 51, 53, 56, 58, 60, 62, 66, 74, 77, 78]
    ++ ruled [(19, 1, .between 0 1), (23, 1, .between 0 2), (29, 1, .flag), (31, 0, .between 0 1),
      (70, 1, .flag), (73, 0, .between 0 255), (75, 0, .zeroOr .notPermitted),
      (76, 0, .zeroOr .addressNotHere), (57, 0, .refused .invalidArgument),
      (26, 0, if socket.name.isSome then .refused .invalidArgument else .flag)]
    ++ refused .notPermitted [54, 55, 59]
    ++ told [(22, 0)]
    ++ (if stream then ruled [(6, 0, .ignored)] ++ told [(17, 0), (18, 1)]
        else [{ number := 6, initial := none, rule := some .ignored }]
          ++ ruled [(17, 0, .between 0 1)])
    ++ barred .invalidArgument [20, 21, 27, 28, 42, 43, 44, 45, 46, 47, 50]
    ++ barred .notPermitted [34, 35]

/-- The settings of sockets to the kernel. -/
def kernelSettings : List Setting :=
  flags [3, 4, 5, 10, 11, 12] ++ told [(9, 0)] ++ refused .notPermitted [8]
    ++ [{ number := 1, initial := none, rule := some (.between 1 32) },
      { number := 2, initial := none, rule := some (.between 1 32) }]

/-- The settings of a socket at a level, if it has that level. -/
def settingsAt (socket : Socket) (level : Nat) : Option (List Setting) :=
  if level = commonLevel then some socket.commonSettings
  else if level = shortHostLevel && socket.family.hasHosts then some socket.shortHostSettings
  else if level = longHostLevel && socket.family = .longHost then some socket.longHostSettings
  else if level = streamLevel && socket.isRemoteStream then some socket.streamSettings
  else if (level = datagramLevel || level = partlyCheckedLevel) && socket.isRemoteDatagram then
    some datagramSettings
  else if level = kernelLevel && socket.family = .kernel then some kernelSettings
  else none

/-- What was set, if anything. -/
def setValue? (socket : Socket) (level number : Nat) : Option Int :=
  socket.settings.lookup (level, number)

/-- What was set, or what holds at the start. -/
def value (socket : Socket) (level number : Nat) (initial : Int) : Int :=
  (socket.setValue? level number).getD initial

/-- Whether a common setting is on. -/
def isOn (socket : Socket) (number : Nat) : Bool := socket.value commonLevel number 0 ≠ 0

/-- A socket for which something was set. -/
def withValue (socket : Socket) (level number : Nat) (value : Int) : Socket :=
  { socket with settings := ((level, number), value) ::
      socket.settings.filter fun (key, _) => key ≠ (level, number) }

/-! ### Room -/

/-- The room for what is sent, and for what is received. -/
def sendRoom (socket : Socket) : Nat :=
  let usual : Int := if !socket.isRemoteStream then 212992
    else if socket.stage = .connected then 3939840 else 16384
  (socket.value commonLevel 7 usual).toNat

def receiveRoom (socket : Socket) : Nat :=
  (socket.value commonLevel 8 (if socket.isRemoteStream then 131072 else 212992)).toNat

end Socket

end StaticElf.Linux
