/-
**System calls by their numbers.**

* `services` — the system calls that a program can make; `oldServices` are those of the old instruction.
* `Kernel.letThrough` — what keeps a call from being made.
* `Kernel.serve` — carries a system call out.
* `Kernel.interrupted` — what becomes of a call that a signal interrupts.
-/

import StaticElf.Linux.Service.Administration
import StaticElf.Linux.Service.Control
import StaticElf.Linux.Service.Execute
import StaticElf.Linux.Service.Handles
import StaticElf.Linux.Service.Messages
import StaticElf.Linux.Service.Moving
import StaticElf.Linux.Service.Naming
import StaticElf.Linux.Service.Nodes
import StaticElf.Linux.Service.Polling
import StaticElf.Linux.Service.Processes
import StaticElf.Linux.Service.Requests
import StaticElf.Linux.Service.Scheduling
import StaticElf.Linux.Service.SocketSettings
import StaticElf.Linux.Service.Splice

namespace StaticElf.Linux

/-- Reading, writing, and what is done with file descriptors. -/
def fileServices : List (Nat × Service) :=
  [(0, .read), (1, .write), (3, .close), (8, .seek), (16, .request), (17, .readAt),
    (18, .writeAt), (19, .readListed), (20, .writeListed), (22, .makePipe), (32, .duplicate),
    (33, .duplicateOver), (40, .sendFile), (72, .control), (73, .lockWhole), (74, .flush),
    (75, .flush), (77, .resize), (187, .readAhead), (221, .adviseRange), (253, .makeNotifier),
    (275, .splice), (276, .tee), (277, .flushRange), (278, .splicePages),
    (282, .makeSignalReader), (283, .makeTimer), (284, .makeCounter), (285, .allocateSpace),
    (286, .setOpenTimer), (287, .tellTimerFile), (289, .makeSignalReaderFlagged),
    (290, .makeCounterFlagged), (292, .duplicateOverWith), (293, .makePipeFlagged),
    (294, .makeNotifierFlagged), (295, .readListedAt), (296, .writeListedAt), (306, .flushDevice),
    (319, .makeMemoryFile), (326, .copyFileRange), (327, .readListedWith),
    (328, .writeListedWith), (436, .closeRange)]

/-- What is done with memory. -/
def memoryServices : List (Nat × Service) :=
  [(9, .map), (10, .protect), (11, .unmap), (12, .setBreak), (25, .remap), (26, .synchronize),
    (27, .residentPages), (28, .advise), (149, .lockMemory), (150, .unlockMemory),
    (151, .lockAllMemory), (152, .unlockAllMemory), (202, .lock), (216, .showElsewhere),
    (237, .bindNodes), (238, .setNodePolicy), (239, .tellNodePolicy), (256, .movePagesBetween),
    (279, .movePages), (325, .lockMemoryWith), (329, .protectWithKey), (330, .allocateKey), (331, .freeKey),
    (450, .setHomeNode), (462, .sealRange)]

/-- What is done with threads and processes. -/
def threadServices : List (Nat × Service) :=
  [(24, .nothing), (39, .ownNumber), (56, .cloneThread), (57, .fork), (58, .forkSuspended),
    (59, .execute), (60, .exitThread), (61, .waitFor), (63, .nameSystem), (97, .tellLimit),
    (99, .tellSystem), (102, .user), (104, .user), (105, .setUser), (106, .setUser), (107, .user),
    (108, .user), (109, .setGroup), (110, .parentNumber), (111, .ownGroup), (112, .makeSession),
    (113, .setUsers), (114, .setUsers), (115, .tellGroups), (116, .refused .notPermitted),
    (117, .setAllUsers), (118, .tellUsers), (119, .setAllUsers), (120, .tellUsers),
    (121, .groupOf), (122, .setFileUser), (123, .setFileUser), (124, .sessionOf),
    (125, .tellPrivileges), (126, .setPrivileges), (135, .setPersona), (157, .controlThread),
    (158, .controlProcessor), (160, .setLimit), (186, .ownThreadNumber), (218, .setClearedAtEnd),
    (231, .exitProcess), (247, .waitForKind), (272, .separate), (273, .setLockList),
    (274, .tellLockList), (302, .exchangeLimit), (309, .tellProcessor), (317, .confine),
    (318, .fillRandom), (322, .executeFrom), (435, .cloneListed)]

/-- What only an administrator may do, or is kept in bounds. -/
def administrationServices : List (Nat × Service) :=
  [(103, .refused .notPermitted), (136, .refused .invalidArgument), (139, .tellFileSystem),
    (153, .refused .notPermitted), (155, .refused .notPermitted), (159, .adjustTime),
    (163, .refused .notPermitted), (164, .setTimeOfDay), (165, .mount), (166, .unmount),
    (167, .useSwap), (168, .refused .notPermitted), (169, .refused .notPermitted),
    (170, .refused .notPermitted), (171, .refused .notPermitted), (179, .controlQuota),
    (219, .refused .interrupted), (227, .setClock), (298, .makeMeter), (300, .makeFileWatch),
    (301, .markFileWatch), (303, .tellHandle), (304, .openHandle), (305, .adjustClock),
    (308, .changeNames), (321, .controlProgram), (323, .makeFaultHandler),
    (336, .refused .noDevice), (428, .openTree), (429, .refused .notPermitted),
    (430, .refused .notPermitted), (431, .configureFileSystem), (432, .refused .notPermitted),
    (433, .refused .notPermitted), (442, .changeMount), (443, .controlOpenedQuota),
    (444, .makeRuleset), (445, .addRule), (446, .applyRuleset), (447, .makeSecretMemory),
    (451, .tellCached), (457, .tellMount), (458, .listMounts), (459, .tellWatchers),
    (460, .setWatchers), (461, .tellWatcherNumbers), (467, .openTreeWith), (468, .tellRules),
    (469, .setRules)]

/-- Looking into other processes. -/
def processServices : List (Nat × Service) :=
  [(310, .readOther), (311, .writeOther), (312, .compare), (324, .makeBarrier),
    (334, .registerRestarts), (424, .signalOpened), (434, .openProcess), (438, .takeDescriptor),
    (440, .adviseOther), (448, .releaseMemory)]

/-- How threads share the processors. -/
def scheduleServices : List (Nat × Service) :=
  [(140, .tellNice), (141, .setNice), (142, .setPriority), (143, .tellPriority), (144, .setPolicy),
    (145, .tellPolicy), (146, .mostPriority), (147, .leastPriority), (148, .tellTurn),
    (203, .setProcessors), (204, .tellProcessors), (251, .setDevicePriority),
    (252, .tellDevicePriority), (314, .setSchedule), (315, .tellSchedule)]

/-- What is done with paths. -/
def pathServices : List (Nat × Service) :=
  [(2, .open_), (4, .status), (5, .openedStatus), (6, .linkStatus), (21, .access),
    (76, .resizePath), (78, .listDirectoryOld), (79, .tellDirectory), (80, .changeDirectory),
    (81, .changeDirectoryTo), (82, .rename), (83, .makeDirectory), (84, .removeDirectory),
    (85, .create), (86, .link), (87, .unlink), (88, .symlink), (89, .readLink),
    (90, .changeMode), (91, .changeModeOpened), (92, .changeOwner), (93, .changeOwnerOpened), (94, .changeLinkOwner),
    (95, .setMask), (132, .setSeconds), (133, .makeSpecial), (137, .deviceStatus), (138, .openedDeviceStatus), (161, .changeRoot),
    (162, .nothing), (188, .setAttribute), (189, .setLinkAttribute), (190, .setOpenedAttribute),
    (191, .tellAttribute), (192, .tellLinkAttribute), (193, .tellOpenedAttribute),
    (194, .listAttributes), (195, .listLinkAttributes), (196, .listOpenedAttributes),
    (197, .removeAttribute), (198, .removeLinkAttribute), (199, .removeOpenedAttribute),
    (217, .listDirectory), (463, .setAttributeFrom), (464, .tellAttributeFrom),
    (465, .listAttributesFrom), (466, .removeAttributeFrom),
    (235, .setMicroseconds), (257, .openFrom), (258, .makeDirectoryFrom), (259, .makeSpecialFrom),
    (260, .changeOwnerFrom), (261, .setMicrosecondsFrom), (262, .statusFrom), (263, .unlinkFrom),
    (264, .renameFrom), (265, .linkFrom), (266, .symlinkFrom), (267, .readLinkFrom),
    (268, .changeModeFrom), (269, .accessFrom), (280, .setTimes), (316, .renameFromWith),
    (332, .longStatus), (437, .openListed), (439, .accessFromWith),
    (452, .changeModeFromWith)]

/-- Signals, clocks, and waiting. -/
def signalServices : List (Nat × Service) :=
  [(7, .poll), (13, .setDisposition), (14, .setBlocked), (15, .returnFromHandler), (23, .select),
    (34, .pause), (35, .sleep), (36, .tellTimer), (37, .setAlarm), (38, .setTimer), (62, .kill),
    (96, .tellTimeOfDay), (98, .tellUsage), (100, .tellSpent), (127, .tellPending),
    (128, .awaitSignal), (129, .killWith), (130, .suspend), (131, .setStack), (200, .killThread),
    (201, .tellSeconds), (213, .makeWatch), (222, .makeAlarm), (223, .setMadeAlarm),
    (224, .tellMadeAlarm), (225, .tellOverrun), (226, .deleteAlarm), (228, .tellClock),
    (229, .tellResolution), (230, .sleepBy), (232, .awaitWatch), (233, .changeWatch),
    (234, .killThreadOf), (270, .selectBlocking), (271, .pollBlocking),
    (281, .awaitWatchBlocking), (291, .makeWatchFlagged), (297, .killThreadWith),
    (441, .awaitWatchUntil)]

/-- Sockets. -/
def socketServices : List (Nat × Service) :=
  [(41, .makeSocket), (42, .connect), (43, .accept), (44, .send), (45, .receive),
    (46, .sendDescribed), (47, .receiveDescribed), (48, .shutDown), (49, .bind), (50, .listen),
    (51, .tellOwnAddress), (52, .tellPeerAddress), (53, .makeSocketPair), (54, .setOption),
    (55, .tellOption), (288, .acceptFlagged), (299, .receiveListed), (307, .sendListed)]

/-- The system calls, by their numbers. -/
def services : List (Nat × Service) :=
  fileServices ++ memoryServices ++ threadServices ++ processServices ++ scheduleServices
    ++ pathServices ++ signalServices ++ socketServices ++ administrationServices

/-- System calls in an array, by their numbers. -/
def tableOf (services : List (Nat × Service)) : Array (Option Service) :=
  services.foldl (fun table (number, service) => table.setIfInBounds number (some service))
    (Array.replicate 512 none)

/-- The system calls in an array. -/
def serviceTable : Array (Option Service) := tableOf services

namespace Service

/-- A call whose place in a file is given by two arguments, the low half first. -/
def withPlace (service : Service) : Service := fun arguments =>
  service { arguments with fourth := arguments.fourth ||| (arguments.fifth <<< 32) }

/-- A call of the old instruction that moves the position of a file. -/
def seekOld : Service := fun arguments =>
  seek { arguments with second := arguments.second.toUInt32.toInt32.toInt64.toUInt64 }

/-- A call of the old instruction that maps pages: the place in a file is given in pages. -/
def mapOld : Service := fun arguments => map { arguments with sixth := arguments.sixth * 4096 }

def waitForOld : Service := fun arguments => waitFor { arguments with fourth := 0 }

/-- A call of the old instruction that makes a thread: two arguments change places. -/
def cloneOld : Service := fun arguments =>
  cloneThread { arguments with fourth := arguments.fifth, fifth := arguments.fourth }

end Service

/-- The calls of the old instruction that are those of the new one, by both numbers. -/
def sameServices : List (Nat × Nat) :=
  [(1, 60), (2, 57), (3, 0), (4, 1), (5, 2), (6, 3), (8, 85), (9, 86), (10, 87), (12, 80), (14, 133),
    (15, 90), (20, 39), (24, 102), (27, 37), (29, 34), (33, 21), (36, 162), (37, 62), (38, 82),
    (39, 83), (40, 84), (41, 32), (42, 22), (45, 12), (54, 16), (55, 72), (57, 109), (60, 95),
    (63, 33), (64, 110), (65, 111), (66, 112), (83, 88), (85, 89), (91, 11), (92, 76), (93, 77),
    (94, 91), (114, 61), (118, 74), (122, 63), (125, 10), (132, 121), (133, 81), (136, 135),
    (144, 26), (147, 124), (148, 75), (158, 24), (163, 25), (168, 7), (172, 157), (183, 79),
    (190, 58), (199, 102), (200, 104), (201, 107), (202, 108), (218, 27), (219, 28), (221, 72),
    (224, 186), (238, 200), (239, 40), (252, 231), (254, 213), (255, 233), (256, 232), (258, 218),
    (270, 234), (295, 257), (296, 258), (301, 263), (302, 264), (303, 265), (304, 266), (305, 267),
    (306, 268), (307, 269), (310, 272), (313, 275), (315, 276), (323, 284), (328, 290), (329, 291),
    (330, 292), (331, 293), (353, 316), (354, 317), (355, 318), (356, 319), (380, 329), (381, 330),
    (382, 331), (436, 436), (462, 462)]

/-- The system calls of the old instruction, by their numbers. -/
def oldServices : List (Nat × Service) :=
  sameServices.filterMap (fun (old, number) => (services.lookup number).map (old, ·))
    ++ [(7, .waitForOld), (19, .seekOld), (120, .cloneOld), (180, .withPlace .readAt),
      (181, .withPlace .writeAt), (192, .mapOld)]

/-- The system calls of the old instruction in an array. -/
def oldTable : Array (Option Service) := tableOf oldServices

namespace Kernel

/-- The arguments of a system call, as they stand in the registers. The old instruction looks at the low
halves of other ones. -/
def arguments (old : Bool) : Kernel Arguments := do
  let cpu := (← get).cpu
  let value (number : Nat) : UInt64 := cpu.get (X86.registerOf number)
  let half (number : Nat) : UInt64 := value number &&& 0xffffffff
  return if old then ⟨half 3, half 1, half 2, half 6, half 7, half 5⟩
    else ⟨value 7, value 6, value 2, value 10, value 8, value 9⟩

/-- What keeps a call from being made. -/
def letThrough (old : Bool) : Kernel Unit := do
  let number := low (← register X86.ax)
  checkInterception number
  checkConfinement number old (← arguments old)

/-- The call that only the kernel's own code may make: another program ends by it. -/
def reservedCall : Nat := 335

/-- Carries out the system call that the registers ask for. -/
def serve : Kernel UInt64 := do
  let number := low (← register X86.ax)
  let old := (← thread).calledOld
  if number = reservedCall && !old then throw (.fault { signal := Signal.illegal })
  match (if old then oldTable else serviceTable).getD number none with
  | some service => service (← arguments old)
  | none => fail .notImplemented

/-! ### Calls that are interrupted -/

/-- The calls that are not made again behind a handler, whatever it asks for. -/
def notRepeated : List Nat := [7, 23, 34, 35, 128, 130, 230, 232, 270, 271, 281, 441]

/-- Whether a call is made again behind a handler that asks for it. -/
def isRepeated : Kernel Bool := do
  let number := low (← register X86.ax)
  let arguments ← arguments false
  return !notRepeated.contains number && !(number = 202 && arguments.fourth != 0)

/-- Tells a call that slept how much time was left. -/
def tellTimeLeft : Kernel Unit := do
  let number := low (← register X86.ax)
  let arguments ← arguments false
  let left := ((← thread).deadline.getD 0) - (← get).clock
  let address := if number = 35 then arguments.second
    else if number = 230 && !hasBits arguments.second 1 then arguments.fourth else 0
  if address != 0 then
    let _ ← attempt (writeTime address left)

/-- What becomes of a call that a signal interrupts: a result, or nothing if it is made again. -/
def interrupted : Kernel (Option UInt64) := do
  let thread ← thread
  if thread.progress ≠ 0 then return some (result thread.progress)
  match nextSignal? thread (← process) with
  | none => return none
  | some info =>
    let disposition := (← dispositions).get info.signal
    let handled := 1 < disposition.handler
    let repeated ← isRepeated
    if !handled || (disposition.has Disposition.restart && repeated) then return none
    tellTimeLeft
    return some (failure .interrupted)

end Kernel

end StaticElf.Linux
