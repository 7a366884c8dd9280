/-
**Error numbers of the operating system.**

* `Errno` — the number that a failed system call gives; `Errno.text` is how it is told.
-/

namespace StaticElf

/-- The number that a failed system call gives. -/
structure Errno where
  code : Int
  deriving DecidableEq, Repr

namespace Errno

/-- Nobody like the caller may do this. -/
def notPermitted : Errno := ⟨1⟩
/-- A file or directory is missing. -/
def noEntry : Errno := ⟨2⟩
/-- There is no such process. -/
def noProcess : Errno := ⟨3⟩
/-- A signal came first. -/
def interrupted : Errno := ⟨4⟩
/-- The device failed. -/
def inputOutput : Errno := ⟨5⟩
/-- Nothing is behind the name. -/
def noDevice : Errno := ⟨6⟩
/-- There are too many arguments. -/
def listTooLong : Errno := ⟨7⟩
/-- The file cannot be run. -/
def badFormat : Errno := ⟨8⟩
/-- The file descriptor is not open for this. -/
def badDescriptor : Errno := ⟨9⟩
/-- There is no such child. -/
def noChild : Errno := ⟨10⟩
/-- It cannot be done now. -/
def tryAgain : Errno := ⟨11⟩
/-- There is no room in memory. -/
def noMemory : Errno := ⟨12⟩
/-- The caller may not do this with the file. -/
def permissionDenied : Errno := ⟨13⟩
/-- The address is not mapped. -/
def badAddress : Errno := ⟨14⟩
/-- A block device was needed. -/
def notBlockDevice : Errno := ⟨15⟩
/-- Something is in use. -/
def busy : Errno := ⟨16⟩
/-- Something of that name is there. -/
def alreadyThere : Errno := ⟨17⟩
/-- The two files are not of the same kind of device. -/
def otherDevice : Errno := ⟨18⟩
/-- The device cannot do this. -/
def unknownDevice : Errno := ⟨19⟩
/-- A directory was needed. -/
def notDirectory : Errno := ⟨20⟩
/-- A directory was not wanted. -/
def isDirectory : Errno := ⟨21⟩
/-- An argument makes no sense. -/
def invalidArgument : Errno := ⟨22⟩
/-- There is no free file descriptor. -/
def tooManyOpen : Errno := ⟨24⟩
/-- The request is not for this kind of file. -/
def notTerminal : Errno := ⟨25⟩
/-- The file is being run. -/
def textBusy : Errno := ⟨26⟩
/-- The file would be too big. -/
def fileTooBig : Errno := ⟨27⟩
/-- There is no room on the device. -/
def noSpace : Errno := ⟨28⟩
/-- The file has no positions. -/
def noPosition : Errno := ⟨29⟩
/-- Nobody reads what is written. -/
def brokenPipe : Errno := ⟨32⟩
/-- The value is not one that can be computed with. -/
def outOfDomain : Errno := ⟨33⟩
/-- The result has no room. -/
def outOfRange : Errno := ⟨34⟩
/-- Waiting would never end. -/
def deadlock : Errno := ⟨35⟩
/-- A name or a path has too many bytes. -/
def nameTooLong : Errno := ⟨36⟩
/-- There is no such system call. -/
def notImplemented : Errno := ⟨38⟩
/-- The directory has names in it. -/
def notEmpty : Errno := ⟨39⟩
/-- Too many links stand for each other. -/
def tooManyLinks : Errno := ⟨40⟩
/-- There is no such message. -/
def noMessage : Errno := ⟨42⟩
/-- The thing was taken away. -/
def removed : Errno := ⟨43⟩
/-- Nothing is kept under this name. -/
def noData : Errno := ⟨61⟩
/-- A part that is needed is not there. -/
def notInstalled : Errno := ⟨65⟩
/-- The protocol does not allow this. -/
def protocolError : Errno := ⟨71⟩
/-- The value has no room. -/
def overflow : Errno := ⟨75⟩
/-- The file descriptor is not for this. -/
def badState : Errno := ⟨77⟩
/-- A socket was needed. -/
def notSocket : Errno := ⟨88⟩
/-- It is not said where to send this. -/
def noDestination : Errno := ⟨89⟩
/-- The message has too many bytes. -/
def messageTooLong : Errno := ⟨90⟩
/-- The other end is of another kind. -/
def otherSocketType : Errno := ⟨91⟩
/-- The protocol has no such option. -/
def unknownOption : Errno := ⟨92⟩
/-- There is no such protocol. -/
def unknownProtocol : Errno := ⟨93⟩
/-- There is no such kind of socket. -/
def unknownSocketType : Errno := ⟨94⟩
/-- The request is not for this kind of object. -/
def notSupported : Errno := ⟨95⟩
/-- There is no such family of protocols. -/
def unknownProtocolFamily : Errno := ⟨96⟩
/-- There is no such family of addresses. -/
def unknownFamily : Errno := ⟨97⟩
/-- The address is taken. -/
def addressInUse : Errno := ⟨98⟩
/-- The address is not one of this machine. -/
def addressNotHere : Errno := ⟨99⟩
/-- There is no way to the address. -/
def unreachable : Errno := ⟨101⟩
/-- The connection was given up. -/
def connectionAborted : Errno := ⟨103⟩
/-- The other end broke the connection off. -/
def connectionReset : Errno := ⟨104⟩
/-- There is no room for messages. -/
def noBuffers : Errno := ⟨105⟩
/-- The socket is connected. -/
def alreadyConnected : Errno := ⟨106⟩
/-- The socket is not connected. -/
def notConnected : Errno := ⟨107⟩
/-- It took too long. -/
def timedOut : Errno := ⟨110⟩
/-- Nobody listens at the address. -/
def connectionRefused : Errno := ⟨111⟩
/-- It is being done already. -/
def alreadyBegun : Errno := ⟨114⟩
/-- It was begun and takes longer. -/
def begun : Errno := ⟨115⟩

/-- The numbers that have a text, each with it. -/
def texts : List (Int × String) :=
  [(1, "operation not permitted"), (2, "no such file or directory"), (3, "no such process"),
    (4, "interrupted system call"), (5, "input/output error"), (6, "no such device or address"),
    (7, "argument list too long"), (8, "exec format error"), (9, "bad file descriptor"),
    (10, "no child processes"), (11, "resource temporarily unavailable"),
    (12, "cannot allocate memory"), (13, "permission denied"), (14, "bad address"),
    (15, "block device required"), (16, "device or resource busy"), (17, "file exists"),
    (18, "invalid cross-device link"), (19, "no such device"), (20, "not a directory"),
    (21, "is a directory"), (22, "invalid argument"), (23, "too many open files in system"),
    (24, "too many open files"), (25, "inappropriate ioctl for device"), (26, "text file busy"),
    (27, "file too large"), (28, "no space left on device"), (29, "illegal seek"),
    (30, "read-only file system"), (31, "too many links"), (32, "broken pipe"),
    (33, "numerical argument out of domain"), (34, "numerical result out of range"),
    (35, "resource deadlock avoided"), (36, "file name too long"), (37, "no locks available"),
    (38, "function not implemented"), (39, "directory not empty"),
    (40, "too many levels of symbolic links"), (42, "no message of desired type"),
    (43, "identifier removed"), (44, "channel number out of range"),
    (45, "level 2 not synchronized"), (46, "level 3 halted"), (47, "level 3 reset"),
    (48, "link number out of range"), (49, "protocol driver not attached"),
    (50, "no CSI structure available"), (51, "level 2 halted"), (52, "invalid exchange"),
    (53, "invalid request descriptor"), (54, "exchange full"), (55, "no anode"),
    (56, "invalid request code"), (57, "invalid slot"), (59, "bad font file format"),
    (60, "device not a stream"), (61, "no data available"), (62, "timer expired"),
    (63, "out of streams resources"), (64, "machine is not on the network"),
    (65, "package not installed"), (66, "object is remote"), (67, "link has been severed"),
    (68, "advertise error"), (69, "srmount error"), (70, "communication error on send"),
    (71, "protocol error"), (72, "multihop attempted"), (73, "RFS specific error"),
    (74, "bad message"), (75, "value too large for defined data type"),
    (76, "name not unique on network"), (77, "file descriptor in bad state"),
    (78, "remote address changed"), (79, "can not access a needed shared library"),
    (80, "accessing a corrupted shared library"), (81, ".lib section in a.out corrupted"),
    (82, "attempting to link in too many shared libraries"),
    (83, "cannot exec a shared library directly"),
    (84, "invalid or incomplete multibyte or wide character"),
    (85, "interrupted system call should be restarted"), (86, "streams pipe error"),
    (87, "too many users"), (88, "socket operation on non-socket"),
    (89, "destination address required"), (90, "message too long"),
    (91, "protocol wrong type for socket"), (92, "protocol not available"),
    (93, "protocol not supported"), (94, "socket type not supported"),
    (95, "operation not supported"), (96, "protocol family not supported"),
    (97, "address family not supported by protocol"), (98, "address already in use"),
    (99, "cannot assign requested address"), (100, "network is down"),
    (101, "network is unreachable"), (102, "network dropped connection on reset"),
    (103, "software caused connection abort"), (104, "connection reset by peer"),
    (105, "no buffer space available"), (106, "transport endpoint is already connected"),
    (107, "transport endpoint is not connected"),
    (108, "cannot send after transport endpoint shutdown"),
    (109, "too many references: cannot splice"), (110, "connection timed out"),
    (111, "connection refused"), (112, "host is down"), (113, "no route to host"),
    (114, "operation already in progress"), (115, "operation now in progress"),
    (116, "stale file handle"), (117, "structure needs cleaning"),
    (118, "not a XENIX named type file"), (119, "no XENIX semaphores available"),
    (120, "is a named type file"), (121, "remote I/O error"), (122, "disk quota exceeded"),
    (123, "no medium found"), (124, "wrong medium type"), (125, "operation canceled"),
    (126, "required key not available"), (127, "key has expired"), (128, "key has been revoked"),
    (129, "key was rejected by service"), (130, "owner died"), (131, "state not recoverable"),
    (132, "operation not possible due to RF-kill")]

/-- How an error number is told. -/
def text (errno : Errno) : String :=
  match texts.lookup errno.code with
  | some text => text
  | none => "errno " ++ toString errno.code

end Errno

end StaticElf
