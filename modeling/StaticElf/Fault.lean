/-
**Failures and how they are told.**

A failure is a chain: each link says what was being done, and the last one what went wrong. Links that
come from this library's own checks are reports; they carry a level and a category. The last link is
often one of the seven kinds that callers test for.

* `Fault` — the chain, with `message` (its text), `headReport` (its outermost report) and `hasKind`
  (whether a kind occurs in it).
* `Fault.io`, `Fault.range`, `Fault.reference`, `Fault.argument` — the four reports that checks raise.
* `Fault.terminalText` — a report as it is shown to the user.
-/

namespace StaticElf

/-- The kinds of failure that callers test for. -/
inductive FaultKind where
  | noAssembly
  | undefinedSymbol
  | invalidOperand
  | fieldOverflow
  | segmentOverlap
  | unalignedLayout
  | unsupportedTarget
  deriving DecidableEq, Repr

/-- Every kind, in the order in which they are listed. -/
def FaultKind.all : List FaultKind :=
  [.noAssembly, .undefinedSymbol, .invalidOperand, .fieldOverflow, .segmentOverlap,
    .unalignedLayout, .unsupportedTarget]

/-- The text of a kind. -/
def FaultKind.text : FaultKind → String
  | .noAssembly => "no Assembly given"
  | .undefinedSymbol => "undefined symbol"
  | .invalidOperand => "invalid operand"
  | .fieldOverflow => "value does not fit its field"
  | .segmentOverlap => "segments overlap"
  | .unalignedLayout => "layout is not page aligned"
  | .unsupportedTarget => "unsupported target"

/-- How severe a report is. Codes other than 0 and 1 have no name. -/
inductive Level where
  | error
  | fatal
  | other (code : Int)
  deriving DecidableEq, Repr

namespace Level

/-- The level with a given code. -/
def ofCode (code : Int) : Level :=
  if code = 0 then .error else if code = 1 then .fatal else .other code

/-- The name of a level. -/
def text : Level → String
  | .error => "error"
  | .fatal => "fatal error"
  | .other _ => "unknown"

end Level

/-- What a report is about. Codes other than 0 to 3 have no name. -/
inductive Category where
  /-- Creating, truncating, seeking or writing the output. -/
  | io
  /-- A size, address or length that does not fit its field. -/
  | range
  /-- A symbol reference that names no symbol. -/
  | reference
  /-- A malformed operand or encoding field. -/
  | argument
  | other (code : Int)
  deriving DecidableEq, Repr

namespace Category

/-- The category with a given code. -/
def ofCode (code : Int) : Category :=
  if code = 0 then .io else if code = 1 then .range else if code = 2 then .reference
  else if code = 3 then .argument else .other code

/-- The code of a category. -/
def code : Category → Int
  | .io => 0
  | .range => 1
  | .reference => 2
  | .argument => 3
  | .other code => code

/-- The name of a category. -/
def text : Category → String
  | .io => "i/o"
  | .range => "range"
  | .reference => "reference"
  | .argument => "argument"
  | .other _ => "unknown"

end Category

/-- One report: how severe it is, what it is about, and what was being done. -/
structure Report where
  level : Level
  category : Category
  message : String
  deriving DecidableEq, Repr

namespace Report

/-- A report about the output. -/
def io (message : String) : Report := ⟨.fatal, .io, message⟩

/-- A report about a value that cannot be represented in its field. -/
def range (message : String) : Report := ⟨.fatal, .range, message⟩

/-- A report about a reference to a symbol that is not there. -/
def reference (message : String) : Report := ⟨.fatal, .reference, message⟩

/-- A report about an operand or encoding field out of its domain. -/
def argument (message : String) : Report := ⟨.error, .argument, message⟩

end Report

/-- A failure, from its outermost link to its last cause. -/
inductive Fault where
  /-- A bare text. -/
  | plain (text : String)
  /-- One of the kinds that callers test for. -/
  | kind (kind : FaultKind)
  /-- A report without a cause. -/
  | report (report : Report)
  /-- A report and what caused it. -/
  | caused (report : Report) (cause : Fault)
  /-- A text that says where the cause arose. -/
  | context (text : String) (cause : Fault)
  deriving DecidableEq, Repr

namespace Fault

/-- A report with a cause, if there is one. -/
def ofReport (report : Report) : Option Fault → Fault
  | none => .report report
  | some cause => .caused report cause

/-- A text in front of a cause. Where there is no cause its place is marked in the text. -/
def inContext (text : String) : Option Fault → Fault
  | none => .plain (text ++ ": %!w(<nil>)")
  | some cause => .context text cause

/-- The full text of a failure: its links from the outside in, with a colon between. -/
def message : Fault → String
  | .plain text => text
  | .kind sort => sort.text
  | .report head => head.message
  | .caused head cause => head.message ++ ": " ++ cause.message
  | .context text cause => text ++ ": " ++ cause.message

/-- The next link of the chain. -/
def cause : Fault → Option Fault
  | .caused _ next | .context _ next => some next
  | _ => none

/-- The report that a failure itself is, if it is one. -/
def ownReport : Fault → Option Report
  | .report head | .caused head _ => some head
  | _ => none

/-- The outermost link of the chain that is a report, together with all below it. -/
def headReport : Fault → Option (Report × Fault)
  | .report head => some (head, .report head)
  | .caused head next => some (head, .caused head next)
  | .context _ next => next.headReport
  | .plain _ | .kind _ => none

/-- The category of the outermost report of the chain. -/
def category (fault : Fault) : Option Category := fault.headReport.map (·.1.category)

/-- Whether a kind occurs in the chain. -/
def hasKind (sought : FaultKind) : Fault → Bool
  | .plain _ | .report _ => false
  | .kind sort => sort = sought
  | .caused _ next | .context _ next => next.hasKind sought

/-- The kinds that occur in the chain, in their listed order. -/
def kinds (fault : Fault) : List FaultKind := FaultKind.all.filter (fault.hasKind ·)

/-! ### The four reports that checks raise -/

/-- A failure of the output. -/
def io (text : String) (cause : Fault) : Fault := .caused (.io text) cause

/-- A value that cannot be represented in its field. -/
def range (text : String) (kind : FaultKind) : Fault := .caused (.range text) (.kind kind)

/-- A reference to a symbol that is not there. -/
def reference (text : String) : Fault := .caused (.reference text) (.kind .undefinedSymbol)

/-- An operand or encoding field out of its domain. -/
def argument (text : String) (kind : FaultKind) : Fault :=
  .caused (.argument text) (.kind kind)

/-! ### Showing a report -/

/-- `text`, in the given terminal style when colours are used. -/
def styled (colour : Bool) (style text : String) : String :=
  if colour then "\x1b[" ++ style ++ "m" ++ text ++ "\x1b[0m" else text

/-- A report with its full text, as shown to the user. A failure of the output adds a note. -/
def terminalText (colour : Bool) (report : Report) (fault : Fault) : String :=
  styled colour "1;31" (report.level.text ++ " (" ++ report.category.text ++ "): ")
    ++ fault.message ++ "\n"
    ++ (if report.category = .io then
          styled colour "1;36" "   note: "
            ++ "the output file may be partially written and must not be used\n"
        else "")

end Fault

end StaticElf
