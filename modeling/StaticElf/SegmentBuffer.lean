/-
**Segment buffers.**

A segment buffer collects the bytes of one segment. Once it is committed its size is known to others,
and nothing may be written to it any more, not even no bytes.

* `SegmentBuffer.write?` — appends, or says that the buffer is committed.
* `SegmentBuffer.content` — what was written, in order.
* `SegmentBuffer.commit` — closes the buffer.
-/

import StaticElf.Trace

namespace StaticElf

/-- The bytes of one segment so far, by the writes that brought them, the last first. -/
structure SegmentBuffer where
  name : String
  writes : List Bytes := []
  committed : Bool := false
  deriving DecidableEq, Repr

/-- A write to a buffer that was committed. -/
structure CommittedWrite where
  segment : String
  deriving DecidableEq, Repr

/-- What is said about a write to a committed buffer. -/
def CommittedWrite.text (failure : CommittedWrite) : String :=
  s!"segmentBuffer({failure.segment}): cannot write to committed buffer"

namespace SegmentBuffer

/-- The bytes so far. -/
def content (buffer : SegmentBuffer) : Bytes := buffer.writes.reverse.flatten

/-- Appends bytes to a buffer that is not committed. -/
def write? (buffer : SegmentBuffer) (bytes : Bytes) : Except CommittedWrite SegmentBuffer :=
  if buffer.committed then .error ⟨buffer.name⟩
  else .ok { buffer with writes := bytes :: buffer.writes }

/-- Closes a buffer. -/
def commit {ε : Type} (verbose : Bool) (buffer : SegmentBuffer) : Traced ε SegmentBuffer := do
  Traced.note verbose (.segmentCommitted buffer.name buffer.content.length)
  return { buffer with committed := true }

/-- The number of bytes so far, as a word. -/
def size (buffer : SegmentBuffer) : UInt64 := UInt64.ofNat buffer.content.length

theorem content_write? {buffer after : SegmentBuffer} {bytes : Bytes}
    (written : buffer.write? bytes = .ok after) : after.content = buffer.content ++ bytes := by
  unfold write? at written
  split at written
  · cases written
  · cases written
    simp [content]

/-- What was written is not committed yet. -/
theorem committed_write? {buffer after : SegmentBuffer} {bytes : Bytes}
    (written : buffer.write? bytes = .ok after) : after.committed = false := by
  unfold write? at written
  split at written
  · cases written
  · next writable =>
    cases written
    exact Bool.eq_false_iff.mpr writable

/-- A buffer that is not committed takes any bytes. -/
theorem write?_ne_error {buffer : SegmentBuffer} (writable : buffer.committed = false)
    (bytes : Bytes) (failure : CommittedWrite) : buffer.write? bytes ≠ .error failure := by
  unfold write?
  rw [writable]
  nofun

end SegmentBuffer

end StaticElf
