/-
**Traces are faithful, and all that verbose mode changes.**

The headers of an assembly are traced field by field, each byte with the shortest digits. The bytes on
the lines of the trace are the headers all the same. With the traces of builds and the two runs of
everything that can be verbose, this is what verbose mode does.

* `HeaderBuffer.Shown` — bytes are shown as they are put in a verbose buffer.
* `toList_traceText_headerBuffer` — one line for each header.
* `bytesOn?_headerBuffer` — the bytes on these lines are the headers.
* `trace_faithful` — verbose mode changes nothing but the trace, and the trace is faithful.
-/

import StaticElf.Proofs.BuildTraces
import StaticElf.Proofs.Verbosity

namespace StaticElf

open Text

namespace Elf

/-! ### The headers that are traced -/

/-- **Bytes that are shown as they are put** in a verbose buffer. -/
structure HeaderBuffer.Shown (before after : HeaderBuffer) : Prop where
  verbose : after.verbose = true
  shown : ∃ bytes, after.content = before.content ++ bytes
    ∧ (traceText after.trace).toList
      = (traceText before.trace).toList ++ (spacedHexDigits bytes).toList

theorem toList_spacedHexDigits_append (first second : Bytes) :
    (spacedHexDigits (first ++ second)).toList
      = (spacedHexDigits first).toList ++ (spacedHexDigits second).toList := by
  simp [spacedHexDigits, String.toList_join]

theorem HeaderBuffer.Shown.refl {buffer : HeaderBuffer} (verbose : buffer.verbose = true) :
    Shown buffer buffer :=
  ⟨verbose, [], (List.append_nil _).symm, (List.append_nil _).symm⟩

theorem HeaderBuffer.Shown.putBytes {before after : HeaderBuffer} (shown : Shown before after)
    (bytes : Bytes) : Shown before (after.putBytes bytes) := by
  obtain ⟨verbose, earlier, content, text⟩ := shown
  refine ⟨(verbose_putBytes after bytes).trans verbose, earlier ++ bytes, ?_, ?_⟩
  · rw [content_putBytes, content, List.append_assoc]
  · rw [trace_putBytes, if_pos verbose, toList_traceText_append, text, toList_spacedHexDigits_append,
      List.append_assoc, toList_traceText_cons]
    exact congrArg _ (congrArg _ (List.append_nil _))

theorem FileHeader.shown_encode (header : FileHeader) {buffer : HeaderBuffer}
    (verbose : buffer.verbose = true) : buffer.Shown (header.encode buffer) := by
  unfold FileHeader.encode HeaderBuffer.put8 HeaderBuffer.putRepeated HeaderBuffer.put16
    HeaderBuffer.put32 HeaderBuffer.put64
  repeat apply HeaderBuffer.Shown.putBytes
  exact .refl verbose

theorem ProgHeader.shown_encode (header : ProgHeader) {buffer : HeaderBuffer}
    (verbose : buffer.verbose = true) : buffer.Shown (header.encode buffer) := by
  unfold ProgHeader.encode HeaderBuffer.put32 HeaderBuffer.put64
  repeat apply HeaderBuffer.Shown.putBytes
  exact .refl verbose

/-- What is shown is what is put. -/
theorem HeaderBuffer.Shown.toList_traceText {before after : HeaderBuffer} (shown : Shown before after)
    {bytes : Bytes} (content : after.content = before.content ++ bytes) :
    (traceText after.trace).toList
      = (traceText before.trace).toList ++ (spacedHexDigits bytes).toList := by
  obtain ⟨-, others, same, text⟩ := shown
  rw [text, List.append_cancel_left (same.symm.trans content)]

theorem toList_traceText_note {buffer : HeaderBuffer} (verbose : buffer.verbose = true) (event : Event) :
    (traceText (buffer.note event).trace).toList
      = (traceText buffer.trace).toList ++ event.text.toList := by
  rw [HeaderBuffer.trace_note, if_pos verbose, toList_traceText_append, toList_traceText_cons]
  exact congrArg _ (List.append_nil _)

/-- A line of header bytes. -/
def headerLine (title : String) (bytes : Bytes) : List Char :=
  title.toList ++ ':' :: (spacedHexDigits bytes).toList

/-- A header is shown behind its title. -/
theorem toList_traceText_opened {buffer after : HeaderBuffer} (verbose : buffer.verbose = true)
    {title : String} {bytes : Bytes} (shown : (buffer.note (.headerOpened title)).Shown after)
    (content : after.content = (buffer.note (.headerOpened title)).content ++ bytes) :
    (traceText after.trace).toList = (traceText buffer.trace).toList ++ headerLine title bytes := by
  have opened : (Event.headerOpened title).text.toList = title.toList ++ [':'] := by
    show (title ++ ":").toList = _
    simp
  rw [shown.toList_traceText content, toList_traceText_note verbose, opened, headerLine]
  simp

/-- A program header is shown behind its title, and the buffer stays verbose. -/
theorem ProgHeader.toList_traceText_encode (header : ProgHeader) {buffer : HeaderBuffer}
    (verbose : buffer.verbose = true) (title : String) :
    let after := header.encode (buffer.note (.headerOpened title))
    after.verbose = true
      ∧ (traceText after.trace).toList
        = (traceText buffer.trace).toList ++ headerLine title header.bytes := by
  intro after
  have shown : (buffer.note (.headerOpened title)).Shown after :=
    header.shown_encode ((HeaderBuffer.verbose_note _ _).trans verbose)
  exact ⟨shown.verbose, toList_traceText_opened verbose shown (header.content_encode _)⟩

/-- **A verbose trace has one line for each header.** -/
theorem toList_traceText_headerBuffer (assembly : Assembly) :
    (traceText (headerBuffer true assembly).trace).toList
      = headerLine "ELF header" (fileHeader assembly).bytes
        ++ '\n' :: (headerLine "code program header" (codeSegment assembly).progHeader.bytes
          ++ '\n' :: (headerLine "data program header" (dataSegment assembly).progHeader.bytes
            ++ ['\n'])) := by
  let start : HeaderBuffer := { verbose := true }
  let first := (fileHeader assembly).encode (start.note (.headerOpened "ELF header"))
  let second := (codeSegment assembly).progHeader.encode
    (first.note (.headerOpened "\ncode program header"))
  let third := (dataSegment assembly).progHeader.encode
    (second.note (.headerOpened "\ndata program header"))
  have shown : (start.note (.headerOpened "ELF header")).Shown first := FileHeader.shown_encode _ rfl
  have text : (traceText first.trace).toList
      = headerLine "ELF header" (fileHeader assembly).bytes :=
    toList_traceText_opened rfl shown (FileHeader.content_encode _ _)
  obtain ⟨verbose, code⟩ := (codeSegment assembly).progHeader.toList_traceText_encode shown.verbose
    "\ncode program header"
  obtain ⟨verbose', data⟩ := (dataSegment assembly).progHeader.toList_traceText_encode verbose
    "\ndata program header"
  have closed : headerBuffer true assembly = third.note .headersClosed := by
    have code : "\n" ++ (codeSegment assembly).name ++ " program header" = "\ncode program header" := rfl
    have data : "\n" ++ (dataSegment assembly).name ++ " program header" = "\ndata program header" := rfl
    simp only [headerBuffer, segments, List.foldl_cons, List.foldl_nil, code, data]
    rfl
  have ending : Event.headersClosed.text.toList = ['\n'] := rfl
  rw [closed, toList_traceText_note verbose', data, code, text, ending]
  simp [headerLine]

theorem newline_not_mem_headerLine {title : String} (plain : Plain title) (bytes : Bytes) :
    '\n' ∉ headerLine title bytes := by
  have shortest (byte : UInt8) : '\n' ∉ (digits 16 byte.toNat).toList := by
    rw [digits, String.toList_ofList]
    exact not_mem_toDigits (by decide) (by decide) (by decide)
  simp [headerLine, spacedHexDigits, String.toList_join, plain.oneLine, shortest]

theorem bytes?_headerLine {title : String} (plain : Plain title) (bytes : Bytes) :
    bytes? (behindColon (headerLine title bytes)) = some bytes := by
  rw [headerLine, behindColon_append plain.noColon, bytes?_spacedHexDigits]

/-- **The bytes on the lines of headers are the headers.** -/
theorem bytesOn?_headerBuffer (assembly : Assembly) :
    bytesOn? (fun _ => true) (traceText (headerBuffer true assembly).trace).toList
      = some (headerBytes assembly) := by
  have line {title : String} (plain : Plain title) (bytes : Bytes) (rest : List Char) :
      bytesOn? (fun _ => true) (headerLine title bytes ++ '\n' :: rest)
        = (bytesOn? (fun _ => true) rest).map (bytes ++ ·) :=
    bytesOn?_picked (newline_not_mem_headerLine plain bytes) rfl (bytes?_headerLine plain bytes) rest
  rw [toList_traceText_headerBuffer, line (by decide), line (by decide), line (by decide),
    bytesOn?_nil, headerBytes]
  simp

theorem trace_headers {assembly : Assembly} (accepted : check assembly = .ok ()) :
    (headers true assembly).trace = (headerBuffer true assembly).trace := by
  have content := content_headerBuffer true assembly
  unfold headers
  -- The buffer is not computed: all that counts is how many bytes it has
  generalize headerBuffer true assembly = buffer at content
  have measured : checkHeadersLength buffer.content.length = .ok () := by
    rw [content, length_headerBytes]
    exact if_pos rfl
  simp only [accepted, measured, Traced.ofExcept]
  exact List.append_nil _

theorem trace_headers_error {assembly : Assembly} {error : AssemblyError}
    (refused : check assembly = .error error) : (headers true assembly).trace = [] := by
  have checked := (Traced.result_ofExcept (check assembly)).trans refused
  unfold headers
  rw [Traced.bind_of_error _ checked]
  rfl

/-- **Verbose mode changes nothing but the trace, and the trace is faithful.** Builds one after the other
on one builder, some verbose and others not, give without their traces what they give quietly, and leave
the same builder after any number of them. Emissions one after the other on any output make the same
calls, with the same answers and results. What a verbose build traces has on the lines of operations the
code of the places that it has encoded, however it ends. What is traced of the headers of an accepted
assembly is their 176 bytes; of one that is refused nothing is traced. -/
theorem trace_faithful (builder : Builder) (builds : List (Bool × Option Program)) {σ : Type}
    (output : Option (Output (StateM σ))) (emissions : List (Bool × Option Assembly)) (state : σ)
    (program : Program) (assembly : Assembly) :
    builder.buildEach (builds.map quietly) = (builder.buildEach builds).map Traced.silenced
      ∧ (∀ count, builder.after ((builds.map quietly).take count) = builder.after (builds.take count))
      ∧ emitEach output (emissions.map quietly) state
        = (emitEach output emissions state).map (fun emission => { emission with verbose := false })
      ∧ Builder.Faithful builder.layout program (builder.build true (some program)).1
      ∧ (builder.build true none).1.trace = []
      ∧ (check assembly = .ok () → ∃ bytes, (headers true assembly).result = .ok bytes
        ∧ bytes.length = 176
        ∧ bytesOn? (fun _ => true) (traceText (headers true assembly).trace).toList = some bytes)
      ∧ ∀ error, check assembly = .error error →
        (headers true assembly).result = .error error ∧ (headers true assembly).trace = [] := by
  refine ⟨builder.buildEach_quietly builds, fun count => ?_, emitEach_quietly output emissions state,
    builder.faithful_build program, rfl, fun accepted => ?_, fun error refused => ?_⟩
  · rw [← List.map_take, Builder.after_quietly]
  · refine ⟨headerBytes assembly, result_headers true accepted, length_headerBytes assembly, ?_⟩
    rw [trace_headers accepted, bytesOn?_headerBuffer]
  · exact ⟨result_headers_error true refused, trace_headers_error refused⟩

/-- A program that is encoded up to its third place. -/
def halted : Program where
  symbols := [some [0x68, 0x69]]
  slots := [.op (.loadSymbol .si ⟨0⟩), .op (.syscall .exit), .empty, .op (.syscall .exit)]

theorem trace_faithful_halted :
    (∃ error, (Builder.build true {} (some halted)).1.result = .error (.slot 2 .empty error))
      ∧ bytesOn? isInstruction (traceText (Builder.build true {} (some halted)).1.trace).toList
        = some [0x48, 0xbe, 0x00, 0x20, 0x40, 0x00, 0x00, 0x00, 0x00, 0x00,
          0xb8, 0x3c, 0x00, 0x00, 0x00, 0x0f, 0x05]
      ∧ (Builder.after {} (Builder.interrupted.map quietly)).addresses = [0x402000, 0x402002]
      ∧ check brimful = .ok ()
      ∧ ∃ bytes, (headers true brimful).result = .ok bytes ∧ bytes.length = 176
        ∧ bytesOn? (fun _ => true) (traceText (headers true brimful).trace).toList = some bytes := by
  obtain ⟨-, after, -, faithful, -, shows, -⟩ := trace_faithful {} Builder.interrupted
    (some Recorder.output) retried failsFifth halted brimful
  obtain ⟨code, shown, encodes⟩ := faithful.code
  have known : encodeAll? (halted.symbolAddress? 0x402000) (halted.slots.take 2)
      = .ok [0x48, 0xbe, 0x00, 0x20, 0x40, 0x00, 0x00, 0x00, 0x00, 0x00,
        0xb8, 0x3c, 0x00, 0x00, 0x00, 0x0f, 0x05] := rfl
  refine ⟨⟨_, rfl⟩, shown.trans ?_, ?_, rfl, shows rfl⟩
  · exact congrArg some (Except.ok.inj (encodes.symm.trans known))
  · exact congrArg Builder.addresses (after 5)

end Elf

end StaticElf
