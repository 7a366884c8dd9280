/-
**Bytes in pages.**

Memory and the content of files are kept in pages. A page that was never written holds zeros and is not
kept.

* `Page` — the bytes of a page, with `Page.zeros` and `Page.patch`.
* `Content` — a sequence of bytes with a size, in pages, with `read`, `write`, `resize` and `clear`.
-/

import Std.Data.HashMap
import StaticElf.ByteFile
import StaticElf.Linux.Span

namespace StaticElf.Linux

/-- The bytes of a page. -/
abbrev Page := ByteArray

namespace Page

/-- A page of zeros. -/
def zeros : Page := ⟨Array.replicate pageBytes 0⟩

/-- A page with bytes put at an offset. -/
def patch (page : Page) (offset : Nat) (bytes : ByteArray) : Page :=
  bytes.copySlice 0 page offset bytes.size

/-- A page with zeros from an offset on. -/
def cutAt (page : Page) (offset : Nat) : Page :=
  zeros.copySlice 0 page offset (pageBytes - offset)

end Page

/-- Bytes in pages, with a size. What a page holds behind the size does not count. -/
structure Content where
  size : Nat := 0
  pages : Std.HashMap Nat Page := {}

namespace Content

/-- A page of the content. -/
def page (content : Content) (number : Nat) : Page := (content.pages[number]?).getD Page.zeros

/-- The pieces of a range, page by page: the number of the page, the offset in it and the length. -/
def pieces (start length : Nat) : List (Nat × Nat × Nat) :=
  let first := start / pageBytes
  let behind := (start + length + pageBytes - 1) / pageBytes
  if length = 0 then []
  else (List.range (behind - first)).map fun i =>
    let page := first + i
    let from_ := max start (page * pageBytes)
    let upto := min (start + length) ((page + 1) * pageBytes)
    (page, from_ - page * pageBytes, upto - from_)

/-- The bytes of a range, up to the end. -/
def read (content : Content) (start length : Nat) : ByteArray :=
  (pieces start (min length (content.size - start))).foldl
    (fun bytes (page, offset, count) =>
      (content.page page).copySlice offset bytes bytes.size count)
    ByteArray.empty

/-- Puts bytes into a page. -/
def patch (content : Content) (page offset : Nat) (bytes : ByteArray) : Content :=
  { content with
    pages := content.pages.alter page fun old => some ((old.getD Page.zeros).patch offset bytes) }

/-- Puts bytes at a place without a change of the size. -/
def put (content : Content) (start : Nat) (bytes : ByteArray) : Content :=
  (pieces start bytes.size).foldl
    (fun content (page, offset, count) =>
      let done := page * pageBytes + offset - start
      content.patch page offset (bytes.extract done (done + count)))
    content

/-- Puts bytes at a place; the content ends behind them at least. -/
def write (content : Content) (start : Nat) (bytes : ByteArray) : Content :=
  if bytes.size = 0 then content
  else { content.put start bytes with size := max content.size (start + bytes.size) }

/-- Cuts the content, or extends it with zeros, to a size. -/
def resize (content : Content) (size : Nat) : Content :=
  let last := size / pageBytes
  let kept := content.pages.filter fun number _ => number * pageBytes < size
  { size,
    pages :=
      if size < content.size then
        kept.alter last fun page => page.map (·.cutAt (size % pageBytes))
      else content.pages }

/-- Puts zeros into a range, without a change of the size. Pages that lie in it as a whole are not kept. -/
def clear (content : Content) (start length : Nat) : Content :=
  let stop := start + length
  { content with
    pages := content.pages.filterMap fun number page =>
      let first := number * pageBytes
      if stop ≤ first || first + pageBytes ≤ start then some page
      else if start ≤ first && first + pageBytes ≤ stop then none
      else
        let offset := start - first
        some (Page.zeros.copySlice 0 page offset (min stop (first + pageBytes) - first - offset)) }

/-- Takes a range of whole pages out: what is behind it moves down. -/
def collapse (content : Content) (start length : Nat) : Content :=
  let kept := content.pages.toList.filterMap fun (number, page) =>
    let first := number * pageBytes
    if first < start then some (number, page)
    else if first < start + length then none
    else some (number - length / pageBytes, page)
  { size := content.size - length, pages := Std.HashMap.ofList kept }

/-- Puts a range of whole pages of zeros in: what is behind its start moves up. -/
def insertZeros (content : Content) (start length : Nat) : Content :=
  let moved := content.pages.toList.map fun (number, page) =>
    if number * pageBytes < start then (number, page) else (number + length / pageBytes, page)
  { size := content.size + length, pages := Std.HashMap.ofList moved }

/-- The first place from a place on whose page is kept, if `isKept`, or is not kept. -/
def nextPlace? (content : Content) (place : Nat) (isKept : Bool) : Option Nat :=
  let candidates := if isKept then content.pages.toList.map (·.1)
    else (place / pageBytes) :: content.pages.toList.map (·.1 + 1)
  let fits (page : Nat) : Bool :=
    place / pageBytes ≤ page && content.pages.contains page == isKept
  let first := (candidates.filter fits).foldl
    (fun (best : Option Nat) page => some (min page (best.getD page))) none
  first.map fun page => max place (page * pageBytes)

/-- The content of a file. -/
def ofFile (file : ByteFile) : Content :=
  file.extents.foldr
    (fun extent content => content.put extent.start ⟨extent.bytes⟩)
    { size := file.size }

/-- The content that holds the given bytes. -/
def ofBytes (bytes : ByteArray) : Content := ({} : Content).write 0 bytes

end Content

end StaticElf.Linux
