import SetupScript.Text.Lines
import SetupScript.Yaml.Cursor

/-!
# Readable parts of files

A document is read in pages, and what is wrong with a page comes to light when the page is turned
to. `Readable.ofBytes` gives the text up to the first faulty page and the defect of that page.
-/

namespace SetupScript.Yaml

structure Readable where
  chars : List Char
  beyond : Option Defect

namespace Readable

/-- Bytes are decoded in blocks of this size. -/
def blockSize : Nat := 8192

/-- Characters are taken in pages of this size. -/
def pageSize : Nat := 4096

/-- The number of characters on the pages before the one that is faulty at character `n`. The first
two pages are taken together. -/
def pagesBefore (n : Nat) : Nat :=
  if n < 2 * pageSize then 0 else n / pageSize * pageSize

/-- The characters that the bytes from place `i` up to `limit` spell, until some spell none. -/
def decoded (bytes : ByteArray) (limit : Nat) : Nat → Nat → List Char
  | 0, _ => []
  | n + 1, i =>
    match bytes.utf8DecodeChar? i with
    | some c =>
      if i + c.utf8Size ≤ limit then c :: decoded bytes limit n (i + c.utf8Size) else []
    | none => []

/-- Whether bytes begin a character that more bytes can complete. -/
def isCut (bs : List UInt8) : Bool :=
  [1, 2, 3].any fun n => [(0x80 : UInt8), 0xBF].any fun b =>
    match ByteArray.utf8DecodeChar? ⟨(bs ++ List.replicate n b).toArray⟩ 0 with
    | some c => c.utf8Size == bs.length + n
    | none => false

/-- The text of bytes of which those at place `i` are the first that spell no character. What
comes before them in their block is lost, unless the block only cuts a character off. -/
def beforeFault (bytes : ByteArray) (i : Nat) : List Char :=
  let start := i / blockSize * blockSize
  let part := bytes.extract i (start + blockSize)
  let limit := if isCut part.data.toList then i else start
  Text.unifyLines (decoded bytes limit limit 0)

def sizeOf (cs : List Char) : Nat := cs.foldl (fun n c => n + c.utf8Size) 0

def ofDecoded (text : List Char) (beyond : Option Defect) : Readable :=
  match text.findIdx? (!isAllowed ·) with
  | none => ⟨text, beyond⟩
  | some i =>
    ⟨text.take (pagesBefore i), some (.invalidYaml "special characters are not allowed")⟩

def ofBytes (bytes : ByteArray) : Readable :=
  match String.fromUTF8? bytes with
  | some s => ofDecoded (Text.unifyLines s.toList) none
  | none =>
    let text := beforeFault bytes (sizeOf (decoded bytes bytes.size bytes.size 0))
    ofDecoded (text.take (pagesBefore text.length)) (some .undecodable)

end Readable

end SetupScript.Yaml
