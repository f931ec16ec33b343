import DocGuard.Yaml.Fault

set_option autoImplicit false

namespace DocGuard.Yaml

-- Text is taken in by blocks of characters, and what is wrong with a block shows when reading gets
-- there. Bytes are decoded by chunks ahead of the blocks, and a chunk with bytes that are no UTF-8
-- gives no characters at all.
structure Intake where
  text : List Char
  fault : Option Fault := none

namespace Intake

def blockSize : Nat := 4096

def chunkSize : Nat := 8192

def isAllowed (c : Char) : Bool :=
  let n := c.toNat
  n == 0x09 || n == 0x0a || n == 0x0d || (0x20 ≤ n && n ≤ 0x7e) || n == 0x85 ||
    (0xa0 ≤ n && n ≤ 0xfffd) || 0x10000 ≤ n

def unixLines (text : List Char) : List Char :=
  let step := fun (done : List Char × Bool) (c : Char) =>
    if c == '\r' then ('\n' :: done.1, true)
    else if c == '\n' && done.2 then (done.1, false)
    else (c :: done.1, false)
  (text.foldl step ([], false)).1.reverse

-- Nothing is taken in unless the first two blocks are there.
def inBlocks (number : Nat) : Nat :=
  let full := number / blockSize * blockSize
  if full < 2 * blockSize then 0 else full

def checked (intake : Intake) : Intake :=
  let allowed := intake.text.takeWhile isAllowed
  let good := allowed.length
  if good < intake.text.length then ⟨intake.text.take (inBlocks good), some .malformed⟩ else intake

structure OpenForm where
  code : Nat
  low : Nat
  high : Nat
  more : Nat

def openForm? (b : Nat) : Option OpenForm :=
  if b < 0xc2 || 0xf4 < b then none
  else if b < 0xe0 then some ⟨b - 0xc0, 0x80, 0xbf, 0⟩
  else if b < 0xf0 then
    some ⟨b - 0xe0, if b == 0xe0 then 0xa0 else 0x80, if b == 0xed then 0x9f else 0xbf, 1⟩
  else some ⟨b - 0xf0, if b == 0xf0 then 0x90 else 0x80, if b == 0xf4 then 0x8f else 0xbf, 2⟩

structure Decoding where
  chars : List (Char × Nat) := []
  bytes : Nat := 0
  form : Option OpenForm := none

namespace Decoding

def step? (d : Decoding) (byte : UInt8) : Option Decoding :=
  let b := byte.toNat
  let bytes := d.bytes + 1
  match d.form with
  | none =>
    if b < 0x80 then some { d with chars := (Char.ofNat b, bytes) :: d.chars, bytes }
    else (openForm? b).map fun form => { d with bytes, form := some form }
  | some form =>
    if b < form.low || form.high < b then none
    else
      let code := form.code * 64 + (b - 0x80)
      if form.more == 0 then
        some { chars := (Char.ofNat code, bytes) :: d.chars, bytes, form := none }
      else some { d with bytes, form := some ⟨code, 0x80, 0xbf, form.more - 1⟩ }

def run (d : Decoding) : List UInt8 → Decoding
  | [] => d
  | b :: rest =>
    match d.step? b with
    | some next => run next rest
    | none => d

-- A carriage return becomes a line end and is complete with the character after it.
def lineStep (done : List (Char × Nat) × Bool) (next : Char × Nat) : List (Char × Nat) × Bool :=
  let before := if done.2 && next.1 != '\n' then ('\n', next.2) :: done.1 else done.1
  if next.1 == '\r' then (before, true) else (next :: before, false)

def lines (d : Decoding) : List (Char × Nat) :=
  (d.chars.reverse.foldl lineStep ([], false)).1.reverse

end Decoding

structure Supply where
  bytes : Nat := 0
  chars : Nat := 0
  chunkBytes : Nat := 0
  chunkChars : Nat := 0
  ahead : List Nat

namespace Supply

-- A chunk is as large as the last one makes expect for the missing characters.
def chunk? (s : Supply) (missing good total : Nat) : Option Supply :=
  let expected := if s.chunkChars == 0 then missing else missing * s.chunkBytes / s.chunkChars
  let stop := min total (s.bytes + max chunkSize expected)
  if stop == s.bytes || good < stop then none
  else
    let arrived := (s.ahead.takeWhile (· ≤ stop)).length
    some
      { bytes := stop
        chars := s.chars + arrived
        chunkBytes := stop - s.bytes
        chunkChars := arrived
        ahead := s.ahead.drop arrived }

def blocks (good total : Nat) : Nat → Nat → Supply → Nat
  | 0, number, _ => number
  | bound + 1, number, s =>
    let wanted := (number + 1) * blockSize
    if wanted ≤ s.chars then blocks good total bound (number + 1) s
    else
      match s.chunk? (wanted - s.chars) good total with
      | some next => blocks good total bound number next
      | none => number

end Supply

def brokenOff (bytes : List UInt8) : Intake :=
  let decoding := Decoding.run {} bytes
  let chars := decoding.lines
  let total := bytes.length
  let blocks := Supply.blocks decoding.bytes total (2 * total + 2) 0 { ahead := chars.map (·.2) }
  ⟨(chars.map (·.1)).take (inBlocks (blocks * blockSize)), some .encoding⟩

def ofBytes (bytes : ByteArray) : Intake :=
  match String.fromUTF8? bytes with
  | some text => checked ⟨unixLines text.toList, none⟩
  | none => checked (brokenOff bytes.toList)

end Intake

end DocGuard.Yaml
