import EngPc.Lib.Block
import EngPc.Lib.CString
import EngPc.Model.Types

/-!
# AT commands of the factory test

`readline` and `sendATCmd` of modules/libFactoryRadioTest/factorytest_radio.c. `s_ATBuffer` is a block
of 512 cells; an access outside of it ends the run.
-/

namespace EngPc
open CString

def atBufferSize : Nat := 512

/-- `s_ATBuffer` and `s_ATBufferCur` -/
structure AtBuffer where
  buf : Block UInt8
  cur : Nat

def AtBuffer.initial : AtBuffer := ⟨⟨fun _ => 0, atBufferSize⟩, 0⟩

/-- What a `read` of the modem gives; no bytes at the end of its output. -/
inductive AtRead
  | data (bytes : List UInt8)
  | eintr
  | failed
  deriving DecidableEq, Repr

def isEol (c : UInt8) : Bool := c = 0x0d || c = 0x0a

section Scan

variable (b : Block UInt8)

def atCell (i : Nat) : Except OutOfBounds UInt8 :=
  if i < b.size then .ok (b.cells i) else .error ⟨i, 1⟩

/-- The loop over leading newlines; `left` cells of the block are behind `cur`. -/
def skipNewlines : (left cur : Nat) → Except OutOfBounds Nat
  | 0, cur => .error ⟨cur, 1⟩
  | left + 1, cur => if isEol (b.cells cur) then skipNewlines left (cur + 1) else .ok cur

/-- The loop of `findNextEOL`. -/
def scanEol : (left cur : Nat) → Except OutOfBounds (Option Nat)
  | 0, cur => .error ⟨cur, 1⟩
  | left + 1, cur =>
    if b.cells cur = 0 then .ok none
    else if isEol (b.cells cur) then .ok (some cur)
    else scanEol left (cur + 1)

/-- The prompt for the text of a message has no newline. -/
def isPrompt (cur : Nat) : Except OutOfBounds Bool := do
  if (← atCell b cur) ≠ 0x3e then return false
  if (← atCell b (cur + 1)) ≠ 0x20 then return false
  return (← atCell b (cur + 2)) = 0

def findNextEOL (cur : Nat) : Except OutOfBounds (Option Nat) := do
  if ← isPrompt b cur then return some (cur + 2)
  scanEol b (b.size - cur) cur

end Scan

/-- What `readline` returns, the buffer, and the reads that are still to come. -/
abbrev AtLine := Option (List UInt8) × AtBuffer × List AtRead

/-- The end of `readline`, where there is a line. -/
def takeLine (s : AtBuffer) (eol : Nat) (reads : List AtRead) : Except OutOfBounds AtLine := do
  let buf ← s.buf.write eol [0]
  return (some (cstr buf.cells s.cur (buf.size - s.cur)), ⟨buf, eol + 1⟩, reads)

/-- A full buffer is ditched. -/
def ditch (s : AtBuffer) (pRead : Nat) : Except OutOfBounds (AtBuffer × Nat) := do
  if atBufferSize - pRead = 0 then
    let buf ← s.buf.write 0 [0]
    return (⟨buf, 0⟩, 0)
  else return (s, pRead)

/-- The loop of `readline`; a `read` gives as many bytes as were asked for, at most. -/
def readlineLoop : List AtRead → AtBuffer → Nat → Except OutOfBounds AtLine
  | [], s, pRead => do
    let (s, _) ← ditch s pRead
    return (none, s, [])
  | .eintr :: reads, s, pRead => do
    let (s, pRead) ← ditch s pRead
    readlineLoop reads s pRead
  | .failed :: reads, s, pRead => do
    let (s, _) ← ditch s pRead
    return (none, s, reads)
  | .data bytes :: reads, s, pRead => do
    let (s, pRead) ← ditch s pRead
    let bytes := bytes.take (atBufferSize - pRead)
    if bytes = [] then return (none, s, reads)
    let buf ← s.buf.write pRead bytes
    let buf ← buf.write (pRead + bytes.length) [0]
    let cur ← skipNewlines buf (buf.size - s.cur) s.cur
    match ← findNextEOL buf cur with
    | some eol => takeLine ⟨buf, cur⟩ eol reads
    | none => readlineLoop reads ⟨buf, cur⟩ (pRead + bytes.length)

def readline (reads : List AtRead) (s : AtBuffer) : Except OutOfBounds AtLine := do
  if (← atCell s.buf s.cur) = 0 then
    let buf ← s.buf.write 0 [0]
    readlineLoop reads ⟨buf, 0⟩ 0
  else
    let cur ← skipNewlines s.buf (s.buf.size - s.cur) s.cur
    match ← findNextEOL s.buf cur with
    | some eol => takeLine ⟨s.buf, cur⟩ eol reads
    | none =>
      let len := (cstr s.buf.cells cur (s.buf.size - cur)).length
      let buf ← s.buf.write 0 (← s.buf.read cur (len + 1))
      readlineLoop reads ⟨buf, 0⟩ len

/-- The lines of `n` calls of `readline`, up to one that returns NULL. -/
def readlines : Nat → List AtRead → AtBuffer → Except OutOfBounds (List (List UInt8))
  | 0, _, _ => .ok []
  | n + 1, reads, s => do
    match ← readline reads s with
    | (none, _, _) => return []
    | (some line, s, reads) => return line :: (← readlines n reads s)

/-- `buf` and `buf_len` of `sendATCmd`, where neither is 0. The callers pass an array with its size. -/
structure RspBuf where
  block : Block UInt8
  len : Nat
  len_pos : 0 < len
  len_le : len ≤ block.size
  len_lt : len < 2 ^ 31

/-- What `select` answers; `interrupted` stands for EINTR and EAGAIN. -/
inductive AtSelect
  | interrupted | failed | timeout | ready
  deriving DecidableEq, Repr

/-- What the calls of an exchange give: the first `write`, `select` each time, and `readline` until it
returns NULL. -/
structure AtExchange where
  written : Int
  selects : List AtSelect
  lines : List (List UInt8)
  deriving DecidableEq, Repr

structure AtResult where
  ret : Int
  buf : Option (Block UInt8)

def hasOk (line : List UInt8) : Bool := (strstr (ofString "OK") line).isSome

def hasError (line : List UInt8) : Bool := (strstr (ofString "ERROR") line).isSome

/-- The loop around `select`: whether there is something to read; `none` while it waits. -/
def selectLoop : List AtSelect → Option Bool
  | [] => none
  | .interrupted :: selects => selectLoop selects
  | .failed :: _ | .timeout :: _ => some false
  | .ready :: _ => some true

/-- The loop around `readline`, with `bufLen = 0` where there is no buffer. -/
def exchangeLoop (bufLen : Nat) :
    List (List UInt8) → Block UInt8 → (rspLen : Nat) → (ret : Int) →
      Except OutOfBounds (Int × Block UInt8)
  | [], buf, _, ret => .ok (ret, buf)
  | line :: lines, buf, rspLen, ret =>
    if hasOk line then .ok (rspLen, buf)
    else if hasError line then .ok (-1, buf)
    else if bufLen = 0 then exchangeLoop bufLen lines buf rspLen ret
    else if bufLen < rspLen + line.length then .ok (-1, buf)
    else do
      let buf ← buf.write rspLen line
      exchangeLoop bufLen lines buf (rspLen + line.length) ret

/-- `sendATCmd`; `none` while it waits in `select`, which returns the number of descriptors. -/
def sendATCmd (x : AtExchange) (cmd : Option (List UInt8)) (buf : Option RspBuf) :
    Except OutOfBounds (Option AtResult) :=
  let block := buf.map RspBuf.block
  match cmd with
  | none => .ok (some ⟨-1, block⟩)
  | some cmd =>
    if x.written ≠ cmd.length then .ok (some ⟨-1, block⟩)
    else
      match selectLoop x.selects with
      | none => .ok none
      | some false => .ok (some ⟨-1, block⟩)
      | some true => do
        let (ret, left) ← exchangeLoop ((buf.map RspBuf.len).getD 0) x.lines
          (block.getD ⟨fun _ => 0, 0⟩) 0 1
        return some ⟨ret, block.map fun _ => left⟩

end EngPc
