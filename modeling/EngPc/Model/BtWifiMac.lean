import EngPc.Lib.CString
import EngPc.Model.Crc16

/-!
# The BT and WiFi addresses

modules/libmiscdata/bt_wifi_mac.c and `bt_wifi_mac_handler` of miscdata_rw.c. The addresses are
kept as texts in two files. The handler gives `btwifiimei` the value 0 for `ap_cali`, so the
branches for IMEIs are not taken; the two conversions between an IMEI in NV and its text stand at
the end.
-/

namespace EngPc
open Buffer CString LittleEndian

def diagCmdBtbit : UInt8 := 0x04
def diagCmdWifibit : UInt8 := 0x40
def diagCmdRead : UInt8 := 0x80

def rmValidCmdMask : UInt8 := 0x7f

/-! ### The texts -/

def colon : UInt8 := 0x3a

/-- `%02x:%02x:...`. -/
def macText : List UInt8 → List UInt8
  | [] => []
  | [b] => hex2 b
  | b :: c :: l => hex2 b ++ colon :: macText (c :: l)

/-- The loop of `eng_diag_char2hex`; the number of rounds bounds the recursion. -/
def char2hexLoop : Nat → List UInt8 → List UInt8
  | 0, _ => []
  | n + 1, s =>
    if colon ∈ s then
      UInt8.ofInt (strtol longBits 16 (s.take 2)) :: char2hexLoop n (s.dropWhile (· ≠ colon)).tail
    else [UInt8.ofInt (strtol longBits 16 s)]

def engDiagChar2hex (chardata : List UInt8) : List UInt8 :=
  char2hexLoop (chardata.length + 1) chardata

/-! ### The files -/

inductive MacType
  | bt | wifi
  deriving DecidableEq, Repr

/-- `wifimac.txt` and `btmac.txt` under /mnt/vendor, and the old files that are read where these
are missing. -/
structure MacFiles where
  wifi : Option (List UInt8)
  wifiRoot : Option (List UInt8)
  bt : Option (List UInt8)
  btRoot : Option (List UInt8)
  deriving DecidableEq, Repr

def MacFiles.current (f : MacFiles) : MacType → Option (List UInt8)
  | .bt => f.bt.or f.btRoot
  | .wifi => f.wifi.or f.wifiRoot

/-- `eng_btwifimac_read`: its result and what it leaves in `mac`. -/
def engBtwifimacRead (f : MacFiles) (mac : Buffer UInt8) (type : MacType) : Int × Buffer UInt8 :=
  match f.current type with
  | none => (-1, mac)
  | some text => if text = [] then (-1, mac) else (0, mac.fill 0 (text.take 31))

def macString (mac : Buffer UInt8) : List UInt8 := cstr mac 0 32

def macZero : Buffer UInt8 := fun _ => 0

/-- What `write` answers: it fails, or it takes some of the bytes, or all. -/
inductive MacWrite
  | fail
  | short (n : Nat)
  | full
  deriving DecidableEq, Repr

/-- The bytes that arrive in the file. -/
def MacWrite.put (w : MacWrite) (text : List UInt8) : List UInt8 :=
  match w with
  | .fail => []
  | .short n => text.take n
  | .full => text

def MacWrite.ret (w : MacWrite) (text : List UInt8) : Int :=
  match w with
  | .fail => -1
  | _ => (w.put text).length

/-- The answers of the system calls of `write_mac2file`. -/
structure MacIo where
  openWifi : Bool
  writeWifi : MacWrite
  openBt : Bool
  writeBt : MacWrite
  removeBtRoot : Bool
  deriving DecidableEq, Repr

/-- No call fails. -/
def MacIo.fine : MacIo where
  openWifi := true
  writeWifi := .full
  openBt := true
  writeBt := .full
  removeBtRoot := true

/-- `write_mac2file`; `O_TRUNC` empties a file that is opened. -/
def writeMac2file (io : MacIo) (f : MacFiles) (wifimac btmac : List UInt8) : Int × MacFiles :=
  if io.openWifi = false then (-1, f)
  else
    let f := { f with wifi := some (io.writeWifi.put wifimac) }
    if io.openBt = false then (-1, f)
    else (io.writeBt.ret btmac,
      { f with
        bt := some (io.writeBt.put btmac)
        btRoot := if io.removeBtRoot = true then none else f.btRoot })

/-! ### Random addresses -/

/-- The ten random bytes of `mac_rand`. -/
structure MacSeed where
  bt : List UInt8
  wifi : List UInt8
  bt_length : bt.length = 5
  wifi_length : wifi.length = 5

/-- What `write_to_randmacfile` puts into the file: 80 bytes. -/
def randmacfileBytes (btmac wifimac : List UInt8) : List UInt8 :=
  let text := btmac ++ 0x3b :: wifimac
  text ++ List.replicate (80 - text.length) 0

/-- A file that was written by `write_to_randmacfile`, from two texts of addresses. -/
structure RandMacFile where
  bytes : List UInt8
  written : ∃ btmac wifimac : List UInt8, bytes = randmacfileBytes btmac wifimac ∧
    btmac.length = 17 ∧ wifimac.length = 17 ∧ (∀ c ∈ btmac ++ wifimac, c ≠ 0 ∧ c ≠ 0x3b)

/-- `mac_rand`, for two empty texts: the texts of the file, else random ones. -/
def macRand (file : Option RandMacFile) (seed : MacSeed) : List UInt8 × List UInt8 :=
  let random := (macText (0 :: seed.bt), macText (0 :: seed.wifi))
  match file with
  | none => random
  | some file =>
    let buf := cstr (Buffer.fill macZero 0 (file.bytes.take 79)) 0 80
    if 0x3b ∈ buf then
      (buf.takeWhile (· ≠ 0x3b), (buf.dropWhile (· ≠ 0x3b)).tail)
    else random

/-! ### `eng_btwifimac_write` -/

/-- What a write leaves: its result, the files, and the two texts that the properties are set to,
when they are set. -/
structure MacWritten where
  ret : Int
  files : MacFiles
  props : Option (List UInt8 × List UInt8)

/-- A missing address: the random text, overlaid with the text that is stored. -/
def macFill (f : MacFiles) (rand : List UInt8) (type : MacType) : List UInt8 :=
  macString (engBtwifimacRead f (Buffer.fill macZero 0 rand) type).2

section Write

variable (io : MacIo) (file : Option RandMacFile) (seed : MacSeed) (f : MacFiles)

/-- The two texts that are written, WiFi first. -/
def macTexts (btMac wifiMac : Option (List UInt8)) : List UInt8 × List UInt8 :=
  let rand := macRand file seed
  (wifiMac.getD (macFill f rand.2 .wifi), btMac.getD (macFill f rand.1 .bt))

def engBtwifimacWrite (btMac wifiMac : Option (List UInt8)) : MacWritten :=
  let t := macTexts file seed f btMac wifiMac
  let r := writeMac2file io f t.1 t.2
  ⟨r.1, r.2, if 0 < r.1 then some t else none⟩

end Write

/-! ### `btwifiimei` -/

/-- `sizeof(REF_NVWriteDirect_T)` and the places of the two addresses in it. -/
def directLen : Nat := 106
def directBtaddr : Nat := 16
def directWifiaddr : Nat := 66

def directAt : Nat := 1 + msgHeadLen

def reqBtaddr (buf : Buffer UInt8) : List UInt8 := buf.load (directAt + directBtaddr) 6
def reqWifiaddr (buf : Buffer UInt8) : List UInt8 := buf.load (directAt + directWifiaddr) 6

/-- The CRC of a write is the one behind `direct`. -/
def directCrcOk (buf : Buffer UInt8) : Prop :=
  natLE (buf.load (directAt + directLen) 2) = (crc16 0 (buf.load directAt directLen)).toNat

instance (buf : Buffer UInt8) : Decidable (directCrcOk buf) := inferInstanceAs (Decidable (_ = _))

def hasBit (subtype bit : UInt8) : Prop := subtype &&& bit ≠ 0

instance (subtype bit : UInt8) : Decidable (hasBit subtype bit) :=
  inferInstanceAs (Decidable (_ ≠ _))

/-- What `btwifiimei` leaves; `rlen` bytes of `rsp` are the reply. -/
structure MacOut where
  rlen : Nat
  rsp : Buffer UInt8
  buf : Buffer UInt8
  files : MacFiles

/-- `translate_packet`, of `size` bytes. -/
def macTranslate (rsp tmprsp : Buffer UInt8) (size : Nat) : Buffer UInt8 :=
  rsp.fill 0 (0x7e :: tmprsp.load 0 size ++ [0x7e])

/-- The end of a write: `buf` has its subtype set, its header goes out with a `len` of its own. -/
def macStatus (rsp buf : Buffer UInt8) (status : UInt8) (f : MacFiles) : MacOut :=
  let buf := buf.store 8 status
  let tmprsp := (Buffer.fill macZero 0 (buf.load 1 msgHeadLen)).fill 4
    (bytesLE 2 (msgHeadLen + 2))
  ⟨msgHeadLen + 2 + 2, macTranslate rsp tmprsp (msgHeadLen + 2), buf, f⟩

section Handler

variable (io : MacIo) (file : Option RandMacFile) (seed : MacSeed) (f : MacFiles)
  (buf rsp : Buffer UInt8)

/-- "clear BT/WIFI bit in this diag framer", where `head_ptr` points to `buf`. -/
def clearMacBits (buf : Buffer UInt8) : Buffer UInt8 :=
  buf.store 8 (buf 8 &&& ~~~(diagCmdBtbit ||| diagCmdWifibit))

/-- After a write: a request that goes to the CP as well has no reply. -/
def btwifiEnd (cpApProc : Bool) (ret : Int) : MacOut :=
  if cpApProc = true then ⟨0, rsp, clearMacBits buf, f⟩
  else macStatus rsp buf (if ret ≤ 0 then 0 else 1) f

def btwifiWrite (cpApProc : Bool) : MacOut :=
  let subtype := buf 8
  if directCrcOk buf ∧ (hasBit subtype diagCmdBtbit ∨ hasBit subtype diagCmdWifibit) then
    let btaddr := if hasBit subtype diagCmdBtbit then some (macText (reqBtaddr buf).reverse)
      else none
    let wifiaddr := if hasBit subtype diagCmdWifibit then some (macText (reqWifiaddr buf)) else none
    if hasBit subtype diagCmdWifibit ∧ hasBit (buf (directAt + directWifiaddr)) 0x03 then
      macStatus rsp buf 0 f
    else
      let w := engBtwifimacWrite io file seed f btaddr wifiaddr
      btwifiEnd w.files buf rsp cpApProc w.ret
  else btwifiEnd f buf rsp cpApProc (-1)

/-- The BT address in `tmprsp`: it is stored as it stands in the text, then turned round. -/
def readBtaddr (tmprsp : Buffer UInt8) : Buffer UInt8 :=
  let off := msgHeadLen + directBtaddr
  let r := engBtwifimacRead f macZero .bt
  if r.1 = 0 then
    let tmprsp := tmprsp.fill off (engDiagChar2hex (macString r.2))
    tmprsp.fill off (tmprsp.load off 6).reverse
  else tmprsp

def readWifiaddr (tmprsp : Buffer UInt8) : Buffer UInt8 :=
  let r := engBtwifimacRead f macZero .wifi
  if r.1 = 0 then
    tmprsp.fill (msgHeadLen + directWifiaddr) (engDiagChar2hex (macString r.2))
  else tmprsp

def btwifiRead : MacOut :=
  let subtype := buf 8
  let tmprsp := macZero
  let tmprsp := if hasBit subtype diagCmdBtbit then readBtaddr f tmprsp else tmprsp
  let tmprsp := if hasBit subtype diagCmdWifibit then readWifiaddr f tmprsp else tmprsp
  let buf := buf.store 8 0x01
  let tmprsp := tmprsp.fill 0 (buf.load 1 msgHeadLen)
  let crc := crc16 0 (tmprsp.load msgHeadLen directLen)
  let tmprsp := tmprsp.fill (msgHeadLen + directLen) (bytesLE 2 crc.toNat)
  let rlen := msgHeadLen + directLen + 2
  let tmprsp := tmprsp.fill 4 (bytesLE 2 rlen)
  ⟨rlen + 2, macTranslate rsp tmprsp rlen, buf, f⟩

def btwifiimei (cpApProc : Bool) : MacOut :=
  if hasBit (buf 8) diagCmdRead then btwifiRead f buf rsp
  else btwifiWrite io file seed f buf rsp cpApProc

end Handler

/-! ### `bt_wifi_mac_handler` -/

/-- `btwifi_checkValid` behind its CRC check. -/
def validCommand (subtype : UInt8) : Nat :=
  if ¬hasBit subtype diagCmdRead ∧ subtype &&& rmValidCmdMask = 0 then 0
  else
    let cmdMask := subtype &&& rmValidCmdMask
    if hasBit cmdMask diagCmdBtbit ∨ hasBit cmdMask diagCmdWifibit then
      if cmdMask &&& ~~~(diagCmdBtbit ||| diagCmdWifibit) ≠ 0 then 2 else 1
    else 0

def btwifiCheckValid (buf : Block UInt8) : Except OutOfBounds Nat := do
  if (← crcCheck buf) = false then return 0
  else return validCommand (buf.cells 8)

/-- What the handler leaves: its result, the two buffers, the files and what it sent to the host
itself. -/
structure MacHandled where
  ret : Int
  buf : Buffer UInt8
  rsp : Buffer UInt8
  files : MacFiles
  host : List (List UInt8)

def btWifiMacHandler (io : MacIo) (file : Option RandMacFile) (seed : MacSeed) (f : MacFiles)
    (buf : Block UInt8) (rsp : Buffer UInt8) : Except OutOfBounds MacHandled := do
  let ret ← btwifiCheckValid buf
  if ret = 0 then return ⟨engDiagRetUnsupport, buf.cells, rsp, f, []⟩
  else
    let o := btwifiimei io file seed f buf.cells rsp (ret = 2)
    let host := if 0 < o.rlen then [o.rsp.load 0 o.rlen] else []
    return ⟨if ret = 1 then engDiagNoResponse else engDiagRetUnsupport, o.buf, o.rsp, o.files, host⟩

/-! ### IMEIs -/

def maxImeiLength : Nat := 8
def maxImeiStrLength : Nat := 15

/-- `MAKE1BYTE2BYTES`, cast to `unsigned char`. -/
def make1Byte2Bytes (high4bit low4bit : UInt8) : UInt8 := high4bit <<< 4 ||| low4bit

/-- The loop of `ImeiConvStr2NV`, from `i` on. -/
def imeiStr2NvLoop (szImei : Block UInt8) : (rounds i : Nat) → Block UInt8 →
    Except OutOfBounds (Block UInt8)
  | 0, _, nvImei => .ok nvImei
  | rounds + 1, i, nvImei => do
    let temp1 := (← szImei.get (2 * i - 0)) - 0x30
    let temp2 := (← szImei.get (2 * i - 1)) - 0x30
    imeiStr2NvLoop szImei rounds (i + 1) (← nvImei.set i (make1Byte2Bytes temp1 temp2))

/-- `ImeiConvStr2NV`: what it leaves in `nvImei`. -/
def imeiConvStr2NV (szImei nvImei : Block UInt8) : Except OutOfBounds (Block UInt8) := do
  let temp1 := (← szImei.get 0) - 0x30
  imeiStr2NvLoop szImei (maxImeiLength - 1) 1 (← nvImei.set 0 (make1Byte2Bytes temp1 0x0A))

/-- The loop of `ImeiConvNV2Str`, from `i` on. -/
def imeiNv2StrLoop (nvImei : Block UInt8) : (rounds i : Nat) → Block UInt8 →
    Except OutOfBounds (Block UInt8)
  | 0, _, szImei => .ok szImei
  | rounds + 1, i, szImei => do
    let szImei ← szImei.set (2 * i + 0) (((← nvImei.get i) &&& 0xF0) >>> 4 + 0x30)
    let szImei ← szImei.set (2 * i + 1) (((← nvImei.get (i + 1)) &&& 0x0F) + 0x30)
    imeiNv2StrLoop nvImei rounds (i + 1) szImei

/-- `ImeiConvNV2Str`: what it leaves in `szImei`. -/
def imeiConvNV2Str (nvImei szImei : Block UInt8) : Except OutOfBounds (Block UInt8) := do
  let szImei ← imeiNv2StrLoop nvImei (maxImeiLength - 1) 0 szImei
  szImei.set 14 (((← nvImei.get 7) &&& 0xF0) >>> 4 + 0x30)

end EngPc
