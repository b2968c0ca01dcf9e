import EngPc.Model.ModuleMgr
import EngPc.Model.MsgHead

/-!
# The handlers of the PQ tune and deep sleep modules

`PQTuneCore` of modules/PQTune with the commands of PQDiag.cpp, and `ap_deep_sleep_handler` of
modules/libapdeepsleep. What the files and threads do during one request is given by `Device`; the
parsers of the XML and register files are part of it. What is written to the files is not kept.
-/

namespace EngPc
open CString LittleEndian

/-- A value of `errno` after a failed call. -/
structure Errno where
  val : Nat
  pos : 0 < val
  deriving DecidableEq, Repr

inductive SysFile
  | panelSize | chipInfo | pqStatus | brightness | dispcBg | flipDisable | dispcRegsOffset
  | dispcWrRegs | sensorLight | wakeupCount
  deriving DecidableEq, Repr

inductive PQModule
  | version | gamma | bld | cms | abc | hsv
  deriving DecidableEq, Repr

/-- The functions of `XmlParser`. -/
inductive ParserFn
  | updateXml | parseXml | updateReg | parseReg
  deriving DecidableEq, Repr

/-- A call of a parser: whether an open or a read in it fails, and what becomes of `ctx`. -/
structure ParserRun where
  failed : Bool
  ctx : Buffer UInt8 → Buffer UInt8

/-- What the calls of one request meet: `opened` gives the error of an open that fails, `read` what
a file delivers, if anything, `grInit` the result of `gr_init` on the display device, if it has one:
without memory for its backend it ends the process. The parsers all return. -/
structure Device where
  opened : SysFile → Option Errno
  read : SysFile → Option (List UInt8)
  written : SysFile → Bool
  grInit : Option Int
  malloc : Bool
  pthreadCreate : Bool
  parser : PQModule → ParserFn → ParserRun

/-- Several opens: `errno` is that of the last one that failed. -/
def Device.openAll (dev : Device) (files : List SysFile) : Option Errno :=
  (files.filterMap dev.opened).getLast?

def Device.readFile (dev : Device) (file : SysFile) (count : Nat) : Option (List UInt8) :=
  (dev.read file).map fun l => l.take count

/-- A call that never comes back, or one that writes outside the response buffer. -/
inductive HandlerFault
  | noReturn | outOfBounds
  deriving DecidableEq, Repr

/-- What a handler leaves. `failed` tells whether an open or a read failed; the code does not keep
it. -/
structure HandlerOut where
  ret : Int
  rsp : Buffer UInt8
  failed : Bool

/-- The end that the handlers share: the head of the request comes back, the length and the last
flag go in. -/
def sendReply (buf rsp : Buffer UInt8) (rsplen head rspLen : Nat) (failed : Bool) :
    Except HandlerFault HandlerOut :=
  if rsplen < rspLen then .error .outOfBounds
  else
    let rsp := rsp.fill 0 (buf.load 0 head)
    let rsp := rsp.fill 5 (bytesLE 2 (rspLen - 2))
    .ok ⟨rspLen, rsp.store (rspLen - 1) 0x7e, failed⟩

def sendValue (buf rsp : Buffer UInt8) (rsplen value : Nat) (failed : Bool) :
    Except HandlerFault HandlerOut :=
  sendReply buf (rsp.fill 13 (bytesLE 4 value)) rsplen 13 18 failed

inductive IPCore
  | dpuLiteR2p0 | dpuR2p0 | dpuR3p0 | dpuR4p0
  deriving DecidableEq, Repr

structure PQTuneCore where
  version : IPCore
  ctx : Buffer UInt8
  offset : Nat

/-- `gamma_size` to `hsv_size`: the sizes of the structures of each chip. -/
def PQTuneCore.size (c : PQTuneCore) : PQModule → Nat
  | .version => 0
  | .gamma => match c.version with | .dpuR2p0 => 1544 | _ => 3084
  | .bld => match c.version with | .dpuR2p0 => 4404 | _ => 48
  | .cms => match c.version with | .dpuR2p0 => 4716 | .dpuR4p0 => 4788 | _ => 4800
  | .abc =>
    match c.version with
    | .dpuR2p0 => 18716 | .dpuLiteR2p0 => 18460 | .dpuR3p0 => 18972 | .dpuR4p0 => 18372
  | .hsv => match c.version with | .dpuR4p0 => 13140 | _ => 0

/-- Where the structure of a module is in `ctx`, behind the main version. -/
def PQTuneCore.moduleOffset (c : PQTuneCore) : PQModule → Nat
  | .version => 0
  | .gamma => 8
  | .bld => 8 + c.size .gamma
  | .cms => 8 + c.size .gamma + c.size .bld
  | .abc => 8 + c.size .gamma + c.size .bld + c.size .cms
  | .hsv => 8 + c.size .gamma + c.size .bld + c.size .cms + c.size .abc

def PQTuneCore.tuneSizes (c : PQTuneCore) : Nat := c.moduleOffset .hsv + c.size .hsv

/-- A call of a module's parser. Only the last chip has one for HSV. -/
def PQTuneCore.parse (c : PQTuneCore) (dev : Device) (f : ParserFn) (m : PQModule) :
    Except HandlerFault (PQTuneCore × Bool) :=
  if m = .hsv ∧ c.version ≠ .dpuR4p0 then .error .noReturn
  else .ok ({ c with ctx := (dev.parser m f).ctx c.ctx }, (dev.parser m f).failed)

def PQTuneCore.parseAll (dev : Device) (f : ParserFn) :
    List PQModule → PQTuneCore → Except HandlerFault (PQTuneCore × Bool)
  | [], c => .ok (c, false)
  | m :: ms, c =>
    match c.parse dev f m with
    | .error e => .error e
    | .ok r =>
      match parseAll dev f ms r.1 with
      | .error e => .error e
      | .ok r' => .ok (r'.1, r.2 || r'.2)

def allParsers : List PQModule := [.abc, .cms, .bld, .gamma, .hsv]

/-- The `version.enable` field of a module. -/
def PQTuneCore.setEnable (c : PQTuneCore) (enable : Nat) (m : PQModule) : PQTuneCore :=
  { c with ctx := c.ctx.fill (c.moduleOffset m + 4) (bytesLE 4 enable) }

def PQTuneCore.modulesEnable (c : PQTuneCore) (enable : Nat) : PQTuneCore :=
  [.gamma, .abc, .cms, .bld].foldl (fun c m => c.setEnable enable m) c

/-- `tune_module_enable`: GAMMA_EN, SLP_EN, CMS_EN and HSV_EN. -/
def PQTuneCore.moduleEnable (c : PQTuneCore) (module : Nat) : PQTuneCore :=
  [(5, .gamma), (4, .abc), (3, .cms), (2, .bld)].foldl
    (fun c e => if module.testBit e.1 then c.setEnable 1 e.2 else c) c

section Commands

variable (c : PQTuneCore) (dev : Device) (buf rsp : Buffer UInt8) (rsplen : Nat)

/-- The digits `data[off]`, … as `parse_panelsize` sums them up. -/
def panelDigits (data : Buffer UInt8) (off n top : Nat) : UInt32 :=
  (List.range n).foldl
    (fun v j => v + (UInt32.ofNat (data (off + j)).toNat - 48) * UInt32.ofNat (10 ^ (top - j))) 0

/-- The loop of `parse_panelsize`, over a counter of eight bits. -/
def panelLoop (data : Buffer UInt8) : Nat → Nat → Nat → UInt32 → UInt32 → Option (UInt32 × UInt32)
  | 0, _, _, hPixel, vPixel => some (hPixel, vPixel)
  | n + 1, i, next, hPixel, vPixel =>
    let hPixel := if data i = 0x78 then hPixel + panelDigits data 0 (i - 1) (i - 1) else hPixel
    let next := if data i = 0x78 then (i + 1) % 256 else next
    if data i = 0x0a then
      if i = 0 then none
      else panelLoop data n (i + 1) next hPixel
        (vPixel + panelDigits data next (i - next) (i - 1 - next))
    else panelLoop data n (i + 1) next hPixel vPixel

/-- `none`: the loop never ends. -/
def parsePanelsize (data : Buffer UInt8) (count : Nat) : Option (UInt32 × UInt32) :=
  if 256 ≤ count then none else panelLoop data count 0 0 0 0

def PQTuneCore.versionName (c : PQTuneCore) : List UInt8 :=
  match c.version with
  | .dpuR2p0 => ofString "dpu-r2p0"
  | .dpuLiteR2p0 => ofString "dpu-lite-r2p0"
  | .dpuR3p0 => ofString "dpu-r3p0"
  | .dpuR4p0 => ofString "dpu-r4p0"

/-- What the status file says about the modules. -/
def PQTuneCore.setStatus (c : PQTuneCore) : Option (List UInt8) → PQTuneCore
  | none => c.modulesEnable 0
  | some status =>
    match strstr (ofString "0x") (status.takeWhile (· ≠ 0)) with
    | none => c
    | some s => c.moduleEnable (strtol longBits 16 s % 2 ^ 32).toNat

/-- The text behind `androidboot.hardware` and the next `=`, if the command line has it. -/
def hardwareArg (cmdline : List UInt8) : Option (List UInt8) :=
  match strstr (ofString "androidboot.hardware") cmdline with
  | none => none
  | some s => (strstr (ofString "=") s).map List.tail

def connectFiles : List SysFile := [.panelSize, .chipInfo, .pqStatus, .brightness]

def dutInfoSize : Nat := 148

/-- The buffer `info` once the command line is read over the status text. -/
def connectInfo (cmdline : List UInt8) : Buffer UInt8 :=
  Buffer.fill (Buffer.fill (fun _ => 0) 0 ((dev.readFile .pqStatus 100).getD [])) 0 cmdline

/-- The display is opened, but not for the first chip. -/
def PQTuneCore.display : Option Int := if c.version = .dpuR2p0 then some 0 else dev.grInit

/-- `tune_connect` behind its opens; `failed` tells whether that of the display failed, which is
only logged. -/
def PQTuneCore.connectOpened (failed : Bool) : Except HandlerFault (PQTuneCore × HandlerOut) :=
  if dev.malloc = false then .ok (c, ⟨-1, rsp, failed⟩)
  else
    let status := dev.readFile .pqStatus 100
    let c := c.setStatus status
    match dev.readFile .chipInfo 1024 with
    | none => .ok (c, ⟨-1, rsp, true⟩)
    | some cmdline =>
      let info := connectInfo dev cmdline
      match hardwareArg (cstr info 0 1024) with
      | none => .ok (c, ⟨-1, rsp, failed || status.isNone⟩)
      | some arg =>
        -- without a blank behind it the copy runs over the whole memory
        if 0x20 ∉ arg then .error .noReturn
        else
          let dut : Buffer UInt8 := Buffer.fill (fun _ => 0) 8 c.versionName
          let dut := dut.fill 72 (arg.takeWhile (· ≠ 0x20))
          match dev.readFile .panelSize 1024 with
          | none => .ok (c, ⟨-1, rsp, true⟩)
          | some panel =>
            match parsePanelsize (info.fill 0 panel) panel.length with
            | none => .error .noReturn
            | some (hPixel, vPixel) =>
              let dut := dut.fill 136 (bytesLE 4 hPixel.toNat ++ bytesLE 4 vPixel.toNat)
              (sendReply buf (rsp.fill 13 (dut.load 0 dutInfoSize)) rsplen 13
                (14 + dutInfoSize) (failed || status.isNone)).map fun o => (c, o)

def PQTuneCore.connect : Except HandlerFault (PQTuneCore × HandlerOut) :=
  match dev.openAll connectFiles with
  | some e => .ok (c, ⟨e.val, rsp, true⟩)
  | none =>
    match c.display dev with
    | none => .error .noReturn
    | some ret => c.connectOpened dev buf rsp rsplen (ret != 0)

def PQTuneCore.rgbPattern : Except HandlerFault HandlerOut :=
  match dev.openAll [.dispcBg, .flipDisable] with
  | some e => .ok ⟨e.val, rsp, true⟩
  | none =>
    sendValue buf rsp rsplen
      (if le32 buf 13 ≠ 0xffffffff ∧ dev.written .dispcBg = false then 1 else 0) false

def regFiles : List SysFile := [.dispcRegsOffset, .dispcWrRegs]

/-- `HexStrstoInt` on `size` numbers of nine characters at `off`, from number `i` on. -/
def hexStrsToInt (rsplen off : Nat) : Nat → Nat → Buffer UInt8 → Buffer UInt8
  | 0, _, rsp => rsp
  | n + 1, i, rsp =>
    let text := cstr rsp (off + 9 * i) (rsplen - (off + 9 * i))
    hexStrsToInt rsplen off n (i + 1)
      (rsp.fill (off + 4 * i) (bytesLE 4 (strtol longBits 16 text % 2 ^ 32).toNat))

/-- `tune_read_regs`. A failed read leaves the buffer as it is, and nobody asks. -/
def PQTuneCore.readRegs : Except HandlerFault HandlerOut :=
  match dev.openAll regFiles with
  | some e => .ok ⟨e.val, rsp, true⟩
  | none =>
    let length := le32 buf 13
    let regs := dev.readFile .dispcWrRegs (9 * length % 2 ^ 32)
    if rsplen < 21 + (regs.getD []).length ∨ rsplen < 21 + 4 * length then .error .outOfBounds
    else
      let rsp := hexStrsToInt rsplen 21 length 0 (rsp.fill 21 (regs.getD []))
      sendReply buf rsp rsplen 13 (22 + 4 * length) regs.isNone

/-- The text for `n` registers whose values stand at `off`. -/
def regText (buf : Buffer UInt8) : Nat → Nat → List UInt8
  | 0, _ => []
  | n + 1, off => hex8 (UInt32.ofNat (le32 buf off)) ++ [0x20] ++ regText buf n (off + 4)

/-- `tune_write_regs`: the texts for the files are made in the response buffer. -/
def PQTuneCore.writeRegs : Except HandlerFault HandlerOut :=
  match dev.openAll regFiles with
  | some e => .ok ⟨e.val, rsp, true⟩
  | none =>
    let length := le32 buf 13
    let dataLen := if length < 2 ^ 31 then length else 0
    let text := hex8 (UInt32.ofNat (le32 buf 17)) ++ [0x20] ++ hex8 (UInt32.ofNat length) ++ [0x20, 0]
    let data := if dataLen = 0 then [] else regText buf dataLen 21 ++ [0]
    if rsplen < 13 + text.length ∨ rsplen < 13 + data.length then .error .outOfBounds
    else
      let rsp := ((rsp.fill 13 text).fill 13 data).store 0 0x7e
      let rsp := (rsp.fill 13 (bytesLE 4 0)).fill 1 (buf.load 1 10)
      .ok ⟨18, (rsp.fill 5 (bytesLE 2 16)).store 17 0x7e, false⟩

def PQTuneCore.startReadCfg : Except HandlerFault (PQTuneCore × HandlerOut) :=
  match PQTuneCore.parseAll dev .parseXml allParsers c with
  | .error e => .error e
  | .ok (c, failed) => (sendValue buf rsp rsplen c.tuneSizes failed).map fun o => (c, o)

def PQTuneCore.midstReadCfg : Except HandlerFault HandlerOut :=
  let sizes := le32 buf 13
  if rsplen < 15 + sizes then .error .outOfBounds
  else
    sendReply buf ((rsp.fill 15 (c.ctx.load (le32 buf 17) sizes)).fill 13 [0, 0]) rsplen 13
      (16 + sizes) false

def PQTuneCore.endReadCfg : Except HandlerFault HandlerOut := sendValue buf rsp rsplen 0 false

def PQTuneCore.startWriteCfg : Except HandlerFault (PQTuneCore × HandlerOut) :=
  (sendValue buf rsp rsplen (if le32 buf 13 = c.tuneSizes then 0 else 1) false).map
    fun o => ({ c with offset := 0 }, o)

/-- The copy of a length field below 12 runs over the whole memory. -/
def PQTuneCore.midstWriteCfg : Except HandlerFault (PQTuneCore × HandlerOut) :=
  if le16 buf 5 < 12 then .error .noReturn
  else
    let sizes := le16 buf 5 - 12
    let c := { c with
      ctx := c.ctx.fill c.offset (buf.load 13 sizes), offset := (c.offset + sizes) % 2 ^ 32 }
    (sendValue buf rsp rsplen 0 false).map fun o => (c, o)

def PQTuneCore.endWriteCfg : Except HandlerFault (PQTuneCore × HandlerOut) :=
  if c.offset = c.tuneSizes then
    match PQTuneCore.parseAll dev .updateXml allParsers c with
    | .error e => .error e
    | .ok (c, failed) => (sendValue buf rsp rsplen 0 failed).map fun o => (c, o)
  else (sendValue buf rsp rsplen 1 false).map fun o => (c, o)

/-- `parse_pq_module_type`, and the module meant. -/
def pqModule (cmd : Nat) : Option PQModule :=
  [PQModule.version, .gamma, .bld, .cms, .abc, .hsv][cmd]?

/-- `tune_rd_tuning_reg` and `tune_rd_tuning_xml`. -/
def PQTuneCore.rdTuning (f : ParserFn) : Except HandlerFault (PQTuneCore × HandlerOut) :=
  match pqModule (le16 buf 13) with
  | none | some .version => (sendReply buf rsp rsplen 15 16 false).map fun o => (c, o)
  | some m =>
    match c.parse dev f m with
    | .error e => .error e
    | .ok (c, failed) =>
      let data := c.ctx.load (c.moduleOffset m) (c.size m)
      (sendReply buf (rsp.fill 15 data) rsplen 15 (16 + c.size m) failed).map fun o => (c, o)

/-- `tune_wr_tuning_reg` and `tune_wr_tuning_xml`. -/
def PQTuneCore.wrTuning (f : ParserFn) : Except HandlerFault (PQTuneCore × HandlerOut) :=
  match pqModule (le16 buf 13) with
  | none => (sendValue buf rsp rsplen 1 false).map fun o => (c, o)
  | some .version => (sendValue buf rsp rsplen 0 false).map fun o => (c, o)
  | some m =>
    let c := { c with ctx := c.ctx.fill (c.moduleOffset m) (buf.load 15 (c.size m)) }
    match c.parse dev f m with
    | .error e => .error e
    | .ok (c, failed) => (sendValue buf rsp rsplen 0 failed).map fun o => (c, o)

def PQTuneCore.rdAmbient : Except HandlerFault HandlerOut :=
  match dev.openAll [.sensorLight] with
  | some e => .ok ⟨e.val, rsp, true⟩
  | none =>
    match dev.readFile .sensorLight 256 with
    | none => .ok ⟨-1, rsp, true⟩
    | some text =>
      sendValue buf rsp rsplen (strtol longBits 10 (text.takeWhile (· ≠ 0)) % 2 ^ 32).toNat false

end Commands

/-- The commands, in the order of their numbers `CMD_PQ_CONNECT` to `CMD_PQ_RD_AMBIENT`. -/
inductive PQCommand
  | connect | rgbPattern | readRegs | writeRegs | startReadCfg | midstReadCfg | endReadCfg
  | startWriteCfg | midstWriteCfg | endWriteCfg | rdTuningReg | wrTuningReg | rdTuningXml
  | wrTuningXml | rdAmbient
  deriving DecidableEq, Repr

def PQTuneCore.run (c : PQTuneCore) (dev : Device) (buf rsp : Buffer UInt8) (rsplen : Nat) :
    PQCommand → Except HandlerFault (PQTuneCore × HandlerOut)
  | .connect => c.connect dev buf rsp rsplen
  | .rgbPattern => (PQTuneCore.rgbPattern dev buf rsp rsplen).map fun o => (c, o)
  | .readRegs => (PQTuneCore.readRegs dev buf rsp rsplen).map fun o => (c, o)
  | .writeRegs => (PQTuneCore.writeRegs dev buf rsp rsplen).map fun o => (c, o)
  | .startReadCfg => c.startReadCfg dev buf rsp rsplen
  | .midstReadCfg => (c.midstReadCfg buf rsp rsplen).map fun o => (c, o)
  | .endReadCfg => (PQTuneCore.endReadCfg buf rsp rsplen).map fun o => (c, o)
  | .startWriteCfg => c.startWriteCfg buf rsp rsplen
  | .midstWriteCfg => c.midstWriteCfg buf rsp rsplen
  | .endWriteCfg => c.endWriteCfg dev buf rsp rsplen
  | .rdTuningReg => c.rdTuning dev buf rsp rsplen .parseReg
  | .wrTuningReg => c.wrTuning dev buf rsp rsplen .updateReg
  | .rdTuningXml => c.rdTuning dev buf rsp rsplen .parseXml
  | .wrTuningXml => c.wrTuning dev buf rsp rsplen .updateXml
  | .rdAmbient => (PQTuneCore.rdAmbient dev buf rsp rsplen).map fun o => (c, o)

/-- The `pq_cmd` functions: without a core they return 0. -/
def pqCmd (tuneCore : Option PQTuneCore) (cmd : PQCommand) (dev : Device) (buf rsp : Buffer UInt8)
    (rsplen : Nat) : Except HandlerFault (Option PQTuneCore × HandlerOut) :=
  match tuneCore with
  | none => .ok (none, ⟨0, rsp, false⟩)
  | some c => (c.run dev buf rsp rsplen cmd).map fun r => (some r.1, r.2)

/-- `ap_deep_sleep_handler`: the thread starts, and the response is never written. -/
def apDeepSleepHandler (dev : Device) (rsp : Buffer UInt8) : HandlerOut :=
  match dev.opened .wakeupCount with
  | some _ => ⟨-1, rsp, true⟩
  | none => if dev.pthreadCreate then ⟨2, rsp, false⟩ else ⟨-1, rsp, false⟩

end EngPc
