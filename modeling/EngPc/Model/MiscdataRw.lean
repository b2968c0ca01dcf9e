import EngPc.Model.BtWifiMac
import EngPc.Model.ModuleMgr

/-!
# The registration of libmiscdata

`register_this_module_ext` of modules/libmiscdata/miscdata_rw.c. The functions of the library are
names among those of all modules, given by `ι`.
-/

namespace EngPc

inductive MiscdataFunc
  | miscdataHandler | miscdataOffsetHandler | btWifiMacHandler | phasecheckHandler
  | btWifiMacMatch | phasecheckMatch | getFwPtr
  deriving DecidableEq, Repr

def btWifiMacMatch (buff : Buffer UInt8) : Int := if buff 7 = 0x5e then 0 else -1

def phasecheckMatch (buff : Buffer UInt8) : Int := if buff 7 = 0x5f then 0 else -1

variable {φ : Type} (ι : MiscdataFunc → φ)

/-- An entry as `eng_modules_load` prepares it, with its type and its diag function. -/
def miscdataEntry (type subtype : UInt8) (diag : MiscdataFunc) : EngCallback φ where
  diagApCmd := 0xffffffff
  type := type
  subtype := subtype
  atCmd := []
  alsoNeedToCp := false
  engDiagFunc := some (ι diag)
  engLinuxcmdFunc := none
  engSetWriteinterfaceFunc := none
  engCmdMatch := none

def productCtrlEntries : List (EngCallback φ) :=
  [miscdataEntry ι 0x0d 0x02 .miscdataHandler, miscdataEntry ι 0x0d 0x03 .miscdataHandler,
    miscdataEntry ι 0x0d 0x04 .miscdataHandler, miscdataEntry ι 0x0d 0x12 .miscdataOffsetHandler,
    miscdataEntry ι 0x0d 0x13 .miscdataOffsetHandler,
    miscdataEntry ι 0x0d 0x14 .miscdataOffsetHandler]

def btWifiMacEntry : EngCallback φ :=
  { miscdataEntry ι 0x5e 0xff .btWifiMacHandler with
    alsoNeedToCp := true
    engCmdMatch := some (ι .btWifiMacMatch)
    engSetWriteinterfaceFunc := some (ι .getFwPtr) }

def phasecheckEntry : EngCallback φ :=
  { miscdataEntry ι 0x5f 0xff .phasecheckHandler with
    engCmdMatch := some (ι .phasecheckMatch) }

def registerThisModuleExt : List (EngCallback φ) :=
  productCtrlEntries ι ++ [btWifiMacEntry ι, phasecheckEntry ι]

/-- The functions of the library do what they do; `btWifiMacHandler` meets these files, and its
buffer is that of the channel. -/
structure MiscdataLinked (F : Funcs φ) (io : MacIo) (file : Option RandMacFile) (seed : MacSeed)
    (f : MacFiles) : Prop where
  btMatch : ∀ buf len, F.cmdMatch (ι .btWifiMacMatch) buf len = btWifiMacMatch buf
  phsMatch : ∀ buf len, F.cmdMatch (ι .phasecheckMatch) buf len = phasecheckMatch buf
  btDiag : ∀ buf len rsp rsplen r,
    btWifiMacHandler io file seed f ⟨buf, maxChnlBuff⟩ rsp = .ok r →
      F.diag (ι .btWifiMacHandler) buf len rsp rsplen = .ret r.ret r.buf r.rsp

end EngPc
