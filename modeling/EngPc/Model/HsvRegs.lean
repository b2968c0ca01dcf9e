import EngPc.Model.PQTune

/-!
# The 3D table of the R4p0 display

`parse_reg` and `update_reg` of `HsvParser`. The driver keeps the block that is written to `DpuLut3d`
and gives it to a read; between the file and `ctx` stands `lut3d_l5pro` with its 729 words.
-/

namespace EngPc

/-- `lut_3d` -/
structure Lut3d where
  r : Vector UInt16 729
  g : Vector UInt16 729
  b : Vector UInt16 729
  deriving DecidableEq, Repr

/-- `hsv->version.enable` and `hsv->lut3d[0]`. -/
structure HsvLut where
  enable : UInt32
  lut3d : Lut3d
  deriving DecidableEq, Repr

/-- `lut3d_cfg` -/
abbrev Lut3dCfg := Vector UInt32 729

/-- The block of the driver, and `lut3d_l5pro`. -/
structure HsvRegs where
  store : Lut3dCfg
  lut3dL5pro : Lut3dCfg
  deriving DecidableEq, Repr

/-- What `update_reg` returns, the word that it writes to `PQDisable`, and what it leaves. -/
structure HsvUpdated where
  ret : Int
  disable : Option UInt32
  regs : HsvRegs
  deriving DecidableEq, Repr

def lut3dEn : UInt32 := (1 : UInt32) <<< (9 : UInt32)

/-- The three fields of a word, each in its place. -/
def fieldR (r : UInt16) : UInt32 := (r.toUInt32 &&& 0x3ff) <<< (20 : UInt32)

def fieldG (g : UInt16) : UInt32 := (g.toUInt32 &&& 0x3ff) <<< (10 : UInt32)

def fieldB (b : UInt16) : UInt32 := b.toUInt32 &&& 0x3ff

/-- The three assignments to a word that was cleared. -/
def Lut3d.word (t : Lut3d) (cnt : Fin 729) : UInt32 :=
  0 ||| fieldR (t.r.get cnt) ||| fieldG (t.g.get cnt) ||| fieldB (t.b.get cnt)

def Lut3d.ofWords (value : Lut3dCfg) : Lut3d where
  r := value.map fun v : UInt32 => ((v >>> (20 : UInt32)) &&& 0x3ff).toUInt16
  g := value.map fun v : UInt32 => ((v >>> (10 : UInt32)) &&& 0x3ff).toUInt16
  b := value.map fun v : UInt32 => (v &&& 0x3ff).toUInt16

section Parser

variable (opened : Option Errno) (s : HsvRegs)

/-- `opened` is the error where the file cannot be opened. -/
def hsvParseReg (hsv : HsvLut) : Int × HsvLut × HsvRegs :=
  match opened with
  | some errno => (errno.val, hsv, s)
  | none => (0, { hsv with lut3d := .ofWords s.store }, { s with lut3dL5pro := s.store })

def hsvUpdateReg (hsv : HsvLut) : HsvUpdated :=
  match opened with
  | some errno => ⟨errno.val, none, s⟩
  | none =>
    if hsv.enable ≠ 0 then
      let value : Lut3dCfg := .ofFn hsv.lut3d.word
      ⟨0, none, ⟨value, value⟩⟩
    else ⟨0, some lut3dEn, s⟩

end Parser

end EngPc
