import EngPc.Lib.Block
import EngPc.Model.PQTune

/-!
# The loops of `parse_panelsize`

`MultTimes` and `parse_panelsize` of modules/PQTune/PQCores/PQTuneCore.cpp with their counters of eight
bits, where PQTune.lean has only what becomes of them: a loop may go on for ever or read outside of
the data.
-/

namespace EngPc

/-- More rounds than there is fuel, or an access outside of the data. -/
inductive PanelFault
  | fuel
  | outside (access : OutOfBounds)
  deriving DecidableEq, Repr

/-- `MultTimes`, in 32 bits. -/
def multTimes (base : UInt32) : (n : Nat) → UInt32
  | 0 => 1
  | n + 1 => multTimes base n * base

/-- `data[i]` -/
def panelByte (data : Block UInt8) (i : Nat) : Except PanelFault UInt8 :=
  (data.get i).mapError .outside

/-- `for (j = 0; j < bound; j++) pixel += (data[off+j] - 48) * MultTimes(10, top-j);` from `j` on. -/
def digitLoop (data : Block UInt8) (off : Nat) (bound top : Int) :
    (fuel : Nat) → (j : UInt8) → (pixel : UInt32) → Except PanelFault UInt32
  | 0, _, _ => .error .fuel
  | fuel + 1, j, pixel =>
    if (j.toNat : Int) < bound then do
      let c ← panelByte data (off + j.toNat)
      let times := multTimes 10 (top - j.toNat).toNat
      digitLoop data off bound top fuel (j + 1) (pixel + (c.toUInt32 - 48) * times)
    else .ok pixel

/-- The body of the loop in `parse_panelsize`: what it leaves in `next`, `HPixel` and `VPixel`. The two
tests of `data[i]` exclude each other. -/
def panelRound (data : Block UInt8) (fuel : Nat) (i next : UInt8) (hPixel vPixel : UInt32) :
    Except PanelFault (UInt8 × UInt32 × UInt32) := do
  let c ← panelByte data i.toNat
  if c = 0x78 then
    let hPixel ← digitLoop data 0 (i.toNat - 1) (i.toNat - 1) fuel 0 hPixel
    return (i + 1, hPixel, vPixel)
  else if c = 0x0a then
    let last := i - 1
    let vPixel ← digitLoop data next.toNat (last.toNat - next.toNat + 1) (last.toNat - next.toNat)
      fuel 0 vPixel
    return (next, hPixel, vPixel)
  else return (next, hPixel, vPixel)

/-- The loop from `i` on. -/
def panelRun (data : Block UInt8) (count : Nat) :
    (fuel : Nat) → (i next : UInt8) → (hPixel vPixel : UInt32) → Except PanelFault (UInt32 × UInt32)
  | 0, _, _, _, _ => .error .fuel
  | fuel + 1, i, next, hPixel, vPixel =>
    if i.toNat < count then do
      let (next, hPixel, vPixel) ← panelRound data fuel i next hPixel vPixel
      panelRun data count fuel (i + 1) next hPixel vPixel
    else .ok (hPixel, vPixel)

/-- With enough fuel `parse_panelsize` comes to its end and leaves this `HPixel` and `VPixel`. -/
def PanelEnds (data : Block UInt8) (count : Nat) (pixels : UInt32 × UInt32) : Prop :=
  ∃ enough, ∀ fuel, enough ≤ fuel → panelRun data count fuel 0 0 0 0 = .ok pixels

end EngPc
