import EngPc.Proofs.BtWifiStore

/-!
# Failures while the addresses are written

`write_mac2file` truncates and writes one file after the other, and returns what the last of its
calls said. So a result above zero says nothing about the WiFi file, and after a failure both files
may have lost what they held.
-/

namespace EngPc
open Buffer CString

/-- A text of the caller, in a buffer of 32 bytes. -/
structure MacArg where
  text : List UInt8
  clean : 0 ∉ text
  short : text.length ≤ 31

/-- What can be read of an address afterwards. -/
def macRead (f : MacFiles) (type : MacType) : Option (List UInt8) :=
  let r := engBtwifimacRead f macZero type
  if r.1 = 0 then some (macString r.2) else none

lemma macRead_file {f : MacFiles} {type : MacType} {text : List UInt8}
    (h : f.current type = some text) (hclean : 0 ∉ text) (hshort : text.length ≤ 31) :
    macRead f type = if text = [] then none else some text := by
  rw [macRead, engBtwifimacRead, h]
  dsimp only
  split
  · rfl
  · rw [List.take_of_length_le hshort, if_pos rfl, macString_fill rfl hclean (by omega)]

lemma zero_notMem_cstr (b : Buffer UInt8) (off n : Nat) : 0 ∉ cstr b off n := by
  induction n generalizing off with
  | zero => exact List.not_mem_nil
  | succ n ih =>
    rw [cstr]
    split
    · exact List.not_mem_nil
    · rename_i hne
      rw [List.mem_cons, not_or]
      exact ⟨Ne.symm hne, ih (off + 1)⟩

lemma length_cstr_le {b : Buffer UInt8} {k : Nat} (off n : Nat) (h : b (off + k) = 0) :
    (cstr b off n).length ≤ k := by
  induction n generalizing off k with
  | zero => exact Nat.zero_le k
  | succ n ih =>
    rw [cstr]
    split
    · exact Nat.zero_le k
    · rename_i hne
      cases k with
      | zero => exact absurd h hne
      | succ k =>
        rw [List.length_cons]
        apply Nat.succ_le_succ
        apply ih
        rwa [show off + 1 + k = off + (k + 1) by omega]

/-- The text that fills in for a missing address is as good as one of the caller. -/
lemma macFill_arg (f : MacFiles) {rand : List UInt8} (hrand : rand.length = 17) (type : MacType) :
    0 ∉ macFill f rand type ∧ (macFill f rand type).length ≤ 31 := by
  refine ⟨zero_notMem_cstr _ _ _, ?_⟩
  apply length_cstr_le
  have hbase : Buffer.fill macZero 0 rand (0 + 31) = 0 := by
    rw [fill_outside _ (by omega)]
    rfl
  rw [engBtwifimacRead]
  split
  · exact hbase
  · split
    · exact hbase
    · rename_i text _ _
      have hlen := List.length_take_le 31 text
      have hout : Buffer.fill (Buffer.fill macZero 0 rand) 0 (text.take 31) (0 + 31) =
          Buffer.fill macZero 0 rand (0 + 31) := fill_outside _ (by omega)
      exact hout.trans hbase

section Write

variable (io : MacIo) (file : Option RandMacFile) (seed : MacSeed) (f : MacFiles)
  (btMac wifiMac : Option MacArg)

def macArgs : List UInt8 × List UInt8 :=
  macTexts file seed f (btMac.map MacArg.text) (wifiMac.map MacArg.text)

lemma macArgs_wifi :
    0 ∉ (macArgs file seed f btMac wifiMac).1 ∧
      (macArgs file seed f btMac wifiMac).1.length ≤ 31 := by
  cases wifiMac with
  | none => exact macFill_arg f (length_macRand file seed).2 .wifi
  | some arg => exact ⟨arg.clean, arg.short⟩

lemma macArgs_bt :
    0 ∉ (macArgs file seed f btMac wifiMac).2 ∧
      (macArgs file seed f btMac wifiMac).2.length ≤ 31 := by
  cases btMac with
  | none => exact macFill_arg f (length_macRand file seed).1 .bt
  | some arg => exact ⟨arg.clean, arg.short⟩

lemma put_sublist (w : MacWrite) (text : List UInt8) : (w.put text).Sublist text := by
  cases w with
  | fail => exact List.nil_sublist text
  | short n => exact List.take_sublist n text
  | full => exact List.Sublist.refl text

lemma ret_pos_iff (w : MacWrite) (text : List UInt8) : 0 < w.ret text ↔ w.put text ≠ [] := by
  rw [← List.length_pos_iff]
  cases w with
  | fail => exact iff_of_false (show ¬(0 : Int) < -1 by decide) (Nat.lt_irrefl 0)
  | short n => exact Int.natCast_pos
  | full => exact Int.natCast_pos

lemma macRead_put {f : MacFiles} {type : MacType} {w : MacWrite} {text : List UInt8}
    (h : f.current type = some (w.put text)) (hclean : 0 ∉ text) (hshort : text.length ≤ 31) :
    macRead f type = if w.put text = [] then none else some (w.put text) := by
  have hsub := put_sublist w text
  exact macRead_file h (fun hmem => hclean (hsub.subset hmem)) (le_trans hsub.length_le hshort)

/-- All or nothing: a result above zero, with which the properties are set, says that both addresses
are read back as written; after any other one, what could be read before can still be read. -/
structure AllOrNothing (w : MacWritten) (f : MacFiles) (t : List UInt8 × List UInt8) : Prop where
  both : 0 < w.ret ∨ w.props ≠ none →
    macRead w.files .wifi = some t.1 ∧ macRead w.files .bt = some t.2
  kept : w.ret ≤ 0 → ∀ type text, macRead f type = some text → macRead w.files type = some text

/-- When it is so. Either the WiFi file is not opened; or the BT file is, a part of the BT text
arrives in it, and then all of both texts does; or the BT write fails, what arrives in the WiFi file
is what was read from it before, and the BT file, if it was opened, could not be read before. -/
structure MacIoSafe (io : MacIo) (f : MacFiles) (t : List UInt8 × List UInt8) : Prop where
  success : io.openWifi = true → io.openBt = true → io.writeBt.put t.2 ≠ [] →
    t.1 ≠ [] ∧ io.writeWifi.put t.1 = t.1 ∧ io.writeBt.put t.2 = t.2
  wifi : io.openWifi = true → (io.openBt = true → io.writeBt.put t.2 = []) →
    ∀ text, macRead f .wifi = some text → text ≠ [] ∧ io.writeWifi.put t.1 = text
  bt : io.openWifi = true → io.openBt = true → io.writeBt.put t.2 = [] → macRead f .bt = none

section Exact

variable {io : MacIo} {f : MacFiles} {t : List UInt8 × List UInt8}

lemma writeMac2file_no_wifi (h : io.openWifi = false) : writeMac2file io f t.1 t.2 = (-1, f) :=
  if_pos h

lemma writeMac2file_no_bt (h : ¬io.openWifi = false) (hbt : io.openBt = false) :
    writeMac2file io f t.1 t.2 = (-1, { f with wifi := some (io.writeWifi.put t.1) }) := by
  rw [writeMac2file, if_neg h, if_pos hbt]

lemma writeMac2file_both (h : ¬io.openWifi = false) (hbt : ¬io.openBt = false) :
    ∃ f', writeMac2file io f t.1 t.2 = (io.writeBt.ret t.2, f') ∧
      f'.current .wifi = some (io.writeWifi.put t.1) ∧
      f'.current .bt = some (io.writeBt.put t.2) := by
  rw [writeMac2file, if_neg h, if_neg hbt]
  exact ⟨_, rfl, rfl, rfl⟩

/-- Of what was read from a file, this is left when `put` is all it holds now. -/
lemma kept_iff {old : Option (List UInt8)} {put : List UInt8} :
    (∀ text, old = some text → (if put = [] then none else some put) = some text) ↔
      ∀ text, old = some text → text ≠ [] ∧ put = text := by
  apply forall₂_congr
  intro text _
  split
  · rename_i hput
    rw [hput]
    exact iff_of_false (Option.some_ne_none text).symm fun h => h.1 h.2.symm
  · rename_i hput
    rw [Option.some.injEq]
    constructor
    · rintro rfl
      exact ⟨hput, rfl⟩
    · exact fun h => h.2

/-- The end of `eng_btwifimac_write`: the properties are set with a result above zero. -/
def macWrittenOf (t : List UInt8 × List UInt8) (r : Int × MacFiles) : MacWritten :=
  ⟨r.1, r.2, if 0 < r.1 then some t else none⟩

lemma allOrNothing_iff (r : Int × MacFiles) :
    AllOrNothing (macWrittenOf t r) f t ↔
      (0 < r.1 → macRead r.2 .wifi = some t.1 ∧ macRead r.2 .bt = some t.2) ∧
      (r.1 ≤ 0 → ∀ type text, macRead f type = some text → macRead r.2 type = some text) := by
  constructor
  · exact fun h => ⟨fun hret => h.both (.inl hret), h.kept⟩
  · rintro ⟨hboth, hkept⟩
    refine ⟨?_, hkept⟩
    rintro (hret | hprops)
    · exact hboth hret
    · exact hboth (not_not.mp fun hret => hprops (if_neg hret))

lemma safe_no_bt_iff (hw : io.openWifi = true) (hb : io.openBt = false) (hclean : 0 ∉ t.1)
    (hshort : t.1.length ≤ 31) :
    (∀ type text, macRead f type = some text →
      macRead { f with wifi := some (io.writeWifi.put t.1) } type = some text) ↔
      MacIoSafe io f t := by
  have hno : ¬io.openBt = true := by rw [hb]; decide
  have hwifi : macRead { f with wifi := some (io.writeWifi.put t.1) } .wifi =
      if io.writeWifi.put t.1 = [] then none else some (io.writeWifi.put t.1) :=
    macRead_put rfl hclean hshort
  constructor
  · intro h
    have hkept := h .wifi
    rw [hwifi, kept_iff] at hkept
    exact ⟨fun _ h => absurd h hno, fun _ _ => hkept, fun _ h => absurd h hno⟩
  · intro h type
    cases type with
    | bt => exact fun _ htext => htext
    | wifi =>
      rw [hwifi, kept_iff]
      exact h.wifi hw fun h => absurd h hno

/-- Both files are opened: the result is that of the write of the BT text. -/
lemma safe_both_iff (hw : io.openWifi = true) (hb : io.openBt = true) (hclean : 0 ∉ t.1)
    (hshort : t.1.length ≤ 31) (hcleanB : 0 ∉ t.2) (hshortB : t.2.length ≤ 31) {f' : MacFiles}
    (hwifi : f'.current .wifi = some (io.writeWifi.put t.1))
    (hbt : f'.current .bt = some (io.writeBt.put t.2)) :
    ((0 < io.writeBt.ret t.2 → macRead f' .wifi = some t.1 ∧ macRead f' .bt = some t.2) ∧
      (io.writeBt.ret t.2 ≤ 0 →
        ∀ type text, macRead f type = some text → macRead f' type = some text)) ↔
      MacIoSafe io f t := by
  have hreadW := macRead_put hwifi hclean hshort
  have hreadB := macRead_put hbt hcleanB hshortB
  have hret := ret_pos_iff io.writeBt t.2
  by_cases hput : io.writeBt.put t.2 = []
  · have hnot : ¬0 < io.writeBt.ret t.2 := fun h => hret.mp h hput
    rw [if_pos hput] at hreadB
    constructor
    · rintro ⟨-, hkept⟩
      have hkeptW := hkept (not_lt.mp hnot) .wifi
      have hkeptB := hkept (not_lt.mp hnot) .bt
      rw [hreadW, kept_iff] at hkeptW
      rw [hreadB] at hkeptB
      refine ⟨fun _ _ h => absurd hput h, fun _ _ => hkeptW, fun _ _ _ => ?_⟩
      exact Option.eq_none_iff_forall_ne_some.mpr fun text h => by cases hkeptB text h
    · intro h
      refine ⟨fun hpos => absurd hpos hnot, fun _ type => ?_⟩
      cases type with
      | bt =>
        intro text htext
        rw [h.bt hw hb hput] at htext
        cases htext
      | wifi =>
        rw [hreadW, kept_iff]
        exact h.wifi hw fun _ => hput
  · have hpos := hret.mpr hput
    rw [if_neg hput] at hreadB
    rw [hreadW, hreadB]
    constructor
    · rintro ⟨hboth, -⟩
      obtain ⟨hreadW', hreadB'⟩ := hboth hpos
      refine ⟨fun _ _ _ => ?_, fun _ h => absurd (h hb) hput, fun _ _ h => absurd h hput⟩
      by_cases hputW : io.writeWifi.put t.1 = []
      · rw [if_pos hputW] at hreadW'
        cases hreadW'
      · rw [if_neg hputW, Option.some.injEq] at hreadW'
        exact ⟨hreadW' ▸ hputW, hreadW', Option.some.inj hreadB'⟩
    · intro h
      obtain ⟨hne, hwhole, hwholeB⟩ := h.success hw hb hput
      rw [hwhole, hwholeB, if_neg hne]
      exact ⟨fun _ => ⟨rfl, rfl⟩, fun hle => absurd hpos (not_lt.mpr hle)⟩

end Exact

/-- The exact condition for one write. -/
theorem mac_write_all_or_nothing_iff :
    AllOrNothing (engBtwifimacWrite io file seed f (btMac.map MacArg.text)
        (wifiMac.map MacArg.text)) f (macArgs file seed f btMac wifiMac) ↔
      MacIoSafe io f (macArgs file seed f btMac wifiMac) := by
  obtain ⟨hcleanW, hshortW⟩ := macArgs_wifi file seed f btMac wifiMac
  obtain ⟨hcleanB, hshortB⟩ := macArgs_bt file seed f btMac wifiMac
  have hwrite : engBtwifimacWrite io file seed f (btMac.map MacArg.text) (wifiMac.map MacArg.text) =
      macWrittenOf (macArgs file seed f btMac wifiMac)
        (writeMac2file io f (macArgs file seed f btMac wifiMac).1
          (macArgs file seed f btMac wifiMac).2) := rfl
  have hneg : ¬(0 : Int) < -1 := by decide
  have hle : (-1 : Int) ≤ 0 := by decide
  rw [hwrite, allOrNothing_iff]
  generalize macArgs file seed f btMac wifiMac = t at *
  by_cases hw : io.openWifi = false
  · have hno : ¬io.openWifi = true := by rw [hw]; decide
    rw [writeMac2file_no_wifi hw]
    exact iff_of_true ⟨fun h => absurd h hneg, fun _ _ _ h => h⟩
      ⟨fun h => absurd h hno, fun h => absurd h hno, fun h => absurd h hno⟩
  · have hw' : io.openWifi = true := by simpa using hw
    by_cases hb : io.openBt = false
    · rw [writeMac2file_no_bt hw hb, ← safe_no_bt_iff hw' hb hcleanW hshortW]
      exact ⟨fun h => h.2 hle, fun h => ⟨fun hpos => absurd hpos hneg, fun _ => h⟩⟩
    · have hb' : io.openBt = true := by simpa using hb
      obtain ⟨f', hboth, hwifi, hbt⟩ := writeMac2file_both (t := t) (f := f) hw hb
      rw [hboth]
      exact safe_both_iff hw' hb' hcleanW hshortW hcleanB hshortB hwifi hbt

end Write

def noBtFile : MacIo := { MacIo.fine with openBt := false }

def macStored : MacFiles :=
  ⟨some (macText [2, 4, 6, 8, 10, 12]), none, some (macText [1, 3, 5, 7, 9, 11]), none⟩

def macNew : MacArg := ⟨macText [0, 0, 0, 0, 0, 1], by decide, by decide⟩

def macNoSeed : MacSeed := ⟨[0, 0, 0, 0, 0], [0, 0, 0, 0, 0], rfl, rfl⟩

/-- The write is reported as failed, and the stored WiFi address is gone. -/
theorem mac_write_lost :
    ¬AllOrNothing (engBtwifimacWrite noBtFile none macNoSeed macStored (some macNew.text)
        (some macNew.text)) macStored
      (macArgs none macNoSeed macStored (some macNew) (some macNew)) := by
  intro h
  have hsafe := (mac_write_all_or_nothing_iff noBtFile none macNoSeed macStored (some macNew)
    (some macNew)).mp h
  have hkept := hsafe.wifi rfl (fun h => absurd h (by decide)) (macText [2, 4, 6, 8, 10, 12])
    (by decide)
  exact absurd hkept.2 (by decide)

end EngPc
