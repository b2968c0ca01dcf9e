import EngPc.Lib.Lookup
import EngPc.Model.ChnlLookup
import Mathlib.Data.List.Flatten

/-!
# Lookups by name

A device and a channel are found by their whole name. A port is found by any longer name too, and a
row by any name but its own.
-/

namespace EngPc
open CString Lookup

variable {π : Type}

/-- What is found is the first entry with the name, and one is found whenever there is one. -/
def FindsFirst {α β : Type} (p : α → Prop) (l : List α) (out : Nat → α → β) (found : Option β) :
    Prop :=
  ∀ b, found = some b ↔ ∃ i a, IsFirst p l i ∧ l[i]? = some a ∧ out i a = b

lemma findsFirst_iff {α β : Type} {p : α → Prop} [DecidablePred p] {l : List α} {f : α → β}
    {found : Option β} : FindsFirst p l (fun _ a => f a) found ↔
      found = (l.find? fun a => decide (p a)).map f := by
  have hfind : ∀ b, (l.find? fun a => decide (p a)).map f = some b ↔
      ∃ i a, IsFirst p l i ∧ l[i]? = some a ∧ f a = b := by
    intro b
    rw [Option.map_eq_some_iff]
    simp only [find?_eq_some_iff]
    constructor
    · rintro ⟨a, ⟨i, hi, ha⟩, hfa⟩
      exact ⟨i, a, hi, ha, hfa⟩
    · rintro ⟨i, a, hi, ha, hfa⟩
      exact ⟨a, ⟨i, hi, ha⟩, hfa⟩
  rw [FindsFirst]
  simp only [← hfind]
  exact Option.ext_iff.symm

/-- The ports that `CDev::find` goes through. -/
def CDev.entries (dev : CDev π) : List (List UInt8 × π) :=
  (dev.bmDevList.filter fun bm => strcaseeq bm.bootmode dev.curMode).flatMap BMDev.portList

lemma CDev.find_eq (dev : CDev π) (name : List UInt8) :
    dev.find name = (dev.entries.find? fun port => portFind name port.1).map Prod.snd := by
  unfold CDev.find CDev.entries
  induction dev.bmDevList with
  | nil => rfl
  | cons bm bms ih =>
    rw [List.findSome?_cons, ih]
    by_cases hmode : strcaseeq bm.bootmode dev.curMode
    · rw [if_pos hmode, List.filter_cons, if_pos (decide_eq_true hmode), List.flatMap_cons,
        List.find?_append]
      cases bm.portList.find? fun port => portFind name port.1 with
      | none => rfl
      | some port => rfl
    · rw [if_neg hmode, List.filter_cons, if_neg (by simpa using hmode)]

lemma LoadedDev.nodup_entries (dev : LoadedDev π) : (dev.entries.map Prod.snd).Nodup := by
  have hsub : dev.entries.Sublist (dev.bmDevList.flatMap BMDev.portList) :=
    List.filter_sublist.flatMap BMDev.portList
  exact dev.distinct.sublist (hsub.map Prod.snd)

lemma portFind_of_strcaseeq {name portName : List UInt8} (h : strcaseeq portName name) :
    portFind name portName := by
  have hlen : portName.length = name.length := by
    simpa using congrArg List.length h
  rw [portFind, hlen, List.take_length]
  exact h.symm

/-- Every port of the boot mode whose name is the beginning of `name`, and not all of it, stands
behind one with the whole name. -/
def CDev.PrefixesBehind (dev : CDev π) (name : List UInt8) : Prop :=
  Behind (fun port => strcaseeq port.1 name) (fun port => portFind name port.1) dev.entries

lemma findsFirst_port_iff (dev : LoadedDev π) (name : List UInt8) :
    FindsFirst (fun port => strcaseeq port.1 name) dev.entries (fun _ port => port.2)
      (dev.find name) ↔ dev.PrefixesBehind name := by
  rw [findsFirst_iff, CDev.find_eq, map_find?_eq_iff dev.nodup_entries, eq_comm,
    find?_eq_find?_iff fun port h => portFind_of_strcaseeq h]
  rfl

def ChnlProp.Named (name : List UInt8) (item : ChnlProp) : Prop := strcaseeq item.name name

instance (name : List UInt8) : DecidablePred (ChnlProp.Named name) :=
  fun _ => inferInstanceAs (Decidable (strcaseeq _ _))

lemma ChnlProp.setEnable_self {item : ChnlProp} {enable : Bool} (h : item.enable = enable.toInt) :
    item.setEnable enable = item := by
  rw [ChnlProp.setEnable, ← h]

lemma CChnl.find_eq_some_iff {chnl : CChnl} {name : List UInt8} {i : Nat} :
    chnl.find name = some i ↔ IsFirst (fun item => ¬ChnlProp.Named name item) chnl.chnlList i :=
  findIdx?_eq_some_iff

lemma findsFirst_row_iff (chnl : CChnl) (name : List UInt8) :
    FindsFirst (ChnlProp.Named name) chnl.chnlList (fun i _ => i) (chnl.find name) ↔
      chnl.chnlList = [] := by
  constructor
  · intro h
    cases hl : chnl.chnlList with
    | nil => rfl
    | cons item items =>
      exfalso
      by_cases hitem : ChnlProp.Named name item
      · have hfound : chnl.find name = some 0 := by
          rw [h, hl]
          exact ⟨0, item, isFirst_cons_zero.mpr hitem, rfl, rfl⟩
        rw [CChnl.find_eq_some_iff, hl, isFirst_cons_zero] at hfound
        exact hfound hitem
      · have hfound : chnl.find name = some 0 := by
          rw [CChnl.find_eq_some_iff, hl]
          exact isFirst_cons_zero.mpr hitem
        rw [h, hl] at hfound
        obtain ⟨i, a, hi, -, rfl⟩ := hfound
        exact hitem (isFirst_cons_zero.mp hi)
  · intro h i
    rw [CChnl.find_eq_some_iff, h]
    constructor
    · exact fun hi => absurd hi not_isFirst_nil
    · rintro ⟨j, a, hj, -, -⟩
      exact absurd hj not_isFirst_nil

/-- What `CChnl::enable` is to do: the first row with the name gets the value. -/
structure EnablesRow (chnl : CChnl) (name : List UInt8) (enable : Bool) (r : Bool × CChnl) :
    Prop where
  found : r.1 = true ↔ ∃ i, IsFirst (ChnlProp.Named name) chnl.chnlList i
  row : ∀ i, IsFirst (ChnlProp.Named name) chnl.chnlList i →
    r.2.chnlList[i]? = chnl.chnlList[i]?.map (·.setEnable enable)
  others : ∀ i, ¬IsFirst (ChnlProp.Named name) chnl.chnlList i →
    r.2.chnlList[i]? = chnl.chnlList[i]?
  enable_eq : r.2.enable = chnl.enable

/-- There are no rows; or there are one with the name and one with another, and the first of each
has the value already. -/
def CChnl.EnableIdle (chnl : CChnl) (name : List UInt8) (enable : Bool) : Prop :=
  chnl.chnlList = [] ∨ ∃ i j item other, IsFirst (ChnlProp.Named name) chnl.chnlList i ∧
    IsFirst (fun item => ¬ChnlProp.Named name item) chnl.chnlList j ∧
    chnl.chnlList[i]? = some item ∧ chnl.chnlList[j]? = some other ∧
    item.enable = enable.toInt ∧ other.enable = enable.toInt

lemma CChnl.enableRow_of_find {chnl : CChnl} {name : List UInt8} {j : Nat} (enable : Bool)
    (h : chnl.find name = some j) : chnl.enableRow name enable =
      (true, { chnl with chnlList := chnl.chnlList.modify j (·.setEnable enable) }) := by
  rw [CChnl.enableRow, h]

lemma CChnl.enableRow_of_none {chnl : CChnl} {name : List UInt8} (enable : Bool)
    (h : chnl.find name = none) : chnl.enableRow name enable = (false, chnl) := by
  rw [CChnl.enableRow, h]

lemma CChnl.find_eq_none {chnl : CChnl} {name : List UInt8} (h : chnl.find name = none)
    {item : ChnlProp} (hitem : item ∈ chnl.chnlList) : ChnlProp.Named name item := by
  by_contra hne
  obtain ⟨j, hj⟩ := exists_isFirst (p := fun item => ¬ChnlProp.Named name item) hitem hne
  rw [CChnl.find_eq_some_iff.mpr hj] at h
  cases h

lemma enablesRow_nil {chnl : CChnl} (name : List UInt8) (enable : Bool)
    (h : chnl.chnlList = []) : EnablesRow chnl name enable (chnl.enableRow name enable) := by
  have hfind : chnl.find name = none := by
    rw [CChnl.find, h]
    rfl
  rw [CChnl.enableRow_of_none enable hfind]
  constructor
  · simp [h, not_isFirst_nil]
  · intro i hi
    rw [h] at hi
    exact absurd hi not_isFirst_nil
  · exact fun i _ => rfl
  · rfl

/-- A row with another name is enabled in the place of the first row with the name. -/
lemma EnablesRow.same {chnl : CChnl} {name : List UInt8} {enable : Bool} {j : Nat}
    (hj : chnl.find name = some j)
    (h : EnablesRow chnl name enable (chnl.enableRow name enable)) :
    chnl.EnableIdle name enable := by
  rw [CChnl.enableRow_of_find enable hj] at h
  have hother := CChnl.find_eq_some_iff.mp hj
  obtain ⟨other, hgetj, hnot⟩ := hother.1
  obtain ⟨i, hi⟩ := h.found.mp rfl
  obtain ⟨item, hgeti, hnamed⟩ := hi.1
  have hne : j ≠ i := by
    rintro rfl
    rw [hgeti] at hgetj
    cases hgetj
    exact hnot hnamed
  have hrow : (chnl.chnlList.modify j (·.setEnable enable))[i]? = _ := h.row i hi
  have hkept : (chnl.chnlList.modify j (·.setEnable enable))[j]? = _ :=
    h.others j fun hj' => hne (hj'.unique hi)
  rw [List.getElem?_modify_ne _ _ hne, hgeti] at hrow
  rw [List.getElem?_modify_eq, hgetj] at hkept
  have hitem := congrArg ChnlProp.enable (Option.some.inj hrow)
  have hitem' := congrArg ChnlProp.enable (Option.some.inj hkept)
  exact .inr ⟨i, j, item, other, hi, hother, hgeti, hgetj, hitem, hitem'.symm⟩

lemma enablesRow_iff (chnl : CChnl) (name : List UInt8) (enable : Bool) :
    EnablesRow chnl name enable (chnl.enableRow name enable) ↔ chnl.EnableIdle name enable := by
  constructor
  · intro h
    cases hfind : chnl.find name with
    | some j => exact h.same hfind
    | none =>
      cases hl : chnl.chnlList with
      | nil => exact .inl hl
      | cons item items =>
        exfalso
        have hnamed := CChnl.find_eq_none hfind (hl ▸ List.mem_cons_self : item ∈ chnl.chnlList)
        have hfound := h.found.mpr ⟨0, by rw [hl, isFirst_cons_zero]; exact hnamed⟩
        rw [CChnl.enableRow_of_none enable hfind] at hfound
        cases hfound
  · rintro (hnil | ⟨i, j, item, other, hi, hj, hgeti, hgetj, hitem, hother⟩)
    · exact enablesRow_nil name enable hnil
    · have hmod : chnl.chnlList.modify j (·.setEnable enable) =
          chnl.chnlList := by
        apply List.ext_getElem?
        intro k
        by_cases hk : j = k
        · subst hk
          rw [List.getElem?_modify_eq, hgetj]
          exact congrArg some (ChnlProp.setEnable_self hother)
        · rw [List.getElem?_modify_ne _ _ hk]
      rw [CChnl.enableRow_of_find enable (CChnl.find_eq_some_iff.mpr hj), hmod]
      constructor
      · exact ⟨fun _ => ⟨i, hi⟩, fun _ => rfl⟩
      · intro k hk
        rw [hk.unique hi, hgeti]
        exact congrArg some (ChnlProp.setEnable_self hitem).symm
      · exact fun k _ => rfl
      · rfl

/-- Devices and channels are found by their names. A port or a row is found rightly exactly under
the given conditions, and a row enabled rightly. -/
theorem lookups_by_name_iff (devs : List (CDev π)) (dev : LoadedDev π) (chnls : List BootChnl)
    (chnl : CChnl) (name : List UInt8) (enable : Bool) :
    FindsFirst (fun dev => strcaseeq dev.devName name) devs (fun _ dev => dev)
        (devFind devs name) ∧
      FindsFirst (fun chnl => strcaseeq chnl.bootMode name) chnls (fun _ chnl => chnl)
        (chnlFind chnls name) ∧
      (FindsFirst (fun port => strcaseeq port.1 name) dev.entries (fun _ port => port.2)
        (dev.find name) ↔ dev.PrefixesBehind name) ∧
      (FindsFirst (ChnlProp.Named name) chnl.chnlList (fun i _ => i) (chnl.find name) ↔
        chnl.chnlList = []) ∧
      (EnablesRow chnl name enable (chnl.enableRow name enable) ↔ chnl.EnableIdle name enable) := by
  refine ⟨?_, ?_, findsFirst_port_iff dev name, findsFirst_row_iff chnl name,
    enablesRow_iff chnl name enable⟩
  · rw [findsFirst_iff (f := fun dev => dev), Option.map_id']
    rfl
  · rw [findsFirst_iff (f := fun chnl => chnl), Option.map_id']
    rfl

/-- A device with two ports, the first of which begins the name of the second. -/
def prefixDev : LoadedDev Nat where
  devName := ofString "cp"
  curMode := ofString "normal"
  bmDevList := [⟨ofString "normal", [(ofString "at", 0), (ofString "at_mux", 1)]⟩]
  distinct := by decide

def atRow : ChnlProp where
  name := ofString "at"
  srcDevName := ofString "pc"
  srcPortName := ofString "at"
  dstDevName := ofString "cp"
  dstPortName := ofString "at_mux"
  act := .F
  dataType := .at
  enable := 1
  apProcess := 0

/-- The second port is never found, and neither is the only row. -/
theorem prefix_of_name_is_found :
    ¬FindsFirst (fun port => strcaseeq port.1 (ofString "at_mux")) prefixDev.entries
        (fun _ port => port.2) (prefixDev.find (ofString "at_mux")) ∧
      ¬FindsFirst (ChnlProp.Named (ofString "at")) [atRow] (fun i _ => i)
        (CChnl.find ⟨true, [atRow]⟩ (ofString "at")) ∧
      ¬EnablesRow ⟨true, [atRow]⟩ (ofString "at") false
        (CChnl.enableRow ⟨true, [atRow]⟩ (ofString "at") false) := by
  refine ⟨?_, ?_, ?_⟩
  · rw [findsFirst_iff]
    decide +kernel
  · rw [findsFirst_row_iff ⟨true, [atRow]⟩]
    exact List.cons_ne_nil _ _
  · intro h
    have hfound := h.found.mpr ⟨0, isFirst_cons_zero.mpr rfl⟩
    revert hfound
    decide +kernel

end EngPc
