import EngPc.Model.PortEnable
import Mathlib.Data.List.Nodup
import Mathlib.Data.List.Pairwise

/-!
# Flags of the ports

Every operation on the flags works on each port by itself: what it makes of the two flags of a port
depends on them, on the operation and on where the port is, not on other ports. So a run of
operations leaves all ports alone that belong to no active mode of a device it names.
-/

namespace EngPc
open CString

variable {π : Type}

lemma CDev.activePorts_subset (dev : CDev π) : dev.activePorts ⊆ dev.allPorts := by
  intro port hport
  obtain ⟨bm, hbm, hmem⟩ := List.mem_flatMap.mp hport
  exact List.mem_flatMap.mpr ⟨bm, (List.mem_filter.mp hbm).1, hmem⟩

lemma CDev.mem_of_find {dev : CDev π} {name : List UInt8} {port : π}
    (h : dev.find name = some port) : port ∈ dev.activePorts := by
  obtain ⟨bm, hbm, hport⟩ := List.exists_of_findSome?_eq_some h
  split at hport
  · obtain ⟨p, hp, rfl⟩ := Option.map_eq_some_iff.mp hport
    apply List.mem_flatMap.mpr
    have hactive : bm ∈ dev.bmDevList.filter fun bm => strcaseeq bm.bootmode dev.curMode :=
      List.mem_filter.mpr ⟨hbm, by simpa⟩
    exact ⟨bm, hactive, List.mem_map_of_mem (List.mem_of_find?_eq_some hp)⟩
  · cases hport

lemma CDevMgr.dev_unique (mgr : CDevMgr π) {dev dev' : CDev π} (hdev : dev ∈ mgr.devList)
    (hdev' : dev' ∈ mgr.devList) {port : π} (hport : port ∈ dev.allPorts)
    (hport' : port ∈ dev'.allPorts) : dev = dev' := by
  by_contra hdiff
  have hpair := (List.nodup_flatMap.mp mgr.ports_nodup).2
  have hsymm : Std.Symm (Function.onFun List.Disjoint (CDev.allPorts (π := π))) :=
    ⟨fun _ _ h _ hx hx' => h hx' hx⟩
  exact hpair.forall hdev hdev' hdiff hport hport'

lemma CDevMgr.mode_unique (mgr : CDevMgr π) {dev : CDev π} (hdev : dev ∈ mgr.devList)
    {bm bm' : BMDev π} (hbm : bm ∈ dev.bmDevList) (hbm' : bm' ∈ dev.bmDevList) {port : π}
    (hport : port ∈ bm.portList.map Prod.snd) (hport' : port ∈ bm'.portList.map Prod.snd) :
    bm = bm' := by
  by_contra hdiff
  have hnodup : dev.allPorts.Nodup := (List.nodup_flatMap.mp mgr.ports_nodup).1 dev hdev
  have hpair := (List.nodup_flatMap.mp hnodup).2
  have hsymm : Std.Symm (Function.onFun List.Disjoint
      fun bm : BMDev π => bm.portList.map Prod.snd) :=
    ⟨fun _ _ h _ hx hx' => h hx' hx⟩
  exact hpair.forall hbm hbm' hdiff hport hport'

/-- The port of an inactive mode, or of another device, is none of those that the loops reach. -/
lemma CDevMgr.notMem_activePorts (mgr : CDevMgr π) {dev dev' : CDev π} (hdev : dev ∈ mgr.devList)
    (hdev' : dev' ∈ mgr.devList) {bm : BMDev π} (hbm : bm ∈ dev.bmDevList) {port : π}
    (hport : port ∈ bm.portList.map Prod.snd)
    (h : ¬strcaseeq bm.bootmode dev.curMode ∨ dev' ≠ dev) : port ∉ dev'.activePorts := by
  intro hactive
  have hall : port ∈ dev.allPorts := List.mem_flatMap.mpr ⟨bm, hbm, hport⟩
  have hdev_eq : dev' = dev :=
    mgr.dev_unique hdev' hdev (CDev.activePorts_subset dev' hactive) hall
  subst hdev_eq
  obtain ⟨bm', hbm', hport'⟩ := List.mem_flatMap.mp hactive
  rw [List.mem_filter] at hbm'
  have hbm_eq : bm = bm' := mgr.mode_unique hdev hbm hbm'.1 hport hport'
  apply h.elim
  · intro hmode
    apply hmode
    simpa [hbm_eq] using hbm'.2
  · exact fun hne => hne rfl

section Flags

variable [DecidableEq π]

/-- A loop that changes each entry by itself, where a second change does nothing. -/
lemma foldl_update_idem {β : Type} (g : β → β) (hg : ∀ b, g (g b) = g b) (l : List π) (f : π → β)
    (a : π) :
    l.foldl (fun f x => Function.update f x (g (f x))) f a = if a ∈ l then g (f a) else f a := by
  induction l generalizing f with
  | nil => rfl
  | cons x l ih =>
    rw [List.foldl_cons, ih]
    by_cases hax : a = x
    · subst hax
      simp [hg]
    · simp [hax]

variable (dev : CDev π) (enable : Bool) (flags : PortFlags π) (port : π)

lemma CDev.enablePortRD_apply : dev.enablePortRD enable flags port =
    if port ∈ dev.activePorts then ⟨enable, (flags port).wr⟩ else flags port :=
  foldl_update_idem (fun b : PortEnable => ⟨enable, b.wr⟩) (fun _ => rfl) dev.activePorts flags port

lemma CDev.enablePortWR_apply : dev.enablePortWR enable flags port =
    if port ∈ dev.activePorts then ⟨(flags port).rd, enable⟩ else flags port :=
  foldl_update_idem (fun b : PortEnable => ⟨b.rd, enable⟩) (fun _ => rfl) dev.activePorts flags port

variable {dev port}

lemma CDev.enablePort_apply_ne {name : List UInt8} (rd wr : Bool) (h : dev.find name ≠ some port) :
    dev.enablePort name rd wr flags port = flags port := by
  rw [CDev.enablePort]
  cases hfind : dev.find name with
  | none => rfl
  | some port' =>
    have hne : port ≠ port' := by
      rintro rfl
      exact h hfind
    exact Function.update_of_ne hne _ _

variable {mgr : CDevMgr π} {name : List UInt8}

lemma resetWithDevName_apply (hdev : devFind mgr.devList name = some dev)
    (hport : port ∈ dev.activePorts) (hat : dev.find devModemAtName ≠ some port) :
    resetWithDevName mgr name enable flags port = ⟨enable, enable⟩ := by
  rw [resetWithDevName, hdev]
  dsimp only
  rw [CDev.enablePort_apply_ne _ _ _ hat, CDev.enablePortWR_apply, if_pos hport,
    CDev.enablePortRD_apply, if_pos hport]

lemma resetWithDevName_other
    (h : ∀ dev, devFind mgr.devList name = some dev → port ∉ dev.activePorts) :
    resetWithDevName mgr name enable flags port = flags port := by
  rw [resetWithDevName]
  cases hdev : devFind mgr.devList name with
  | none => rfl
  | some dev =>
    have hout := h dev hdev
    have hat : dev.find devModemAtName ≠ some port := fun hbad => hout (CDev.mem_of_find hbad)
    dsimp only
    rw [CDev.enablePort_apply_ne _ _ _ hat, CDev.enablePortWR_apply, if_neg hout,
      CDev.enablePortRD_apply, if_neg hout]

end Flags

/-- A call of `resetWithDevName`, or a notification of the USB monitor. -/
inductive EnableOp
  | reset (devname : List UInt8) (enable : Bool)
  | usb (msg : UeventMsg)
  deriving DecidableEq, Repr

/-- The device that an operation finds. -/
def EnableOp.device (mgr : CDevMgr π) : EnableOp → Option (CDev π)
  | .reset devname _ => devFind mgr.devList devname
  | .usb _ => devFind mgr.devList devHostName

/-- What a notification makes of the flag for writing. -/
def UeventMsg.wr : UeventMsg → Bool → Bool
  | .usbConnect, _ => true
  | .usbDisconnect, _ => false
  | .usbUnknown, wr => wr

section Runs

variable [DecidableEq π]

def EnableOp.apply (mgr : CDevMgr π) (flags : PortFlags π) : EnableOp → PortFlags π
  | .reset devname enable => resetWithDevName mgr devname enable flags
  | .usb msg => mgr.notify msg flags

/-- What an operation is to make of the flags of a port of the active mode of its device. -/
def EnableOp.newFlags (dev : CDev π) (port : π) (old : PortEnable) : EnableOp → PortEnable
  | .reset _ enable =>
    if dev.find devModemAtName = some port then ⟨true, true⟩ else ⟨enable, enable⟩
  | .usb msg => ⟨old.rd, msg.wr old.wr⟩

/-- What an operation is to make of the flags of any port. -/
def EnableOp.effect (mgr : CDevMgr π) (port : π) (old : PortEnable) (op : EnableOp) : PortEnable :=
  match op.device mgr with
  | none => old
  | some dev => if port ∈ dev.activePorts then op.newFlags dev port old else old

lemma CDev.enablePort_apply_self {dev : CDev π} {port : π} {name : List UInt8} (rd wr : Bool)
    (flags : PortFlags π) (h : dev.find name = some port) :
    dev.enablePort name rd wr flags port = ⟨rd, wr⟩ := by
  rw [CDev.enablePort, h]
  exact Function.update_self port _ flags

lemma EnableOp.effect_of_notMem (mgr : CDevMgr π) {op : EnableOp} {port : π} (old : PortEnable)
    (h : ∀ dev, op.device mgr = some dev → port ∉ dev.activePorts) :
    op.effect mgr port old = old := by
  rw [EnableOp.effect]
  cases hdev : op.device mgr with
  | none => rfl
  | some dev => exact if_neg (h dev hdev)

lemma EnableOp.effect_of_mem (mgr : CDevMgr π) {op : EnableOp} {port : π} (old : PortEnable)
    {dev : CDev π} (hdev : op.device mgr = some dev) (hport : port ∈ dev.activePorts) :
    op.effect mgr port old = op.newFlags dev port old := by
  rw [EnableOp.effect, hdev]
  exact if_pos hport

lemma resetWithDevName_eq_effect (mgr : CDevMgr π) (devname : List UInt8) (enable : Bool)
    (flags : PortFlags π) (port : π) :
    resetWithDevName mgr devname enable flags port =
      (EnableOp.reset devname enable).effect mgr port (flags port) := by
  by_cases h : ∃ dev, (EnableOp.reset devname enable).device mgr = some dev ∧ port ∈ dev.activePorts
  · obtain ⟨dev, hdev, hport⟩ := h
    rw [EnableOp.effect_of_mem mgr _ hdev hport, EnableOp.newFlags]
    by_cases hat : dev.find devModemAtName = some port
    · have hfind : devFind mgr.devList devname = some dev := hdev
      rw [if_pos hat, resetWithDevName, hfind]
      exact CDev.enablePort_apply_self true true _ hat
    · rw [if_neg hat]
      exact resetWithDevName_apply enable flags hdev hport hat
  · rw [EnableOp.effect_of_notMem mgr _ fun dev hdev hport => h ⟨dev, hdev, hport⟩]
    exact resetWithDevName_other enable flags fun dev hdev hport => h ⟨dev, hdev, hport⟩

lemma notify_eq_effect (mgr : CDevMgr π) (msg : UeventMsg) (flags : PortFlags π) (port : π) :
    mgr.notify msg flags port = (EnableOp.usb msg).effect mgr port (flags port) := by
  rw [EnableOp.effect, EnableOp.device]
  unfold CDevMgr.notify
  cases devFind mgr.devList devHostName with
  | none => cases msg <;> rfl
  | some dev =>
    cases msg with
    | usbConnect => exact CDev.enablePortWR_apply dev true flags port
    | usbDisconnect => exact CDev.enablePortWR_apply dev false flags port
    | usbUnknown => exact (ite_self _).symm

lemma EnableOp.apply_eq_effect (mgr : CDevMgr π) (op : EnableOp) (flags : PortFlags π) (port : π) :
    op.apply mgr flags port = op.effect mgr port (flags port) := by
  cases op with
  | reset devname enable => exact resetWithDevName_eq_effect mgr devname enable flags port
  | usb msg => exact notify_eq_effect mgr msg flags port

lemma foldl_apply_eq_effect (mgr : CDevMgr π) (ops : List EnableOp) (flags : PortFlags π)
    (port : π) :
    ops.foldl (EnableOp.apply mgr) flags port = ops.foldl (EnableOp.effect mgr port) (flags port) := by
  induction ops generalizing flags with
  | nil => rfl
  | cons op ops ih => rw [List.foldl_cons, List.foldl_cons, ih, EnableOp.apply_eq_effect]

lemma foldl_effect_of_notMem (mgr : CDevMgr π) (ops : List EnableOp) {port : π} (old : PortEnable)
    (h : ∀ op ∈ ops, ∀ dev, EnableOp.device mgr op = some dev → port ∉ dev.activePorts) :
    ops.foldl (EnableOp.effect mgr port) old = old := by
  induction ops with
  | nil => rfl
  | cons op ops ih =>
    rw [List.foldl_cons, EnableOp.effect_of_notMem mgr old (h op List.mem_cons_self)]
    exact ih fun op hop => h op (List.mem_cons_of_mem _ hop)

/-- Over any sequence of resets and notifications, every operation has its effect on each port of the
active mode of its device and none on others; a port of an inactive mode, or of a device that no
operation finds, keeps its flags. -/
theorem only_active_ports_enabled (mgr : CDevMgr π) (ops : List EnableOp) (flags : PortFlags π) :
    (∀ port, ops.foldl (EnableOp.apply mgr) flags port =
      ops.foldl (EnableOp.effect mgr port) (flags port)) ∧
    ∀ dev ∈ mgr.devList, ∀ bm ∈ dev.bmDevList, ∀ port ∈ bm.portList.map Prod.snd,
      (¬strcaseeq bm.bootmode dev.curMode ∨
        ∀ op ∈ ops, EnableOp.device mgr op ≠ some dev) →
      ops.foldl (EnableOp.apply mgr) flags port = flags port := by
  refine ⟨foldl_apply_eq_effect mgr ops flags, ?_⟩
  intro dev hdev bm hbm port hport h
  rw [foldl_apply_eq_effect]
  apply foldl_effect_of_notMem
  intro op hop dev' hdev'
  have hmem : dev' ∈ mgr.devList := by
    cases op with
    | reset devname enable => exact List.mem_of_find?_eq_some hdev'
    | usb msg => exact List.mem_of_find?_eq_some hdev'
  apply mgr.notMem_activePorts hdev hmem hbm hport
  apply h.imp_right
  intro hnone heq
  exact hnone op hop (heq ▸ hdev')

end Runs

end EngPc
