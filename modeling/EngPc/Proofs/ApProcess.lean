import EngPc.Proofs.ChnlGraph
import EngPc.Proofs.Config

/-!
# The `ap_process` column

`CChnl::runInThread` tells four values apart, and `CBase::str2approcess` leaves only two of them: a
row never asks for its reverse direction, and asks for its forward direction with any positive
number.
-/

namespace EngPc

variable {π : Type} [DecidableEq π]

/-- The number in the column: `atoi`. -/
def apNumber (v : Token) : Int := CString.strtol longBits 10 v

section Install

variable {tds : List (ChnlThread π)} {src dst : π} (name : List UInt8) (enable : Int)
  (dataType : DataType) (ap : Int)

lemma findSameSrcPort_install_new (h : findSameSrcPort tds src = none) :
    findSameSrcPort (install tds name src dst enable dataType ap) src =
      some (newThread name src dst enable dataType ap) := by
  rw [install, h]
  unfold findSameSrcPort at h ⊢
  dsimp only
  rw [List.find?_append, h]
  simp [newThread]

lemma findSameSrcPort_updateFirst {p : π} {f : ChnlThread π → ChnlThread π}
    (hf : ∀ td, (f td).portSrc = td.portSrc) :
    findSameSrcPort (updateFirst (fun td => td.portSrc = src) f tds) p =
      if p = src then (findSameSrcPort tds p).map f else findSameSrcPort tds p := by
  unfold findSameSrcPort
  induction tds with
  | nil => simp [updateFirst]
  | cons td tds ih =>
    unfold updateFirst
    by_cases hsrc : td.portSrc = src
    · rw [if_pos (decide_eq_true hsrc), List.find?_cons, List.find?_cons, hf]
      by_cases hp : p = src
      · simp [hp, hsrc]
      · have hne : td.portSrc ≠ p := fun heq => hp (heq.symm.trans hsrc)
        simp [hp, hne]
    · rw [if_neg (by simpa using hsrc), List.find?_cons, List.find?_cons, ih]
      by_cases hp : td.portSrc = p
      · have hne : p ≠ src := fun heq => hsrc (hp.trans heq)
        simp [hp, hne]
      · simp [hp]

lemma findSameSrcPort_install_of_ne {p : π} (hp : p ≠ src) :
    findSameSrcPort (install tds name src dst enable dataType ap) p = findSameSrcPort tds p := by
  unfold install
  cases hfind : findSameSrcPort tds src with
  | none =>
    unfold findSameSrcPort
    simp [newThread, Ne.symm hp]
  | some td =>
    dsimp only
    rw [findSameSrcPort_updateFirst (f := fun td => td.addDstPort dst) fun td => rfl, if_neg hp]

lemma findSameSrcPort_install_add {td : ChnlThread π} (h : findSameSrcPort tds src = some td) :
    findSameSrcPort (install tds name src dst enable dataType ap) src =
      some (td.addDstPort dst) := by
  rw [install, h]
  dsimp only
  rw [findSameSrcPort_updateFirst (f := fun td => td.addDstPort dst) fun td => rfl, if_pos rfl, h]
  rfl

end Install

section Row

variable (devs : List (CDev π)) (enable : Bool) (tds : List (ChnlThread π)) (row : ChnlProp)

/-- The row gives the port a thread. -/
def Created (port : π) (td : ChnlThread π) : Prop :=
  findSameSrcPort tds port = none ∧
    findSameSrcPort (runInThread devs enable tds row).2 port = some td

variable {devs enable tds row} {src dst : π} {td : ChnlThread π}

lemma runInThread_accepted (tds : List (ChnlThread π)) (h : row.Accepted devs enable src dst) :
    (runInThread devs enable tds row).2 =
      if row.act = .F then
        install (install tds row.name src dst row.enable row.dataType (row.processes 1))
          (row.name ++ CString.ofString "-R") dst src row.enable row.dataType (row.processes 2)
      else install tds row.name src dst row.enable row.dataType (row.processes 1) := by
  obtain ⟨hen, hact, hports⟩ := h
  unfold runInThread
  rw [if_neg (by simp [hen]), if_pos hact, hports]
  dsimp only
  split_ifs with hF
  · rfl
  · rfl

lemma exists_created_forward (h : row.Accepted devs enable src dst)
    (hnone : findSameSrcPort tds src = none) :
    ∃ td, Created devs enable tds row src td ∧ td.apProcess = row.processes 1 := by
  have hnew : findSameSrcPort
      (install tds row.name src dst row.enable row.dataType (row.processes 1)) src =
        some (newThread row.name src dst row.enable row.dataType (row.processes 1)) :=
    findSameSrcPort_install_new _ _ _ _ hnone
  unfold Created
  rw [runInThread_accepted tds h]
  by_cases hF : row.act = .F
  · rw [if_pos hF]
    by_cases heq : dst = src
    · subst heq
      exact ⟨_, ⟨hnone, findSameSrcPort_install_add _ _ _ _ hnew⟩, rfl⟩
    · exact ⟨_, ⟨hnone, (findSameSrcPort_install_of_ne _ _ _ _ (Ne.symm heq)).trans hnew⟩, rfl⟩
  · rw [if_neg hF]
    exact ⟨_, ⟨hnone, hnew⟩, rfl⟩

lemma exists_created_reverse (h : row.Accepted devs enable src dst) (hF : row.act = .F)
    (hne : dst ≠ src) (hnone : findSameSrcPort tds dst = none) :
    ∃ td, Created devs enable tds row dst td ∧ td.apProcess = row.processes 2 := by
  unfold Created
  rw [runInThread_accepted tds h, if_pos hF]
  refine ⟨_, ⟨hnone, findSameSrcPort_install_new _ _ _ _ ?_⟩, rfl⟩
  rw [findSameSrcPort_install_of_ne _ _ _ _ hne]
  exact hnone

lemma not_created_reverse (h : row.Accepted devs enable src dst) (hF : row.act ≠ .F)
    (hne : dst ≠ src) : ¬Created devs enable tds row dst td := by
  rintro ⟨hnone, hsome⟩
  rw [runInThread_accepted tds h, if_neg hF, findSameSrcPort_install_of_ne _ _ _ _ hne, hnone]
    at hsome
  cases hsome

lemma Created.unique {td' : ChnlThread π} {port : π} (h : Created devs enable tds row port td)
    (h' : Created devs enable tds row port td') : td' = td :=
  Option.some.inj (h'.2.symm.trans h.2)

variable (devs enable tds row)

/-- The threads that the row creates process the requests that its number is to select. -/
structure ApProcessRight (n : Int) : Prop where
  forward : ∀ src dst td, row.Accepted devs enable src dst → Created devs enable tds row src td →
    (td.apProcess = 1 ↔ n = 1 ∨ n = 3)
  reverse : ∀ src dst td, row.Accepted devs enable src dst → dst ≠ src →
    Created devs enable tds row dst td → (td.apProcess = 1 ↔ n = 2 ∨ n = 3)

/-- A row that is to have a forward thread has no number above 1 but 3, and one that is to have a
reverse thread neither 2 nor 3. -/
structure ApProcessFine (n : Int) : Prop where
  forward : ∀ src dst, row.Accepted devs enable src dst → findSameSrcPort tds src = none →
    n ≤ 1 ∨ n = 3
  reverse : ∀ src dst, row.Accepted devs enable src dst → row.act = .F → dst ≠ src →
    findSameSrcPort tds dst = none → n ≠ 2 ∧ n ≠ 3

variable {devs enable tds row}

lemma apProcessRight_iff {n : Int} (hn : row.apProcess = if 0 < n then 1 else 0) :
    ApProcessRight devs enable tds row n ↔ ApProcessFine devs enable tds row n := by
  have hforth : row.processes 1 = 1 ↔ 0 < n := by
    rw [ChnlProp.processes, hn]
    split_ifs with hpos <;> simp_all
  have hback : ¬row.processes 2 = 1 := by
    rw [ChnlProp.processes, hn]
    split_ifs with hpos <;> simp_all
  constructor
  · intro h
    constructor
    · intro src dst hacc hnone
      obtain ⟨td, hc, hap⟩ := exists_created_forward hacc hnone
      have hright := h.forward src dst td hacc hc
      rw [hap, hforth] at hright
      omega
    · intro src dst hacc hF hne hnone
      obtain ⟨td, hc, hap⟩ := exists_created_reverse hacc hF hne hnone
      have hright := h.reverse src dst td hacc hne hc
      rw [hap] at hright
      exact not_or.mp (mt hright.mpr hback)
  · intro h
    constructor
    · intro src dst td hacc hc
      obtain ⟨td', hc', hap⟩ := exists_created_forward hacc hc.1
      have hfine := h.forward src dst hacc hc.1
      rw [hc'.unique hc, hap, hforth]
      omega
    · intro src dst td hacc hne hc
      by_cases hF : row.act = .F
      · obtain ⟨td', hc', hap⟩ := exists_created_reverse hacc hF hne hc.1
        have hfine := h.reverse src dst hacc hF hne hc.1
        rw [hc'.unique hc, hap]
        exact iff_of_false hback (not_or.mpr hfine)
      · exact absurd hc (not_created_reverse hacc hF hne)

end Row

lemma buildChnl_apProcess {vars : FieldVars chnlFields} {row : ChnlRow}
    (h : buildChnl vars = .ok (some row)) : row.apProcess = str2approcess (vars 8) := by
  simp only [buildChnl, bind_ok, nonNull_ok, strcpy_ok] at h
  obtain ⟨_, -, _, -, _, -, _, -, _, -, _, -, _, -, _, -, _, -, hrow⟩ := h
  cases hrow
  rfl

/-- **The exact condition on the number in the column**, for the threads of every row. -/
theorem ap_process_right_iff (devs : List (CDev π)) (enable : Bool) (tds : List (ChnlThread π))
    {vars : FieldVars chnlFields} {row : ChnlRow} {v : Token}
    (hrow : buildChnl vars = .ok (some row)) (hv : vars 8 = some v) :
    ApProcessRight devs enable tds row.toChnlProp (apNumber v) ↔
      ApProcessFine devs enable tds row.toChnlProp (apNumber v) := by
  apply apProcessRight_iff
  rw [buildChnl_apProcess hrow, hv]
  rfl

/-- The fields of a full-duplex row from the port `ap1` to `cp1`, with the number 2. -/
def reverseVars : FieldVars chnlFields := fun j =>
  ["row", "ap", "ap1", "cp", "cp1", "F", "DATA_AT", "1", "2", "r", "d"][j.val]?.map
    CString.ofString

def reverseRow : ChnlRow where
  name := CString.ofString "row"
  srcDevName := CString.ofString "ap"
  srcPortName := CString.ofString "ap1"
  dstDevName := CString.ofString "cp"
  dstPortName := CString.ofString "cp1"
  act := .F
  dataType := .at
  enable := 1
  apProcess := 1
  reserved := CString.ofString "r"
  desc := CString.ofString "d"

def reverseDevs : List (CDev Nat) :=
  [⟨CString.ofString "ap", CString.ofString "normal",
      [⟨CString.ofString "normal", [(CString.ofString "ap1", 0)]⟩]⟩,
    ⟨CString.ofString "cp", CString.ofString "normal",
      [⟨CString.ofString "normal", [(CString.ofString "cp1", 1)]⟩]⟩]

lemma reverseRow_built : buildChnl reverseVars = .ok (some reverseRow) := by
  decide +kernel

theorem ap_process_right_reverse :
    ApProcessRight reverseDevs true [] reverseRow.toChnlProp (apNumber (CString.ofString "2")) ↔
      ApProcessFine reverseDevs true [] reverseRow.toChnlProp (apNumber (CString.ofString "2")) :=
  ap_process_right_iff reverseDevs true [] reverseRow_built (by decide +kernel)

/-- With the number 2 the reverse thread does not process requests. -/
theorem reverse_thread_does_not_process :
    buildChnl reverseVars = .ok (some reverseRow) ∧
      reverseVars 8 = some (CString.ofString "2") ∧
      ¬ApProcessRight reverseDevs true [] reverseRow.toChnlProp
        (apNumber (CString.ofString "2")) := by
  refine ⟨reverseRow_built, by decide +kernel, ?_⟩
  have hacc : reverseRow.toChnlProp.Accepted reverseDevs true 0 1 := by
    refine ⟨rfl, .inr rfl, by decide +kernel⟩
  have hnumber : apNumber (CString.ofString "2") = 2 := by decide +kernel
  rw [apProcessRight_iff (by decide +kernel)]
  intro h
  exact (h.reverse 0 1 hacc rfl (by decide) rfl).1 hnumber

end EngPc
