import EngPc.Model.ChnlGraph
import Mathlib.Data.List.Nodup

/-!
# The structure of the graph of channels

The threads form a graph on the ports, with an edge for each destination of a thread. A row adds its
edge, a full-duplex row the reverse one too, and nothing else does; no port has two threads, and a
thread writes to the ends of its own edges only.
-/

namespace EngPc
open CString Reach

variable {π : Type} {tds : List (ChnlThread π)}

lemma updateFirst_cases (p : ChnlThread π → Bool) (f : ChnlThread π → ChnlThread π)
    (tds : List (ChnlThread π)) :
    (∃ pre td post, tds = pre ++ td :: post ∧ p td = true ∧ (∀ u ∈ pre, p u = false) ∧
      updateFirst p f tds = pre ++ f td :: post) ∨
    (∀ u ∈ tds, p u = false) ∧ updateFirst p f tds = tds := by
  induction tds with
  | nil =>
    right
    exact ⟨fun u hu => absurd hu List.not_mem_nil, rfl⟩
  | cons t tds ih =>
    unfold updateFirst
    by_cases ht : p t = true
    · left
      rw [if_pos ht]
      exact ⟨[], t, tds, rfl, ht, fun u hu => absurd hu List.not_mem_nil, rfl⟩
    · rw [if_neg ht]
      have htf : p t = false := Bool.eq_false_of_not_eq_true ht
      rcases ih with ⟨pre, td, post, rfl, htd, hpre, heq⟩ | ⟨hall, heq⟩
      · left
        refine ⟨t :: pre, td, post, rfl, htd, ?_, ?_⟩
        · exact List.forall_mem_cons.mpr ⟨htf, hpre⟩
        · rw [heq, List.cons_append]
      · right
        exact ⟨List.forall_mem_cons.mpr ⟨htf, hall⟩, by rw [heq]⟩

/-- What an update keeps of every thread, it keeps of the whole list. -/
lemma map_updateFirst {κ : Type*} (g : ChnlThread π → κ) (p : ChnlThread π → Bool)
    {f : ChnlThread π → ChnlThread π} (hf : ∀ td, g (f td) = g td) :
    (updateFirst p f tds).map g = tds.map g := by
  rcases updateFirst_cases p f tds with ⟨pre, td, post, rfl, -, -, heq⟩ | ⟨-, heq⟩
  · rw [heq]
    simp [hf]
  · rw [heq]

lemma forall_mem_updateFirst {P : ChnlThread π → Prop} {p : ChnlThread π → Bool}
    {f : ChnlThread π → ChnlThread π} (hf : ∀ td, p td = true → P td → P (f td))
    (h : ∀ td ∈ tds, P td) : ∀ td ∈ updateFirst p f tds, P td := by
  rcases updateFirst_cases p f tds with ⟨pre, u, post, rfl, hu, -, heq⟩ | ⟨-, heq⟩
  · rw [heq]
    simp only [List.mem_append, List.mem_cons] at h ⊢
    rintro td (htd | rfl | htd)
    · exact h td (.inl htd)
    · exact hf u hu (h u (.inr (.inl rfl)))
    · exact h td (.inr (.inr htd))
  · rw [heq]
    exact h

def Edge (tds : List (ChnlThread π)) (p q : π) : Prop :=
  ∃ td ∈ tds, td.portSrc = p ∧ q ∈ td.listDstPort

/-- No port has two threads, and a thread writes to one of its destinations: the active one. -/
structure WellFormed (tds : List (ChnlThread π)) : Prop where
  src_nodup : (tds.map ChnlThread.portSrc).Nodup
  dst_mem : ∀ td ∈ tds, td.portDst ∈ td.listDstPort
  trans_eq : ∀ td ∈ tds, ∀ q, td.trans = some q → q = td.portDst

lemma wellFormed_nil : WellFormed ([] : List (ChnlThread π)) where
  src_nodup := List.nodup_nil
  dst_mem := fun _ h => absurd h List.not_mem_nil
  trans_eq := fun _ h => absurd h List.not_mem_nil

lemma edge_congr {tds' : List (ChnlThread π)}
    (h : tds'.map (fun td => (td.portSrc, td.listDstPort)) =
      tds.map fun td => (td.portSrc, td.listDstPort)) (p q : π) :
    Edge tds' p q ↔ Edge tds p q := by
  have hedge : ∀ l : List (ChnlThread π),
      Edge l p q ↔ ∃ e ∈ l.map fun td => (td.portSrc, td.listDstPort), e.1 = p ∧ q ∈ e.2 := by
    intro l
    simp [Edge]
  rw [hedge, hedge, h]

lemma edge_updateFirst (p : ChnlThread π → Bool) {f : ChnlThread π → ChnlThread π}
    (hsrc : ∀ td, (f td).portSrc = td.portSrc) (hlist : ∀ td, (f td).listDstPort = td.listDstPort)
    (x y : π) : Edge (updateFirst p f tds) x y ↔ Edge tds x y := by
  apply edge_congr
  apply map_updateFirst
  intro td
  rw [hsrc, hlist]

lemma WellFormed.updateFirst (h : WellFormed tds) {p : ChnlThread π → Bool}
    {f : ChnlThread π → ChnlThread π} (hsrc : ∀ td, (f td).portSrc = td.portSrc)
    (hdst : ∀ td, p td = true → td.portDst ∈ td.listDstPort → (f td).portDst ∈ (f td).listDstPort)
    (htrans : ∀ td, (∀ q, td.trans = some q → q = td.portDst) →
      ∀ q, (f td).trans = some q → q = (f td).portDst) :
    WellFormed (updateFirst p f tds) where
  src_nodup := by
    rw [map_updateFirst _ p hsrc]
    exact h.src_nodup
  dst_mem := forall_mem_updateFirst hdst h.dst_mem
  trans_eq := forall_mem_updateFirst (fun td _ => htrans td) h.trans_eq

section Steps

variable [DecidableEq π]

lemma findSameSrcPort_eq_none {src : π} (h : findSameSrcPort tds src = none) :
    src ∉ tds.map ChnlThread.portSrc := by
  unfold findSameSrcPort at h
  rw [List.find?_eq_none] at h
  simpa [eq_comm] using h

lemma edge_install (name : List UInt8) (src dst : π) (enable : Int) (dataType : DataType)
    (ap : Int) (p q : π) :
    Edge (install tds name src dst enable dataType ap) p q ↔
      Edge tds p q ∨ p = src ∧ q = dst := by
  unfold install
  cases hfind : findSameSrcPort tds src with
  | none =>
    simp only [Edge, List.mem_append, List.mem_singleton, newThread]
    constructor
    · rintro ⟨td, htd | rfl, rfl, hq⟩
      · exact .inl ⟨td, htd, rfl, hq⟩
      · exact .inr ⟨rfl, List.mem_singleton.mp hq⟩
    · rintro (⟨td, htd, rfl, hq⟩ | ⟨rfl, rfl⟩)
      · exact ⟨td, .inl htd, rfl, hq⟩
      · exact ⟨_, .inr rfl, rfl, List.mem_singleton.mpr rfl⟩
  | some t =>
    have ht : t ∈ tds ∧ t.portSrc = src := by
      unfold findSameSrcPort at hfind
      exact ⟨List.mem_of_find?_eq_some hfind, by simpa using List.find?_some hfind⟩
    dsimp only
    rcases updateFirst_cases (fun td => td.portSrc = src) (fun td => td.addDstPort dst) tds with
      ⟨pre, u, post, rfl, hu, -, heq⟩ | ⟨hall, -⟩
    · have husrc : u.portSrc = src := of_decide_eq_true hu
      rw [heq]
      simp only [Edge, List.mem_append, List.mem_cons]
      constructor
      · rintro ⟨td, htd | rfl | htd, rfl, hq⟩
        · exact .inl ⟨td, .inl htd, rfl, hq⟩
        · rcases List.mem_append.mp hq with hq | hq
          · exact .inl ⟨u, .inr (.inl rfl), rfl, hq⟩
          · exact .inr ⟨husrc, List.mem_singleton.mp hq⟩
        · exact .inl ⟨td, .inr (.inr htd), rfl, hq⟩
      · rintro (⟨td, htd | rfl | htd, rfl, hq⟩ | ⟨rfl, rfl⟩)
        · exact ⟨td, .inl htd, rfl, hq⟩
        · exact ⟨_, .inr (.inl rfl), rfl, List.mem_append_left _ hq⟩
        · exact ⟨td, .inr (.inr htd), rfl, hq⟩
        · exact ⟨_, .inr (.inl rfl), husrc, List.mem_append_right _ (List.mem_singleton.mpr rfl)⟩
    · exact absurd ht.2 (of_decide_eq_false (hall t ht.1))

lemma WellFormed.install (h : WellFormed tds) (name : List UInt8) (src dst : π) (enable : Int)
    (dataType : DataType) (ap : Int) :
    WellFormed (install tds name src dst enable dataType ap) := by
  unfold EngPc.install
  cases hfind : findSameSrcPort tds src with
  | some t =>
    refine h.updateFirst (fun td => rfl) ?_ (fun td htd => htd)
    intro td _ htd
    exact List.mem_append_left _ htd
  | none =>
    have hnew := findSameSrcPort_eq_none hfind
    refine ⟨?_, ?_, ?_⟩
    · rw [List.map_append, List.nodup_append]
      refine ⟨h.src_nodup, List.nodup_singleton _, ?_⟩
      intro a ha b hb hab
      obtain rfl : b = src := by simpa [newThread] using hb
      exact hnew (hab ▸ ha)
    all_goals
      intro td htd
      rcases List.mem_append.mp htd with htd | htd
    · exact h.dst_mem td htd
    · rw [List.mem_singleton.mp htd]
      exact List.mem_singleton.mpr rfl
    · exact h.trans_eq td htd
    · rw [List.mem_singleton.mp htd]
      intro q hq
      exact absurd hq (Option.some_ne_none q).symm

/-- The row sets up a channel between the two ports. -/
def ChnlProp.Accepted (devs : List (CDev π)) (enable : Bool) (row : ChnlProp) (src dst : π) :
    Prop :=
  enable = true ∧ (row.act = .S ∨ row.act = .F) ∧ row.ports devs = some (src, dst)

/-- The edges that a row adds. -/
def ChnlProp.Adds (devs : List (CDev π)) (enable : Bool) (row : ChnlProp) (p q : π) : Prop :=
  row.Accepted devs enable p q ∨ row.act = .F ∧ row.Accepted devs enable q p

lemma runInThread_cases (devs : List (CDev π)) (enable : Bool) (tds : List (ChnlThread π))
    (row : ChnlProp) :
    (∃ src dst, row.Accepted devs enable src dst ∧ row.act = .S ∧
      runInThread devs enable tds row = (true, EngPc.install tds row.name src dst row.enable
        row.dataType (row.processes 1))) ∨
    (∃ src dst, row.Accepted devs enable src dst ∧ row.act = .F ∧
      runInThread devs enable tds row = (true, EngPc.install
        (EngPc.install tds row.name src dst row.enable row.dataType (row.processes 1))
        (row.name ++ ofString "-R") dst src row.enable row.dataType (row.processes 2))) ∨
    (∀ src dst, ¬row.Accepted devs enable src dst) ∧ (runInThread devs enable tds row).2 = tds := by
  unfold runInThread ChnlProp.Accepted
  by_cases hen : enable = false
  · rw [if_pos hen]
    simp [hen]
  · rw [if_neg hen]
    by_cases hact : row.act = .S ∨ row.act = .F
    · rw [if_pos hact]
      cases hports : row.ports devs with
      | none => simp
      | some e =>
        obtain ⟨src, dst⟩ := e
        rcases hact with hS | hF
        · left
          exact ⟨src, dst, ⟨by simpa using hen, .inl hS, rfl⟩, hS, by simp [hS]⟩
        · right
          left
          exact ⟨src, dst, ⟨by simpa using hen, .inr hF, rfl⟩, hF, by simp [hF]⟩
    · rw [if_neg hact]
      right
      right
      exact ⟨fun src dst h => hact h.2.1, rfl⟩

lemma edge_runInThread (devs : List (CDev π)) (enable : Bool) (row : ChnlProp) (p q : π) :
    Edge (runInThread devs enable tds row).2 p q ↔
      Edge tds p q ∨ row.Adds devs enable p q := by
  have huniq : ∀ {src dst p q}, row.Accepted devs enable src dst →
      (row.Accepted devs enable p q ↔ p = src ∧ q = dst) := by
    intro src dst p q h
    constructor
    · rintro ⟨-, -, hports⟩
      have heq := h.2.2.symm.trans hports
      rw [Option.some.injEq, Prod.mk.injEq] at heq
      exact ⟨heq.1.symm, heq.2.symm⟩
    · rintro ⟨rfl, rfl⟩
      exact h
  unfold ChnlProp.Adds
  rcases runInThread_cases devs enable tds row with
    ⟨src, dst, h, hS, heq⟩ | ⟨src, dst, h, hF, heq⟩ | ⟨hno, heq⟩
  · rw [heq, edge_install, huniq h]
    simp [hS]
  · rw [heq, edge_install, edge_install, huniq h, huniq h]
    simp only [hF, true_and, or_assoc]
    rw [and_comm (a := q = src)]
  · rw [heq]
    simp [hno]

lemma WellFormed.runInThread (h : WellFormed tds) (devs : List (CDev π)) (enable : Bool)
    (row : ChnlProp) : WellFormed (runInThread devs enable tds row).2 := by
  rcases runInThread_cases devs enable tds row with
    ⟨src, dst, -, -, heq⟩ | ⟨src, dst, -, -, heq⟩ | ⟨-, heq⟩
  · rw [heq]
    apply h.install
  · rw [heq]
    apply (h.install ..).install
  · rw [heq]
    exact h

lemma wellFormed_run (devs : List (CDev π)) (chnl : CChnl) (h : WellFormed tds) :
    WellFormed (chnl.run devs tds) := by
  unfold CChnl.run
  induction chnl.chnlList generalizing tds with
  | nil => exact h
  | cons row rows ih => exact ih (h.runInThread devs chnl.enable row)

/-- The edges after a run are those of its accepted rows, and no others. -/
theorem edge_run_iff (devs : List (CDev π)) (chnl : CChnl) (tds : List (ChnlThread π)) (p q : π) :
    Edge (chnl.run devs tds) p q ↔
      Edge tds p q ∨ ∃ row ∈ chnl.chnlList, row.Adds devs chnl.enable p q := by
  unfold CChnl.run
  induction chnl.chnlList generalizing tds with
  | nil => simp
  | cons row rows ih =>
    rw [List.foldl_cons, ih, edge_runInThread, or_assoc]
    simp only [List.mem_cons, exists_eq_or_imp]

lemma WellFormed.activeOther (h : WellFormed tds) (port : π) :
    WellFormed (activeOtherChnlDstPort tds port) := by
  refine h.updateFirst (fun td => rfl) ?_ ?_
  · intro td htd _
    exact of_decide_eq_true htd
  · intro td _ q hq
    unfold ChnlThread.activeDstPort at hq
    simp only [Option.map_eq_some_iff] at hq
    obtain ⟨-, -, rfl⟩ := hq
    rfl

lemma edge_activeOther (port p q : π) :
    Edge (activeOtherChnlDstPort tds port) p q ↔ Edge tds p q := by
  exact edge_updateFirst _ (fun td => td.activeDstPort_portSrc port)
    (fun td => td.activeDstPort_listDstPort port) p q

lemma chnlNext_keeps {devs : List (CDev π)} {tds' : List (ChnlThread π)} {ev : ChnlEvent π}
    (hstep : chnlNext devs tds ev = some tds') (h : WellFormed tds) :
    WellFormed tds' ∧ ∀ p q, Edge tds p q → Edge tds' p q := by
  cases ev with
  | row enable row =>
    cases hstep
    exact ⟨h.runInThread devs enable row, fun p q hpq =>
      (edge_runInThread devs enable row p q).mpr (.inl hpq)⟩
  | start port =>
    unfold chnlNext at hstep
    cases hfind : findSameSrcPort tds port with
    | none => simp [hfind] at hstep
    | some t =>
      simp only [hfind] at hstep
      split_ifs at hstep
      cases hstep
      constructor
      · refine h.updateFirst (fun td => rfl) (fun td _ htd => htd) ?_
        intro td _ q hq
        cases hq
        rfl
      · intro p q
        exact (edge_updateFirst _ ChnlThread.start_portSrc ChnlThread.start_listDstPort p q).mpr
  | read port =>
    simp only [chnlNext] at hstep
    split_ifs at hstep
    cases hstep
    exact ⟨h.activeOther port, fun p q => (edge_activeOther port p q).mpr⟩
  | finish port =>
    simp only [chnlNext] at hstep
    split_ifs at hstep
    cases hstep
    constructor
    · refine h.updateFirst (fun td => rfl) (fun td _ htd => htd) ?_
      intro td _ q hq
      cases hq
    · intro p q
      exact (edge_updateFirst _ ChnlThread.finish_portSrc ChnlThread.finish_listDstPort p q).mpr

lemma Reachable.wellFormed {devs : List (CDev π)} {tds' : List (ChnlThread π)}
    (hreach : Reachable (chnlNext devs) tds tds') (h : WellFormed tds) :
    WellFormed tds' ∧ ∀ p q, Edge tds p q → Edge tds' p q := by
  apply hreach.invariant (P := fun s => WellFormed s ∧ ∀ p q, Edge tds p q → Edge s p q)
  · exact ⟨h, fun p q hpq => hpq⟩
  rintro s ev s' ⟨hs, hedges⟩ hstep
  obtain ⟨hs', hedges'⟩ := chnlNext_keeps hstep hs
  exact ⟨hs', fun p q hpq => hedges' p q (hedges p q hpq)⟩

/-- After the rows are installed, and ever after: one thread for each source port, each accepted
row in the list of the thread of its source, a full-duplex one in that of its destination too, and
each thread writing to a destination of its own list. -/
theorem channel_graph_structure (devs : List (CDev π)) (chnl : CChnl) (tds : List (ChnlThread π))
    (h : Reachable (chnlNext devs) (chnl.run devs []) tds) :
    (tds.map ChnlThread.portSrc).Nodup ∧
    (∀ row ∈ chnl.chnlList, ∀ src dst, row.Accepted devs chnl.enable src dst →
      Edge tds src dst ∧ (row.act = .F → Edge tds dst src)) ∧
    ∀ td ∈ tds, td.portDst ∈ td.listDstPort ∧ ∀ q, td.trans = some q → q ∈ td.listDstPort := by
  obtain ⟨hwf, hedges⟩ := Reachable.wellFormed h (wellFormed_run devs chnl wellFormed_nil)
  refine ⟨hwf.src_nodup, ?_, ?_⟩
  · intro row hrow src dst hacc
    refine ⟨hedges src dst ?_, fun hF => hedges dst src ?_⟩
    · exact (edge_run_iff devs chnl [] src dst).mpr (.inr ⟨row, hrow, .inl hacc⟩)
    · exact (edge_run_iff devs chnl [] dst src).mpr (.inr ⟨row, hrow, .inr ⟨hF, hacc⟩⟩)
  · intro td htd
    refine ⟨hwf.dst_mem td htd, ?_⟩
    intro q hq
    rw [hwf.trans_eq td htd q hq]
    exact hwf.dst_mem td htd

end Steps

/-- Port 0 is `COM_CP_DIAG` of the host and 1 its `COM_WCN_AT`; of the modem's, 2 is `COM_DIAG` and
3 is `COM_AT`. -/
def sharedDevs : List (CDev Nat) :=
  [{ devName := ofString "pc", curMode := ofString "normal",
     bmDevList := [⟨ofString "normal", [(ofString "COM_CP_DIAG", 0), (ofString "COM_WCN_AT", 1)]⟩] },
   { devName := ofString "cp", curMode := ofString "normal",
     bmDevList := [⟨ofString "normal", [(ofString "COM_DIAG", 2), (ofString "COM_AT", 3)]⟩] }]

def duplexRow (name src dst : String) : ChnlProp where
  name := ofString name
  srcDevName := ofString "pc"
  srcPortName := ofString src
  dstDevName := ofString "cp"
  dstPortName := ofString dst
  act := .F
  dataType := .diag
  enable := 1
  apProcess := 1

/-- The first host port has both modem ports, the second one shares the modem's second. -/
def sharedChnl : CChnl where
  enable := true
  chnlList := [duplexRow "diag" "COM_CP_DIAG" "COM_DIAG", duplexRow "diagat" "COM_CP_DIAG" "COM_AT",
    duplexRow "wcnat" "COM_WCN_AT" "COM_AT"]

/-- All loops start, and then the second host port and the modem's second port are read. -/
def sharedReads : List (ChnlEvent Nat) :=
  [.start 0, .start 1, .start 2, .start 3, .read 1, .read 3]

def sharedState : List (ChnlThread Nat) :=
  (replay (chnlNext sharedDevs) (sharedChnl.run sharedDevs []) sharedReads).getD []

lemma sharedState_reachable :
    Reachable (chnlNext sharedDevs) (sharedChnl.run sharedDevs []) sharedState :=
  reachable_of_replay (l := sharedReads) rfl

theorem channel_graph_structure_shared :
    (sharedState.map ChnlThread.portSrc).Nodup ∧
    (Edge sharedState 1 3 ∧ Edge sharedState 3 1) ∧
    ∀ td ∈ sharedState, td.portDst ∈ td.listDstPort := by
  obtain ⟨hnodup, hrows, hdst⟩ :=
    channel_graph_structure sharedDevs sharedChnl sharedState sharedState_reachable
  obtain ⟨hforth, hback⟩ := hrows (duplexRow "wcnat" "COM_WCN_AT" "COM_AT") (by decide) 1 3
    ⟨rfl, .inr rfl, by decide⟩
  exact ⟨hnodup, ⟨hforth, hback rfl⟩, fun td htd => (hdst td htd).1⟩

end EngPc
