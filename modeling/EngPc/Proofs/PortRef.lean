import EngPc.Model.PortRef

/-!
# The reference count of a port

Where the threads proceed in order, the counter of a port that nobody is reopening is the number of
threads that have it open, and the port has its descriptor while there is one.
-/

namespace EngPc
open Reach Function

/-- What the counter should be. -/
def expected {τ : Type} (port : PortFd) (holders : Finset τ) : Int :=
  if port.portType.isDevice = true then holders.card else 0

structure Counted {τ : Type} (port : PortFd) (holders : Finset τ) : Prop where
  count_eq : port.nClient = expected port holders
  open_of_held : 0 < expected port holders → 0 ≤ port.fd
  device_of_open : 0 ≤ port.fd → port.portType.isDevice = true

lemma portOpen_device {port : PortFd} (h : port.portType.isDevice = true) (result : Int) :
    portOpen port result =
      if port.enableRD = false then (false, port)
      else if 0 ≤ port.fd then (true, { port with nClient := port.nClient + 1 })
      else if result < 0 then (false, { port with fd := result })
      else (true, { port with fd := result, nClient := 1 }) := by
  unfold portOpen
  cases htype : port.portType with
  | vser | gser | com | chr => simp
  | sock | interface | loop | unknown =>
    rw [htype] at h
    cases h

lemma portOpen_other {port : PortFd} (h : port.portType.isDevice = false) (hfd : port.fd < 0)
    (result : Int) : (portOpen port result).2 = port := by
  have hclosed : ¬0 ≤ port.fd := Int.not_le.mpr hfd
  unfold portOpen
  cases htype : port.portType with
  | vser | gser | com | chr =>
    rw [htype] at h
    cases h
  | sock | interface | loop | unknown =>
    simp only [hclosed]
    split_ifs <;> first | rfl | contradiction

@[simp] lemma portOpen_portType (port : PortFd) (result : Int) :
    (portOpen port result).2.portType = port.portType := by
  unfold portOpen
  split_ifs <;> rfl

@[simp] lemma portClose_portType (port : PortFd) :
    (portClose port).portType = port.portType := by
  unfold portClose
  split_ifs <;> rfl

lemma expected_portOpen {τ : Type} (port : PortFd) (result : Int) (hs : Finset τ) :
    expected (portOpen port result).2 hs = expected port hs := by
  rw [expected, expected, portOpen_portType]

lemma expected_portClose {τ : Type} (port : PortFd) (hs : Finset τ) :
    expected (portClose port) hs = expected port hs := by
  rw [expected, expected, portClose_portType]

lemma portClose_of_closed {port : PortFd} (h : port.fd < 0) : portClose port = port :=
  if_neg (Int.not_le.mpr h)

lemma portClose_fd_of_one {port : PortFd} (h : port.nClient = 1) : (portClose port).fd < 0 := by
  unfold portClose
  split_ifs with hfd hlast
  · exact show (-1 : Int) < 0 by decide
  · omega
  · exact Int.not_le.mp hfd

lemma portOpen_closed {port : PortFd} (hfd : port.fd < 0) (result : Int)
    (h : 0 ≤ (portOpen port result).2.fd) : port.portType.isDevice = true := by
  by_contra hno
  rw [portOpen_other (Bool.eq_false_of_not_eq_true hno) hfd] at h
  omega

lemma portOpen_failed {port : PortFd} (hfd : port.fd < 0) (result : Int)
    (h : (portOpen port result).1 = false) : (portOpen port result).2.fd < 0 := by
  by_cases hd : port.portType.isDevice = true
  · rw [portOpen_device hd] at h ⊢
    split_ifs at h ⊢ with hen hopen hres
    · exact hfd
    · exact hres
  · rw [portOpen_other (Bool.eq_false_of_not_eq_true hd) hfd]
    exact hfd

section Count

variable {τ : Type} {port : PortFd} {hs : Finset τ} {t : τ}

lemma Counted.closed (h : Counted port hs) (hd : port.portType.isDevice = false) : port.fd < 0 := by
  by_contra hfd
  rw [h.device_of_open (Int.not_lt.mp hfd)] at hd
  cases hd

lemma Counted.other (h : Counted port hs) (hd : port.portType.isDevice = false) (hs' : Finset τ) :
    Counted port hs' where
  count_eq := by
    rw [h.count_eq]
    simp [expected, hd]
  open_of_held := by
    intro hpos
    simp [expected, hd] at hpos
  device_of_open := h.device_of_open

lemma Counted.opened [DecidableEq τ] (h : Counted port hs)
    (hnew : port.portType.isDevice = true → t ∉ hs) (result : Int) :
    Counted (portOpen port result).2
      (if (portOpen port result).1 = true then insert t hs else hs) := by
  by_cases hd : port.portType.isDevice = true
  · have hexp : ∀ hs : Finset τ, expected port hs = hs.card := fun hs => if_pos hd
    have hcount := h.count_eq
    have hopen := h.open_of_held
    rw [hexp] at hcount hopen
    have hcard := Finset.card_insert_of_notMem (hnew hd)
    rw [portOpen_device hd]
    by_cases hen : port.enableRD = false
    · rw [if_pos hen]
      simpa using h
    rw [if_neg hen]
    by_cases hfd : 0 ≤ port.fd
    · rw [if_pos hfd, if_pos rfl]
      refine ⟨?_, fun _ => hfd, fun _ => hd⟩
      simp only [expected, hd, if_true, hcard]
      omega
    rw [if_neg hfd]
    have hnone : hs.card = 0 := by omega
    by_cases hres : result < 0
    · rw [if_pos hres, if_neg Bool.false_ne_true]
      refine ⟨?_, ?_, fun _ => hd⟩
      · simpa only [expected, hd, if_true] using hcount
      · simp only [expected, hd, if_true]
        omega
    · rw [if_neg hres, if_pos rfl]
      refine ⟨?_, fun _ => Int.not_lt.mp hres, fun _ => hd⟩
      simp only [expected, hd, if_true, hcard]
      omega
  · have hd' := Bool.eq_false_of_not_eq_true hd
    rw [portOpen_other hd' (h.closed hd')]
    exact h.other hd' _

lemma Counted.erased [DecidableEq τ] (h : Counted port hs)
    (hheld : port.portType.isDevice = true → t ∈ hs ∨ hs = ∅) :
    Counted (portClose port) (hs.erase t) := by
  by_cases hd : port.portType.isDevice = true
  · have hcount := h.count_eq
    have hopen := h.open_of_held
    simp only [expected, hd, if_true] at hcount hopen
    rcases hheld hd with ht | rfl
    · have hcard := Finset.card_erase_add_one ht
      have hfd : 0 ≤ port.fd := by omega
      unfold portClose
      rw [if_pos hfd]
      split_ifs with hlast
      · refine ⟨?_, ?_, fun _ => hd⟩
        · simp only [expected, hd, if_true]
          omega
        · simp only [expected, hd, if_true]
          omega
      · refine ⟨?_, fun _ => hfd, fun _ => hd⟩
        simp only [expected, hd, if_true]
        omega
    · have hzero : port.nClient = 0 := by simpa using hcount
      unfold portClose
      split_ifs with hfd hlast
      · exact ⟨by simp [expected], by simp [expected], fun _ => hd⟩
      · omega
      · exact ⟨by simp [expected, hzero], by simp [expected], fun _ => hd⟩
  · have hd' := Bool.eq_false_of_not_eq_true hd
    rw [portClose_of_closed (h.closed hd')]
    exact h.other hd' _

end Count

/-- What is known of a port that a thread at this stage, and no other, is reopening; or that nobody
is. -/
def During {π τ : Type} (port : PortFd) (hs : Finset τ) : TransStage π → Prop
  | .reopenSet _ nCount | .reopenRestore _ nCount =>
    nCount = expected port hs ∧ (0 ≤ port.fd → port.portType.isDevice = true)
  | .reopenClose _ nCount =>
    nCount = expected port hs ∧ port.nClient = 1 ∧ (0 ≤ port.fd → port.portType.isDevice = true)
  | .reopenOpen _ nCount _ => nCount = expected port hs ∧ port.fd < 0
  | _ => Counted port hs

lemma Counted.enable {τ : Type} {port : PortFd} {hs : Finset τ} (h : Counted port hs)
    (enableRD : Bool) : Counted { port with enableRD } hs :=
  ⟨h.count_eq, h.open_of_held, h.device_of_open⟩

lemma During.enable {π τ : Type} {port : PortFd} {hs : Finset τ} {stage : TransStage π}
    (h : During port hs stage) (enableRD : Bool) : During { port with enableRD } hs stage := by
  cases stage with
  | idle | openSrc | openDst | loop | closeSrc | closeDst => exact Counted.enable h enableRD
  | reopenSet _ _ | reopenClose _ _ | reopenOpen _ _ _ | reopenRestore _ _ => exact h

structure PortsInvariant {π τ : Type} (s : PortsState π τ) : Prop where
  alone : ∀ p t u, (s.threads t).stage.reopens = some p → (s.threads u).stage.reopens = some p →
    t = u
  resting : ∀ p, s.Resting p → Counted (s.ports p) (s.holders p)
  busy : ∀ p t, (s.threads t).stage.reopens = some p →
    During (s.ports p) (s.holders p) (s.threads t).stage

section Steps

variable {π τ : Type} {s s' : PortsState π τ} {t : τ} {p : π} {stage : TransStage π}

lemma during_of_not_reopens {port : PortFd} {hs : Finset τ} (h : stage.reopens = none) :
    During port hs stage ↔ Counted port hs := by
  cases stage with
  | idle | openSrc | openDst | loop | closeSrc | closeDst => rfl
  | reopenSet _ _ | reopenClose _ _ | reopenOpen _ _ _ | reopenRestore _ _ => cases h

lemma PortsInvariant.during (h : PortsInvariant s)
    (hothers : ∀ u, u ≠ t → (s.threads u).stage.reopens ≠ some p)
    (hstage : (s.threads t).stage.reopens = none ∨ (s.threads t).stage.reopens = some p) :
    During (s.ports p) (s.holders p) (s.threads t).stage := by
  rcases hstage with hnone | hsome
  · rw [during_of_not_reopens hnone]
    apply h.resting
    intro u
    by_cases hu : u = t
    · rw [hu, hnone]
      exact Option.some_ne_none p |>.symm
    · exact hothers u hu
  · exact h.busy p t hsome

lemma portsInvariant_init (types : π → PortType) (src dst : τ → π) :
    PortsInvariant (PortsState.init types src dst) where
  alone p t u h := by cases h
  resting p _ := by
    have hzero : expected (PortFd.init (types p)) (∅ : Finset τ) = 0 := by
      simp [expected]
    refine ⟨hzero.symm, ?_, fun hfd => absurd hfd (show ¬(0 : Int) ≤ -1 by decide)⟩
    intro hpos
    exact absurd hzero hpos.ne'
  busy p t h := by cases h

lemma PortsInvariant.frame (h : PortsInvariant s) (hports : s'.ports = s.ports)
    (hholders : s'.holders = s.holders)
    (hstage : ∀ u, (s'.threads u).stage = (s.threads u).stage ∨
      (s'.threads u).stage.reopens = none ∧ (s.threads u).stage.reopens = none) :
    PortsInvariant s' := by
  have hreopens : ∀ u, (s'.threads u).stage.reopens = (s.threads u).stage.reopens := by
    intro u
    rcases hstage u with heq | ⟨hnew, hold⟩
    · rw [heq]
    · rw [hnew, hold]
  refine ⟨?_, ?_, ?_⟩
  · intro q u v hu hv
    rw [hreopens] at hu hv
    exact h.alone q u v hu hv
  · intro q hq
    rw [hports, hholders]
    exact h.resting q (fun u => by rw [← hreopens]; exact hq u)
  · intro q u hu
    rw [hports, hholders]
    rcases hstage u with heq | ⟨hnew, -⟩
    · rw [heq] at hu ⊢
      exact h.busy q u hu
    · rw [hnew] at hu
      cases hu

lemma PortsInvariant.go [DecidableEq τ] (h : PortsInvariant s)
    (hold : (s.threads t).stage.reopens = none) (hnew : stage.reopens = none) :
    PortsInvariant (s.go t stage) := by
  refine h.frame rfl rfl ?_
  intro u
  by_cases hu : u = t
  · right
    rw [hu]
    simp [PortsState.go, hold, hnew]
  · left
    simp [PortsState.go, update_of_ne hu]

lemma PortsInvariant.redirect [DecidableEq τ] (h : PortsInvariant s) (t : τ) (p : π) :
    PortsInvariant
      { s with threads := update s.threads t { s.threads t with portDst := p } } := by
  refine h.frame rfl rfl ?_
  intro u
  left
  by_cases hu : u = t
  · rw [hu]
    simp
  · simp [update_of_ne hu]

lemma PortsInvariant.enable [DecidableEq π] (h : PortsInvariant s) (p : π) (enableRD : Bool) :
    PortsInvariant { s with ports := update s.ports p { s.ports p with enableRD } } := by
  have hport : ∀ q, ∃ b, (update s.ports p { s.ports p with enableRD }) q =
      { s.ports q with enableRD := b } := by
    intro q
    by_cases hq : q = p
    · exact ⟨enableRD, by rw [hq, update_self]⟩
    · exact ⟨(s.ports q).enableRD, update_of_ne hq ..⟩
  refine ⟨h.alone, ?_, ?_⟩
  · intro q hq
    obtain ⟨b, hb⟩ := hport q
    dsimp only at hb ⊢
    rw [hb]
    exact (h.resting q hq).enable b
  · intro q t ht
    obtain ⟨b, hb⟩ := hport q
    dsimp only at hb ⊢
    rw [hb]
    exact (h.busy q t ht).enable b

variable [DecidableEq π] [DecidableEq τ]

lemma go_eq_act (s : PortsState π τ) (t : τ) (stage : TransStage π) (p : π) :
    s.go t stage = s.act t stage p (s.ports p) (s.holders p) := by
  unfold PortsState.act PortsState.go
  rw [update_eq_self, update_eq_self]

section Act

variable (s : PortsState π τ) (t : τ) (stage : TransStage π) (p : π) (port : PortFd) (hs : Finset τ)

@[simp] lemma act_stage_self : ((s.act t stage p port hs).threads t).stage = stage := by
  simp [PortsState.act, PortsState.go]

@[simp] lemma act_ports_self : (s.act t stage p port hs).ports p = port := by
  simp [PortsState.act]

@[simp] lemma act_holders_self : (s.act t stage p port hs).holders p = hs := by
  simp [PortsState.act]

lemma act_threads_of_ne {u : τ} (hu : u ≠ t) :
    (s.act t stage p port hs).threads u = s.threads u := by
  simp [PortsState.act, PortsState.go, update_of_ne hu]

lemma act_ports_of_ne {q : π} (hq : q ≠ p) : (s.act t stage p port hs).ports q = s.ports q := by
  simp [PortsState.act, update_of_ne hq]

lemma act_holders_of_ne {q : π} (hq : q ≠ p) :
    (s.act t stage p port hs).holders q = s.holders q := by
  simp [PortsState.act, update_of_ne hq]

/-- On the other ports a thread that acts on `p` only reopens nothing, before and after. -/
lemma act_reopens_of_ne
    (hold : (s.threads t).stage.reopens = none ∨ (s.threads t).stage.reopens = some p)
    (hnew : stage.reopens = none ∨ stage.reopens = some p) {q : π} (hq : q ≠ p) (u : τ) :
    ((s.act t stage p port hs).threads u).stage.reopens = some q ↔
      (s.threads u).stage.reopens = some q := by
  have hno : ∀ {o : Option π}, o = none ∨ o = some p → o ≠ some q := by
    rintro o (rfl | rfl)
    · exact (Option.some_ne_none q).symm
    · exact fun h => hq (Option.some.inj h).symm
  by_cases hu : u = t
  · rw [hu, act_stage_self]
    exact iff_of_false (hno hnew) (hno hold)
  · rw [act_threads_of_ne s t stage p port hs hu]

end Act

lemma PortsInvariant.act (h : PortsInvariant s) {port : PortFd} {hs : Finset τ}
    (hothers : ∀ u, u ≠ t → (s.threads u).stage.reopens ≠ some p)
    (hold : (s.threads t).stage.reopens = none ∨ (s.threads t).stage.reopens = some p)
    (hnew : stage.reopens = none ∨ stage.reopens = some p)
    (hport : During (s.ports p) (s.holders p) (s.threads t).stage → During port hs stage) :
    PortsInvariant (s.act t stage p port hs) := by
  have hdur := hport (h.during hothers hold)
  have hkeep := fun {q : π} (hq : q ≠ p) => act_reopens_of_ne s t stage p port hs hold hnew hq
  have honly : ∀ u, ((s.act t stage p port hs).threads u).stage.reopens = some p → u = t := by
    intro u hu
    by_contra hut
    rw [act_threads_of_ne s t stage p port hs hut] at hu
    exact hothers u hut hu
  refine ⟨?_, ?_, ?_⟩
  · intro q u v hu hv
    by_cases hq : q = p
    · rw [hq] at hu hv
      rw [honly u hu, honly v hv]
    · exact h.alone q u v ((hkeep hq u).mp hu) ((hkeep hq v).mp hv)
  · intro q hrest
    by_cases hq : q = p
    · have hst := hrest t
      rw [hq, act_stage_self] at hst
      rw [hq, act_ports_self, act_holders_self]
      exact (during_of_not_reopens (hnew.resolve_right hst)).mp hdur
    · rw [act_ports_of_ne s t stage p port hs hq, act_holders_of_ne s t stage p port hs hq]
      exact h.resting q (fun u hu => hrest u ((hkeep hq u).mpr hu))
  · intro q u hu
    by_cases hq : q = p
    · rw [hq] at hu ⊢
      rw [honly u hu, act_stage_self, act_ports_self, act_holders_self]
      exact hdur
    · have hold' := (hkeep hq u).mp hu
      have hut : u ≠ t := by
        rintro rfl
        rcases hold with hnone | hsome
        · rw [hnone] at hold'
          cases hold'
        · exact hq (Option.some.inj (hold'.symm.trans hsome))
      rw [act_ports_of_ne s t stage p port hs hq, act_holders_of_ne s t stage p port hs hq,
        act_threads_of_ne s t stage p port hs hut]
      exact h.busy q u hold'

lemma PortsInvariant.openPort (h : PortsInvariant s) (hmay : s.MayOpen t p)
    (hstage : (s.threads t).stage.reopens = none) {yes no : TransStage π}
    (hyes : yes.reopens = none) (hno : no.reopens = none) (result : Int) :
    PortsInvariant (s.openPort t p result yes no) := by
  have hcounted := (h.resting p hmay.1).opened hmay.2 result
  unfold PortsState.openPort
  rcases hopen : portOpen (s.ports p) result with ⟨ok, port⟩
  rw [hopen] at hcounted
  cases ok with
  | true =>
    refine h.act (fun u _ => hmay.1 u) (.inl hstage) (.inl hyes) ?_
    intro _
    exact (during_of_not_reopens hyes).mpr (by simpa using hcounted)
  | false =>
    refine h.act (fun u _ => hmay.1 u) (.inl hstage) (.inl hno) ?_
    intro _
    exact (during_of_not_reopens hno).mpr (by simpa using hcounted)

lemma PortsInvariant.closePort (h : PortsInvariant s) (hmay : s.MayClose t p)
    (hstage : (s.threads t).stage.reopens = none) {next : TransStage π}
    (hnext : next.reopens = none) : PortsInvariant (s.closePort t p next) := by
  refine h.act (fun u _ => hmay.1 u) (.inl hstage) (.inl hnext) ?_
  intro _
  exact (during_of_not_reopens hnext).mpr ((h.resting p hmay.1).erased hmay.2)

lemma PortsInvariant.reopening (h : PortsInvariant s) {port : PortFd}
    (hold : (s.threads t).stage.reopens = some p)
    (hnew : stage.reopens = none ∨ stage.reopens = some p)
    (hport : During (s.ports p) (s.holders p) (s.threads t).stage →
      During port (s.holders p) stage) :
    PortsInvariant (s.act t stage p port (s.holders p)) := by
  refine h.act ?_ (.inr hold) hnew hport
  intro u hu hreopens
  exact hu (h.alone p u t hreopens hold)

lemma PortsInvariant.tryOpen (h : PortsInvariant s) {nCount second : Int}
    (hst : (s.threads t).stage = .reopenOpen p nCount second) (result : Int) :
    ((portOpen (s.ports p) result).1 = true → PortsInvariant
      (s.act t (.reopenRestore p nCount) p (portOpen (s.ports p) result).2 (s.holders p))) ∧
    ((portOpen (s.ports p) result).1 = false → PortsInvariant
      (s.act t (.reopenOpen p nCount (second - 1)) p (portOpen (s.ports p) result).2
        (s.holders p))) := by
  have hself : (s.threads t).stage.reopens = some p := by
    rw [hst]
    rfl
  constructor
  · intro _
    refine h.reopening hself (.inr rfl) ?_
    rw [hst]
    rintro ⟨hcount, hclosed⟩
    refine ⟨by rw [expected_portOpen, hcount], ?_⟩
    rw [portOpen_portType]
    exact portOpen_closed hclosed result
  · intro hfail
    refine h.reopening hself (.inr rfl) ?_
    rw [hst]
    rintro ⟨hcount, hclosed⟩
    exact ⟨by rw [expected_portOpen, hcount], portOpen_failed hclosed result hfail⟩

lemma transNext_keeps {result : Int} (h : PortsInvariant s)
    (hok : s.OrderlyAt t (s.threads t).stage) (hstep : transNext s t result = some s') :
    PortsInvariant s' := by
  unfold PortsState.OrderlyAt at hok
  unfold transNext at hstep
  cases hst : (s.threads t).stage with
  | idle | loop => simp [hst] at hstep
  | openSrc =>
    simp only [hst, Option.some.injEq] at hok hstep
    rw [← hstep]
    exact h.openPort hok (by rw [hst]; rfl) rfl rfl result
  | openDst =>
    simp only [hst, Option.some.injEq] at hok hstep
    rw [← hstep]
    exact h.openPort hok (by rw [hst]; rfl) rfl rfl result
  | reopenSet p nCount =>
    simp only [hst, Option.some.injEq] at hstep
    rw [← hstep]
    refine h.reopening (by rw [hst]; rfl) (.inr rfl) ?_
    rw [hst]
    rintro ⟨hcount, hdev⟩
    exact ⟨hcount, rfl, hdev⟩
  | reopenClose p nCount =>
    simp only [hst, Option.some.injEq] at hstep
    rw [← hstep]
    refine h.reopening (by rw [hst]; rfl) (.inr rfl) ?_
    rw [hst]
    rintro ⟨hcount, hone, -⟩
    exact ⟨by rw [expected_portClose, hcount], portClose_fd_of_one hone⟩
  | reopenOpen p nCount second =>
    simp only [hst] at hstep
    obtain ⟨hyes, hno⟩ := h.tryOpen hst result
    split_ifs at hstep
    · rcases hopen : portOpen (s.ports p) result with ⟨ok, port⟩
      rw [hopen] at hstep
      rw [hopen] at hyes hno
      cases ok with
      | true =>
        cases hstep
        exact hyes rfl
      | false =>
        cases hstep
        exact hno rfl
    · cases hstep
      rw [go_eq_act s t _ p]
      refine h.reopening (by rw [hst]; rfl) (.inr rfl) ?_
      rw [hst]
      rintro ⟨hcount, hclosed⟩
      exact ⟨hcount, fun hfd => absurd hfd (Int.not_le.mpr hclosed)⟩
  | reopenRestore p nCount =>
    simp only [hst, Option.some.injEq] at hok hstep
    rw [← hstep]
    refine h.reopening (by rw [hst]; rfl) (.inl rfl) ?_
    rw [hst]
    rintro ⟨hcount, hdev⟩
    refine ⟨hcount, ?_, hdev⟩
    intro hpos
    have hd : (s.ports p).portType.isDevice = true := by
      by_contra hd
      simp [expected, hd] at hpos
    rcases hok hd with hfd | hnone
    · exact hfd
    · simp [expected, hd, hnone] at hpos
  | closeSrc =>
    simp only [hst, Option.some.injEq] at hok hstep
    rw [← hstep]
    exact h.closePort hok (by rw [hst]; rfl) rfl
  | closeDst =>
    simp only [hst, Option.some.injEq] at hok hstep
    rw [← hstep]
    exact h.closePort hok (by rw [hst]; rfl) rfl

lemma portNext_keeps {ev : PortEvent π τ} (h : PortsInvariant s) (hok : Orderly s ev)
    (hstep : portNext s ev = some s') : PortsInvariant s' := by
  cases ev with
  | start t =>
    simp only [portNext] at hstep
    split_ifs at hstep with hst
    cases hstep
    exact h.go (by rw [hst]; rfl) rfl
  | step t result => exact transNext_keeps h hok hstep
  | fault t p =>
    simp only [portNext] at hstep
    split_ifs at hstep with hst
    cases hstep
    have hrest : s.Resting p := hok
    rw [go_eq_act s t _ p]
    refine h.act (fun u _ => hrest u) (.inl (by rw [hst.1]; rfl)) (.inr rfl) ?_
    intro _
    have hcounted := h.resting p hrest
    exact ⟨hcounted.count_eq, hcounted.device_of_open⟩
  | endLoop t =>
    simp only [portNext] at hstep
    split_ifs at hstep with hst
    cases hstep
    exact h.go (by rw [hst]; rfl) rfl
  | redirect t p =>
    cases hstep
    exact h.redirect t p
  | enable p enableRD =>
    cases hstep
    exact h.enable p enableRD

/-- In every run of orderly steps, with any number of threads: the counter of an open port that
nobody is reopening is the number of threads that have it open, and no port is without its
descriptor while one has. -/
theorem client_count_exact [Fintype τ] (types : π → PortType) (src dst : τ → π)
    (s : PortsState π τ)
    (h : Reachable (guarded portNext Orderly) (PortsState.init types src dst) s) (p : π)
    (hrest : s.Resting p) :
    (0 ≤ (s.ports p).fd → (s.ports p).nClient = (s.holders p).card) ∧
    ((s.ports p).portType.isDevice = true → (s.holders p).Nonempty → 0 ≤ (s.ports p).fd) := by
  have hinv : PortsInvariant s := by
    apply h.invariant_guarded (portsInvariant_init types src dst)
    intro s ev s' hs hok hstep
    exact portNext_keeps hs hok hstep
  have hcounted := hinv.resting p hrest
  constructor
  · intro hfd
    rw [hcounted.count_eq, expected, if_pos (hcounted.device_of_open hfd)]
  · intro hd hheld
    apply hcounted.open_of_held
    rw [expected, if_pos hd]
    exact_mod_cast hheld.card_pos

end Steps

/-- Ports 0 and 1 are the sources of the two threads, port 2 the destination of both. -/
def twoThreads : PortsState Nat Bool :=
  .init (fun _ => .vser) (fun t => if t then 1 else 0) (fun _ => 2)

/-- Both threads open their ports; the first one reopens the destination; the second ends. -/
def orderlySteps : List (PortEvent Nat Bool) :=
  [.start false, .step false 5, .step false 6, .start true, .step true 7, .step true 0,
    .fault false 2, .step false 0, .step false 0, .step false (-1), .step false 8, .step false 0,
    .endLoop true, .step true 0, .step true 0]

def orderlyState : PortsState Nat Bool :=
  (replay (guarded portNext Orderly) twoThreads orderlySteps).getD twoThreads

theorem client_count_exact_two :
    (orderlyState.ports 2).nClient = (orderlyState.holders 2).card ∧
    0 ≤ (orderlyState.ports 2).fd := by
  have hreach : Reachable (guarded portNext Orderly) twoThreads orderlyState :=
    reachable_of_replay (l := orderlySteps) rfl
  obtain ⟨hcount, hopen⟩ :=
    client_count_exact (fun _ => .vser) _ _ orderlyState hreach 2 (by decide)
  have hfd := hopen rfl ⟨false, by decide⟩
  exact ⟨hcount hfd, hfd⟩

/-- The second thread cannot open the destination and goes on; the first opens it; the second ends
and closes it. -/
def stealingSteps : List (PortEvent Nat Bool) :=
  [.start true, .step true 5, .step true (-1), .start false, .step false 6, .step false 7,
    .endLoop true, .step true 0, .step true 0]

def stolenState : PortsState Nat Bool :=
  (replay portNext twoThreads stealingSteps).getD twoThreads

/-- The port is closed while the first thread has it open. -/
theorem client_count_stolen :
    Reachable portNext twoThreads stolenState ∧
    (∀ t, (stolenState.threads t).stage = if t then .idle else .loop) ∧
    false ∈ stolenState.holders 2 ∧ (stolenState.ports 2).fd = -1 :=
  ⟨reachable_of_replay (l := stealingSteps) rfl, by decide, by decide, rfl⟩

end EngPc
