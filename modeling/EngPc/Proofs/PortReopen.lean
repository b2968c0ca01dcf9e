import EngPc.Model.PortReopen

/-!
# The answer of `reopen`

The counter of the loop has been decremented once more when an attempt succeeds, so a success in the
last one is taken for a failure.
-/

namespace EngPc

/-- `open` answers 0 for a port that is closed, if the last `::open` returns `result`. -/
def PortFd.Opens (port : PortFd) (result : Int) : Prop :=
  port.enableRD = true ∧ port.portType ≠ .unknown ∧ (port.portType.isDevice = true → 0 ≤ result)

instance (port : PortFd) (result : Int) : Decidable (port.Opens result) :=
  inferInstanceAs (Decidable (_ ∧ _ ∧ (_ → _)))

/-- The port is open. One that has no descriptor is as open as it ever is while `open` accepts it. -/
def PortFd.IsOpen (port : PortFd) : Prop :=
  if port.portType.isDevice = true then 0 ≤ port.fd
  else port.enableRD = true ∧ port.portType ≠ .unknown

instance (port : PortFd) : Decidable port.IsOpen := inferInstanceAs (Decidable (ite _ _ _))

/-- The part of a port that opening and closing leave. -/
def PortFd.SameKind (port port' : PortFd) : Prop :=
  port'.portType = port.portType ∧ port'.enableRD = port.enableRD

lemma PortFd.SameKind.opens_iff {port port' : PortFd} (h : port.SameKind port') (result : Int) :
    port'.Opens result ↔ port.Opens result := by
  unfold PortFd.Opens
  rw [h.1, h.2]

lemma portClose_closes (port : PortFd) :
    port.SameKind (portClose { port with nClient := 1 }) ∧
      (portClose { port with nClient := 1 }).fd < 0 := by
  unfold portClose
  dsimp only
  by_cases hfd : 0 ≤ port.fd
  · rw [if_pos hfd, if_pos (by decide)]
    exact ⟨⟨rfl, rfl⟩, neg_one_lt_zero⟩
  · rw [if_neg hfd]
    exact ⟨⟨rfl, rfl⟩, not_le.mp hfd⟩

lemma portOpen_sameKind (port : PortFd) (result : Int) :
    port.SameKind (portOpen port result).2 := by
  unfold portOpen
  split_ifs <;> exact ⟨rfl, rfl⟩

lemma portOpen_attempt {port : PortFd} (hfd : port.fd < 0) (result : Int) :
    ((portOpen port result).1 = true ↔ port.Opens result) ∧
      ((portOpen port result).1 = true ↔ (portOpen port result).2.IsOpen) ∧
      ((portOpen port result).1 = false → (portOpen port result).2.fd < 0) := by
  have hopen : ¬0 ≤ port.fd := not_le.mpr hfd
  unfold portOpen PortFd.Opens PortFd.IsOpen
  by_cases hrd : port.enableRD = false
  · cases ht : port.portType <;> simp [hrd, ht, hfd, PortType.isDevice]
  · have hrd' : port.enableRD = true := by simpa using hrd
    by_cases hresult : result < 0
    · cases ht : port.portType <;> simp [hrd', ht, hfd, hopen, hresult, PortType.isDevice]
    · have hle : 0 ≤ result := not_lt.mp hresult
      cases ht : port.portType <;> simp [hrd', ht, hfd, hopen, hresult, hle, PortType.isDevice]

variable {port : PortFd}

/-- A round ends the loop with the port open, or leaves the port closed for the next one. -/
lemma reopenLoop_succ (hfd : port.fd < 0) (n : Nat) (results : Nat → Int) :
    (port.Opens (results 0) ∧ (reopenLoop (n + 1) results port).1 = n ∧
      (reopenLoop (n + 1) results port).2.IsOpen) ∨
    (¬port.Opens (results 0) ∧ ∃ port', port.SameKind port' ∧ port'.fd < 0 ∧ ¬port'.IsOpen ∧
      reopenLoop (n + 1) results port = reopenLoop n (fun k => results (k + 1)) port') := by
  obtain ⟨hopens, hisOpen, hclosed⟩ := portOpen_attempt hfd (results 0)
  have hkind := portOpen_sameKind port (results 0)
  rw [reopenLoop]
  cases h : portOpen port (results 0) with
  | mk ok port' =>
    rw [h] at hopens hisOpen hclosed hkind
    cases ok with
    | true => exact .inl ⟨hopens.mp rfl, rfl, hisOpen.mp rfl⟩
    | false =>
      have hzero : ¬port.Opens (results 0) := fun h => absurd (hopens.mpr h) Bool.false_ne_true
      have hnot : ¬port'.IsOpen := fun h => absurd (hisOpen.mpr h) Bool.false_ne_true
      exact .inr ⟨hzero, port', hkind, hclosed rfl, hnot, rfl⟩

/-- The counter is still positive when an attempt before the last one succeeds. -/
lemma reopenLoop_pos_iff (hfd : port.fd < 0) (n : Nat) (results : Nat → Int) :
    0 < (reopenLoop (n + 1) results port).1 ↔ ∃ k < n, port.Opens (results k) := by
  induction n generalizing results port with
  | zero =>
    obtain ⟨-, hret, -⟩ | ⟨-, port', -, -, -, hloop⟩ := reopenLoop_succ hfd 0 results
    · simp [hret]
    · rw [hloop]
      simp [reopenLoop]
  | succ n ih =>
    rw [Nat.exists_lt_succ_left]
    obtain ⟨hzero, hret, -⟩ | ⟨hzero, port', hkind, hfd', -, hloop⟩ :=
      reopenLoop_succ hfd (n + 1) results
    · rw [hret]
      exact iff_of_true (Int.natCast_pos.mpr n.succ_pos) (.inl hzero)
    · rw [hloop, ih hfd', or_iff_right hzero]
      simp only [hkind.opens_iff]

/-- The port is open after the loop if one of the attempts succeeds. -/
lemma reopenLoop_isOpen_iff (hfd : port.fd < 0) (n : Nat) (results : Nat → Int) :
    (reopenLoop (n + 1) results port).2.IsOpen ↔ ∃ k < n + 1, port.Opens (results k) := by
  induction n generalizing results port with
  | zero =>
    rw [Nat.exists_lt_succ_left]
    obtain ⟨hzero, -, hopen⟩ | ⟨hzero, port', -, -, hnot, hloop⟩ := reopenLoop_succ hfd 0 results
    · exact iff_of_true hopen (.inl hzero)
    · rw [hloop, or_iff_right hzero]
      exact iff_of_false hnot fun ⟨k, hk, _⟩ => Nat.not_lt_zero k hk
  | succ n ih =>
    rw [Nat.exists_lt_succ_left]
    obtain ⟨hzero, -, hopen⟩ | ⟨hzero, port', hkind, hfd', -, hloop⟩ :=
      reopenLoop_succ hfd (n + 1) results
    · exact iff_of_true hopen (.inl hzero)
    · rw [hloop, ih hfd', or_iff_right hzero]
      simp only [hkind.opens_iff]

/-- What `reopen` is to do: it answers 0 for a port that it leaves open, and notifies then; the
count of clients stays. -/
structure ReopensRight (port : PortFd) (r : Reopened) : Prop where
  ret_eq : r.ret = 0 ↔ r.port.IsOpen
  nClient_eq : r.port.nClient = port.nClient
  sent_eq : r.sent = if r.ret = 0 then [msgNotifyUpdateFd] else []

/-- **A success is reported unless it is that of the last attempt**, for every number of attempts
and every pattern. -/
theorem reopen_right_iff (port : PortFd) (n : Nat) (results : Nat → Int) :
    ReopensRight port (portReopen port (n + 1) results) ↔
      (∃ k < n, port.Opens (results k)) ∨ ¬port.Opens (results n) := by
  obtain ⟨hkind, hfd⟩ := portClose_closes port
  have hret : (portReopen port (n + 1) results).ret = 0 ↔ ∃ k < n, port.Opens (results k) := by
    have hpos := reopenLoop_pos_iff hfd n results
    simp only [hkind.opens_iff] at hpos
    rw [← hpos, portReopen]
    dsimp only
    split_ifs with h
    · simp [h]
    · simp [h]
  have hisOpen : (portReopen port (n + 1) results).port.IsOpen ↔
      ∃ k ≤ n, port.Opens (results k) := by
    have hloop := reopenLoop_isOpen_iff hfd n results
    simp only [hkind.opens_iff, Nat.lt_succ_iff] at hloop
    exact hloop
  constructor
  · intro h
    by_cases hlast : port.Opens (results n)
    · exact .inl (hret.mp (h.ret_eq.mpr (hisOpen.mpr ⟨n, le_rfl, hlast⟩)))
    · exact .inr hlast
  · intro h
    constructor
    · rw [hret, hisOpen]
      constructor
      · rintro ⟨k, hk, hopen⟩
        exact ⟨k, hk.le, hopen⟩
      · rintro ⟨k, hk, hopen⟩
        cases hk.lt_or_eq with
        | inl hlt => exact ⟨k, hlt, hopen⟩
        | inr heq => exact h.resolve_right (not_not.mpr (heq ▸ hopen))
    · rfl
    · rw [portReopen]
      dsimp only
      split_ifs <;> simp_all

/-- One attempt, which succeeds: the port is open, and the answer is -1. -/
theorem reopen_last_attempt :
    ¬ReopensRight ⟨.com, true, 7, 2⟩ (portReopen ⟨.com, true, 7, 2⟩ 1 fun _ => 8) := by
  intro h
  exact absurd (h.ret_eq.mpr (by decide)) (by decide)

end EngPc
