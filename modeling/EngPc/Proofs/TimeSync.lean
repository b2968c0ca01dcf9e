import EngPc.Lib.Machine
import EngPc.Model.TimeSync
import Mathlib.Data.List.Nodup
import Mathlib.Data.List.Perm.Subperm

/-!
# The connection table

The connected servers sit in the first entries of the table in the order in which they came, as
long as only the last of them leaves.
-/

namespace EngPc
open Buffer

/-- Each connected socket has one of the first `total_conn` entries and its index, the other entries
are free, and the branch that reads an entry is the one of its socket. -/
structure TableOk (t : ConnTable) : Prop where
  seat : ∀ s fd, (t.conn s).fd = some fd → ∃ i, i < t.totalConn ∧ (t.conn s).index = some i ∧
    t.fds i = some fd ∧ ∀ j, j < fdsSize → t.fds j = some fd → j = i
  beyond : ∀ i, t.totalConn ≤ i → i < fdsSize → t.fds i = none
  total : t.totalConn =
    ([SyncServer.modemd, .refnotify].filter fun s => (t.conn s).fd.isSome).length
  branch : ∀ i, i < t.totalConn → ∃ s fd, t.branch i = some s ∧ (t.conn s).fd = some fd ∧
    t.fds i = some fd

/-- At `poll` the table is in order, and what is read goes to the branch of its server. -/
def TimesyncFine (out : TimesyncOut) : Prop :=
  ∀ t, out.atPoll = some t → TableOk t ∧
    ∀ r ∈ out.reads, ∃ fd, r.fd = some fd ∧ (t.conn r.server).fd = some fd

/-- The socket of a server after the attempts to connect. -/
def fdAfter (s : TimesyncState) (e : TimesyncRound) (server : SyncServer) : Option Nat :=
  (s.table.conn server).fd.or (e.client server)

/-- Two open sockets have two descriptors. -/
def ClientsDiffer (s : TimesyncState) (e : TimesyncRound) : Prop :=
  fdAfter s e .modemd = fdAfter s e .refnotify → fdAfter s e .modemd = none

/-- Only the last entry is closed; and the time server does not connect while modemd is away and
has left the first entry. -/
structure KeepsSeats (s : TimesyncState) (e : TimesyncRound) : Prop where
  last : (fdAfter s e .modemd).isSome = true → (fdAfter s e .refnotify).isSome = true →
    e.reads 0 ≠ some .closed
  stale : fdAfter s e .modemd = none → s.table.refnotify.fd = none →
    (e.client .refnotify).isSome = true → s.table.modemd.index ≠ some 0

namespace ConnTable

variable (t : ConnTable) (c : SocketConnection) (s : SyncServer)

@[simp] lemma fds_setConn : (t.setConn c s).fds = t.fds := by cases s <;> rfl

@[simp] lemma totalConn_setConn : (t.setConn c s).totalConn = t.totalConn := by cases s <;> rfl

@[simp] lemma conn_setConn_same : (t.setConn c s).conn s = c := by cases s <;> rfl

lemma conn_setConn_ne {s s' : SyncServer} (h : s' ≠ s) : (t.setConn c s).conn s' = t.conn s' := by
  cases s <;> cases s' <;> first | rfl | exact absurd rfl h

end ConnTable

/-- The connection has used up its attempts. -/
def SocketConnection.Exhausted (c : SocketConnection) : Prop :=
  c.maxRetry ≠ 0 ∧ c.maxRetry < c.tryNum

instance (c : SocketConnection) : Decidable c.Exhausted := inferInstanceAs (Decidable (_ ∧ _))

lemma tryConnect_none (len : Nat) (s : SyncServer) (t : ConnTable) :
    tryConnect len s t none = if (t.conn s).Exhausted then t
      else t.setConn { t.conn s with fd := none, tryNum := (t.conn s).tryNum + 1 } s := rfl

lemma tryConnect_some (len : Nat) (s : SyncServer) (t : ConnTable) (fd : Nat) :
    tryConnect len s t (some fd) = if (t.conn s).Exhausted then t
      else (addConnection len t fd).1.setConn
        ⟨some fd, (addConnection len t fd).2, (t.conn s).maxRetry, 0⟩ s := rfl

lemma firstFree_eq {fds : Buffer (Option Nat)} {i n k : Nat} (hi : i ≤ k) (hk : k ≤ i + n)
    (hused : ∀ j, i ≤ j → j < k → fds j ≠ none) (hfree : k < i + n → fds k = none) :
    firstFree fds i n = k := by
  induction n generalizing i with
  | zero =>
    rw [firstFree]
    omega
  | succ n ih =>
    rw [firstFree]
    by_cases heq : i = k
    · rw [heq, if_pos (hfree (by omega))]
    · rw [if_neg (hused i (Nat.le_refl i) (by omega))]
      apply ih
      · omega
      · omega
      · intro j hj hjk
        exact hused j (by omega) hjk
      · intro hlt
        exact hfree (by omega)

lemma tryConnect_other (len : Nat) {s s' : SyncServer} (hne : s' ≠ s) (t : ConnTable)
    (client : Option Nat) : (tryConnect len s t client).conn s' = t.conn s' := by
  have hadd : ∀ fd, (addConnection len t fd).1.conn s' = t.conn s' := by
    intro fd
    rw [addConnection]
    split_ifs <;> cases s' <;> rfl
  cases client with
  | none =>
    rw [tryConnect_none]
    split_ifs
    · rfl
    · exact ConnTable.conn_setConn_ne t _ hne
  | some fd =>
    rw [tryConnect_some]
    split_ifs
    · rfl
    · exact (ConnTable.conn_setConn_ne _ _ hne).trans (hadd fd)

lemma reconnect_other {s s' : SyncServer} (hne : s' ≠ s) (t : ConnTable) (client : Option Nat) :
    (t.reconnect s client).conn s' = t.conn s' := by
  rw [ConnTable.reconnect]
  split_ifs
  · exact tryConnect_other fdsSize hne t client
  · rfl

lemma reconnect_index (t : ConnTable) (s : SyncServer) :
    ((t.reconnect s none).conn s).index = (t.conn s).index := by
  rw [ConnTable.reconnect, tryConnect_none]
  split_ifs <;> simp

/-- The servers of `order` are connected, each in the entry that is its place there. A stale index
of modemd points to none of these entries, for its branch is looked at first. -/
structure Seated (t : ConnTable) (order : List SyncServer) : Prop where
  nodup : order.Nodup
  total : t.totalConn = order.length
  connected : ∀ s, (t.conn s).fd ≠ none ↔ s ∈ order
  index : ∀ i s, order[i]? = some s → (t.conn s).index = some i
  entry : ∀ i, i < fdsSize → t.fds i = order[i]?.bind fun s => (t.conn s).fd
  stale : SyncServer.modemd ∉ order → ∀ i, i < order.length → t.modemd.index ≠ some i
  distinct : t.modemd.fd = t.refnotify.fd → t.modemd.fd = none
  retry : ∀ s, (t.conn s).maxRetry = 0

lemma seated_init : Seated .init [] where
  nodup := List.nodup_nil
  total := rfl
  connected s := by cases s <;> simp [ConnTable.init, ConnTable.conn, SocketConnection.init]
  index i s h := by simp at h
  entry i _ := rfl
  stale _ i h := absurd h (Nat.not_lt_zero i)
  distinct _ := rfl
  retry s := by cases s <;> rfl

lemma order_length {order : List SyncServer} (h : order.Nodup) : order.length ≤ fdsSize := by
  have hsub : order ⊆ [.modemd, .refnotify] := fun s _ => by cases s <;> simp
  exact (List.subperm_of_subset h hsub).length_le

namespace Seated

variable {t : ConnTable} {order : List SyncServer} (h : Seated t order)

include h

lemma entry_used {i : Nat} (hi : i < order.length) : t.fds i ≠ none := by
  have hlt : i < fdsSize := lt_of_lt_of_le hi (order_length h.nodup)
  rw [h.entry i hlt, List.getElem?_eq_getElem hi]
  exact (h.connected _).mpr (List.getElem_mem hi)

lemma entry_free {i : Nat} (hi : order.length ≤ i) (hlt : i < fdsSize) : t.fds i = none := by
  rw [h.entry i hlt, List.getElem?_eq_none hi]
  rfl

lemma firstFree_eq_length : firstFree t.fds 0 fdsSize = order.length := by
  apply firstFree_eq
  · exact Nat.zero_le _
  · rw [Nat.zero_add]
    exact order_length h.nodup
  · intro j _ hj
    exact h.entry_used hj
  · intro hlt
    exact h.entry_free (Nat.le_refl _) (by omega)

lemma not_exhausted (s : SyncServer) : ¬(t.conn s).Exhausted := fun hbad => hbad.1 (h.retry s)

lemma collate : fdsCollate fdsSize t = t := by
  rw [fdsCollate, h.firstFree_eq_length]
  by_cases hzero : order.length = 0
  · have hfree : t.fds 1 = none := h.entry_free (by omega) (by decide)
    rw [hzero]
    change collateLoop 1 0 1 t = t
    rw [collateLoop, hfree, collateLoop]
  · have hsize : fdsSize = 2 := rfl
    exact if_pos (by omega)

lemma reconnect_some {s : SyncServer} (hfd : (t.conn s).fd = none) (fd : Nat)
    (hlt : order.length < fdsSize) :
    t.reconnect s (some fd) = ConnTable.setConn
      { t with fds := t.fds.store order.length (some fd), totalConn := t.totalConn + 1 }
      ⟨some fd, some order.length, (t.conn s).maxRetry, 0⟩ s := by
  rw [ConnTable.reconnect, if_pos hfd, tryConnect_some, if_neg (h.not_exhausted s), addConnection,
    h.firstFree_eq_length]
  simp only [if_pos hlt]

lemma add (s : SyncServer) (hs : s ∉ order) (fd : Nat)
    (hdiff : ∀ s', s' ≠ s → (t.conn s').fd ≠ some fd)
    (hstale : s = .refnotify → SyncServer.modemd ∉ order → t.modemd.index ≠ some order.length) :
    Seated (t.reconnect s (some fd)) (order ++ [s]) := by
  have hfd : (t.conn s).fd = none := not_not.mp (mt (h.connected s).mp hs)
  have hnodup : (order ++ [s]).Nodup := by
    rw [← List.concat_eq_append]
    exact h.nodup.concat hs
  have hlt : order.length < fdsSize := by
    have hle := order_length hnodup
    rw [List.length_append] at hle
    exact hle
  have heq := h.reconnect_some hfd fd hlt
  have hsame : (t.reconnect s (some fd)).conn s =
      ⟨some fd, some order.length, (t.conn s).maxRetry, 0⟩ := by
    rw [heq, ConnTable.conn_setConn_same]
  have hother : ∀ s', s' ≠ s → (t.reconnect s (some fd)).conn s' = t.conn s' :=
    fun s' hne => reconnect_other hne t (some fd)
  have hmem : ∀ s', s' ∈ order → s' ≠ s := fun s' hs' hne => hs (hne ▸ hs')
  constructor
  case nodup =>
    exact hnodup
  case total =>
    rw [heq, ConnTable.totalConn_setConn, List.length_append, h.total]
    rfl
  case connected =>
    intro s'
    by_cases hne : s' = s
    · rw [hne, hsame]
      simp
    · rw [hother s' hne, h.connected s']
      simp [hne]
  case index =>
    intro i s' hi
    rcases Nat.lt_or_ge i order.length with hi' | hi'
    · rw [List.getElem?_append_left hi'] at hi
      rw [hother s' (hmem s' (List.mem_of_getElem? hi))]
      exact h.index i s' hi
    · have hlen := (List.getElem?_eq_some_iff.mp hi).1
      rw [List.length_append, List.length_singleton] at hlen
      obtain rfl : i = order.length := by omega
      rw [List.getElem?_concat_length] at hi
      obtain rfl := Option.some.inj hi
      rw [hsame]
  case entry =>
    intro i hi
    have hfds : (t.reconnect s (some fd)).fds = t.fds.store order.length (some fd) := by
      rw [heq, ConnTable.fds_setConn]
    rw [hfds]
    rcases Nat.lt_trichotomy i order.length with hi' | rfl | hi'
    · rw [store_ne _ _ (by omega), h.entry i hi, List.getElem?_append_left hi',
        List.getElem?_eq_getElem hi', Option.bind_some, Option.bind_some,
        hother _ (hmem _ (List.getElem_mem hi'))]
    · rw [store_same, List.getElem?_concat_length, Option.bind_some, hsame]
    · rw [store_ne _ _ (by omega), h.entry_free (by omega) hi,
        List.getElem?_eq_none (by rw [List.length_append]; exact hi'), Option.bind_none]
  case stale =>
    intro hmodemd i hi
    obtain rfl : s = .refnotify := by
      cases s
      · simp at hmodemd
      · rfl
    have hnot : SyncServer.modemd ∉ order := fun hbad => hmodemd (List.mem_append_left _ hbad)
    have hkeep : (t.reconnect .refnotify (some fd)).modemd = t.modemd :=
      hother .modemd (by decide)
    rw [hkeep]
    rw [List.length_append] at hi
    rcases Nat.lt_or_ge i order.length with hi' | hi'
    · exact h.stale hnot i hi'
    · have hlen : i = order.length := by
        have hone : [SyncServer.refnotify].length = 1 := rfl
        omega
      rw [hlen]
      exact hstale rfl hnot
  case distinct =>
    intro hsome
    exfalso
    cases s with
    | modemd =>
      have hkeep : (t.reconnect .modemd (some fd)).refnotify = t.refnotify :=
        hother .refnotify (by decide)
      rw [hkeep] at hsome
      exact hdiff .refnotify (by decide) (hsome.symm.trans (congrArg SocketConnection.fd hsame))
    | refnotify =>
      have hkeep : (t.reconnect .refnotify (some fd)).modemd = t.modemd :=
        hother .modemd (by decide)
      rw [hkeep] at hsome
      exact hdiff .modemd (by decide) (hsome.trans (congrArg SocketConnection.fd hsame))
  case retry =>
    intro s'
    by_cases hne : s' = s
    · rw [hne, hsame]
      exact h.retry s
    · rw [hother s' hne]
      exact h.retry s'

lemma setTryNum (s : SyncServer) (n : Nat) :
    Seated (t.setConn { t.conn s with tryNum := n } s) order := by
  have hconn : ∀ s', ∃ m, (t.setConn { t.conn s with tryNum := n } s).conn s' =
      { t.conn s' with tryNum := m } := by
    intro s'
    by_cases hne : s' = s
    · exact ⟨n, by rw [hne, ConnTable.conn_setConn_same]⟩
    · exact ⟨_, ConnTable.conn_setConn_ne t _ hne⟩
  have hfd : ∀ s', ((t.setConn { t.conn s with tryNum := n } s).conn s').fd = (t.conn s').fd := by
    intro s'
    obtain ⟨m, hm⟩ := hconn s'
    rw [hm]
  have hindex : ∀ s', ((t.setConn { t.conn s with tryNum := n } s).conn s').index =
      (t.conn s').index := by
    intro s'
    obtain ⟨m, hm⟩ := hconn s'
    rw [hm]
  constructor
  case nodup =>
    exact h.nodup
  case total =>
    rw [ConnTable.totalConn_setConn]
    exact h.total
  case connected =>
    intro s'
    rw [hfd]
    exact h.connected s'
  case index =>
    intro i s' hi
    rw [hindex]
    exact h.index i s' hi
  case entry =>
    intro i hi
    simp only [hfd, ConnTable.fds_setConn]
    exact h.entry i hi
  case stale =>
    intro hnot i hi
    exact (hindex .modemd).trans_ne (h.stale hnot i hi)
  case distinct =>
    intro heq
    exact (hfd .modemd).trans (h.distinct (((hfd .modemd).symm.trans heq).trans (hfd .refnotify)))
  case retry =>
    intro s'
    obtain ⟨m, hm⟩ := hconn s'
    rw [hm]
    exact h.retry s'

lemma keep (s : SyncServer) (client : Option Nat)
    (hnone : client = none ∨ (t.conn s).fd ≠ none) : Seated (t.reconnect s client) order := by
  by_cases hfd : (t.conn s).fd = none
  · obtain rfl : client = none := hnone.resolve_right (not_not_intro hfd)
    rw [ConnTable.reconnect, if_pos hfd, tryConnect_none, if_neg (h.not_exhausted s)]
    have hset : { t.conn s with fd := none, tryNum := (t.conn s).tryNum + 1 } =
        { t.conn s with tryNum := (t.conn s).tryNum + 1 } := by
      rw [← hfd]
    rw [hset]
    exact h.setTryNum s ((t.conn s).tryNum + 1)
  · rw [ConnTable.reconnect, if_neg hfd]
    exact h

lemma entry_eq {i : Nat} (hi : i < order.length) :
    ∃ s fd, order[i]? = some s ∧ (t.conn s).fd = some fd ∧ t.fds i = some fd := by
  have hget := List.getElem?_eq_getElem hi
  obtain ⟨fd, hfd⟩ := Option.ne_none_iff_exists'.mp
    ((h.connected order[i]).mpr (List.getElem_mem hi))
  refine ⟨order[i], fd, hget, hfd, ?_⟩
  rw [h.entry i (lt_of_lt_of_le hi (order_length h.nodup)), hget, Option.bind_some, hfd]

lemma branch_eq {i : Nat} {s : SyncServer} (hi : order[i]? = some s) : t.branch i = some s := by
  have hindex := h.index i s hi
  cases s with
  | modemd => exact if_pos hindex
  | refnotify =>
    have hmodemd : t.modemd.index ≠ some i := by
      intro hbad
      by_cases hmem : SyncServer.modemd ∈ order
      · obtain ⟨j, hj⟩ := List.getElem?_of_mem hmem
        have hj' := h.index j .modemd hj
        obtain rfl : i = j := Option.some.inj (hbad.symm.trans hj')
        rw [hi] at hj
        cases hj
      · exact h.stale hmem i (List.getElem?_eq_some_iff.mp hi).1 hbad
    exact (if_neg hmodemd).trans (if_pos hindex)

lemma fd_inj {s s' : SyncServer} {fd : Nat} (hs : (t.conn s).fd = some fd)
    (hs' : (t.conn s').fd = some fd) : s = s' := by
  have hne : ¬(t.modemd.fd = some fd ∧ t.refnotify.fd = some fd) := by
    rintro ⟨hm, hr⟩
    have hnone := h.distinct (hm.trans hr.symm)
    rw [hm] at hnone
    cases hnone
  cases s with
  | modemd =>
    cases s' with
    | modemd => rfl
    | refnotify => exact absurd ⟨hs, hs'⟩ hne
  | refnotify =>
    cases s' with
    | modemd => exact absurd ⟨hs', hs⟩ hne
    | refnotify => rfl

lemma tableOk : TableOk t := by
  constructor
  case seat =>
    intro s fd hfd
    have hmem : s ∈ order := (h.connected s).mp (by rw [hfd]; exact Option.some_ne_none fd)
    obtain ⟨i, hi⟩ := List.getElem?_of_mem hmem
    have hlt : i < order.length := (List.getElem?_eq_some_iff.mp hi).1
    have hsize := order_length h.nodup
    refine ⟨i, by rw [h.total]; exact hlt, h.index i s hi, ?_, ?_⟩
    · rw [h.entry i (by omega), hi, Option.bind_some, hfd]
    · intro j hj hentry
      rw [h.entry j hj] at hentry
      obtain ⟨s', hs', hfd'⟩ := Option.bind_eq_some_iff.mp hentry
      obtain rfl := h.fd_inj hfd hfd'
      exact Option.some.inj ((h.index j s hs').symm.trans (h.index i s hi))
  case beyond =>
    intro i hi hlt
    rw [h.total] at hi
    exact h.entry_free hi hlt
  case total =>
    rw [h.total]
    have hperm : order.Perm
        ([SyncServer.modemd, .refnotify].filter fun s => (t.conn s).fd.isSome) := by
      rw [List.perm_ext_iff_of_nodup h.nodup (List.Nodup.filter _ (by decide))]
      intro s
      rw [← h.connected s, List.mem_filter, Option.isSome_iff_ne_none]
      cases s <;> simp
    exact hperm.length_eq
  case branch =>
    intro i hi
    rw [h.total] at hi
    obtain ⟨s, fd, hs, hfd, hentry⟩ := h.entry_eq hi
    exact ⟨s, fd, h.branch_eq hs, hfd, hentry⟩

end Seated

lemma Seated.remove {t : ConnTable} {order : List SyncServer} {s : SyncServer}
    (h : Seated t (order ++ [s])) : Seated (t.disconnect s order.length) order := by
  have hs : s ∉ order := fun hbad => by
    have hnodup := List.nodup_append.mp h.nodup
    exact hnodup.2.2 s hbad s (List.mem_singleton_self s) rfl
  have hindex : (t.conn s).index = some order.length := h.index order.length s (by simp)
  have hsame : (t.disconnect s order.length).conn s = { t.conn s with fd := none } := by
    cases s <;> rfl
  have hother : ∀ s', s' ≠ s → (t.disconnect s order.length).conn s' = t.conn s' := by
    intro s' hne
    rw [← ConnTable.conn_setConn_ne t { t.conn s with fd := none } hne]
    cases s' <;> rfl
  have hmem : ∀ s', s' ∈ order → s' ≠ s := fun s' hs' hne => hs (hne ▸ hs')
  constructor
  case nodup =>
    exact (List.nodup_append.mp h.nodup).1
  case total =>
    have htotal := h.total
    rw [List.length_append] at htotal
    cases s <;> exact congrArg (· - 1) htotal
  case connected =>
    intro s'
    by_cases hne : s' = s
    · rw [hne, hsame]
      simp [hs]
    · rw [hother s' hne, h.connected s']
      simp [hne]
  case index =>
    intro i s' hi
    rw [hother s' (hmem s' (List.mem_of_getElem? hi))]
    exact h.index i s' (by rw [List.getElem?_append_left (List.getElem?_eq_some_iff.mp hi).1, hi])
  case entry =>
    intro i hi
    have hfds : (t.disconnect s order.length).fds = t.fds.store order.length none := by
      cases s <;> rfl
    rw [hfds]
    rcases Nat.lt_trichotomy i order.length with hi' | rfl | hi'
    · rw [store_ne _ _ (by omega), h.entry i hi, List.getElem?_append_left hi',
        List.getElem?_eq_getElem hi', Option.bind_some, Option.bind_some,
        hother _ (hmem _ (List.getElem_mem hi'))]
    · rw [store_same, List.getElem?_eq_none (Nat.le_refl _), Option.bind_none]
    · rw [store_ne _ _ (by omega), List.getElem?_eq_none (by omega), Option.bind_none]
      exact h.entry_free (by rw [List.length_append]; exact hi') hi
  case stale =>
    intro hnot i hi
    cases s with
    | modemd =>
      have hkeep : (t.disconnect .modemd order.length).modemd.index = some order.length := hindex
      rw [hkeep]
      simp only [ne_eq, Option.some.injEq]
      omega
    | refnotify =>
      exact h.stale (by simp [hnot]) i (by rw [List.length_append]; omega)
  case distinct =>
    intro heq
    cases s with
    | modemd => rfl
    | refnotify => exact heq
  case retry =>
    intro s'
    by_cases hne : s' = s
    · rw [hne, hsame]
      exact h.retry s
    · rw [hother s' hne]
      exact h.retry s'

lemma readEntry_table (now : ApClock) (s : TimesyncState) (i : Nat) (server : SyncServer)
    (r : ReadResult) : (readEntry now s i server r).1.table =
      if r = .closed then s.table.disconnect server i else s.table := by
  have hmodemd : ∀ bytes, (readModemd s i (.data bytes)).1.table = s.table := by
    intro bytes
    rw [readModemd]
    split_ifs <;> rfl
  have hrefnotify : ∀ bytes, (readRefnotify now s i (.data bytes)).1.table = s.table := by
    intro bytes
    rw [readRefnotify]
    dsimp only
    split_ifs <;> rfl
  cases r with
  | error => cases server <;> rfl
  | closed => cases server <;> rfl
  | data bytes =>
    rw [if_neg (by simp)]
    cases server with
    | modemd => exact hmodemd bytes
    | refnotify => exact hrefnotify bytes

lemma readLoop_done (e : TimesyncRound) {n i : Nat} {s : TimesyncState}
    (h : s.table.totalConn ≤ i) : readLoop e n i s = (s, []) := by
  cases n with
  | zero => rfl
  | succ n => exact if_pos h

/-- The loop reads each entry by its own branch, and a server leaves only from the last one. -/
lemma readLoop_seated (e : TimesyncRound) (n i : Nat) (s : TimesyncState) (order : List SyncServer)
    (h : Seated s.table order)
    (hlast : ∀ j, j + 1 < order.length → e.reads j ≠ some .closed) :
    (∃ order', Seated (readLoop e n i s).1.table order') ∧
      ∀ r ∈ (readLoop e n i s).2, ∃ fd, r.fd = some fd ∧ (s.table.conn r.server).fd = some fd := by
  induction n generalizing i s with
  | zero => exact ⟨⟨order, h⟩, fun r hr => absurd hr List.not_mem_nil⟩
  | succ n ih =>
    by_cases hi : s.table.totalConn ≤ i
    · rw [readLoop_done e hi]
      exact ⟨⟨order, h⟩, fun r hr => absurd hr List.not_mem_nil⟩
    · have hlt : i < order.length := by
        rw [← h.total]
        exact Nat.lt_of_not_le hi
      obtain ⟨server, fd, hserver, hfd, hentry⟩ := h.entry_eq hlt
      rw [readLoop, if_neg hi, h.branch_eq hserver, hentry]
      cases hread : e.reads i with
      | none => exact ih (i + 1) s h
      | some r =>
        have htable := readEntry_table e.now s i server r
        have hout : (readEntry e.now s i server r).2.server = server ∧
            (readEntry e.now s i server r).2.fd = some fd := ⟨rfl, hentry⟩
        dsimp only
        by_cases hclosed : r = .closed
        · rw [if_pos hclosed] at htable
          have hlen : i + 1 = order.length := by
            by_contra hne
            exact hlast i (by omega) (hread.trans (congrArg some hclosed))
          rcases List.eq_nil_or_concat' order with rfl | ⟨pre, s', rfl⟩
          · exact absurd hlt (Nat.not_lt_zero i)
          · obtain rfl : i = pre.length := by
              rw [List.length_append] at hlen
              exact Nat.add_right_cancel hlen
            obtain rfl : s' = server := by
              rw [List.getElem?_concat_length] at hserver
              exact Option.some.inj hserver
            have hpre : Seated (readEntry e.now s pre.length s' r).1.table pre :=
              htable ▸ h.remove
            rw [readLoop_done e (by rw [hpre.total]; exact Nat.le_succ _)]
            refine ⟨⟨pre, hpre⟩, fun r' hr' => ?_⟩
            obtain rfl := List.mem_singleton.mp hr'
            exact ⟨fd, hout.2, by rw [hout.1, hfd]⟩
        · rw [if_neg hclosed] at htable
          obtain ⟨horder, hreads⟩ := ih (i + 1) (readEntry e.now s i server r).1 (htable ▸ h)
          refine ⟨horder, fun r' hr' => ?_⟩
          rcases List.mem_cons.mp hr' with rfl | hr'
          · exact ⟨fd, hout.2, by rw [hout.1, hfd]⟩
          · rw [← htable]
            exact hreads r' hr'

section Reconnect

variable {t : ConnTable} {order : List SyncServer} (h : Seated t order)

include h

lemma Seated.reconnect_fd (s : SyncServer) (client : Option Nat) :
    ((t.reconnect s client).conn s).fd = (t.conn s).fd.or client := by
  by_cases hfd : (t.conn s).fd = none
  · rw [ConnTable.reconnect, if_pos hfd, hfd, Option.none_or]
    cases client with
    | none => rw [tryConnect_none, if_neg (h.not_exhausted s), ConnTable.conn_setConn_same]
    | some fd => rw [tryConnect_some, if_neg (h.not_exhausted s), ConnTable.conn_setConn_same]
  · obtain ⟨fd, hsome⟩ := Option.ne_none_iff_exists'.mp hfd
    rw [ConnTable.reconnect, if_neg hfd, hsome, Option.some_or]

lemma Seated.reconnect (s : SyncServer) (client : Option Nat)
    (hdiff : ∀ fd, (t.conn s).fd.or client = some fd → ∀ s', s' ≠ s → (t.conn s').fd ≠ some fd)
    (hstale : s = .refnotify → (t.conn s).fd = none → client.isSome = true →
      SyncServer.modemd ∉ order → t.modemd.index ≠ some order.length) :
    ∃ order', Seated (t.reconnect s client) order' := by
  by_cases hfd : (t.conn s).fd = none
  · cases client with
    | none => exact ⟨order, h.keep s none (.inl rfl)⟩
    | some fd =>
      have hs : s ∉ order := fun hmem => (h.connected s).mpr hmem hfd
      refine ⟨order ++ [s], h.add s hs fd (hdiff fd ?_) fun hs => hstale hs hfd rfl⟩
      rw [hfd, Option.none_or]
  · exact ⟨order, h.keep s client (.inr hfd)⟩

end Reconnect

lemma timesyncConnect_seated {s : TimesyncState} {e : TimesyncRound} {order : List SyncServer}
    (h : Seated s.table order) (hdiff : ClientsDiffer s e) (hkeeps : KeepsSeats s e) :
    ∃ order', Seated (timesyncConnect s e).table order' ∧
      ∀ server, ((timesyncConnect s e).table.conn server).fd = fdAfter s e server := by
  have htable : (timesyncConnect s e).table =
      (s.table.reconnect .modemd (e.client .modemd)).reconnect .refnotify
        (e.client .refnotify) := by
    rw [timesyncConnect, h.collate, ite_self]
  have hclash : ∀ fd, fdAfter s e .modemd = some fd → fdAfter s e .refnotify ≠ some fd := by
    intro fd hm hr
    have hnone := hdiff (hm.trans hr.symm)
    rw [hm] at hnone
    cases hnone
  obtain ⟨order₁, h₁⟩ := h.reconnect .modemd (e.client .modemd)
    (fun fd hfd s' hne hbad => by
      cases s' with
      | modemd => exact hne rfl
      | refnotify =>
        apply hclash fd hfd
        rw [fdAfter, hbad, Option.some_or])
    (fun hbad => absurd hbad (by decide))
  have hmodemd : ((s.table.reconnect .modemd (e.client .modemd)).conn .modemd).fd =
      fdAfter s e .modemd := h.reconnect_fd .modemd (e.client .modemd)
  have hrefnotify : (s.table.reconnect .modemd (e.client .modemd)).conn .refnotify =
      s.table.conn .refnotify := reconnect_other (by decide) s.table (e.client .modemd)
  obtain ⟨order₂, h₂⟩ := h₁.reconnect .refnotify (e.client .refnotify)
    (fun fd hfd s' hne hbad => by
      rw [hrefnotify] at hfd
      cases s' with
      | modemd => exact hclash fd (hmodemd.symm.trans hbad) hfd
      | refnotify => exact hne rfl)
    (fun _ hfd hsome hnot => by
      have haway : fdAfter s e .modemd = none := by
        rw [← hmodemd]
        exact not_not.mp (mt (h₁.connected .modemd).mp hnot)
      have hempty : order₁ = [] := by
        apply List.eq_nil_iff_forall_not_mem.mpr
        intro s' hs'
        cases s' with
        | modemd => exact hnot hs'
        | refnotify => exact (h₁.connected .refnotify).mpr hs' hfd
      have hclient : e.client .modemd = none := (Option.or_eq_none_iff.mp haway).2
      have hindex : (s.table.reconnect .modemd (e.client .modemd)).modemd.index =
          s.table.modemd.index := by
        rw [hclient]
        exact reconnect_index s.table .modemd
      rw [hindex, hempty]
      rw [hrefnotify] at hfd
      exact hkeeps.stale haway hfd hsome)
  refine ⟨order₂, htable ▸ h₂, fun server => ?_⟩
  rw [htable]
  cases server with
  | modemd => rw [reconnect_other (by decide), hmodemd]
  | refnotify => rw [h₁.reconnect_fd, hrefnotify, fdAfter]

lemma mem_of_two {order : List SyncServer} (h : order.Nodup) (hlen : 1 < order.length)
    (s : SyncServer) : s ∈ order := by
  by_contra hs
  have hone : ∀ s', order ⊆ [s'] → False := fun s' hsub => by
    have hle := (List.subperm_of_subset h hsub).length_le
    exact absurd hlen (Nat.not_lt_of_le hle)
  cases s with
  | modemd =>
    apply hone .refnotify
    intro s' hs'
    cases s' with
    | modemd => exact absurd hs' hs
    | refnotify => exact List.mem_singleton_self _
  | refnotify =>
    apply hone .modemd
    intro s' hs'
    cases s' with
    | modemd => exact List.mem_singleton_self _
    | refnotify => exact absurd hs' hs

lemma timesyncStep_seated {s : TimesyncState} {e : TimesyncRound}
    (h : ∃ order, Seated s.table order) (hdiff : ClientsDiffer s e) (hkeeps : KeepsSeats s e) :
    ∃ r, timesyncStep s e = .ok r ∧ TimesyncFine r.2 ∧ ∃ order, Seated r.1.table order := by
  obtain ⟨order, h⟩ := h
  obtain ⟨order', h', hfd⟩ := timesyncConnect_seated h hdiff hkeeps
  by_cases hzero : (timesyncConnect s e).table.totalConn = 0
  · refine ⟨_, if_pos hzero, ?_, order', h'⟩
    intro t ht
    cases ht
  · have hlast : ∀ j, j + 1 < order'.length → e.reads j ≠ some .closed := by
      intro j hj
      have hsize := order_length h'.nodup
      have hall := mem_of_two h'.nodup (by omega)
      have hsome : ∀ server, (fdAfter s e server).isSome = true := by
        intro server
        rw [Option.isSome_iff_ne_none, ← hfd]
        exact (h'.connected server).mpr (hall server)
      obtain rfl : j = 0 := by
        have hval : fdsSize = 2 := rfl
        omega
      exact hkeeps.last (hsome _) (hsome _)
    obtain ⟨horder, hreads⟩ := readLoop_seated e (timesyncConnect s e).table.totalConn 0
      (timesyncConnect s e) order' h' hlast
    refine ⟨_, if_neg hzero, ?_, horder⟩
    intro t ht
    obtain rfl := Option.some.inj ht
    exact ⟨h'.tableOk, hreads⟩

/-- In a run in which only the last entry is closed, and no stale index of modemd is met, the table
is in order at each call of `poll`. -/
theorem timesync_table_ok (l : List TimesyncRound)
    (h : Machine.Guarded timesyncStep (fun s e => ClientsDiffer s e ∧ KeepsSeats s e) .init l) :
    Machine.Meets timesyncStep (fun _ _ r => TimesyncFine r.2) .init l :=
  Machine.meets_of_guarded (fun s : TimesyncState => ∃ order, Seated s.table order)
    (fun _ _ hinv hok => timesyncStep_seated hinv hok.1 hok.2) TimesyncState.init l
    ⟨[], seated_init⟩ h

instance (s : TimesyncState) (e : TimesyncRound) : Decidable (ClientsDiffer s e) :=
  inferInstanceAs (Decidable (_ → _))

instance (s : TimesyncState) (e : TimesyncRound) : Decidable (KeepsSeats s e) :=
  decidable_of_iff
    (((fdAfter s e .modemd).isSome = true → (fdAfter s e .refnotify).isSome = true →
        e.reads 0 ≠ some .closed) ∧
      (fdAfter s e .modemd = none → s.table.refnotify.fd = none →
        (e.client .refnotify).isSome = true → s.table.modemd.index ≠ some 0))
    ⟨fun h => ⟨h.1, h.2⟩, fun h => ⟨h.last, h.stale⟩⟩

section Example

/-- A round with these results of the attempts to connect and of the reads. -/
def timesyncRound (modemd refnotify : Option Nat) (reads : List (Option ReadResult)) :
    TimesyncRound where
  client s := match s with
    | .modemd => modemd
    | .refnotify => refnotify
  reads i := reads[i]?.join
  now := ⟨0, 0, 0, 0⟩

end Example

/-- Both connect, the time server leaves and comes back, then it and modemd leave. -/
theorem timesync_table_ok_return :
    Machine.Meets timesyncStep (fun _ _ r => TimesyncFine r.2) .init
      [timesyncRound (some 5) (some 6) [none, some .closed],
        timesyncRound none (some 7) [some (.data [1]), some (.data [1])],
        timesyncRound none none [none, some .closed], timesyncRound none none [some .closed]] :=
  timesync_table_ok _ (by decide)

/-- The server of the first entry leaves and comes back: it has no entry. And modemd leaves, and
the time server takes its entry: what it sends is read as if from modemd. -/
theorem timesync_table_broken :
    ¬Machine.Meets timesyncStep (fun _ _ r => TimesyncFine r.2) .init
      [timesyncRound (some 5) (some 6) [some .closed], timesyncRound (some 7) none []] ∧
    ¬Machine.Meets timesyncStep (fun _ _ r => TimesyncFine r.2) .init
      [timesyncRound (some 5) none [some .closed],
        timesyncRound none (some 6) [some (.data [1])]] := by
  constructor
  · rintro ⟨-, hfine, -⟩
    obtain ⟨i, -, hindex, -⟩ := (hfine _ rfl).1.seat .modemd 7 rfl
    exact Option.some_ne_none i hindex.symm
  · rintro ⟨-, hfine, -⟩
    obtain ⟨fd, hfd, hconn⟩ := (hfine _ rfl).2 _ (List.mem_cons_self)
    exact Option.some_ne_none fd hconn.symm

end EngPc
