import Mathlib.Data.List.Basic
import Mathlib.Tactic.Common

/-!
# Requests of one size on a stream

A server that takes each read for a request, in a buffer that is cleared before, against one that is
given the requests. A request may end either of them. `served_iff` says for which cuts of the stream
and which requests the two do the same, and answer everything.
-/

namespace RequestStream

variable {σ ε δ α : Type*}

section Server

variable (size : Nat) (zero : α) (handle : σ → ε → List α → σ × Except δ (List α))

/-- The requests are handled one after another, each with what comes from outside meanwhile. The
state is left, and each request with its answer, or with the end of the server. -/
def process : σ → (Nat → ε) → List (List α) → σ × List (List α × Except δ (List α))
  | s, _, [] => (s, [])
  | s, env, q :: qs =>
    let r := handle s (env 0) q
    match r.2 with
    | .error e => (r.1, [(q, .error e)])
    | .ok answer =>
      let rest := process r.1 (fun k => env (k + 1)) qs
      (rest.1, (q, .ok answer) :: rest.2)

/-- What a read leaves in the buffer. -/
def pad (bytes : List α) : List α := bytes ++ List.replicate (size - bytes.length) zero

/-- The loop over the reads, up to one that gives nothing. -/
def serve : σ → (Nat → ε) → List (List α) → σ × List (List α × Except δ (List α))
  | s, _, [] => (s, [])
  | s, env, bytes :: reads =>
    if bytes.length = 0 then (s, [])
    else
      let q := pad size zero bytes
      let r := handle s (env 0) q
      match r.2 with
      | .error e => (r.1, [(q, .error e)])
      | .ok answer =>
        let rest := serve r.1 (fun k => env (k + 1)) reads
        (rest.1, (q, .ok answer) :: rest.2)

/-- None of the requests ends the server in the state in which it comes up. -/
def Survives (ends : σ → ε → List α → Prop) : σ → (Nat → ε) → List (List α) → Prop
  | _, _, [] => True
  | s, env, q :: qs =>
    ¬ends s (env 0) q ∧ Survives ends (handle s (env 0) q).1 (fun k => env (k + 1)) qs

end Server

/-- Whole requests, and reads into which their stream is cut. -/
structure Cut (α : Type*) (size : Nat) where
  requests : List (List α)
  reads : List (List α)
  whole : ∀ q ∈ requests, q.length = size
  nonempty : ∀ r ∈ reads, r ≠ []
  fits : ∀ r ∈ reads, r.length ≤ size
  stream : reads.flatten = requests.flatten

lemma length_flatten_of_forall {n : Nat} {l : List (List α)} (h : ∀ x ∈ l, x.length = n) :
    l.flatten.length = l.length * n := by
  rw [List.length_flatten, List.map_congr_left h, List.map_const', List.sum_replicate_nat]

lemma length_flatten_le {n : Nat} {l : List (List α)} (h : ∀ x ∈ l, x.length ≤ n) :
    l.flatten.length ≤ l.length * n := by
  induction l with
  | nil => exact Nat.zero_le _
  | cons x l ih =>
    have hx := h x List.mem_cons_self
    have hl := ih fun y hy => h y (List.mem_cons_of_mem x hy)
    rw [List.flatten_cons, List.length_append, List.length_cons, Nat.succ_mul]
    omega

lemma forall_length_eq {n : Nat} {l : List (List α)} (h : ∀ x ∈ l, x.length ≤ n)
    (hsum : l.flatten.length = l.length * n) : ∀ x ∈ l, x.length = n := by
  induction l with
  | nil => exact fun x hx => absurd hx List.not_mem_nil
  | cons x l ih =>
    have hx := h x List.mem_cons_self
    have hl := length_flatten_le fun y hy => h y (List.mem_cons_of_mem x hy)
    rw [List.flatten_cons, List.length_append, List.length_cons, Nat.succ_mul] at hsum
    intro y hy
    rcases List.mem_cons.mp hy with rfl | hy
    · omega
    · exact ih (fun y hy => h y (List.mem_cons_of_mem x hy)) (by omega) y hy

section Servers

variable {size : Nat} {zero : α} {handle : σ → ε → List α → σ × Except δ (List α)}

lemma process_requests {s : σ} {env : Nat → ε} {qs : List (List α)}
    (h : ∀ x ∈ (process handle s env qs).2, ∃ answer, x.2 = .ok answer) :
    (process handle s env qs).2.map Prod.fst = qs := by
  induction qs generalizing s env with
  | nil => rfl
  | cons q qs ih =>
    rw [process] at h ⊢
    dsimp only at h ⊢
    cases hr : (handle s (env 0) q).2 with
    | error e =>
      rw [hr] at h
      obtain ⟨answer, hanswer⟩ := h _ List.mem_cons_self
      cases hanswer
    | ok answer =>
      rw [hr] at h
      exact congrArg (q :: ·) (ih fun x hx => h x (List.mem_cons_of_mem _ hx))

lemma answered_iff {ends : σ → ε → List α → Prop}
    (hends : ∀ s e q, ends s e q ↔ ∃ x, (handle s e q).2 = .error x) (s : σ) (env : Nat → ε)
    (qs : List (List α)) :
    (∀ x ∈ (process handle s env qs).2, ∃ answer, x.2 = .ok answer) ↔
      Survives handle ends s env qs := by
  induction qs generalizing s env with
  | nil => exact iff_of_true (fun x hx => absurd hx List.not_mem_nil) trivial
  | cons q qs ih =>
    rw [process, Survives, hends]
    dsimp only
    cases hr : (handle s (env 0) q).2 with
    | error e =>
      refine iff_of_false (fun h => ?_) fun h => h.1 ⟨e, rfl⟩
      obtain ⟨answer, hanswer⟩ := h _ List.mem_cons_self
      cases hanswer
    | ok answer =>
      have hnot : ¬∃ x : δ, Except.ok answer = Except.error x := by simp
      rw [and_iff_right hnot, ← ih]
      simp

lemma serve_eq_process (s : σ) (env : Nat → ε) {reads : List (List α)}
    (h : ∀ r ∈ reads, r ≠ []) :
    serve size zero handle s env reads = process handle s env (reads.map (pad size zero)) := by
  induction reads generalizing s env with
  | nil => rfl
  | cons r reads ih =>
    have hr : ¬r.length = 0 := fun hzero =>
      h r List.mem_cons_self (List.eq_nil_of_length_eq_zero hzero)
    have hreads : ∀ r' ∈ reads, r' ≠ [] := fun r' hr' => h r' (List.mem_cons_of_mem r hr')
    rw [serve, if_neg hr, List.map_cons, process]
    dsimp only
    cases (handle s (env 0) (pad size zero r)).2 with
    | error e => rfl
    | ok answer => simp only [ih _ _ hreads]

lemma pad_full {bytes : List α} (h : bytes.length = size) : pad size zero bytes = bytes := by
  rw [pad, h, Nat.sub_self, List.replicate_zero, List.append_nil]

lemma Cut.reads_eq (hsize : 0 < size) (c : Cut α size) (h : ∀ r ∈ c.reads, r.length = size) :
    c.reads = c.requests := by
  have hcount : c.reads.length = c.requests.length := by
    apply Nat.eq_of_mul_eq_mul_right hsize
    rw [← length_flatten_of_forall h, c.stream, length_flatten_of_forall c.whole]
  apply List.eq_iff_flatten_eq.mpr
  refine ⟨c.stream, ?_⟩
  rw [List.map_congr_left h, List.map_congr_left c.whole, List.map_const', List.map_const', hcount]

variable (zero handle)

/-- The reads are served as the requests, each of which is handled once, in order, and answered. -/
structure ServedWhole (c : Cut α size) (s : σ) (env : Nat → ε) : Prop where
  same : serve size zero handle s env c.reads = process handle s env c.requests
  requests : (process handle s env c.requests).2.map Prod.fst = c.requests
  answered : ∀ x ∈ (process handle s env c.requests).2, ∃ answer, x.2 = .ok answer

variable {zero handle}

/-- The cut does not matter exactly when every read is full, as long as the server goes on. -/
theorem served_iff (hsize : 0 < size) {ends : σ → ε → List α → Prop}
    (hends : ∀ s e q, ends s e q ↔ ∃ x, (handle s e q).2 = .error x) (c : Cut α size) (s : σ)
    (env : Nat → ε) :
    ServedWhole zero handle c s env ↔
      (∀ r ∈ c.reads, r.length = size) ∧ Survives handle ends s env c.requests := by
  rw [← answered_iff hends]
  constructor
  · rintro ⟨hsame, hrequests, hanswered⟩
    refine ⟨?_, hanswered⟩
    rw [serve_eq_process s env c.nonempty] at hsame
    have hlist : c.reads.map (pad size zero) = c.requests := by
      rw [← hsame] at hanswered hrequests
      rw [← process_requests hanswered, hrequests]
    have hcount : c.reads.length = c.requests.length := by
      rw [← hlist, List.length_map]
    apply forall_length_eq c.fits
    rw [c.stream, length_flatten_of_forall c.whole, hcount]
  · rintro ⟨hfull, hanswered⟩
    have hpad : c.reads.map (pad size zero) = c.reads := by
      rw [List.map_congr_left fun r hr => pad_full (hfull r hr), List.map_id']
    refine ⟨?_, process_requests hanswered, hanswered⟩
    rw [serve_eq_process s env c.nonempty, hpad, c.reads_eq hsize hfull]

end Servers

end RequestStream
