import Mathlib.Data.List.TakeWhile
import Mathlib.Tactic.Common

/-!
# Lines of a stream that comes in pieces

The elements with `p` end lines. `lines` are the lines that have their end, without the empty ones,
and `rest` is what stands behind the last end. `call` gives the next line, and takes pieces of the
stream while it has none; the lines do not depend on where the stream is cut.
-/

namespace LineStream

variable {α : Type} (p : α → Bool)

def lines (l : List α) : List (List α) := (l.splitOnP p).dropLast.filter (!·.isEmpty)

def rest (l : List α) : List α := (l.splitOnP p).getLast (List.splitOnP_ne_nil p l)

/-- The first line, and what stands behind its end. -/
def first (l : List α) : Option (List α × List α) :=
  let t := l.dropWhile p
  if t.any p then some (t.takeWhile (!p ·), (t.dropWhile (!p ·)).tail) else none

/-- Takes pieces up to a line. The result is the line, what is held then, and the pieces that are
left. -/
def more : List (List α) → List α → Option (List α) × List α × List (List α)
  | [], held => (none, rest p held, [])
  | c :: cs, held =>
    match first p (held ++ c) with
    | some (line, held) => (some line, held, cs)
    | none => more cs (held ++ c)

/-- The ends in front of an unfinished line are given up before pieces are taken. -/
def call (cs : List (List α)) (held : List α) : Option (List α) × List α × List (List α) :=
  match first p held with
  | some (line, held) => (some line, held, cs)
  | none => more p cs (rest p held)

/-- The lines of the first `n` calls, up to one that gives none. -/
def calls : Nat → List (List α) → List α → List (List α)
  | 0, _, _ => []
  | n + 1, cs, held =>
    match call p cs held with
    | (none, _, _) => []
    | (some line, held, cs) => line :: calls n cs held

/-- The pieces can be taken into a buffer with less than `room` elements in it: a piece comes behind
what is held, and stays with it until there is a line. -/
def Fits (room : Nat) : List α → List (List α) → Prop
  | _, [] => True
  | held, c :: cs =>
    (held ++ c).length < room ∧
      Fits room (if lines p (held ++ c) = [] then held ++ c else rest p (held ++ c)) cs

instance decidableFits [DecidableEq α] (room : Nat) :
    (held : List α) → (cs : List (List α)) → Decidable (Fits p room held cs)
  | _, [] => inferInstanceAs (Decidable True)
  | held, c :: cs =>
    have := decidableFits room
      (if lines p (held ++ c) = [] then held ++ c else rest p (held ++ c)) cs
    inferInstanceAs (Decidable (_ ∧ _))

variable {p}

section Lines

variable {u : List α} (hu : ∀ x ∈ u, p x = false)

include hu

lemma lines_free : lines p u = [] := by
  rw [lines, List.splitOnP_eq_singleton hu]
  rfl

lemma rest_free : rest p u = u := by
  simp only [rest, List.splitOnP_eq_singleton hu, List.getLast_singleton]

variable {c : α} (hc : p c = true) (v : List α)

include hc

lemma lines_cut : lines p (u ++ c :: v) = (if u = [] then [] else [u]) ++ lines p v := by
  rw [lines, List.splitOnP_append_cons_of_forall_mem hu c hc,
    List.dropLast_cons_of_ne_nil (List.splitOnP_ne_nil p v), List.filter_cons, lines]
  cases u <;> rfl

lemma rest_cut : rest p (u ++ c :: v) = rest p v := by
  simp only [rest, List.splitOnP_append_cons_of_forall_mem hu c hc,
    List.getLast_cons (List.splitOnP_ne_nil p v)]

end Lines

section Ends

variable {n : List α} (hn : ∀ x ∈ n, p x = true)

include hn

lemma ends_append (l : List α) : lines p (n ++ l) = lines p l ∧ rest p (n ++ l) = rest p l := by
  induction n with
  | nil => exact ⟨rfl, rfl⟩
  | cons c n ih =>
    rw [List.forall_mem_cons] at hn
    have hfree : ∀ x ∈ ([] : List α), p x = false := List.forall_mem_nil _
    have hlines := lines_cut hfree hn.1 (n ++ l)
    have hrest := rest_cut hfree hn.1 (n ++ l)
    rw [List.nil_append] at hlines hrest
    rw [List.cons_append, hlines, hrest]
    exact ih hn.2

variable {u : List α} (hu : ∀ x ∈ u, p x = false)

include hu

lemma first_free : first p (n ++ u) = none := by
  have hdrop : u.dropWhile p = u := by
    cases u with
    | nil => rfl
    | cons a u => exact List.dropWhile_cons_of_neg (by simpa using hu a List.mem_cons_self)
  have hany : u.any p = false := by
    rw [List.any_eq_false]
    intro x hx
    simpa using hu x hx
  rw [first, List.dropWhile_append_of_pos hn, hdrop]
  simp only [hany, Bool.false_eq_true, if_false]

lemma first_cut (hne : u ≠ []) {c : α} (hc : p c = true) (v : List α) :
    first p (n ++ (u ++ c :: v)) = some (u, v) := by
  have hdrop : (u ++ c :: v).dropWhile p = u ++ c :: v := by
    cases u with
    | nil => exact absurd rfl hne
    | cons a u => exact List.dropWhile_cons_of_neg (by simpa using hu a List.mem_cons_self)
  have hany : (u ++ c :: v).any p = true := by
    rw [List.any_append, List.any_cons, hc, Bool.true_or, Bool.or_true]
  have hnot : ∀ x ∈ u, (!p x) = true := by
    intro x hx
    rw [hu x hx, Bool.not_false]
  have htake : (c :: v).takeWhile (!p ·) = [] := by simp [hc]
  have htail : ((c :: v).dropWhile (!p ·)).tail = v := by simp [hc]
  rw [first, List.dropWhile_append_of_pos hn, hdrop]
  simp only [hany, if_true, List.takeWhile_append_of_pos hnot, List.dropWhile_append_of_pos hnot,
    htake, htail, List.append_nil]

end Ends

/-- A list is ends, and then a line with its end, or what has none. -/
lemma split_first (p : α → Bool) (l : List α) :
    ∃ n u, (∀ x ∈ n, p x = true) ∧ (∀ x ∈ u, p x = false) ∧
      (l = n ++ u ∨ u ≠ [] ∧ ∃ c v, p c = true ∧ l = n ++ (u ++ c :: v)) := by
  have hends : ∀ x ∈ l.takeWhile p, p x = true := fun x hx => List.mem_takeWhile_imp hx
  have hfree : ∀ x ∈ (l.dropWhile p).takeWhile (!p ·), p x = false := by
    intro x hx
    simpa using List.mem_takeWhile_imp hx
  have hl : l.takeWhile p ++ l.dropWhile p = l := List.takeWhile_append_dropWhile
  have ht : (l.dropWhile p).takeWhile (!p ·) ++ (l.dropWhile p).dropWhile (!p ·) = l.dropWhile p :=
    List.takeWhile_append_dropWhile
  refine ⟨_, _, hends, hfree, ?_⟩
  cases hv : (l.dropWhile p).dropWhile (!p ·) with
  | nil =>
    rw [hv, List.append_nil] at ht
    exact .inl (by rw [ht, hl])
  | cons c v =>
    have hne : (l.dropWhile p).dropWhile (!p ·) ≠ [] := by
      rw [hv]
      exact List.cons_ne_nil c v
    have hc : p c = true := by
      simpa [hv] using List.head_dropWhile_not (!p ·) hne
    rw [hv] at ht
    refine .inr ⟨fun hnil => ?_, c, v, hc, by rw [ht, hl]⟩
    rw [hnil, List.nil_append] at ht
    have hne' : l.dropWhile p ≠ [] := by
      rw [← ht]
      exact List.cons_ne_nil c v
    have hnot : p c = false := by
      simpa [← ht] using List.head_dropWhile_not p hne'
    exact Bool.false_ne_true (hnot.symm.trans hc)

/-- Without a first line there is no line, also not with what stands behind the last end. -/
lemma lines_of_first_none {l : List α} (h : first p l = none) :
    lines p l = [] ∧ ∀ s, lines p (rest p l ++ s) = lines p (l ++ s) := by
  obtain ⟨n, u, hn, hu, rfl | ⟨hne, c, v, hc, rfl⟩⟩ := split_first p l
  · rw [(ends_append hn u).1, (ends_append hn u).2, lines_free hu, rest_free hu]
    refine ⟨rfl, fun s => ?_⟩
    rw [List.append_assoc, (ends_append hn (u ++ s)).1]
  · rw [first_cut hn hu hne hc] at h
    cases h

lemma lines_of_first {l line held : List α} (h : first p l = some (line, held)) (s : List α) :
    lines p (l ++ s) = line :: lines p (held ++ s) ∧ rest p l = rest p held ∧
      held.length < l.length := by
  obtain ⟨n, u, hn, hu, rfl | ⟨hne, c, v, hc, rfl⟩⟩ := split_first p l
  · rw [first_free hn hu] at h
    cases h
  · rw [first_cut hn hu hne hc] at h
    cases h
    refine ⟨?_, ?_, ?_⟩
    · rw [List.append_assoc, (ends_append hn _).1, List.append_assoc, List.cons_append,
        lines_cut hu hc, if_neg hne]
      rfl
    · rw [(ends_append hn _).2, rest_cut hu hc]
    · simp only [List.length_append, List.length_cons]
      omega

lemma lines_rest {l : List α} (h : lines p l = []) : lines p (rest p l) = [] := by
  cases hfirst : first p l with
  | none =>
    have hsame := (lines_of_first_none hfirst).2 []
    rwa [List.append_nil, List.append_nil, h] at hsame
  | some r =>
    have hline := (lines_of_first hfirst []).1
    rw [List.append_nil, h] at hline
    cases hline

lemma more_spec (cs : List (List α)) {held : List α} (h : lines p held = []) :
    (more p cs held).1 = (lines p (held ++ cs.flatten)).head? ∧
      lines p ((more p cs held).2.1 ++ (more p cs held).2.2.flatten) =
        (lines p (held ++ cs.flatten)).tail := by
  induction cs generalizing held with
  | nil =>
    rw [more, List.flatten_nil, List.append_nil, List.append_nil, h, lines_rest h]
    exact ⟨rfl, rfl⟩
  | cons c cs ih =>
    rw [more, List.flatten_cons, ← List.append_assoc]
    cases hfirst : first p (held ++ c) with
    | none => exact ih (lines_of_first_none hfirst).1
    | some r =>
      rw [(lines_of_first hfirst cs.flatten).1]
      exact ⟨rfl, rfl⟩

lemma call_spec (cs : List (List α)) (held : List α) :
    (call p cs held).1 = (lines p (held ++ cs.flatten)).head? ∧
      lines p ((call p cs held).2.1 ++ (call p cs held).2.2.flatten) =
        (lines p (held ++ cs.flatten)).tail := by
  rw [call]
  cases hfirst : first p held with
  | none =>
    obtain ⟨hnil, hsame⟩ := lines_of_first_none hfirst
    rw [← hsame]
    exact more_spec cs (lines_rest hnil)
  | some r =>
    rw [(lines_of_first hfirst cs.flatten).1]
    exact ⟨rfl, rfl⟩

lemma more_none (cs : List (List α)) {held : List α} (h : (more p cs held).1 = none) :
    (more p cs held).2.2 = [] := by
  induction cs generalizing held with
  | nil => rfl
  | cons c cs ih =>
    rw [more] at h ⊢
    cases hfirst : first p (held ++ c) with
    | none =>
      rw [hfirst] at h
      exact ih h
    | some r =>
      rw [hfirst] at h
      cases h

lemma call_none {cs : List (List α)} {held : List α} (h : (call p cs held).1 = none) :
    (call p cs held).2.2 = [] := by
  rw [call] at h ⊢
  cases hfirst : first p held with
  | none =>
    rw [hfirst] at h
    exact more_none cs h
  | some r =>
    rw [hfirst] at h
    cases h

/-- The calls give the lines, wherever the stream is cut. -/
theorem calls_eq (n : Nat) (cs : List (List α)) (held : List α) :
    calls p n cs held = (lines p (held ++ cs.flatten)).take n := by
  induction n generalizing cs held with
  | zero => rfl
  | succ n ih =>
    obtain ⟨hhead, htail⟩ := call_spec (p := p) cs held
    rw [calls]
    rcases hcall : call p cs held with ⟨_ | line, held', cs'⟩
    · rw [hcall] at hhead
      rw [List.head?_eq_none_iff.mp hhead.symm]
      rfl
    · rw [hcall] at hhead htail
      obtain ⟨ls, hls⟩ := List.head?_eq_some_iff.mp hhead.symm
      rw [hls, List.tail_cons] at htail
      rw [hls, List.take_succ_cons, ← htail]
      exact congrArg (line :: ·) (ih cs' held')

end LineStream
