import EngPc.Lib.Block
import Mathlib.Algebra.Ring.Nat
import Mathlib.Data.List.Basic

/-!
# Readers and writers of a document

A reader goes through a document and finds values for slots, in order; a writer puts new values into
a document. They agree when the reader, wherever it gets through, finds in what the writer left the
new value for each slot that it had found, in the same order, and the document's shape is kept.
-/

namespace ReadWrite

variable {ε α γ : Type}

/-- A reader's loop over a list, with a counter. -/
def collect (f : Nat → α → Except ε (List γ)) : Nat → List α → Except ε (List γ)
  | _, [] => .ok []
  | k, a :: l => do
    let found ← f k a
    let rest ← collect f (k + 1) l
    return found ++ rest

/-- A writer's loop over a list, with a counter. -/
def updateEach (g : Nat → α → Except ε α) : Nat → List α → Except ε (List α)
  | _, [] => .ok []
  | k, a :: l => do
    let a' ← g k a
    let l' ← updateEach g (k + 1) l
    return a' :: l'

lemma bind_eq_ok {δ : Type} {x : Except ε γ} {f : γ → Except ε δ} {b : δ} :
    x >>= f = .ok b ↔ ∃ a, x = .ok a ∧ f a = .ok b := by
  cases x <;> simp

lemma mapM_eq_ok {f : α → Except ε γ} {g : α → γ} {l : List α} (h : ∀ a ∈ l, f a = .ok (g a)) :
    l.mapM f = .ok (l.map g) := by
  induction l with
  | nil => rfl
  | cons a l ih =>
    rw [List.forall_mem_cons] at h
    rw [List.mapM_cons, h.1, ih h.2]
    rfl

lemma collect_cons_ok {f : Nat → α → Except ε (List γ)} {k : Nat} {a : α} {l : List α}
    {found : List γ} : collect f k (a :: l) = .ok found ↔
      ∃ here rest, f k a = .ok here ∧ collect f (k + 1) l = .ok rest ∧ found = here ++ rest := by
  simp only [collect, bind_eq_ok, pure, Except.pure, Except.ok.injEq]
  constructor
  · rintro ⟨here, hhere, rest, hrest, rfl⟩
    exact ⟨here, rest, hhere, hrest, rfl⟩
  · rintro ⟨here, rest, hhere, hrest, rfl⟩
    exact ⟨here, hhere, rest, hrest, rfl⟩

lemma succeeds_collect {f : Nat → α → Except ε (List γ)} {n : Nat} {l : List α} :
    (collect f n l).Succeeds (fun _ => True) ↔
      ∀ k a, l[k]? = some a → (f (n + k) a).Succeeds fun _ => True := by
  induction l generalizing n with
  | nil => simp [collect]
  | cons a l ih =>
    simp only [collect, Except.succeeds_bind, pure, Except.pure, Except.succeeds_ok]
    constructor
    · intro h k b hb
      obtain ⟨here, hhere, hrest⟩ := Except.succeeds_iff.mp h
      cases k with
      | zero =>
        cases hb
        rw [Nat.add_zero, hhere]
        trivial
      | succ k =>
        rw [show n + (k + 1) = n + 1 + k by omega]
        exact ih.mp hrest k b hb
    · intro h
      obtain ⟨here, hhere, -⟩ := Except.succeeds_iff.mp (h 0 a rfl)
      rw [Nat.add_zero] at hhere
      rw [hhere]
      apply ih.mpr
      intro k b hb
      rw [show n + 1 + k = n + (k + 1) by omega]
      exact h (k + 1) b hb

lemma mem_collect {f : Nat → α → Except ε (List γ)} {n : Nat} {l : List α} {found : List γ}
    (h : collect f n l = .ok found) {c : γ} : c ∈ found ↔
      ∃ (k : Nat) (a : α) (here : List γ), l[k]? = some a ∧ f (n + k) a = .ok here ∧ c ∈ here := by
  induction l generalizing n found with
  | nil =>
    cases h
    simp
  | cons a l ih =>
    obtain ⟨here, rest, hhere, hrest, rfl⟩ := collect_cons_ok.mp h
    rw [List.mem_append, ih hrest]
    constructor
    · rintro (hc | ⟨k, b, found, hb, hfound, hc⟩)
      · exact ⟨0, a, here, rfl, hhere, hc⟩
      · exact ⟨k + 1, b, found, hb, (show n + (k + 1) = n + 1 + k by omega) ▸ hfound, hc⟩
    · rintro ⟨k, b, found, hb, hfound, hc⟩
      cases k with
      | zero =>
        cases hb
        cases hhere.symm.trans hfound
        exact Or.inl hc
      | succ k => exact Or.inr ⟨k, b, found, hb, (show n + 1 + k = n + (k + 1) by omega) ▸ hfound, hc⟩

lemma collect_round {f : Nat → α → Except ε (List γ)} {n : Nat} {l : List α} {found : List γ}
    (h : collect f n l = .ok found) {k : Nat} {a : α} (ha : l[k]? = some a) :
    ∃ here, f (n + k) a = .ok here := by
  have hall := succeeds_collect.mp ((congrArg (Except.Succeeds fun _ => True) h).mpr trivial) k a ha
  obtain ⟨here, hhere, -⟩ := Except.succeeds_iff.mp hall
  exact ⟨here, hhere⟩

lemma mem_slots_collect {σ β : Type} {f : Nat → α → Except ε (List (σ × β))} {s : σ}
    {P : Nat → α → Prop} (hround : ∀ k a here, f k a = .ok here → (s ∈ here.map Prod.fst ↔ P k a))
    {n : Nat} {l : List α} {found : List (σ × β)} (h : collect f n l = .ok found) :
    s ∈ found.map Prod.fst ↔ ∃ k a, l[k]? = some a ∧ P (n + k) a := by
  rw [List.mem_map]
  constructor
  · rintro ⟨c, hc, rfl⟩
    obtain ⟨k, a, here, ha, hhere, hc⟩ := (mem_collect h).mp hc
    exact ⟨k, a, ha, (hround _ a here hhere).mp (List.mem_map_of_mem hc)⟩
  · rintro ⟨k, a, ha, hP⟩
    obtain ⟨here, hhere⟩ := collect_round h ha
    obtain ⟨c, hc, hs⟩ := List.mem_map.mp ((hround _ a here hhere).mpr hP)
    exact ⟨c, (mem_collect h).mpr ⟨k, a, here, ha, hhere, hc⟩, hs⟩

lemma mem_slots_each {σ β : Type} {f : Nat → α → Except ε (List (σ × β))} {s : σ}
    {P : α → Prop} (hround : ∀ k a here, f k a = .ok here → (s ∈ here.map Prod.fst ↔ P a))
    {n : Nat} {l : List α} {found : List (σ × β)} (h : collect f n l = .ok found) :
    s ∈ found.map Prod.fst ↔ ∃ a ∈ l, P a := by
  rw [mem_slots_collect hround h]
  simp only [List.mem_iff_getElem?]
  constructor
  · rintro ⟨k, a, ha, hs⟩
    exact ⟨a, ⟨k, ha⟩, hs⟩
  · rintro ⟨a, ⟨k, ha⟩, hs⟩
    exact ⟨k, a, ha, hs⟩

/-- The loop gets through when each of its rounds does; the counter is not used. -/
lemma succeeds_each {f : α → Except ε (List γ)} {n : Nat} {l : List α} :
    (collect (fun _ => f) n l).Succeeds (fun _ => True) ↔
      ∀ a ∈ l, (f a).Succeeds fun _ => True := by
  rw [succeeds_collect]
  constructor
  · intro h a ha
    obtain ⟨k, hk⟩ := List.mem_iff_getElem?.mp ha
    exact h k a hk
  · exact fun h k a hk => h a (List.mem_of_getElem? hk)

lemma collect_map {δ : Type} (f : Nat → γ → Except ε (List δ)) (g : α → γ) (n : Nat) (l : List α) :
    collect f n (l.map g) = collect (fun k a => f k (g a)) n l := by
  induction l generalizing n with
  | nil => rfl
  | cons a l ih => rw [List.map_cons, collect, collect, ih]

lemma collect_map_eq {δ : Type} {f : Nat → α → Except ε (List γ)} {n : Nat} {l : List α}
    (lift : γ → δ) (said : Nat → α → List δ) (h : ∀ (k : Nat) (a : α), l[k]? = some a →
      ∃ here, f (n + k) a = .ok here ∧ here.map lift = said (n + k) a) :
    ∃ found, collect f n l = .ok found ∧
      found.map lift = (l.zipIdx n).flatMap fun p => said p.2 p.1 := by
  induction l generalizing n with
  | nil => exact ⟨[], rfl, rfl⟩
  | cons a l ih =>
    obtain ⟨here, hhere, hsaid⟩ := h 0 a rfl
    obtain ⟨rest, hrest, hsaid'⟩ := ih fun k b hb => by
      rw [show n + 1 + k = n + (k + 1) by omega]
      exact h (k + 1) b hb
    refine ⟨here ++ rest, collect_cons_ok.mpr ⟨here, rest, hhere, hrest, rfl⟩, ?_⟩
    rw [List.map_append, hsaid, hsaid', List.zipIdx_cons, List.flatMap_cons]
    rfl

/-- Where no round finds more than its size and the loop finds the sum, each round finds its size. -/
lemma collect_tight {f : Nat → α → Except ε (List γ)} {n : Nat} {l : List α} {size : α → Nat}
    {found : List γ} (h : collect f n l = .ok found)
    (hround : ∀ k, ∀ a ∈ l, ∀ here, f k a = .ok here → here.length ≤ size a) :
    found.length ≤ (l.map size).sum ∧ ((l.map size).sum ≤ found.length →
      ∀ (k : Nat) (a : α), l[k]? = some a → ∃ here, f (n + k) a = .ok here ∧ here.length = size a) := by
  induction l generalizing n found with
  | nil =>
    cases h
    exact ⟨le_rfl, fun _ k a ha => by cases ha⟩
  | cons a l ih =>
    obtain ⟨here, rest, hhere, hrest, rfl⟩ := collect_cons_ok.mp h
    have hsize := hround n a List.mem_cons_self here hhere
    obtain ⟨hle, htight⟩ := ih hrest fun k b hb => hround k b (List.mem_cons_of_mem a hb)
    rw [List.length_append, List.map_cons, List.sum_cons]
    refine ⟨by omega, fun hsum k b hb => ?_⟩
    cases k with
    | zero =>
      cases hb
      exact ⟨here, hhere, by omega⟩
    | succ k =>
      rw [show n + (k + 1) = n + 1 + k by omega]
      exact htight (by omega) k b hb

lemma updateEach_cons_ok {g : Nat → α → Except ε α} {n : Nat} {a : α} {l l' : List α} :
    updateEach g n (a :: l) = .ok l' ↔
      ∃ a' rest, g n a = .ok a' ∧ updateEach g (n + 1) l = .ok rest ∧ l' = a' :: rest := by
  simp only [updateEach, bind_eq_ok, pure, Except.pure, Except.ok.injEq]
  constructor
  · rintro ⟨a', ha', rest, hrest, rfl⟩
    exact ⟨a', rest, ha', hrest, rfl⟩
  · rintro ⟨a', rest, ha', hrest, rfl⟩
    exact ⟨a', ha', rest, hrest, rfl⟩

/-- The writer's loop is the reader's, where each round finds the one new element. -/
lemma updateEach_eq_collect (g : Nat → α → Except ε α) (n : Nat) (l : List α) :
    updateEach g n l = collect (fun k a => do return [← g k a]) n l := by
  induction l generalizing n with
  | nil => rfl
  | cons a l ih =>
    rw [updateEach, collect, ih]
    cases g n a with
    | error e => rfl
    | ok a' => rfl

lemma succeeds_updateEach {g : Nat → α → Except ε α} {n : Nat} {l : List α} :
    (updateEach g n l).Succeeds (fun _ => True) ↔
      ∀ k a, l[k]? = some a → (g (n + k) a).Succeeds fun _ => True := by
  rw [updateEach_eq_collect, succeeds_collect]
  simp only [Except.succeeds_bind, pure, Except.pure, Except.succeeds_ok]

variable {g : Nat → α → Except ε α} {n : Nat} {l l' : List α}

lemma length_updateEach (h : updateEach g n l = .ok l') : l'.length = l.length := by
  induction l generalizing n l' with
  | nil =>
    cases h
    rfl
  | cons a l ih =>
    obtain ⟨a', rest, -, hrest, rfl⟩ := updateEach_cons_ok.mp h
    rw [List.length_cons, List.length_cons, ih hrest]

lemma getElem?_updateEach (h : updateEach g n l = .ok l') {k : Nat} {a' : α} :
    l'[k]? = some a' ↔ ∃ a, l[k]? = some a ∧ g (n + k) a = .ok a' := by
  induction l generalizing n l' k with
  | nil =>
    cases h
    simp
  | cons a l ih =>
    obtain ⟨b, rest, hb, hrest, rfl⟩ := updateEach_cons_ok.mp h
    cases k with
    | zero => simp [hb]
    | succ k =>
      rw [List.getElem?_cons_succ, List.getElem?_cons_succ, ih hrest]
      rw [show n + 1 + k = n + (k + 1) by omega]

section Agree

variable {σ β D S T : Type} (val : σ → β)

/-- The slots that were found, with new values. -/
def relabel (found : List (σ × β)) : List (σ × β) := found.map fun p => (p.1, val p.1)

@[simp] lemma relabel_append (found found' : List (σ × β)) :
    relabel val (found ++ found') = relabel val found ++ relabel val found' := List.map_append

@[simp] lemma map_fst_relabel (found : List (σ × β)) :
    (relabel val found).map Prod.fst = found.map Prod.fst := by
  simp [relabel]

def Agree (shape : D → S) (reads : D → Except ε (List (σ × β))) (write : D → Except ε D) : Prop :=
  ∀ d found, reads d = .ok found →
    ∃ d', write d = .ok d' ∧ reads d' = .ok (relabel val found) ∧ shape d' = shape d

variable {val} {shape : D → S} {reads reads' : D → Except ε (List (σ × β))}
  {write write' : D → Except ε D}

/-- Two loops over one list, when the second finds the new values in each round. -/
lemma collect_relabel {f f' : Nat → α → Except ε (List (σ × β))} {n : Nat} {l : List α}
    {found : List (σ × β)} (hfound : collect f n l = .ok found)
    (h : ∀ k, ∀ a ∈ l, ∀ here, f k a = .ok here → f' k a = .ok (relabel val here)) :
    collect f' n l = .ok (relabel val found) := by
  induction l generalizing n found with
  | nil =>
    cases hfound
    rfl
  | cons a l ih =>
    obtain ⟨here, rest, hhere, hrest, rfl⟩ := collect_cons_ok.mp hfound
    rw [collect_cons_ok]
    refine ⟨_, _, h n a List.mem_cons_self here hhere, ih hrest fun k b hb => ?_,
      relabel_append val here rest⟩
    exact h k b (List.mem_cons_of_mem a hb)

lemma agree_each {f : Nat → D → Except ε (List (σ × β))} {g : Nat → D → Except ε D}
    (h : ∀ k, Agree val shape (f k) (g k)) (n : Nat) :
    Agree val (List.map shape) (collect f n) (updateEach g n) := by
  intro l
  induction l generalizing n with
  | nil =>
    intro found hfound
    cases hfound
    exact ⟨[], rfl, rfl, rfl⟩
  | cons d l ih =>
    intro found hfound
    obtain ⟨here, rest, hhere, hrest, rfl⟩ := collect_cons_ok.mp hfound
    obtain ⟨d', hd', hreads, hshape⟩ := h n d here hhere
    obtain ⟨l', hl', hreads', hshape'⟩ := ih (n + 1) rest hrest
    refine ⟨d' :: l', ?_, ?_, ?_⟩
    · rw [updateEach, hd', hl']
      rfl
    · rw [collect_cons_ok]
      exact ⟨_, _, hreads, hreads', relabel_append val here rest⟩
    · rw [List.map_cons, List.map_cons, hshape, hshape']

section Both

variable (h : Agree val shape reads write) (h' : Agree val shape reads' write')
  (hkeep : ∀ d d', write d = .ok d' → reads' d' = reads' d)
  (hkeep' : ∀ d d', write' d = .ok d' → reads d' = reads d)

include h h' hkeep hkeep'

/-- Two readers in turn agree with their writers in turn, when each reader sees nothing of the
other's writer. -/
lemma agree_both : Agree val shape (fun d => do return (← reads d) ++ (← reads' d))
    (fun d => do write' (← write d)) := by
  intro d found hfound
  simp only [bind_eq_ok, pure, Except.pure, Except.ok.injEq] at hfound
  obtain ⟨here, hhere, rest, hrest, rfl⟩ := hfound
  obtain ⟨d₁, hd₁, hreads₁, hshape₁⟩ := h d here hhere
  obtain ⟨d₂, hd₂, hreads₂, hshape₂⟩ := h' d₁ rest ((hkeep d d₁ hd₁).trans hrest)
  refine ⟨d₂, ?_, ?_, hshape₂.trans hshape₁⟩
  · exact bind_eq_ok.mpr ⟨d₁, hd₁, hd₂⟩
  · dsimp only
    rw [hkeep' d₁ d₂ hd₂, hreads₁, hreads₂, relabel_append]
    rfl

lemma agree_both_swap : Agree val shape (fun d => do return (← reads d) ++ (← reads' d))
    (fun d => do write (← write' d)) := by
  intro d found hfound
  simp only [bind_eq_ok, pure, Except.pure, Except.ok.injEq] at hfound
  obtain ⟨here, hhere, rest, hrest, rfl⟩ := hfound
  obtain ⟨d₁, hd₁, hreads₁, hshape₁⟩ := h' d rest hrest
  obtain ⟨d₂, hd₂, hreads₂, hshape₂⟩ := h d₁ here ((hkeep' d d₁ hd₁).trans hhere)
  refine ⟨d₂, ?_, ?_, hshape₂.trans hshape₁⟩
  · exact bind_eq_ok.mpr ⟨d₁, hd₁, hd₂⟩
  · dsimp only
    rw [hreads₂, hkeep d₁ d₂ hd₂, hreads₁, relabel_append]
    rfl

end Both

end Agree

end ReadWrite
