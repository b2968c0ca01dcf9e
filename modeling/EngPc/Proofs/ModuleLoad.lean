import EngPc.Model.ModuleLoad

/-!
# What is registered

The count of the last library is still there when a register function returns early, so as many
unset entries are registered again.
-/

namespace EngPc

variable {φ : Type}

/-- The entries that the call itself fills. -/
def RegisterExt.reported : RegisterExt φ → List (EngCallback φ)
  | .fills slots _ => slots.map fun f => f .unset
  | .early => []

/-- The entries of an element of the directory, in order. -/
def DirEntry.reported : DirEntry φ → List (EngCallback φ)
  | .library lib =>
    (lib.registerThisModule.map fun f => f .unset).toList ++
      (lib.registerThisModuleExt.map RegisterExt.reported).getD []
  | _ => []

def DirEntry.isEarly : DirEntry φ → Bool
  | .library ⟨_, some .early⟩ => true
  | _ => false

/-- `register_num` after the entry. -/
def DirEntry.count (num : Nat) : DirEntry φ → Nat
  | .library ⟨_, some (.fills slots _)⟩ => slots.length
  | _ => num

/-- The count of the last library that has set it. -/
def lastCount (entries : List (DirEntry φ)) : Nat := entries.foldl DirEntry.count 0

lemma map_getEngModules (l : List (EngCallback φ)) : l.map getEngModules = l := List.map_id' l

lemma zipWith_unset (slots : List (EngCallback φ → EngCallback φ)) {n : Nat}
    (h : slots.length ≤ n) :
    List.zipWith (fun f p => f p) slots (List.replicate n .unset) =
      slots.map fun f => f .unset := by
  induction slots generalizing n with
  | nil => rfl
  | cons f slots ih =>
    obtain ⟨m, rfl⟩ : ∃ m, n = m + 1 := ⟨n - 1, by rw [List.length_cons] at h; omega⟩
    rw [List.replicate_succ, List.zipWith_cons_cons, List.map_cons,
      ih (Nat.le_of_succ_le_succ h)]

lemma LoadState.registerExt_fills (s : LoadState φ) {slots : List (EngCallback φ → EngCallback φ)}
    (fits : slots.length ≤ registerSlots) :
    (s.registerExt (.fills slots fits)).list = s.list ++ slots.map fun f => f .unset := by
  have hlen : (slots.map fun f => f .unset).length = slots.length := List.length_map _
  unfold LoadState.registerExt RegisterExt.call
  dsimp only
  rw [zipWith_unset slots fits, List.take_left' hlen, map_getEngModules]

/-- Nothing is filled: what is registered are unset entries, as many as the last count. -/
lemma LoadState.registerExt_early (s : LoadState φ) (hnum : s.registerNum ≤ registerSlots) :
    (s.registerExt .early).list = s.list ++ List.replicate s.registerNum .unset := by
  unfold LoadState.registerExt RegisterExt.call
  dsimp only
  rw [List.take_replicate, Nat.min_eq_left hnum, map_getEngModules]

lemma LoadState.entry_registerNum (s : LoadState φ) (e : DirEntry φ) :
    (s.entry e).registerNum = e.count s.registerNum := by
  cases e with
  | library lib =>
    obtain ⟨this, ext⟩ := lib
    cases this with
    | none => rcases ext with _ | ⟨slots, fits⟩ | _ <;> rfl
    | some f => rcases ext with _ | ⟨slots, fits⟩ | _ <;> rfl
  | _ => rfl

lemma DirEntry.count_le {num : Nat} (hnum : num ≤ registerSlots) (e : DirEntry φ) :
    e.count num ≤ registerSlots := by
  cases e with
  | library lib =>
    obtain ⟨this, ext⟩ := lib
    rcases ext with _ | ⟨slots, fits⟩ | _
    · exact hnum
    · exact fits
    · exact hnum
  | _ => exact hnum

lemma LoadState.entry_list (s : LoadState φ) (e : DirEntry φ)
    (hnum : s.registerNum ≤ registerSlots) :
    (s.entry e).list = s.list ++ (e.reported ++
      if e.isEarly = true then List.replicate s.registerNum .unset else []) := by
  cases e with
  | library lib =>
    obtain ⟨this, ext⟩ := lib
    cases this with
    | none =>
      rcases ext with _ | ⟨slots, fits⟩ | _
      · simp [LoadState.entry, DirEntry.reported, DirEntry.isEarly]
      · simp [LoadState.entry, DirEntry.reported, DirEntry.isEarly, RegisterExt.reported,
          s.registerExt_fills fits]
      · simp [LoadState.entry, DirEntry.reported, DirEntry.isEarly, RegisterExt.reported,
          s.registerExt_early hnum]
    | some f =>
      have hlist : (s.register f).list = s.list ++ [f .unset] := rfl
      have hnum' : (s.register f).registerNum ≤ registerSlots := hnum
      rcases ext with _ | ⟨slots, fits⟩ | _
      · simp [LoadState.entry, DirEntry.reported, DirEntry.isEarly, hlist]
      · simp [LoadState.entry, DirEntry.reported, DirEntry.isEarly, RegisterExt.reported,
          (s.register f).registerExt_fills fits, hlist]
      · simp [LoadState.entry, DirEntry.reported, DirEntry.isEarly, RegisterExt.reported,
          (s.register f).registerExt_early hnum', hlist]
        rfl
  | _ => simp [LoadState.entry, DirEntry.reported, DirEntry.isEarly]

/-- The entries that are too many: for each early return the last count. -/
def surplus : Nat → List (DirEntry φ) → Nat
  | _, [] => 0
  | num, e :: entries => (if e.isEarly = true then num else 0) + surplus (e.count num) entries

lemma foldl_entry_list_length (entries : List (DirEntry φ)) (s : LoadState φ)
    (hnum : s.registerNum ≤ registerSlots) :
    (entries.foldl LoadState.entry s).list.length =
      s.list.length + (entries.flatMap DirEntry.reported).length +
        surplus s.registerNum entries := by
  induction entries generalizing s with
  | nil => simp [surplus]
  | cons e entries ih =>
    have hcount := s.entry_registerNum e
    have hlen := congrArg List.length (s.entry_list e hnum)
    rw [List.length_append, List.length_append] at hlen
    rw [List.foldl_cons, ih _ (hcount ▸ DirEntry.count_le hnum e), hcount, hlen, surplus,
      List.flatMap_cons, List.length_append]
    split_ifs <;> simp <;> omega

lemma foldl_entry_list (entries : List (DirEntry φ)) (s : LoadState φ)
    (hnum : s.registerNum ≤ registerSlots) (h : surplus s.registerNum entries = 0) :
    (entries.foldl LoadState.entry s).list = s.list ++ entries.flatMap DirEntry.reported := by
  induction entries generalizing s with
  | nil => simp
  | cons e entries ih =>
    have hcount := s.entry_registerNum e
    rw [surplus, Nat.add_eq_zero_iff] at h
    have hnone : (if e.isEarly = true then List.replicate s.registerNum EngCallback.unset
        else ([] : List (EngCallback φ))) = [] := by
      split_ifs with hearly
      · rw [if_pos hearly] at h
        rw [h.1]
        rfl
      · rfl
    rw [List.foldl_cons, ih _ (hcount ▸ DirEntry.count_le hnum e) (hcount ▸ h.2),
      s.entry_list e hnum, hnone, List.flatMap_cons, List.append_nil, List.append_assoc]

/-- No library returns early while the last count is positive. -/
def EarlyUncounted (entries : List (DirEntry φ)) : Prop :=
  ∀ pre e post, entries = pre ++ e :: post → e.isEarly = true → lastCount pre = 0

lemma surplus_eq_zero_iff (num : Nat) (entries : List (DirEntry φ)) :
    surplus num entries = 0 ↔ ∀ pre e post, entries = pre ++ e :: post → e.isEarly = true →
      pre.foldl DirEntry.count num = 0 := by
  induction entries generalizing num with
  | nil => simp [surplus]
  | cons e entries ih =>
    rw [surplus, Nat.add_eq_zero_iff, ih]
    constructor
    · rintro ⟨hhead, htail⟩ pre e' post heq hearly
      cases pre with
      | nil =>
        obtain ⟨rfl, rfl⟩ := List.cons.inj heq
        rwa [if_pos hearly] at hhead
      | cons e₀ pre =>
        obtain ⟨rfl, rfl⟩ := List.cons.inj heq
        exact htail pre e' post rfl hearly
    · intro h
      constructor
      · split_ifs with hearly
        · exact h [] e entries rfl hearly
        · rfl
      · intro pre e' post heq hearly
        exact h (e :: pre) e' post (congrArg (e :: ·) heq) hearly

/-- **The exact condition on a directory** for its libraries to have exactly their own entries
registered, in order. -/
theorem modules_registered_iff (list stack : List (EngCallback φ)) (entries : List (DirEntry φ)) :
    engModulesLoad list stack (some entries) = list ++ entries.flatMap DirEntry.reported ↔
      EarlyUncounted entries := by
  unfold EarlyUncounted lastCount
  rw [← surplus_eq_zero_iff 0 entries]
  constructor
  · intro h
    have hlen := foldl_entry_list_length entries ⟨list, stack, 0⟩ (Nat.zero_le _)
    have hlen' := congrArg List.length h
    rw [List.length_append] at hlen'
    unfold engModulesLoad at hlen'
    dsimp only at hlen hlen'
    omega
  · exact foldl_entry_list entries ⟨list, stack, 0⟩ (Nat.zero_le _)

/-- A library with one entry, and one that gives up. -/
def earlyBehindOne : List (DirEntry Nat) :=
  [.library ⟨none, some (.fills [fun p => { p with type := 0x62, engDiagFunc := some 0 }]
      (by decide))⟩,
    .library ⟨none, some .early⟩]

/-- The library that gives up has an unset entry registered. -/
theorem early_library_registered :
    engModulesLoad [] [] (some earlyBehindOne) ≠ earlyBehindOne.flatMap DirEntry.reported := by
  decide

end EngPc
