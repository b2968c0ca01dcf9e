import Mathlib.Data.List.Induction
import Mathlib.Data.List.Nodup
import Mathlib.Tactic.Common

/-!
# Grouping by a key

Items come one after the other; each goes into the group with its key, or opens a group of its own
behind the others. `groups_eq` says what the groups are in terms of the list of items: one for each
key, in the order of the first items, with all the items of the key in their order.
-/

namespace Grouping

variable {α γ κ : Type*}

/-- How items become groups. -/
structure Grouper (α γ κ : Type*) where
  item : α → κ
  key : γ → κ
  start : α → γ
  add : γ → α → γ
  key_start : ∀ a, key (start a) = item a
  key_add : ∀ g a, key (add g a) = key g

section Firsts

variable [DecidableEq κ] (item : α → κ)

/-- The items before which there is none with their key. -/
def firsts : List α → List α
  | [] => []
  | a :: l => a :: (firsts l).filter fun b => item b ≠ item a

variable {item}

lemma firsts_sublist (l : List α) : (firsts item l).Sublist l := by
  induction l with
  | nil => exact List.Sublist.slnil
  | cons a l ih => exact (List.filter_sublist.trans ih).cons_cons a

lemma mem_of_mem_firsts {l : List α} {a : α} (h : a ∈ firsts item l) : a ∈ l :=
  (firsts_sublist l).subset h

lemma nodup_firsts (l : List α) : ((firsts item l).map item).Nodup := by
  induction l with
  | nil => exact List.nodup_nil
  | cons a l ih =>
    rw [firsts, List.map_cons, List.nodup_cons]
    constructor
    · intro hmem
      obtain ⟨b, hb, heq⟩ := List.mem_map.mp hmem
      exact of_decide_eq_true (List.mem_filter.mp hb).2 heq
    · exact ih.sublist (List.filter_sublist.map item)

lemma firsts_snoc (l : List α) (a : α) :
    firsts item (l ++ [a]) = firsts item l ++ if item a ∈ l.map item then [] else [a] := by
  induction l with
  | nil => rfl
  | cons b l ih =>
    rw [List.cons_append, firsts, ih, firsts, List.filter_append, List.cons_append, List.map_cons]
    by_cases hab : item a = item b
    · simp only [hab, List.mem_cons, true_or, if_true]
      split_ifs <;> simp [hab]
    · simp only [List.mem_cons, hab, false_or]
      split_ifs <;> simp [hab]

lemma filter_firsts (l : List α) (k : κ) :
    (firsts item l).filter (fun a => item a = k) = (l.filter fun a => item a = k).head?.toList := by
  induction l with
  | nil => rfl
  | cons a l ih =>
    rw [firsts]
    by_cases ha : item a = k
    · rw [List.filter_cons_of_pos (by simpa using ha), List.filter_cons_of_pos (by simpa using ha)]
      have hrest : ((firsts item l).filter fun b => item b ≠ item a).filter
          (fun b => item b = k) = [] := by
        rw [List.filter_filter, List.filter_eq_nil_iff]
        simp [ha]
      rw [hrest]
      rfl
    · rw [List.filter_cons_of_neg (by simpa using ha), List.filter_cons_of_neg (by simpa using ha),
        ← ih, List.filter_filter]
      apply List.filter_congr
      intro b _
      by_cases hb : item b = k
      · simp [hb, Ne.symm ha]
      · simp [hb]

lemma find?_firsts (l : List α) (k : κ) :
    (firsts item l).find? (fun a => item a = k) = l.find? fun a => item a = k := by
  rw [← List.head?_filter, filter_firsts, ← List.head?_filter]
  cases (l.filter fun a => item a = k).head? with
  | none => rfl
  | some a => rfl

lemma mem_map_firsts {l : List α} {k : κ} : k ∈ (firsts item l).map item ↔ k ∈ l.map item := by
  have hfind : ∀ l' : List α, k ∈ l'.map item ↔ (l'.find? fun a => item a = k).isSome = true := by
    simp
  rw [hfind, hfind, find?_firsts]

lemma foldl_firsts {add : List α → α → List α}
    (hin : ∀ l a, item a ∈ l.map item → add l a = l)
    (hout : ∀ l a, item a ∉ l.map item → add l a = l ++ [a]) (l : List α) :
    l.foldl add [] = firsts item l := by
  induction l using List.reverseRecOn with
  | nil => rfl
  | append_singleton l a ih =>
    rw [List.foldl_append, ih, List.foldl_cons, List.foldl_nil, firsts_snoc]
    by_cases ha : item a ∈ l.map item
    · rw [hin _ _ (mem_map_firsts.mpr ha), if_pos ha, List.append_nil]
    · rw [hout _ _ fun h => ha (mem_map_firsts.mp h), if_neg ha]

end Firsts

namespace Grouper

lemma key_foldl (G : Grouper α γ κ) (l : List α) (g : γ) : G.key (l.foldl G.add g) = G.key g := by
  induction l generalizing g with
  | nil => rfl
  | cons a l ih => rw [List.foldl_cons, ih, G.key_add]

variable [DecidableEq κ] (G : Grouper α γ κ)

def insert (a : α) : List γ → List γ
  | [] => [G.start a]
  | g :: gs => if G.key g = G.item a then G.add g a :: gs else g :: insert a gs

def groups (l : List α) : List γ := l.foldl (fun gs a => G.insert a gs) []

lemma groups_snoc (l : List α) (a : α) : G.groups (l ++ [a]) = G.insert a (G.groups l) := by
  rw [groups, List.foldl_append]
  rfl

variable {G}

lemma insert_new {a : α} {gs : List γ} (h : G.item a ∉ gs.map G.key) :
    G.insert a gs = gs ++ [G.start a] := by
  induction gs with
  | nil => rfl
  | cons g gs ih =>
    rw [List.map_cons, List.mem_cons, not_or] at h
    rw [insert, if_neg (Ne.symm h.1), ih h.2, List.cons_append]

/-- Where the group is there, and only one has its key, that one changes. -/
lemma insert_map {β : Type*} {a : α} {f : β → γ} {bs : List β}
    (h : G.item a ∈ bs.map fun b => G.key (f b)) (hnodup : (bs.map fun b => G.key (f b)).Nodup) :
    G.insert a (bs.map f) =
      bs.map fun b => if G.key (f b) = G.item a then G.add (f b) a else f b := by
  induction bs with
  | nil => exact absurd h List.not_mem_nil
  | cons b bs ih =>
    rw [List.map_cons, List.nodup_cons] at hnodup
    rw [List.map_cons, insert, List.map_cons]
    by_cases hb : G.key (f b) = G.item a
    · have hrest : ∀ b' ∈ bs, G.key (f b') ≠ G.item a := by
        intro b' hb' heq
        exact hnodup.1 (List.mem_map.mpr ⟨b', hb', heq.trans hb.symm⟩)
      rw [if_pos hb, if_pos hb]
      congr 1
      apply List.map_congr_left
      intro b' hb'
      rw [if_neg (hrest b' hb')]
    · rw [List.map_cons, List.mem_cons] at h
      rw [if_neg hb, if_neg hb, ih (h.resolve_left (Ne.symm hb)) hnodup.2]

variable (G) in
/-- The group that `a` opens: all the items of its key. -/
def groupOf (l : List α) (a : α) : γ :=
  ((l.filter fun b => G.item b = G.item a).tail).foldl G.add (G.start a)

@[simp] lemma key_groupOf (l : List α) (a : α) : G.key (G.groupOf l a) = G.item a := by
  rw [groupOf, key_foldl, G.key_start]

lemma groupOf_snoc {l : List α} {a b : α} (hb : b ∈ l) :
    G.groupOf (l ++ [a]) b =
      if G.item b = G.item a then G.add (G.groupOf l b) a else G.groupOf l b := by
  have hne : l.filter (fun c => G.item c = G.item b) ≠ [] :=
    List.ne_nil_of_mem (List.mem_filter.mpr ⟨hb, by simp⟩)
  rw [groupOf, List.filter_append]
  by_cases hab : G.item b = G.item a
  · rw [if_pos hab, List.filter_cons_of_pos (by simpa using hab.symm), List.filter_nil,
      List.tail_append_of_ne_nil hne, List.foldl_append]
    rfl
  · rw [if_neg hab, List.filter_cons_of_neg (by simpa using Ne.symm hab), List.filter_nil,
      List.append_nil]
    rfl

theorem groups_eq (l : List α) : G.groups l = (firsts G.item l).map (G.groupOf l) := by
  induction l using List.reverseRecOn with
  | nil => rfl
  | append_singleton l a ih =>
    have hkeys : (firsts G.item l).map (fun b => G.key (G.groupOf l b)) =
        (firsts G.item l).map G.item := by simp
    have hold : ∀ b ∈ firsts G.item l, G.groupOf (l ++ [a]) b =
        if G.item b = G.item a then G.add (G.groupOf l b) a else G.groupOf l b :=
      fun b hb => groupOf_snoc (mem_of_mem_firsts hb)
    rw [groups_snoc, ih, firsts_snoc, List.map_append, List.map_congr_left hold]
    by_cases hin : G.item a ∈ l.map G.item
    · rw [if_pos hin, List.map_nil, List.append_nil,
        insert_map (hkeys ▸ mem_map_firsts.mpr hin) (hkeys ▸ nodup_firsts l)]
      simp
    · have hnew : G.item a ∉ ((firsts G.item l).map (G.groupOf l)).map G.key := by
        rw [List.map_map]
        exact fun h => hin (mem_map_firsts.mp (hkeys ▸ h))
      have hnone : l.filter (fun c => G.item c = G.item a) = [] := by
        rw [List.filter_eq_nil_iff]
        intro c hc
        simpa using fun heq => hin (List.mem_map.mpr ⟨c, hc, heq⟩)
      have hself : G.groupOf (l ++ [a]) a = G.start a := by
        rw [groupOf, List.filter_append, hnone, List.nil_append,
          List.filter_cons_of_pos (by simp)]
        rfl
      rw [if_neg hin, insert_new hnew, List.map_singleton, hself]
      congr 1
      apply List.map_congr_left
      intro b hb
      rw [if_neg fun heq => hin (List.mem_map.mpr ⟨b, mem_of_mem_firsts hb, heq⟩)]

lemma map_key_groups (l : List α) : (G.groups l).map G.key = (firsts G.item l).map G.item := by
  rw [groups_eq, List.map_map]
  exact List.map_congr_left fun a _ => key_groupOf l a

lemma mem_map_key_groups {l : List α} {k : κ} :
    k ∈ (G.groups l).map G.key ↔ k ∈ l.map G.item := by
  rw [map_key_groups, mem_map_firsts]

section Content

variable {δ : Type*} {content : γ → List δ} {f : α → δ}
variable (hstart : ∀ a, content (G.start a) = [f a])
variable (hadd : ∀ g a, content (G.add g a) = content g ++ [f a])
include hstart hadd

/-- Groups that list what they are made of: the group of a key lists all the items with it. -/
theorem flatMap_content (l : List α) (k : κ) :
    ((G.groups l).filter fun g => G.key g = k).flatMap content =
      (l.filter fun a => G.item a = k).map f := by
  have hfold : ∀ (bs : List α) (g : γ), content (bs.foldl G.add g) = content g ++ bs.map f := by
    intro bs
    induction bs with
    | nil => exact fun g => (List.append_nil _).symm
    | cons b bs ih =>
      intro g
      rw [List.foldl_cons, ih, hadd, List.append_assoc]
      rfl
  rw [groups_eq, List.filter_map]
  have hpred : ((fun g => decide (G.key g = k)) ∘ G.groupOf l) = fun a => decide (G.item a = k) := by
    funext a
    simp
  rw [hpred, filter_firsts]
  cases hfilter : l.filter fun a => G.item a = k with
  | nil => rfl
  | cons a bs =>
    have ha : G.item a = k := by
      have hmem : a ∈ l.filter fun a => G.item a = k := hfilter ▸ List.mem_cons_self
      simpa using (List.mem_filter.mp hmem).2
    rw [List.head?_cons, Option.toList_some, List.map_singleton, List.flatMap_singleton, groupOf,
      ha, hfilter, List.tail_cons, hfold, hstart, List.map_cons]
    rfl

end Content

end Grouper

end Grouping
