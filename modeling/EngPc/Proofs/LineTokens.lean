import EngPc.Proofs.Config

/-!
# The tokens of a line

A token is a maximal run of characters other than tab, CR and LF: a line is cut into its tokens in one
way only, and `parse_line` gives them back unless one of them begins with `#`.
-/

namespace EngPc
open CString

/-- The line is made of these tokens, with separators in front of each and behind the last; what follows
a token begins with a separator, so that the token is as long as it can be. -/
inductive Runs : List UInt8 → List Token → Prop
  | blank (gap : List UInt8) (hgap : ∀ c ∈ gap, isSeparator c = true) : Runs gap []
  | token (gap : List UInt8) (t : Token) (rest : List UInt8) (toks : List Token)
      (hgap : ∀ c ∈ gap, isSeparator c = true) (hne : t ≠ [])
      (ht : ∀ c ∈ t, isSeparator c = false) (hrest : ∀ c ∈ rest.head?, isSeparator c = true)
      (h : Runs rest toks) : Runs (gap ++ (t ++ rest)) (t :: toks)

section Runs

variable {gap rest buf : List UInt8} {t : Token} {toks : List Token}

lemma words_gap (hgap : ∀ c ∈ gap, isSeparator c = true) (buf : List UInt8) :
    words (gap ++ buf) = words buf := by
  induction gap with
  | nil => rfl
  | cons c gap ih =>
    rw [List.forall_mem_cons] at hgap
    rw [List.cons_append, words_separator hgap.1, ih hgap.2]

lemma words_token (hne : t ≠ []) (ht : ∀ c ∈ t, isSeparator c = false)
    (hrest : ∀ c ∈ rest.head?, isSeparator c = true) : words (t ++ rest) = t :: words rest := by
  obtain ⟨c, t, rfl⟩ := List.exists_cons_of_ne_nil hne
  rw [List.forall_mem_cons] at ht
  have hall : ∀ x ∈ t, (!isSeparator x) = true := fun x hx => by rw [ht.2 x hx]; rfl
  have hstop : rest.takeWhile (!isSeparator ·) = [] ∧ rest.dropWhile (!isSeparator ·) = rest := by
    cases rest with
    | nil => exact ⟨rfl, rfl⟩
    | cons x rest =>
      have hx := hrest x rfl
      exact ⟨List.takeWhile_cons_of_neg (by simp [hx]), List.dropWhile_cons_of_neg (by simp [hx])⟩
  rw [List.cons_append, words_cons ht.1, List.takeWhile_append_of_pos hall,
    List.dropWhile_append_of_pos hall, hstop.1, hstop.2, List.append_nil]

lemma Runs.words_eq (h : Runs buf toks) : words buf = toks := by
  induction h with
  | blank gap hgap =>
    have hwords := words_gap hgap []
    rwa [List.append_nil] at hwords
  | token gap t rest toks hgap hne ht hrest _ ih => rw [words_gap hgap, words_token hne ht hrest, ih]

lemma runs_words (buf : List UInt8) : Runs buf (words buf) := by
  induction hn : buf.length using Nat.strong_induction_on generalizing buf with
  | _ n ih =>
    have hgap : ∀ c ∈ buf.takeWhile isSeparator, isSeparator c = true :=
      fun c hc => List.mem_takeWhile_imp hc
    have hcut := List.takeWhile_append_dropWhile (p := isSeparator) (l := buf)
    cases hdrop : buf.dropWhile isSeparator with
    | nil =>
      rw [← words_dropWhile, hdrop]
      rw [hdrop, List.append_nil] at hcut
      rw [hcut] at hgap
      exact .blank buf hgap
    | cons c more =>
      have hc := of_dropWhile_eq_cons hdrop
      have hmore := List.takeWhile_append_dropWhile (p := (!isSeparator ·)) (l := more)
      have hlen := (List.dropWhile_suffix (l := buf) isSeparator).length_le
      have hlen' := (List.dropWhile_suffix (l := more) (!isSeparator ·)).length_le
      rw [hdrop, List.length_cons] at hlen
      have hword : ∀ x ∈ c :: more.takeWhile (!isSeparator ·), isSeparator x = false := by
        rw [List.forall_mem_cons]
        exact ⟨hc, fun x hx => by simpa using List.mem_takeWhile_imp hx⟩
      have hrest : ∀ x ∈ (more.dropWhile (!isSeparator ·)).head?, isSeparator x = true := by
        intro x hx
        cases hback : more.dropWhile (!isSeparator ·) with
        | nil =>
          rw [hback] at hx
          cases hx
        | cons y back =>
          rw [hback] at hx
          cases hx
          simpa using of_dropWhile_eq_cons hback
      rw [← words_dropWhile, hdrop, words_cons hc]
      have hruns := Runs.token _ _ _ _ hgap (List.cons_ne_nil c _) hword hrest
        (ih _ (by omega) (more.dropWhile (!isSeparator ·)) rfl)
      rwa [List.cons_append, hmore, ← hdrop, hcut] at hruns

lemma runs_iff : Runs buf toks ↔ toks = words buf :=
  ⟨fun h => h.words_eq.symm, fun h => h ▸ runs_words buf⟩

end Runs

/-- Tokens with tabs between them; a number is that of the tabs behind the first one. -/
def joinTabs (t : Token) : List (Nat × Token) → List UInt8
  | [] => t
  | (tabs, t') :: rest => t ++ (List.replicate (tabs + 1) 0x09 ++ joinTabs t' rest)

/-- What a token is made of that is no comment. -/
structure PlainToken (t : Token) : Prop where
  ne_nil : t ≠ []
  chars : ∀ c ∈ t, c ≠ 0x09 ∧ c ≠ 0x0d ∧ c ≠ 0x0a ∧ c ≠ 0
  hash : t.head? ≠ some 0x23

lemma PlainToken.free {t : Token} (h : PlainToken t) : ∀ c ∈ t, isSeparator c = false := by
  intro c hc
  obtain ⟨htab, hcr, hlf, -⟩ := h.chars c hc
  simp [isSeparator, htab, hcr, hlf]

lemma joinTabs_spec (t : Token) (rest : List (Nat × Token))
    (h : ∀ x ∈ t :: rest.map Prod.snd, PlainToken x) :
    Runs (joinTabs t rest) (t :: rest.map Prod.snd) ∧ 0 ∉ joinTabs t rest := by
  induction rest generalizing t with
  | nil =>
    have ht := h t List.mem_cons_self
    have hruns := Runs.token [] t [] [] (List.forall_mem_nil _) ht.ne_nil ht.free (by simp)
      (.blank [] (List.forall_mem_nil _))
    rw [List.nil_append, List.append_nil] at hruns
    exact ⟨hruns, fun h0 => (ht.chars 0 h0).2.2.2 rfl⟩
  | cons p rest ih =>
    obtain ⟨tabs, t'⟩ := p
    rw [List.map_cons, List.forall_mem_cons] at h
    obtain ⟨ht, hrest⟩ := h
    obtain ⟨hruns, h0⟩ := ih t' hrest
    have htabs : ∀ c ∈ List.replicate (tabs + 1) (0x09 : UInt8), isSeparator c = true := by
      intro c hc
      rw [List.eq_of_mem_replicate hc]
      rfl
    have hback : Runs (List.replicate (tabs + 1) 0x09 ++ joinTabs t' rest)
        (t' :: rest.map Prod.snd) := by
      rw [runs_iff, words_gap htabs]
      exact hruns.words_eq.symm
    refine ⟨?_, ?_⟩
    · exact .token [] t _ _ (List.forall_mem_nil _) ht.ne_nil ht.free
        (fun c hc => htabs c (by cases hc; exact List.mem_cons_self)) hback
    · rw [joinTabs, List.mem_append, List.mem_append, not_or, not_or]
      refine ⟨fun hmem => (ht.chars 0 hmem).2.2.2 rfl, fun hmem => ?_, h0⟩
      exact absurd (List.eq_of_mem_replicate hmem) (by decide)

/-- A line has one list of tokens; the parser gives NULL where it is empty or has a comment, and the list
otherwise. Tokens that are joined by tabs come back. -/
theorem parse_line_tokens :
    (∀ line, ∃ toks, (∀ toks', Runs (lineText line) toks' ↔ toks' = toks) ∧
      (parseLine line = none ↔ toks = [] ∨ ∃ t ∈ toks, t.head? = some 0x23) ∧
      (parseLine line ≠ none → parseLine line = some toks)) ∧
    ∀ (t : Token) (rest : List (Nat × Token)), (∀ x ∈ t :: rest.map Prod.snd, PlainToken x) →
      parseLine (joinTabs t rest) = some (t :: rest.map Prod.snd) := by
  constructor
  · intro line
    refine ⟨words (lineText line), fun toks' => runs_iff, ?_⟩
    rw [parseLine_eq_lineFields, lineFields]
    generalize words (lineText line) = toks
    by_cases h : toks = [] ∨ ∃ t ∈ toks, t.head? = some 0x23
    · rw [if_pos h]
      exact ⟨iff_of_true rfl h, fun hne => absurd rfl hne⟩
    · rw [if_neg h]
      exact ⟨iff_of_false (Option.some_ne_none _) h, fun _ => rfl⟩
  · intro t rest h
    obtain ⟨hruns, h0⟩ := joinTabs_spec t rest h
    rw [parseLine_eq_lineFields, lineFields, lineText_of_notMem h0, hruns.words_eq]
    refine if_neg ?_
    rintro (hnil | ⟨x, hx, hhash⟩)
    · cases hnil
    · exact (h x hx).hash hhash

theorem parse_line_tokens_two :
    parseLine (joinTabs [0x61] [(1, [0x62])]) = some [[0x61], [0x62]] := by
  refine parse_line_tokens.2 [0x61] [(1, [0x62])] ?_
  rw [List.map_cons, List.map_nil, List.forall_mem_cons, List.forall_mem_singleton]
  exact ⟨⟨by decide, List.forall_mem_singleton.mpr (by decide), by decide⟩,
    ⟨by decide, List.forall_mem_singleton.mpr (by decide), by decide⟩⟩

end EngPc
