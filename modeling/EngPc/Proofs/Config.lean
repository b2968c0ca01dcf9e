import EngPc.Model.Config
import Mathlib.Data.List.TakeWhile

/-!
# Rows of the configuration files

The items of a file are those of its lines one after the other. A line makes its row from nothing
else when it makes one item with all its fields, or none at all; where a field is missing the loop
has the value of an earlier line in its variable, or NULL.
-/

namespace EngPc
open CString

lemma getToken_eq {buf : List UInt8} {t : Token} {rest : List UInt8}
    (h : getToken buf = some (t, rest)) :
    ∃ c more, buf.dropWhile isSeparator = c :: more ∧ t = c :: more.takeWhile (!isSeparator ·) ∧
      rest = more.dropWhile (!isSeparator ·) := by
  unfold getToken at h
  split at h
  · cases h
  · rename_i c more heq
    cases h
    exact ⟨c, more, heq, rfl, rfl⟩

lemma getToken_length {buf : List UInt8} {t : Token} {rest : List UInt8}
    (h : getToken buf = some (t, rest)) : rest.length < buf.length := by
  obtain ⟨c, more, hbuf, -, rfl⟩ := getToken_eq h
  have hdrop := (List.dropWhile_suffix (l := buf) isSeparator).length_le
  have hrest := (List.dropWhile_suffix (l := more) (!isSeparator ·)).length_le
  rw [hbuf, List.length_cons] at hdrop
  omega

/-- The tokens of a text; `none` where one begins with `#`. -/
def tokens (buf : List UInt8) : Option (List Token) := parseTokens buf.length buf

lemma parseTokens_nil (fuel : Nat) : parseTokens fuel [] = some [] := by
  cases fuel <;> rfl

lemma parseTokens_fuel {fuel fuel' : Nat} {buf : List UInt8} (h : buf.length ≤ fuel)
    (h' : buf.length ≤ fuel') : parseTokens fuel buf = parseTokens fuel' buf := by
  induction fuel generalizing fuel' buf with
  | zero =>
    rw [List.eq_nil_of_length_eq_zero (Nat.le_zero.mp h), parseTokens_nil, parseTokens_nil]
  | succ fuel ih =>
    cases fuel' with
    | zero =>
      rw [List.eq_nil_of_length_eq_zero (Nat.le_zero.mp h'), parseTokens_nil, parseTokens_nil]
    | succ fuel' =>
      rw [parseTokens, parseTokens]
      cases htoken : getToken buf with
      | none => rfl
      | some r =>
        have hlen := getToken_length htoken
        dsimp only
        rw [@ih fuel' r.2 (by omega) (by omega)]

lemma tokens_of_none {buf : List UInt8} (h : getToken buf = none) : tokens buf = some [] := by
  cases buf with
  | nil => rfl
  | cons c buf => rw [tokens, List.length_cons, parseTokens, h]

lemma tokens_of_some {buf : List UInt8} {t : Token} {rest : List UInt8}
    (h : getToken buf = some (t, rest)) :
    tokens buf = if t.head? = some 0x23 then none else (tokens rest).map (t :: ·) := by
  have hlen := getToken_length h
  cases buf with
  | nil => cases h
  | cons c buf =>
    rw [List.length_cons] at hlen
    rw [tokens, List.length_cons, parseTokens, h]
    dsimp only
    have hfuel : parseTokens buf.length rest = parseTokens rest.length rest :=
      parseTokens_fuel (by omega) le_rfl
    rw [hfuel, ← tokens]

/-- Behind a text that ends in a token's middle or at a token's end, nothing changes its first
token but the end. -/
lemma getToken_append {p : List UInt8} {t : Token} {rest : List UInt8}
    (h : getToken p = some (t, rest)) (q : List UInt8) :
    if rest = [] then ∃ more rest', getToken (p ++ q) = some (t ++ more, rest')
    else getToken (p ++ q) = some (t, rest ++ q) := by
  obtain ⟨c, more, hp, rfl, rfl⟩ := getToken_eq h
  have hdrop : (p ++ q).dropWhile isSeparator = c :: (more ++ q) := by
    rw [List.dropWhile_append, hp]
    rfl
  have htoken : getToken (p ++ q) = some (c :: (more ++ q).takeWhile (!isSeparator ·),
      (more ++ q).dropWhile (!isSeparator ·)) := by
    rw [getToken, hdrop]
  rw [htoken]
  split_ifs with hrest
  · have hall : more.takeWhile (!isSeparator ·) = more := by
      have hsplit := List.takeWhile_append_dropWhile (p := (!isSeparator ·)) (l := more)
      rw [hrest, List.append_nil] at hsplit
      exact hsplit
    rw [List.takeWhile_append, hall, if_pos rfl]
    exact ⟨_, _, rfl⟩
  · rw [List.takeWhile_append, List.dropWhile_append, if_neg, if_neg (by simpa using hrest)]
    intro hlen
    have hsplit := congrArg List.length
      (List.takeWhile_append_dropWhile (p := (!isSeparator ·)) (l := more))
    rw [List.length_append, hlen] at hsplit
    exact hrest (List.eq_nil_of_length_eq_zero (by omega))

lemma tokens_congr {p q : List UInt8} (h : getToken p = getToken q) : tokens p = tokens q := by
  cases hq : getToken q with
  | none => rw [tokens_of_none (h.trans hq), tokens_of_none hq]
  | some r => rw [tokens_of_some (h.trans hq), tokens_of_some hq]

lemma tokens_append_of_none {p : List UInt8} (h : getToken p = none) (q : List UInt8) :
    tokens (p ++ q) = tokens q := by
  have hp : p.dropWhile isSeparator = [] := by
    unfold getToken at h
    split at h
    · assumption
    · cases h
  apply tokens_congr
  rw [getToken, getToken, List.dropWhile_append, hp]
  rfl

lemma tokens_append_of_comment {p : List UInt8} (h : tokens p = none) (q : List UInt8) :
    tokens (p ++ q) = none := by
  induction hn : p.length using Nat.strong_induction_on generalizing p with
  | _ n ih =>
    cases hp : getToken p with
    | none =>
      rw [tokens_of_none hp] at h
      cases h
    | some r =>
      obtain ⟨t, rest⟩ := r
      have hlen := getToken_length hp
      obtain ⟨c, more, -, ht, -⟩ := getToken_eq hp
      have happend := getToken_append hp q
      rw [tokens_of_some hp] at h
      split_ifs at happend with hrest
      · obtain ⟨more', rest', htoken⟩ := happend
        rw [tokens_of_some htoken, ht, List.cons_append, List.head?_cons]
        rw [ht, List.head?_cons, hrest] at h
        split_ifs at h ⊢
        · rfl
        · cases h
      · rw [tokens_of_some happend]
        split_ifs at h ⊢
        · rfl
        · rw [ih rest.length (by omega) (Option.map_eq_none_iff.mp h) rfl]
          rfl

section Snoc

variable {α : Type} {p : α → Bool} {x : α} (hx : p x = false) (l : List α)

include hx

lemma takeWhile_snoc : (l ++ [x]).takeWhile p = l.takeWhile p := by
  induction l with
  | nil => simp [hx]
  | cons a l ih => rw [List.cons_append, List.takeWhile_cons, List.takeWhile_cons, ih]

lemma dropWhile_snoc : (l ++ [x]).dropWhile p = l.dropWhile p ++ [x] := by
  induction l with
  | nil => simp [hx]
  | cons a l ih =>
    rw [List.cons_append, List.dropWhile_cons, List.dropWhile_cons, ih]
    split_ifs <;> rfl

end Snoc

lemma tokens_newline (p : List UInt8) : tokens (p ++ [0x0a]) = tokens p := by
  induction hn : p.length using Nat.strong_induction_on generalizing p with
  | _ n ih =>
    cases hp : getToken p with
    | none =>
      rw [tokens_append_of_none hp, tokens_of_none hp]
      rfl
    | some r =>
      obtain ⟨t, rest⟩ := r
      have hlen := getToken_length hp
      obtain ⟨c, more, hdrop, rfl, rfl⟩ := getToken_eq hp
      have htoken : getToken (p ++ [0x0a]) = some (c :: more.takeWhile (!isSeparator ·),
          more.dropWhile (!isSeparator ·) ++ [0x0a]) := by
        rw [getToken, List.dropWhile_append, hdrop, ← takeWhile_snoc (x := 0x0a) rfl more,
          ← dropWhile_snoc (x := 0x0a) rfl more]
        rfl
      rw [tokens_of_some hp, tokens_of_some htoken, ih _ (hn ▸ hlen) _ rfl]

/-- The text of a line, up to the first zero. -/
def lineText (line : List UInt8) : List UInt8 := line.takeWhile (· ≠ 0)

lemma parseLine_eq (line : List UInt8) :
    parseLine line = (tokens (lineText line)).filter (· ≠ []) := rfl

lemma lineText_of_notMem {line : List UInt8} (h : 0 ∉ line) : lineText line = line := by
  rw [lineText, takeWhile_text h]

lemma lineText_append {p : List UInt8} (q : List UInt8) :
    lineText (p ++ q) = if 0 ∈ p then lineText p else p ++ lineText q := by
  split_ifs with h
  · obtain ⟨u, v, rfl, hu⟩ := List.eq_append_cons_of_mem h
    rw [List.append_assoc, List.cons_append, lineText, lineText, takeWhile_ne_append hu,
      takeWhile_ne_append hu]
    rfl
  · rw [lineText, takeWhile_ne_append h, lineText]

lemma parseLine_newline (line : List UInt8) : parseLine (line ++ [0x0a]) = parseLine line := by
  rw [parseLine_eq, parseLine_eq, lineText_append]
  split_ifs with h
  · rfl
  · have hnl : lineText [0x0a] = [0x0a] := rfl
    rw [hnl, tokens_newline, lineText_of_notMem h]

lemma parseLine_front {p q : List UInt8} {item : List Token}
    (h : parseLine (p ++ q) = some item) : parseLine p ≠ none ∨ parseLine q = some item := by
  rw [parseLine_eq, lineText_append] at h
  split_ifs at h with hzero
  · apply Or.inl
    rw [parseLine_eq, h]
    exact Option.some_ne_none item
  · rw [parseLine_eq, parseLine_eq, lineText_of_notMem hzero]
    cases htokens : tokens p with
    | none =>
      rw [tokens_append_of_comment htokens] at h
      cases h
    | some l =>
      cases l with
      | cons t l =>
        apply Or.inl
        simp
      | nil =>
        apply Or.inr
        rw [← h, tokens_append_of_none]
        cases hp : getToken p with
        | none => rfl
        | some r =>
          rw [tokens_of_some hp] at htokens
          split_ifs at htokens
          obtain ⟨l', -, hl'⟩ := Option.map_eq_some_iff.mp htokens
          cases hl'

/-- The words between the separators. -/
def words (buf : List UInt8) : List Token := (buf.splitOnP isSeparator).filter (· ≠ [])

lemma words_separator {c : UInt8} (hc : isSeparator c) (buf : List UInt8) :
    words (c :: buf) = words buf := by
  have hsplit := @List.splitOnP_append_cons_of_forall_mem _ isSeparator [] (by simp) c hc buf
  rw [List.nil_append] at hsplit
  rw [words, hsplit, List.filter_cons_of_neg (by simp), ← words]

lemma words_dropWhile (buf : List UInt8) : words (buf.dropWhile isSeparator) = words buf := by
  induction buf with
  | nil => rfl
  | cons c buf ih =>
    rw [List.dropWhile_cons]
    split_ifs with hc
    · rw [ih, words_separator hc]
    · rfl

lemma of_dropWhile_eq_cons {p : UInt8 → Bool} {buf rest : List UInt8} {c : UInt8}
    (h : buf.dropWhile p = c :: rest) : p c = false := by
  have hhead := List.head_dropWhile_not p (l := buf) (by simp [h])
  simpa only [h, List.head_cons] using hhead

lemma words_cons {c : UInt8} (hc : isSeparator c = false) (buf : List UInt8) :
    words (c :: buf) =
      (c :: buf.takeWhile (!isSeparator ·)) :: words (buf.dropWhile (!isSeparator ·)) := by
  have hword : ∀ x ∈ c :: buf.takeWhile (!isSeparator ·), isSeparator x = false := by
    rw [List.forall_mem_cons]
    exact ⟨hc, fun x hx => by simpa using List.mem_takeWhile_imp hx⟩
  conv_lhs => rw [← List.takeWhile_append_dropWhile (p := (!isSeparator ·)) (l := buf)]
  cases hrest : buf.dropWhile (!isSeparator ·) with
  | nil =>
    rw [List.append_nil, words, List.splitOnP_eq_singleton hword]
    rfl
  | cons x rest =>
    have hx : isSeparator x := by simpa using of_dropWhile_eq_cons hrest
    rw [← List.cons_append, words, List.splitOnP_append_cons_of_forall_mem hword x hx,
      words_separator hx]
    rfl

/-- The fields of a line as a whole; `none` for a blank one and for a comment. -/
def lineFields (line : List UInt8) : Option (List Token) :=
  let fields := words (lineText line)
  if fields = [] ∨ ∃ t ∈ fields, t.head? = some 0x23 then none else some fields

lemma tokens_eq_words (buf : List UInt8) :
    tokens buf = if ∃ t ∈ words buf, t.head? = some 0x23 then none else some (words buf) := by
  induction hn : buf.length using Nat.strong_induction_on generalizing buf with
  | _ n ih =>
    cases hbuf : getToken buf with
    | none =>
      have hwords : words buf = [] := by
        rw [← words_dropWhile]
        unfold getToken at hbuf
        split at hbuf
        · rename_i hnil
          rw [hnil]
          rfl
        · cases hbuf
      rw [tokens_of_none hbuf, hwords, if_neg (by simp)]
    | some r =>
      obtain ⟨t, rest⟩ := r
      have hlen := getToken_length hbuf
      obtain ⟨c, more, hdrop, rfl, rfl⟩ := getToken_eq hbuf
      rw [tokens_of_some hbuf, ← words_dropWhile buf, hdrop,
        words_cons (of_dropWhile_eq_cons hdrop), ih _ (hn ▸ hlen) _ rfl]
      simp only [List.exists_mem_cons_iff, List.head?_cons, Option.some.injEq]
      by_cases hc : c = 0x23
      · rw [if_pos hc, if_pos (Or.inl hc)]
      · simp only [hc, if_false, false_or, apply_ite (Option.map _), Option.map_none,
          Option.map_some]

lemma parseLine_eq_lineFields (line : List UInt8) : parseLine line = lineFields line := by
  rw [parseLine_eq, tokens_eq_words, lineFields]
  generalize words (lineText line) = fields
  by_cases hhash : ∃ t ∈ fields, t.head? = some 0x23
  · rw [if_pos hhash]
    exact (if_pos (Or.inr hhash)).symm
  · rw [if_neg hhash]
    by_cases hnil : fields = []
    · simp [hnil]
    · simp [hnil, hhash]

lemma lineFields_words {line : List UInt8} {item : List Token} (h : lineFields line = some item) :
    item ≠ [] ∧ ∀ t ∈ item, t ≠ [] := by
  unfold lineFields at h
  dsimp only at h
  split_ifs at h with hblank
  cases h
  exact ⟨fun hnil => hblank (Or.inl hnil), fun t ht => by simpa using (List.mem_filter.mp ht).2⟩

lemma fgets_newline (n : Nat) {line : List UInt8} (h : 0x0a ∉ line) (rest : List UInt8) :
    fgets n (line ++ 0x0a :: rest) =
      if line.length < n then (line ++ [0x0a], rest)
      else (line.take n, line.drop n ++ 0x0a :: rest) := by
  induction n generalizing line with
  | zero => simp [fgets]
  | succ n ih =>
    cases line with
    | nil => simp [fgets]
    | cons c line =>
      obtain ⟨hc, hline⟩ := List.ne_and_not_mem_of_not_mem_cons h
      rw [List.cons_append, fgets, if_neg (Ne.symm hc), ih hline]
      simp only [List.length_cons, Nat.add_lt_add_iff_right]
      split_ifs <;> rfl

lemma fgets_last (n : Nat) {line : List UInt8} (h : 0x0a ∉ line) :
    fgets n line = (line.take n, line.drop n) := by
  induction n generalizing line with
  | zero => rfl
  | succ n ih =>
    cases line with
    | nil => rfl
    | cons c line =>
      obtain ⟨hc, hline⟩ := List.ne_and_not_mem_of_not_mem_cons h
      rw [fgets, if_neg (Ne.symm hc), ih hline]
      rfl

lemma fgets_length (n : Nat) (c : UInt8) (file : List UInt8) :
    (fgets (n + 1) (c :: file)).2.length ≤ file.length := by
  induction n generalizing c file with
  | zero =>
    rw [fgets]
    split_ifs <;> rfl
  | succ n ih =>
    rw [fgets]
    split_ifs
    · rfl
    · cases file with
      | nil => rfl
      | cons d file => exact (ih d file).trans (by simp)

lemma readItems_fuel {fuel fuel' : Nat} {file : List UInt8} (h : file.length ≤ fuel)
    (h' : file.length ≤ fuel') : readItems fuel file = readItems fuel' file := by
  induction fuel generalizing fuel' file with
  | zero =>
    rw [List.eq_nil_of_length_eq_zero (Nat.le_zero.mp h)]
    cases fuel' <;> rfl
  | succ fuel ih =>
    cases file with
    | nil => cases fuel' <;> rfl
    | cons c file =>
      cases fuel' with
      | zero => cases h'
      | succ fuel' =>
        have hlen : (fgets lineRoom (c :: file)).2.length ≤ file.length := fgets_length 1022 c file
        rw [List.length_cons] at h h'
        rw [readItems, readItems]
        exact congrArg _ (ih (by omega) (by omega))

lemma parseConfigFile_round {file : List UInt8} (h : file ≠ []) :
    parseConfigFile file = (parseLine (fgets lineRoom file).1).toList ++
      parseConfigFile (fgets lineRoom file).2 := by
  cases file with
  | nil => exact absurd rfl h
  | cons c file =>
    rw [parseConfigFile, List.length_cons, readItems]
    exact congrArg _ (readItems_fuel (fgets_length 1022 c file) le_rfl)

lemma length_drop_lineRoom {line : List UInt8} (h : ¬line.length < lineRoom) :
    (line.drop lineRoom).length < line.length := by
  rw [List.length_drop]
  unfold lineRoom at h ⊢
  omega

lemma parseConfigFile_long {line : List UInt8} (h : 0x0a ∉ line) :
    parseConfigFile line = (parseLine (line.take lineRoom)).toList ++
      parseConfigFile (line.drop lineRoom) := by
  cases line with
  | nil => rfl
  | cons c line => rw [parseConfigFile_round (List.cons_ne_nil c line), fgets_last lineRoom h]

lemma parseConfigFile_newline {line : List UInt8} (h : 0x0a ∉ line) (rest : List UInt8) :
    parseConfigFile (line ++ 0x0a :: rest) = parseConfigFile line ++ parseConfigFile rest := by
  induction hn : line.length using Nat.strong_induction_on generalizing line with
  | _ n ih =>
    rw [parseConfigFile_round (by simp), fgets_newline lineRoom h, parseConfigFile_long h]
    split_ifs with hlen
    · rw [parseLine_newline, List.take_of_length_le hlen.le, List.drop_of_length_le hlen.le,
        List.append_assoc]
      rfl
    · have hdrop : 0x0a ∉ line.drop lineRoom := fun hmem => h (List.mem_of_mem_drop hmem)
      have hshort : (line.drop lineRoom).length < n := hn ▸ length_drop_lineRoom hlen
      rw [ih _ hshort hdrop rfl, List.append_assoc]

/-- The text of a file with these lines. -/
def fileText (lines : List (List UInt8)) : List UInt8 := lines.flatMap (· ++ [0x0a])

lemma parseConfigFile_lines {lines : List (List UInt8)} (h : ∀ line ∈ lines, 0x0a ∉ line) :
    parseConfigFile (fileText lines) = lines.flatMap parseConfigFile := by
  induction lines with
  | nil => rfl
  | cons line lines ih =>
    rw [List.forall_mem_cons] at h
    rw [fileText, List.flatMap_cons, ← fileText, List.append_assoc, List.singleton_append,
      parseConfigFile_newline h.1, ih h.2, List.flatMap_cons]

/-- The pieces in which `fgets` reads a line. -/
def pieces (line : List UInt8) : List (List UInt8) :=
  (List.range (line.length / lineRoom + 1)).map fun i => (line.drop (lineRoom * i)).take lineRoom

lemma pieces_long {line : List UInt8} (h : lineRoom ≤ line.length) :
    pieces line = line.take lineRoom :: pieces (line.drop lineRoom) := by
  have hdiv : line.length / lineRoom = (line.drop lineRoom).length / lineRoom + 1 := by
    rw [List.length_drop]
    exact Nat.div_eq_sub_div (by decide) h
  rw [pieces, hdiv, List.range_succ_eq_map, List.map_cons, List.map_map, pieces]
  refine congrArg _ (List.map_congr_left fun i _ => ?_)
  simp only [Function.comp, List.drop_drop, Nat.mul_succ, Nat.add_comm]

lemma pieces_short {line : List UInt8} (h : line.length < lineRoom) : pieces line = [line] := by
  rw [pieces, Nat.div_eq_of_lt h]
  simp [List.take_of_length_le h.le]

/-- The items of a line, each of a piece. -/
def lineItems (line : List UInt8) : List (List Token) := (pieces line).filterMap lineFields

lemma parseConfigFile_eq_lineItems {line : List UInt8} (h : 0x0a ∉ line) :
    parseConfigFile line = lineItems line := by
  induction hn : line.length using Nat.strong_induction_on generalizing line with
  | _ n ih =>
    rw [parseConfigFile_long h, parseLine_eq_lineFields]
    by_cases hlen : line.length < lineRoom
    · rw [lineItems, pieces_short hlen, List.take_of_length_le hlen.le,
        List.drop_of_length_le hlen.le]
      cases hfields : lineFields line <;> simp [hfields, parseConfigFile, readItems]
    · have hdrop : 0x0a ∉ line.drop lineRoom := fun hmem => h (List.mem_of_mem_drop hmem)
      have hshort : (line.drop lineRoom).length < n := hn ▸ length_drop_lineRoom hlen
      rw [ih _ hshort hdrop rfl, lineItems, lineItems, pieces_long (not_lt.mp hlen)]
      cases hfields : lineFields (line.take lineRoom) <;> simp [hfields]

lemma lineItems_ne_nil {line : List UInt8} {item : List Token} (h : lineFields line = some item) :
    lineItems line ≠ [] := by
  induction hn : line.length using Nat.strong_induction_on generalizing line with
  | _ n ih =>
    by_cases hlen : line.length < lineRoom
    · rw [lineItems, pieces_short hlen]
      simp [h]
    · have hshort : (line.drop lineRoom).length < n := hn ▸ length_drop_lineRoom hlen
      rw [← parseLine_eq_lineFields, ← List.take_append_drop lineRoom line] at h
      rw [lineItems, pieces_long (not_lt.mp hlen)]
      cases hfirst : lineFields (line.take lineRoom) with
      | some front => simp [hfirst]
      | none =>
        rw [List.filterMap_cons_none hfirst]
        rcases parseLine_front h with hfront | hback
        · rw [parseLine_eq_lineFields] at hfront
          exact absurd hfirst hfront
        · rw [parseLine_eq_lineFields] at hback
          exact ih _ hshort hback rfl

/-! ### Rows -/

@[simp] lemma assign_apply {n : Nat} (vars : FieldVars n) (item : List Token) (j : Fin n) :
    vars.assign item j = (item[j.val]?).or (vars j) := rfl

/-- An item with all the fields leaves nothing of what was in the variables. -/
lemma assign_full {n : Nat} {item : List Token} (h : n ≤ item.length) (vars vars' : FieldVars n) :
    vars.assign item = vars'.assign item := by
  funext j
  have hj : j.val < item.length := by omega
  simp [List.getElem?_eq_getElem hj]

/-- The fields that an item sets when it is the first. -/
def FieldVars.ofItem {n : Nat} (item : List Token) : FieldVars n :=
  FieldVars.assign (fun _ => none) item

section Load

variable {n : Nat} {ρ : Type} (build : FieldVars n → Except LoadFault (Option ρ))

/-- The field variables behind some items. -/
def varsAfter (vars : FieldVars n) (items : List (List Token)) : FieldVars n :=
  items.foldl FieldVars.assign vars

lemma loadItems_append (vars : FieldVars n) (items items' : List (List Token)) :
    loadItems build vars (items ++ items') = do
      let rows ← loadItems build vars items
      let rows' ← loadItems build (varsAfter vars items) items'
      return rows ++ rows' := by
  induction items generalizing vars with
  | nil =>
    change loadItems build vars items' =
      (loadItems build vars items' >>= fun rows' => pure ([] ++ rows'))
    cases loadItems build vars items' <;> rfl
  | cons item items ih =>
    rw [List.cons_append, loadItems, loadItems, ih]
    simp only [bind_assoc, pure_bind, List.append_assoc]
    rfl

lemma loadItems_append_ok {vars : FieldVars n} {items items' : List (List Token)} {rows : List ρ}
    (h : loadItems build vars items = .ok rows) :
    loadItems build vars (items ++ items') =
      (rows ++ ·) <$> loadItems build (varsAfter vars items) items' := by
  rw [loadItems_append, h]
  rfl

end Load

/-- A file format of `n + 1` columns: the arrays that `strcpy` fills, and the end of a round. -/
structure RowFormat (n : Nat) (ρ : Type) where
  build : FieldVars (n + 1) → Except LoadFault (Option ρ)
  /-- The size of a column's array. -/
  room : Fin (n + 1) → Option Nat
  /-- With all the variables set there is a row when each fits. -/
  build_all : ∀ vars, (∀ j, (vars j).isSome) →
    ((∃ row, build vars = .ok (some row)) ↔
      ∀ j size, room j = some size → ∀ t, vars j = some t → t.length < size)
  /-- With the first set there is a row or a fault. -/
  build_first : ∀ vars row, vars 0 ≠ none → build vars = .ok row → row ≠ none
  /-- Without the last there is not the row of words for all. -/
  build_last : ∀ vars vars' row, vars (Fin.last n) = none → (∀ j, ∃ t ≠ [], vars' j = some t) →
    build vars = .ok (some row) → build vars' ≠ .ok (some row)

namespace RowFormat

variable {n : Nat} {ρ : Type} (fmt : RowFormat n ρ)

/-- All the fields are there, and those that `strcpy` copies fit. -/
def Complete (item : List Token) : Prop :=
  n < item.length ∧
    ∀ j size, fmt.room j = some size → ∀ t, item[j.val]? = some t → t.length < size

instance (item : List Token) : Decidable (fmt.Complete item) :=
  inferInstanceAs (Decidable (n < item.length ∧
    ∀ j, ∀ size ∈ fmt.room j, ∀ t ∈ item[j.val]?, t.length < size))

/-- The row of a line's own fields. -/
def lineRow (line : List UInt8) : Option ρ :=
  match lineFields line with
  | none => none
  | some item => if n < item.length then (fmt.build (.ofItem item)).toOption.join else none

/-- The line's row comes behind those of the lines before it, and stays there whatever lines
follow. -/
def OwnRow (line : List UInt8) : Prop :=
  ∀ before rows, (∀ l ∈ before, 0x0a ∉ l) → loadFile fmt.build (fileText before) = .ok rows →
    loadFile fmt.build (fileText (before ++ [line])) = .ok (rows ++ (fmt.lineRow line).toList) ∧
    ∀ after rows', (∀ l ∈ after, 0x0a ∉ l) →
      loadFile fmt.build (fileText (before ++ line :: after)) = .ok rows' →
      rows ++ (fmt.lineRow line).toList <+: rows'

/-- No piece of the line has an item, or one has and it is complete, with the row of the whole
line. -/
def LineFits (line : List UInt8) : Prop :=
  lineItems line = [] ∨
    ∃ item, lineItems line = [item] ∧ fmt.Complete item ∧
      fmt.lineRow line = (fmt.build (.ofItem item)).toOption.join

/-- A line that `fgets` reads in one piece fits when it is blank, a comment, or complete. -/
lemma lineFits_short {line : List UInt8} (h : line.length < lineRoom) :
    fmt.LineFits line ↔
      lineFields line = none ∨ ∃ item, lineFields line = some item ∧ fmt.Complete item := by
  rw [LineFits, lineItems, pieces_short h]
  cases hline : lineFields line with
  | none => simp [hline]
  | some item =>
    simp only [List.filterMap_cons_some hline, List.filterMap_nil, List.cons_ne_nil, false_or,
      List.cons.injEq, and_true, reduceCtorEq, Option.some.injEq]
    constructor
    · rintro ⟨item', rfl, hcomplete, -⟩
      exact ⟨item, rfl, hcomplete⟩
    · rintro ⟨item', rfl, hcomplete⟩
      refine ⟨item, rfl, hcomplete, ?_⟩
      rw [lineRow, hline]
      exact if_pos hcomplete.1

variable {fmt}

lemma build_complete {item : List Token} (h : fmt.Complete item) :
    ∃ row, fmt.build (.ofItem item) = .ok (some row) := by
  have hset : ∀ j : Fin (n + 1), FieldVars.ofItem item j = item[j.val]? := fun j => Option.or_none
  refine (fmt.build_all _ fun j => ?_).mpr fun j size hsize t ht => ?_
  · have hj : j.val < item.length := by have := h.1; omega
    rw [hset, List.getElem?_eq_getElem hj]
    rfl
  · rw [hset] at ht
    exact h.2 j size hsize t ht

/-- A round that starts from nothing and ends with the line's row had a complete item. -/
lemma complete_of_build {item full : List Token} {row : ρ}
    (hitem : fmt.build (.ofItem item) = .ok (some row)) (hwords : ∀ t ∈ full, t ≠ [])
    (hlen : n < full.length) (hfull : fmt.build (.ofItem full) = .ok (some row)) :
    fmt.Complete item := by
  have hset : ∀ (l : List Token) (j : Fin (n + 1)), FieldVars.ofItem l j = l[j.val]? :=
    fun l j => Option.or_none
  have hn : n < item.length := by
    by_contra hshort
    have hnone : FieldVars.ofItem item (Fin.last n) = none := by
      rw [hset]
      exact List.getElem?_eq_none (not_lt.mp hshort)
    refine fmt.build_last _ (.ofItem full) row hnone (fun j => ?_) hitem hfull
    have hj : j.val < full.length := by omega
    rw [hset, List.getElem?_eq_getElem hj]
    exact ⟨_, hwords _ (List.getElem_mem hj), rfl⟩
  refine ⟨hn, fun j size hsize t ht => ?_⟩
  refine (fmt.build_all (.ofItem item) fun j => ?_).mp ⟨row, hitem⟩ j size hsize t ?_
  · rw [hset, List.getElem?_eq_getElem (by omega)]
    rfl
  · rw [hset, ht]

lemma lineRow_eq_some {line : List UInt8} {row : ρ} (h : fmt.lineRow line = some row) :
    ∃ item, lineFields line = some item ∧ n < item.length ∧
      fmt.build (.ofItem item) = .ok (some row) := by
  unfold lineRow at h
  split at h
  · cases h
  · rename_i item hitem
    split_ifs at h with hlen
    refine ⟨item, hitem, hlen, ?_⟩
    cases hbuild : fmt.build (.ofItem item) with
    | error e =>
      rw [hbuild] at h
      cases h
    | ok r =>
      rw [hbuild] at h
      exact congrArg _ h

lemma loadItems_fits {line : List UInt8} (h : fmt.LineFits line) (vars : FieldVars (n + 1)) :
    loadItems fmt.build vars (lineItems line) = .ok (fmt.lineRow line).toList := by
  rcases h with hnil | ⟨item, hitems, hcomplete, hrow⟩
  · have hnone : fmt.lineRow line = none := by
      cases hline : lineFields line with
      | none => rw [lineRow, hline]
      | some item => exact absurd hnil (lineItems_ne_nil hline)
    rw [hnil, hnone]
    rfl
  · obtain ⟨row, hbuild⟩ := build_complete hcomplete
    rw [hitems, hrow, loadItems, assign_full hcomplete.1 vars (fun _ => none)]
    change (do let r ← fmt.build (.ofItem item); _) = _
    rw [hbuild]
    rfl

lemma loadItems_length {items : List (List Token)} (hitems : ∀ item ∈ items, item ≠ [])
    {vars : FieldVars (n + 1)} {rows : List ρ} (h : loadItems fmt.build vars items = .ok rows) :
    rows.length = items.length := by
  induction items generalizing vars rows with
  | nil =>
    cases h
    rfl
  | cons item items ih =>
    rw [List.forall_mem_cons] at hitems
    have hfirst : vars.assign item 0 ≠ none := by
      obtain ⟨t, l, rfl⟩ := List.exists_cons_of_ne_nil hitems.1
      simp
    rw [loadItems] at h
    cases hbuild : fmt.build (vars.assign item) with
    | error e =>
      rw [hbuild] at h
      cases h
    | ok r =>
      cases hrest : loadItems fmt.build (vars.assign item) items with
      | error e =>
        rw [hbuild, hrest] at h
        cases h
      | ok rest =>
        rw [hbuild, hrest] at h
        cases h
        cases r with
        | none => exact absurd rfl (fmt.build_first _ _ hfirst hbuild)
        | some row => simp [ih hitems.2 hrest]

lemma fits_of_loadItems {line : List UInt8}
    (h : loadItems fmt.build (fun _ => none) (lineItems line) = .ok (fmt.lineRow line).toList) :
    fmt.LineFits line := by
  have hwords : ∀ item ∈ lineItems line, item ≠ [] := by
    intro item hitem
    obtain ⟨piece, -, hpiece⟩ := List.mem_filterMap.mp hitem
    exact (lineFields_words hpiece).1
  have hcount := loadItems_length hwords h
  cases hrow : fmt.lineRow line with
  | none =>
    rw [hrow] at hcount
    exact Or.inl (List.eq_nil_of_length_eq_zero hcount.symm)
  | some row =>
    rw [hrow] at hcount h
    obtain ⟨item, hitem⟩ := List.length_eq_one_iff.mp hcount.symm
    obtain ⟨full, hfull, hlen, hbuild⟩ := lineRow_eq_some hrow
    have hround : fmt.build (.ofItem item) = .ok (some row) := by
      rw [hitem, loadItems] at h
      change (do let r ← fmt.build (.ofItem item); _) = _ at h
      cases hbuild : fmt.build (.ofItem item) with
      | error e =>
        rw [hbuild] at h
        cases h
      | ok r =>
        rw [hbuild] at h
        cases r with
        | none => cases h
        | some row' =>
          cases h
          rfl
    refine Or.inr ⟨item, hitem, complete_of_build hround (lineFields_words hfull).2 hlen hbuild, ?_⟩
    rw [hrow, hround]
    rfl

lemma ownRow_iff {line : List UInt8} (hline : 0x0a ∉ line) :
    fmt.OwnRow line ↔ fmt.LineFits line := by
  constructor
  · intro h
    have hfront := (h [] [] (by simp) rfl).1
    rw [loadFile, parseConfigFile_lines (by simpa using hline)] at hfront
    apply fits_of_loadItems
    simpa [parseConfigFile_eq_lineItems hline] using hfront
  · intro h before rows hbefore hrows
    have hitems : ∀ after : List (List UInt8), (∀ l ∈ after, 0x0a ∉ l) →
        loadFile fmt.build (fileText (before ++ line :: after)) =
          (rows ++ (fmt.lineRow line).toList ++ ·) <$>
            loadItems fmt.build (varsAfter (varsAfter (fun _ => none)
              (before.flatMap parseConfigFile)) (lineItems line))
              (after.flatMap parseConfigFile) := by
      intro after hafter
      rw [loadFile, parseConfigFile_lines hbefore] at hrows
      rw [loadFile, parseConfigFile_lines, List.flatMap_append, List.flatMap_cons,
        parseConfigFile_eq_lineItems hline, loadItems_append_ok fmt.build hrows,
        loadItems_append_ok fmt.build (loadItems_fits h _), ← comp_map]
      · simp only [Function.comp_def, List.append_assoc]
      · intro l hl
        rcases List.mem_append.mp hl with hl | hl
        · exact hbefore l hl
        · rcases List.mem_cons.mp hl with rfl | hl
          · exact hline
          · exact hafter l hl
    constructor
    · rw [hitems [] (by simp)]
      exact congrArg Except.ok (List.append_nil _)
    · intro after rows' hafter hrows'
      rw [hitems after hafter] at hrows'
      cases hrest : loadItems fmt.build (varsAfter (varsAfter (fun _ => none)
          (before.flatMap parseConfigFile)) (lineItems line)) (after.flatMap parseConfigFile) with
      | error e =>
        rw [hrest] at hrows'
        cases hrows'
      | ok rest =>
        rw [hrest] at hrows'
        cases hrows'
        exact List.prefix_append _ rest

end RowFormat

lemma nonNull_ok {v : Option Token} {t : Token} : nonNull v = .ok t ↔ v = some t := by
  cases v <;> simp [nonNull]

lemma strcpy_ok {size : Nat} {v : Option Token} {t : Token} :
    strcpy size v = .ok t ↔ v = some t ∧ t.length < size := by
  cases v with
  | none => simp [strcpy, nonNull, bind, Except.bind]
  | some s =>
    simp only [strcpy, nonNull, bind, Except.bind]
    split_ifs with h
    · simp only [Except.ok.injEq, Option.some.injEq]
      exact ⟨fun heq => ⟨heq, heq ▸ h⟩, And.left⟩
    · simp only [Option.some.injEq, false_iff, not_and]
      rintro rfl
      exact h

lemma memcpyField_eq_nil {size : Nat} (hsize : 2 ≤ size) {v : Option Token} (hv : v ≠ some []) :
    memcpyField size v = [] ↔ v = none := by
  cases v with
  | none => simp [memcpyField]
  | some s =>
    have hs : s ≠ [] := fun heq => hv (heq ▸ rfl)
    simp only [memcpyField, List.take_eq_nil_iff, hs, or_false, reduceCtorEq, iff_false]
    omega

lemma bind_ok {ε α β : Type} {x : Except ε α} {f : α → Except ε β} {b : β} :
    x >>= f = .ok b ↔ ∃ a, x = .ok a ∧ f a = .ok b := by
  cases x <;> simp [bind, Except.bind]

lemma buildPort_ok {vars : FieldVars devFields} {row : Option PortRow} :
    buildPort vars = .ok row ↔ ∃ portType, vars 3 = some portType ∧
      ∃ dataType, vars 2 = some dataType ∧ match vars 0 with
        | none => row = none
        | some bootmode => bootmode.length < 64 ∧ row = some ⟨bootmode, (vars 1).map fun name =>
            { portName := memcpyField 32 (some name), portType := str2PortType portType,
              portPath := memcpyField 64 (vars 4), dataType := str2DataType dataType,
              reserved := memcpyField 128 (vars 5), desc := memcpyField 128 (vars 6) }⟩ := by
  simp only [buildPort, bind_ok, nonNull_ok]
  cases vars 0 with
  | none => simp [pure, Except.pure, eq_comm]
  | some bootmode =>
    simp only [bind_ok, strcpy_ok, Option.some.injEq, pure, Except.pure, Except.ok.injEq]
    refine exists_congr fun portType => and_congr_right' (exists_congr fun dataType =>
      and_congr_right' ⟨?_, ?_⟩)
    · rintro ⟨_, ⟨rfl, hroom⟩, rfl⟩
      exact ⟨hroom, rfl⟩
    · rintro ⟨hroom, rfl⟩
      exact ⟨bootmode, ⟨rfl, hroom⟩, rfl⟩

/-- The arrays that `CDev::addPort` fills with `strcpy`. -/
def devRoom (j : Fin 7) : Option Nat := if j.val = 0 then some 64 else none

lemma buildPort_all (vars : FieldVars 7) (hvars : ∀ j, (vars j).isSome) :
    (∃ row, buildPort vars = .ok (some row)) ↔
      ∀ j size, devRoom j = some size → ∀ t, vars j = some t → t.length < size := by
  obtain ⟨bootmode, h0⟩ := Option.isSome_iff_exists.mp (hvars 0)
  obtain ⟨dataType, h2⟩ := Option.isSome_iff_exists.mp (hvars 2)
  obtain ⟨portType, h3⟩ := Option.isSome_iff_exists.mp (hvars 3)
  simp only [devRoom, buildPort_ok, h0, h2, h3, Fin.forall_fin_succ]
  simp

lemma buildPort_first (vars : FieldVars 7) (row : Option PortRow) (hfirst : vars 0 ≠ none)
    (h : buildPort vars = .ok row) : row ≠ none := by
  obtain ⟨portType, -, dataType, -, h⟩ := buildPort_ok.mp h
  cases h0 : vars 0 with
  | none => exact absurd h0 hfirst
  | some bootmode =>
    rw [h0] at h
    exact h.2 ▸ Option.some_ne_none _

lemma buildPort_last (vars vars' : FieldVars 7) (row : PortRow) (hlast : vars (Fin.last 6) = none)
    (hvars' : ∀ j, ∃ t ≠ [], vars' j = some t) (h : buildPort vars = .ok (some row)) :
    buildPort vars' ≠ .ok (some row) := by
  intro h'
  obtain ⟨portType, -, dataType, -, h⟩ := buildPort_ok.mp h
  obtain ⟨portType', -, dataType', -, h'⟩ := buildPort_ok.mp h'
  obtain ⟨bootmode, -, h0⟩ := hvars' 0
  obtain ⟨name, -, h1⟩ := hvars' 1
  obtain ⟨desc, hdesc, h6⟩ := hvars' 6
  have hnil : memcpyField 128 (vars' 6) ≠ [] := by
    rw [Ne, memcpyField_eq_nil (by decide) (by simpa [h6] using hdesc), h6]
    exact Option.some_ne_none desc
  rw [h0, h1] at h'
  cases hboot : vars 0 with
  | none =>
    rw [hboot] at h
    cases h
  | some bootmode' =>
    rw [hboot] at h
    have hrow := Option.some.inj (h.2.symm.trans h'.2)
    cases hname : vars 1 with
    | none => simp [hname] at hrow
    | some name' =>
      simp only [hname, Option.map_some, PortRow.mk.injEq, Option.some.injEq,
        DevPort.mk.injEq] at hrow
      apply hnil
      rw [← hrow.2.2.2.2.2.2, show vars 6 = none from hlast]
      rfl

/-- The device files. -/
def devFormat : RowFormat 6 PortRow where
  build := buildPort
  room := devRoom
  build_all := buildPort_all
  build_first := buildPort_first
  build_last := buildPort_last

lemma buildChnl_ok {vars : FieldVars chnlFields} {row : Option ChnlRow}
    (h : buildChnl vars = .ok row) : vars 10 ≠ none ∧ row ≠ none := by
  simp only [buildChnl, bind_ok, nonNull_ok, strcpy_ok] at h
  obtain ⟨_, -, _, -, _, -, _, -, _, -, _, -, _, -, _, -, desc, ⟨hdesc, -⟩, hrow⟩ := h
  cases hrow
  exact ⟨hdesc ▸ Option.some_ne_none desc, Option.some_ne_none _⟩

/-- The arrays that `CChnl::add` fills with `strcpy`. -/
def chnlRoom (j : Fin 11) : Option Nat :=
  if j.val = 0 ∨ j.val = 9 ∨ j.val = 10 then some 128
  else if 1 ≤ j.val ∧ j.val ≤ 4 then some 32 else none

lemma buildChnl_all (vars : FieldVars 11) (hvars : ∀ j, (vars j).isSome) :
    (∃ row, buildChnl vars = .ok (some row)) ↔
      ∀ j size, chnlRoom j = some size → ∀ t, vars j = some t → t.length < size := by
  choose t ht using fun j => Option.isSome_iff_exists.mp (hvars j)
  simp only [chnlRoom, buildChnl, bind_ok, nonNull_ok, strcpy_ok, ht, Fin.forall_fin_succ]
  simp [pure, Except.pure]

lemma buildChnl_first (vars : FieldVars 11) (row : Option ChnlRow) (_ : vars 0 ≠ none)
    (h : buildChnl vars = .ok row) : row ≠ none :=
  (buildChnl_ok h).2

lemma buildChnl_last (vars vars' : FieldVars 11) (row : ChnlRow) (hlast : vars (Fin.last 10) = none)
    (_ : ∀ j, ∃ t ≠ [], vars' j = some t) (h : buildChnl vars = .ok (some row)) :
    buildChnl vars' ≠ .ok (some row) :=
  fun _ => (buildChnl_ok h).1 hlast

/-- The channel files. -/
def chnlFormat : RowFormat 10 ChnlRow where
  build := buildChnl
  room := chnlRoom
  build_all := buildChnl_all
  build_first := buildChnl_first
  build_last := buildChnl_last

/-- **Rows are independent exactly for the lines that fit**: in every file, whatever the lines
around it are. -/
theorem config_row_iff {line : List UInt8} (hline : 0x0a ∉ line) :
    (devFormat.OwnRow line ↔ devFormat.LineFits line) ∧
      (chnlFormat.OwnRow line ↔ chnlFormat.LineFits line) :=
  ⟨devFormat.ownRow_iff hline, chnlFormat.ownRow_iff hline⟩

def sampleDevLine : List UInt8 := ofString "normal\tgser\tDATA_DIAG\tGSER\t/dev/g\tr\te"

def sampleChnlLine : List UInt8 :=
  ofString "diag\thost\tgser\tmodem\tcom\tF\tDATA_DIAG\t1\t0\tr\te"

/-- A line with all the fields of its format. -/
theorem config_row_complete :
    devFormat.OwnRow sampleDevLine ∧ chnlFormat.OwnRow sampleChnlLine ∧
      (devFormat.lineRow sampleDevLine).isSome ∧ (chnlFormat.lineRow sampleChnlLine).isSome := by
  have hdev : ∃ item, lineFields sampleDevLine = some item ∧ devFormat.Complete item := by
    have hfields : lineFields sampleDevLine = some [ofString "normal", ofString "gser",
        ofString "DATA_DIAG", ofString "GSER", ofString "/dev/g", ofString "r", ofString "e"] := by
      decide +kernel
    exact ⟨_, hfields, by decide⟩
  have hchnl : ∃ item, lineFields sampleChnlLine = some item ∧ chnlFormat.Complete item := by
    have hfields : lineFields sampleChnlLine = some [ofString "diag", ofString "host",
        ofString "gser", ofString "modem", ofString "com", ofString "F", ofString "DATA_DIAG",
        ofString "1", ofString "0", ofString "r", ofString "e"] := by
      decide +kernel
    exact ⟨_, hfields, by decide⟩
  refine ⟨?_, ?_, by decide +kernel, by decide +kernel⟩
  · apply (config_row_iff (by decide : 0x0a ∉ sampleDevLine)).1.mpr
    exact (devFormat.lineFits_short (by decide)).mpr (.inr hdev)
  · apply (config_row_iff (by decide : 0x0a ∉ sampleChnlLine)).2.mpr
    exact (chnlFormat.lineFits_short (by decide)).mpr (.inr hchnl)

/-- A line of two fields gets the other five from the line before it. -/
theorem short_line_takes_fields :
    loadFile buildPort (fileText [ofString "n\tp\tDATA_AT\tCOM\t/d\tr\te", ofString "m\tq"]) =
        .ok [⟨ofString "n", some ⟨ofString "p", .com, ofString "/d", .at, ofString "r", ofString "e"⟩⟩,
          ⟨ofString "m", some ⟨ofString "q", .com, ofString "/d", .at, ofString "r", ofString "e"⟩⟩] ∧
      ¬ devFormat.OwnRow (ofString "m\tq") := by
  constructor
  · decide +kernel
  · have hfields : lineFields (ofString "m\tq") = some [ofString "m", ofString "q"] := by
      decide +kernel
    rw [devFormat.ownRow_iff (by decide), devFormat.lineFits_short (by decide), hfields]
    rintro (hnone | ⟨item, hitem, hcomplete⟩)
    · exact absurd hnone (Option.some_ne_none _)
    · have hlen := congrArg List.length (Option.some.inj hitem)
      have hfull : 6 < item.length := hcomplete.1
      rw [← hlen] at hfull
      exact absurd hfull (by decide)

end EngPc
