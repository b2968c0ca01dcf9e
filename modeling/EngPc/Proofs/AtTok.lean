import EngPc.Model.AtTok

/-!
# A response read field by field

A response is a mark and the fields behind it, with commas between them. The calls of a caller go
through the fields one by one, also where a field is not what the call asks for, and a quoted text may
hold commas.
-/

namespace EngPc
open CString

inductive AtForm
  | bare
  | quoted (junk : List UInt8)
  deriving DecidableEq, Repr

/-- A field as it stands in a response: spaces, and a text up to the comma or between quotes. Behind
the closing quote whatever stands in front of the comma is passed over. -/
structure AtField where
  space : List UInt8
  form : AtForm
  text : List UInt8
  space_isSpace : ∀ c ∈ space, isSpace c = true
  bare_text : form = .bare → 0x2c ∉ text ∧ ∀ c ∈ text.head?, isSpace c = false ∧ c ≠ 0x22
  quoted_text : ∀ junk, form = .quoted junk → 0x22 ∉ text ∧ 0x2c ∉ junk

def AtField.bytes (f : AtField) : List UInt8 :=
  match f.form with
  | .bare => f.space ++ f.text
  | .quoted junk => f.space ++ 0x22 :: (f.text ++ 0x22 :: junk)

def joinFields : List AtField → List UInt8
  | [] => []
  | [f] => f.bytes
  | f :: g :: fs => f.bytes ++ 0x2c :: joinFields (g :: fs)

/-- Where the pointer stands behind a field, in front of others. The last field leaves NULL, or the
end of the text if it has quotes. -/
def AtField.next (f : AtField) (fs : List AtField) : AtCursor :=
  if fs.isEmpty ∧ f.form = .bare then none else some (joinFields fs)

lemma AtField.next_cons (f g : AtField) (fs : List AtField) :
    f.next (g :: fs) = some (joinFields (g :: fs)) :=
  if_neg fun h => by cases h.1

/-- What a call makes of the text of a field. -/
def AtKind.value (k : AtKind) (text : List UInt8) : AtValue :=
  match k with
  | .int _ => .number (if converts 10 text then 0 else -1) (intOf (strtol longBits 10 text))
  | .hexint _ => .number (if converts 16 text then 0 else -1) (intOf (strtoulHex text))
  | .bool =>
    if converts 10 text ∧ (intOf (strtol longBits 10 text) = 0 ∨ intOf (strtol longBits 10 text) = 1) then
      .flag 0 (some (intOf (strtol longBits 10 text)))
    else .flag (-1) none
  | .str => .text 0 (some (some text))

lemma dropWhile_run {p : UInt8 → Bool} {run : List UInt8} (hrun : ∀ c ∈ run, p c = true)
    (rest : List UInt8) : (run ++ rest).dropWhile p = rest.dropWhile p :=
  List.dropWhile_append_of_pos hrun

lemma strchrNext_cut {c : UInt8} {front : List UInt8} (h : c ∉ front) (rest : List UInt8) :
    strchrNext c (front ++ c :: rest) = some rest := by
  have hrun : ∀ x ∈ front, decide (x ≠ c) = true :=
    fun x hx => decide_eq_true fun heq => h (heq ▸ hx)
  unfold strchrNext
  rw [dropWhile_run hrun]
  simp

lemma strsep_cut {delim : UInt8} {tok : List UInt8} (h : delim ∉ tok) (rest : List UInt8) :
    strsep delim (tok ++ delim :: rest) = (tok, some rest) := by
  unfold strsep
  rw [strchrNext_cut h, takeWhile_ne_append h]
  simp

lemma strsep_end {delim : UInt8} {tok : List UInt8} (h : delim ∉ tok) :
    strsep delim tok = (tok, none) := by
  have hrun : ∀ c ∈ tok, decide (c ≠ delim) = true :=
    fun c hc => decide_eq_true fun heq => h (heq ▸ hc)
  have htake := takeWhile_ne_append h []
  have hdrop := dropWhile_run hrun []
  simp only [List.append_nil, List.takeWhile_nil, List.dropWhile_nil] at htake hdrop
  unfold strsep strchrNext
  rw [htake, hdrop]

lemma skipNextComma_junk {junk : List UInt8} (h : 0x2c ∉ junk) (rest : List UInt8) :
    skipNextComma (some (junk ++ 0x2c :: rest)) = some rest := by
  have hrun : ∀ c ∈ junk, decide (c ≠ 0x2c) = true :=
    fun c hc => decide_eq_true fun heq => h (heq ▸ hc)
  unfold skipNextComma
  rw [Option.map_some, dropWhile_run hrun]
  simp

lemma skipNextComma_end {junk : List UInt8} (h : 0x2c ∉ junk) :
    skipNextComma (some junk) = some [] := by
  have hrun : ∀ c ∈ junk, decide (c ≠ 0x2c) = true :=
    fun c hc => decide_eq_true fun heq => h (heq ▸ hc)
  have hdrop := dropWhile_run hrun []
  rw [List.append_nil] at hdrop
  unfold skipNextComma
  rw [Option.map_some, hdrop]
  rfl

lemma nextTok_quote {space : List UInt8} (hspace : ∀ c ∈ space, isSpace c = true)
    (rest : List UInt8) :
    nextTok (some (space ++ 0x22 :: rest)) =
      (some (strsep 0x22 rest).1, skipNextComma (strsep 0x22 rest).2) := by
  have hskip : skipWhiteSpace (some (space ++ 0x22 :: rest)) = some (0x22 :: rest) := by
    unfold skipWhiteSpace
    rw [Option.map_some, dropWhile_run hspace]
    rfl
  unfold nextTok
  rw [hskip]
  rfl

lemma nextTok_bare {space : List UInt8} (hspace : ∀ c ∈ space, isSpace c = true)
    {s : List UInt8} (hs : ∀ c ∈ s.head?, isSpace c = false ∧ c ≠ 0x22) :
    nextTok (some (space ++ s)) = (some (strsep 0x2c s).1, (strsep 0x2c s).2) := by
  have hskip : skipWhiteSpace (some (space ++ s)) = some s := by
    unfold skipWhiteSpace
    rw [Option.map_some, dropWhile_run hspace]
    cases s with
    | nil => rfl
    | cons c s => rw [List.dropWhile_cons_of_neg (by simpa using (hs c rfl).1)]
  have hquote : s.head? ≠ some 0x22 := fun h => (hs 0x22 h).2 rfl
  unfold nextTok
  rw [hskip]
  dsimp only
  rw [if_neg hquote]

lemma nextTok_joinFields (f : AtField) (fs : List AtField) :
    nextTok (some (joinFields (f :: fs))) = (some f.text, f.next fs) := by
  cases hform : f.form with
  | bare =>
    obtain ⟨htext, hhead⟩ := f.bare_text hform
    have hbytes : f.bytes = f.space ++ f.text := by rw [AtField.bytes, hform]
    cases fs with
    | nil =>
      have hnext : f.next [] = none := if_pos ⟨rfl, hform⟩
      rw [joinFields, hbytes, nextTok_bare f.space_isSpace hhead, strsep_end htext, hnext]
    | cons g fs =>
      have hnext : f.next (g :: fs) = some (joinFields (g :: fs)) := f.next_cons g fs
      have hhead' : ∀ c ∈ (f.text ++ 0x2c :: joinFields (g :: fs)).head?,
          isSpace c = false ∧ c ≠ 0x22 := by
        intro c hc
        cases htx : f.text with
        | nil =>
          rw [htx, List.nil_append, List.head?_cons, Option.mem_some_iff] at hc
          subst hc
          decide
        | cons d t =>
          rw [htx] at hc
          exact hhead c (by rw [htx]; exact hc)
      rw [joinFields, hbytes, List.append_assoc, nextTok_bare f.space_isSpace hhead',
        strsep_cut htext, hnext]
  | quoted junk =>
    obtain ⟨htext, hjunk⟩ := f.quoted_text junk hform
    have hbytes : f.bytes = f.space ++ 0x22 :: (f.text ++ 0x22 :: junk) := by
      rw [AtField.bytes, hform]
    cases fs with
    | nil =>
      have hnext : f.next [] = some [] := if_neg fun h => by rw [hform] at h; cases h.2
      rw [joinFields, hbytes, nextTok_quote f.space_isSpace, strsep_cut htext,
        skipNextComma_end hjunk, hnext]
    | cons g fs =>
      have hnext : f.next (g :: fs) = some (joinFields (g :: fs)) := f.next_cons g fs
      have happend : f.bytes ++ 0x2c :: joinFields (g :: fs) =
          f.space ++ 0x22 :: (f.text ++ 0x22 :: (junk ++ 0x2c :: joinFields (g :: fs))) := by
        rw [hbytes]
        simp
      rw [joinFields, happend, nextTok_quote f.space_isSpace, strsep_cut htext,
        skipNextComma_junk hjunk, hnext]

lemma atTokNextintBase_joinFields (value : List UInt8 → Int) (base : Nat) (f : AtField)
    (fs : List AtField) (out : Int) :
    atTokNextintBase value base (some (joinFields (f :: fs))) out =
      (⟨if converts base f.text then 0 else -1, intOf (value f.text)⟩, f.next fs) := by
  unfold atTokNextintBase
  dsimp only
  rw [nextTok_joinFields]

lemma atTokNextstr_joinFields (f : AtField) (fs : List AtField) :
    atTokNextstr (some (joinFields (f :: fs))) = ((0, some (some f.text)), f.next fs) := by
  unfold atTokNextstr
  dsimp only
  rw [nextTok_joinFields]

lemma atTokNextbool_joinFields (f : AtField) (fs : List AtField) :
    atTokNextbool (some (joinFields (f :: fs))) =
      (if converts 10 f.text ∧ (intOf (strtol longBits 10 f.text) = 0 ∨ intOf (strtol longBits 10 f.text) = 1) then
        (0, some (intOf (strtol longBits 10 f.text)))
      else (-1, none), f.next fs) := by
  unfold atTokNextbool atTokNextint
  rw [atTokNextintBase_joinFields]
  dsimp only
  cases hconv : converts 10 f.text with
  | false => simp
  | true =>
    by_cases hbool : intOf (strtol longBits 10 f.text) = 0 ∨ intOf (strtol longBits 10 f.text) = 1
    · simp [hbool]
    · simp [hbool]

lemma AtKind.read_joinFields (k : AtKind) (f : AtField) (fs : List AtField) :
    k.read (some (joinFields (f :: fs))) = (k.value f.text, f.next fs) := by
  cases k with
  | int out =>
    have hread := atTokNextintBase_joinFields (strtol longBits 10) 10 f fs out
    exact congrArg (fun r => (AtValue.number r.1.ret r.1.out, r.2)) hread
  | hexint out =>
    have hread : atTokNexthexint (some (joinFields (f :: fs))) out =
        (⟨if converts 16 f.text then 0 else -1, intOf (strtoulHex f.text)⟩, f.next fs) :=
      atTokNextintBase_joinFields (fun s => strtoulHex s) 16 f fs out
    unfold AtKind.read AtKind.value
    dsimp only
    rw [hread]
  | bool =>
    have hread := atTokNextbool_joinFields f fs
    by_cases h : converts 10 f.text ∧ (intOf (strtol longBits 10 f.text) = 0 ∨ intOf (strtol longBits 10 f.text) = 1)
    · have hvalue : AtKind.bool.value f.text = .flag 0 (some (intOf (strtol longBits 10 f.text))) := if_pos h
      rw [if_pos h] at hread
      rw [hvalue]
      exact congrArg (fun r => (AtValue.flag r.1.1 r.1.2, r.2)) hread
    · have hvalue : AtKind.bool.value f.text = .flag (-1) none := if_neg h
      rw [if_neg h] at hread
      rw [hvalue]
      exact congrArg (fun r => (AtValue.flag r.1.1 r.1.2, r.2)) hread
  | str =>
    have hread := atTokNextstr_joinFields f fs
    exact congrArg (fun r => (AtValue.text r.1.1 r.1.2, r.2)) hread

lemma AtField.next_hasmore (f : AtField) : atTokHasmore (f.next []) = false := by
  unfold AtField.next
  split_ifs
  · rfl
  · rfl

lemma atTokRead_cons (k : AtKind) (ks : List AtKind) (cur : AtCursor) :
    atTokRead (k :: ks) cur =
      ((k.read cur).1 :: (atTokRead ks (k.read cur).2).1, (atTokRead ks (k.read cur).2).2) := rfl

lemma atTokRead_fields (f : AtField) (fs : List AtField) (k : AtKind) (ks : List AtKind)
    (hlen : ks.length = fs.length) :
    (atTokRead (k :: ks) (some (joinFields (f :: fs)))).1 =
        List.zipWith (fun k f => k.value f.text) (k :: ks) (f :: fs) ∧
      atTokHasmore (atTokRead (k :: ks) (some (joinFields (f :: fs)))).2 = false := by
  induction fs generalizing f k ks with
  | nil =>
    rw [List.length_nil, List.length_eq_zero_iff] at hlen
    subst hlen
    rw [atTokRead_cons, k.read_joinFields]
    exact ⟨rfl, f.next_hasmore⟩
  | cons g fs ih =>
    cases ks with
    | nil => cases hlen
    | cons k' ks =>
      rw [List.length_cons, List.length_cons, Nat.add_right_cancel_iff] at hlen
      obtain ⟨hvalues, hmore⟩ := ih g k' ks hlen
      rw [atTokRead_cons, k.read_joinFields, f.next_cons]
      dsimp only
      rw [hvalues]
      exact ⟨rfl, hmore⟩

lemma atTokRead_before (f : AtField) (fs : List AtField) (ks : List AtKind)
    (hlen : ks.length ≤ fs.length) :
    (atTokRead ks (some (joinFields (f :: fs)))).2 =
      some (joinFields ((f :: fs).drop ks.length)) := by
  induction fs generalizing f ks with
  | nil =>
    obtain rfl : ks = [] := List.length_eq_zero_iff.mp (Nat.le_zero.mp hlen)
    rfl
  | cons g fs ih =>
    cases ks with
    | nil => rfl
    | cons k ks =>
      rw [atTokRead_cons, k.read_joinFields, f.next_cons]
      exact ih g ks (Nat.le_of_succ_le_succ hlen)

lemma isSpace_false {c : UInt8} (h : c ≠ 0x20) (h' : ¬(0x09 ≤ c ∧ c ≤ 0x0d)) : isSpace c = false := by
  simp only [isSpace, decide_eq_false_iff_not, not_or]
  exact ⟨h, h'⟩

lemma converts_printInt (v : Int) : converts 10 (printInt v) = true := by
  have hfirst : ∃ d < 10, ∃ s, unsigned (printInt v) = decDigit d :: s := by
    rcases printInt_cases v with ⟨-, hs⟩ | ⟨-, d, hd, s, hs, -⟩
    · cases hdec : decimal v.natAbs with
      | nil => exact absurd hdec (decimal_ne_nil _)
      | cons c s =>
        obtain ⟨d, hd, rfl⟩ := mem_decimal (hdec ▸ List.mem_cons_self : c ∈ decimal v.natAbs)
        refine ⟨d, hd, s, ?_⟩
        rw [hs, hdec]
        rfl
    · obtain ⟨hmem, hrange⟩ := decDigit_mem hd
      simp only [List.mem_cons, not_or] at hmem
      refine ⟨d, hd, s, ?_⟩
      rw [hs, unsigned, List.dropWhile_cons_of_neg (by rw [isSpace_false hmem.1 hrange]; decide)]
      simp [hmem.2.1, hmem.2.2.1]
  obtain ⟨d, hd, s, hs⟩ := hfirst
  unfold converts
  rw [hs, List.head?_cons]
  simp [digit_decDigit hd, hd]

lemma AtKind.value_printInt (out : Int) {v : Int} (hlow : -2 ^ 31 ≤ v) (hhigh : v < 2 ^ 31) :
    (AtKind.int out).value (printInt v) = .number 0 v := by
  unfold AtKind.value
  rw [converts_printInt, strtol_printInt (by omega) (by omega), intOf_eq hlow hhigh]
  rfl

/-- The calls get the texts of the fields in order, each call that of its own field even if another
call has found no number; a printed number is read back; nothing is left at the end, and before it
the pointer stands in front of the fields to come. -/
theorem at_tok_fields (startFlag : UInt8) (front : List UInt8) (hfront : startFlag ∉ front)
    (fs : List AtField) (hne : fs ≠ []) (ks : List AtKind) (hlen : ks.length = fs.length) :
    atTokFlagStart startFlag (some (front ++ startFlag :: joinFields fs)) =
        (0, some (joinFields fs)) ∧
      (atTokRead ks (some (joinFields fs))).1 =
        List.zipWith (fun k f => k.value f.text) ks fs ∧
      (∀ (i : Nat) (out v : Int), ks[i]? = some (AtKind.int out) →
        fs[i]?.map AtField.text = some (printInt v) → -2 ^ 31 ≤ v → v < 2 ^ 31 →
        (atTokRead ks (some (joinFields fs))).1[i]? = some (AtValue.number 0 v)) ∧
      atTokHasmore (atTokRead ks (some (joinFields fs))).2 = false ∧
      ∀ j < fs.length, (atTokRead (ks.take j) (some (joinFields fs))).2 =
        some (joinFields (fs.drop j)) := by
  obtain ⟨f, fs, rfl⟩ := List.exists_cons_of_ne_nil hne
  cases ks with
  | nil => cases hlen
  | cons k ks =>
    rw [List.length_cons, List.length_cons, Nat.add_right_cancel_iff] at hlen
    obtain ⟨hvalues, hmore⟩ := atTokRead_fields f fs k ks hlen
    refine ⟨?_, hvalues, ?_, hmore, ?_⟩
    · unfold atTokFlagStart
      rw [Option.bind_some, strchrNext_cut hfront]
    · intro i out v hk hf hlow hhigh
      obtain ⟨g, hg, htext⟩ := Option.map_eq_some_iff.mp hf
      rw [hvalues, List.getElem?_zipWith, hk, hg]
      dsimp only
      rw [htext, AtKind.value_printInt out hlow hhigh]
    · intro j hj
      have hlen' : ((k :: ks).take j).length = j := by
        rw [List.length_take, List.length_cons, hlen]
        exact min_eq_left (Nat.le_of_lt hj)
      have hbefore := atTokRead_before f fs ((k :: ks).take j)
        (by rw [hlen']; exact Nat.le_of_lt_succ hj)
      rwa [hlen'] at hbefore

/-- `+CREG: 2, "a,b"x,word` -/
def sampleFields : List AtField :=
  [{ space := [0x20], form := .bare, text := printInt 2
     space_isSpace := List.forall_mem_singleton.2 rfl
     bare_text := fun _ => ⟨by decide, by rintro _ ⟨⟩; decide⟩, quoted_text := by rintro _ ⟨⟩ },
   { space := [0x20], form := .quoted [0x78], text := ofString "a,b"
     space_isSpace := List.forall_mem_singleton.2 rfl, bare_text := (by rintro ⟨⟩)
     quoted_text := by rintro _ ⟨⟩; decide },
   { space := [], form := .bare, text := ofString "word"
     space_isSpace := List.forall_mem_nil _
     bare_text := fun _ => ⟨by decide, by rintro _ ⟨⟩; decide⟩, quoted_text := by rintro _ ⟨⟩ }]

theorem at_tok_fields_three :
    atTokRead [.int 5, .str, .int 5] (some (ofString " 2, \"a,b\"x,word")) =
      ([.number 0 2, .text 0 (some (some (ofString "a,b"))), .number (-1) 0], none) := by
  obtain ⟨-, hvalues, -, -, hnext⟩ := at_tok_fields 0x3a (ofString "+CREG") (by decide) sampleFields
    (by decide) [.int 5, .str, .int 5] rfl
  have hjoin : joinFields sampleFields = ofString " 2, \"a,b\"x,word" := by decide
  rw [hjoin] at hvalues
  exact Prod.ext (hvalues.trans (by decide)) (by decide)

end EngPc
