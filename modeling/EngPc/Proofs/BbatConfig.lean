import EngPc.Model.BbatConfig

/-!
# The support flag of a test

A row is stored at the place of its number in the file, and a record takes the row at the place of its
own number. So the records are right where place and id agree, and where the rows fit the two arrays.
-/

namespace EngPc
open Buffer CString

/-- The two tokens of a row; a tab ends each of them, and none is empty. -/
def rowTokens (text : List UInt8) : Option (List UInt8 × List UInt8) :=
  let t := text.takeWhile (· ≠ 0x09)
  let behind := (text.dropWhile (· ≠ 0x09)).tail
  let t' := behind.takeWhile (· ≠ 0x09)
  if 0x09 ∈ text ∧ 0x09 ∈ behind ∧ t ≠ [] ∧ t' ≠ [] then some (t, t') else none

/-- A row of the file: its id, which is any number, and its flag. -/
structure BbatRow where
  id : Int
  flag : UInt8
  deriving DecidableEq, Repr

/-- The row of a line, if it has one. -/
def lineRow (line : List UInt8) : Option BbatRow :=
  let text := line.takeWhile (· ≠ 0)
  if startsWithDigit text then (rowTokens text).map fun t => ⟨strtol longBits 10 t.1, atoiChar t.2⟩ else none

def confRows (conf : List UInt8) : List BbatRow := (conf.splitOn 0x0a).filterMap lineRow

/-- The flag that the file has for an id. -/
structure FlagFor (conf : List UInt8) (i : Nat) (flag : UInt8) : Prop where
  row : ∀ row ∈ confRows conf, row.id = i → flag = row.flag
  none : (∀ row ∈ confRows conf, row.id ≠ i) → flag = 0

/-- The records, with the flags of the file. -/
def RecordsRight (conf : List UInt8) (records : List TestNewResultInfo) : Prop :=
  records.length = maxBbatItemCount ∧
    ∀ i < maxBbatItemCount, ∃ r, records[i]? = some r ∧ r.typeId = 2 ∧ r.functionId = UInt8.ofNat i ∧
      r.status = 0 ∧ FlagFor conf i r.support

/-- The texts that are read as rows: pieces of the file that begin with a digit. -/
def rowTexts (conf : List UInt8) : List (List UInt8) :=
  ((fgetsAll bbatLineRoom conf.length conf).map (·.takeWhile (· ≠ 0))).filter startsWithDigit

/-- What a row is stored as. -/
def rowOf (t : List UInt8 × List UInt8) : HardwareResult := ⟨atoiChar t.1, atoiChar t.2⟩

/-- The rows before the first text without two tokens, where reading stops. -/
def rowsRead : List (List UInt8) → List HardwareResult
  | [] => []
  | text :: texts =>
    match rowTokens text with
    | none => []
    | some t => rowOf t :: rowsRead texts

/-- The tokens that are copied: the first, and the second behind one that is not empty. -/
def copiedTokens (text : List UInt8) : List (List UInt8) :=
  let t := text.takeWhile (· ≠ 0x09)
  let behind := (text.dropWhile (· ≠ 0x09)).tail
  if 0x09 ∈ text then
    if t ≠ [] ∧ 0x09 ∈ behind then [t, behind.takeWhile (· ≠ 0x09)] else [t]
  else []

/-- A token of up to nine characters, or of ten if its number ends before the last of them. -/
def TokenFits (t : List UInt8) : Prop :=
  t.length < bbatStrLen ∨ t.length = bbatStrLen ∧ behindNumber t ≠ []

/-- The flag of the row at place `i`; 0 stands for no row. -/
def flagAt (rows : List HardwareResult) (i : Nat) : UInt8 := (rows[i]?.map (·.support)).getD 0

/-- The tokens fit, also those of the text where reading stops, and so do the rows from place `count`
on. -/
structure RowsFit (count : Nat) (texts : List (List UInt8)) : Prop where
  tokens : ∀ text ∈ texts.take ((rowsRead texts).length + 1), ∀ t ∈ copiedTokens text, TokenFits t
  rows : count + (rowsRead texts).length ≤ maxBbatItemCount

instance (t : List UInt8) : Decidable (TokenFits t) := inferInstanceAs (Decidable (_ ∨ _))

lemma copyAtoi_eq (s : List UInt8) :
    (TokenFits s → copyAtoi s = .ok (atoiChar s)) ∧ (¬TokenFits s → ∃ e, copyAtoi s = .error e) := by
  rw [TokenFits, copyAtoi]
  by_cases hlong : bbatStrLen < s.length
  · rw [if_pos hlong]
    refine ⟨fun h => absurd hlong ?_, fun _ => ⟨_, rfl⟩⟩
    omega
  · rw [if_neg hlong]
    by_cases hfull : s.length = bbatStrLen ∧ behindNumber s = []
    · rw [if_pos hfull]
      refine ⟨fun h => ?_, fun _ => ⟨_, rfl⟩⟩
      rcases h with hlt | hne
      · omega
      · exact absurd hfull.2 hne.2
    · rw [if_neg hfull]
      refine ⟨fun _ => rfl, fun h => absurd ?_ h⟩
      by_cases hlt : s.length < bbatStrLen
      · exact .inl hlt
      · exact .inr ⟨by omega, fun hnil => hfull ⟨by omega, hnil⟩⟩

section Text

variable {text : List UInt8}

lemma parseString_gap (h : 0x09 ∈ text) :
    (TokenFits (text.takeWhile (· ≠ 0x09)) → parseString text =
        .ok ((text.takeWhile (· ≠ 0x09)).length, some (atoiChar (text.takeWhile (· ≠ 0x09))))) ∧
      (¬TokenFits (text.takeWhile (· ≠ 0x09)) → ∃ e, parseString text = .error e) := by
  obtain ⟨hok, herror⟩ := copyAtoi_eq (text.takeWhile (· ≠ 0x09))
  rw [parseString, if_pos h]
  dsimp only
  refine ⟨fun hfits => ?_, fun hfits => ?_⟩
  · rw [hok hfits]
    rfl
  · obtain ⟨e, he⟩ := herror hfits
    exact ⟨e, by rw [he]; rfl⟩

lemma parseString_none (h : 0x09 ∉ text) : parseString text = .ok (0, none) := if_neg h

lemma drop_gap (text : List UInt8) :
    text.drop ((text.takeWhile (· ≠ 0x09)).length + 1) = (text.dropWhile (· ≠ 0x09)).tail := by
  have hdrop : (text.takeWhile (· ≠ 0x09) ++ text.dropWhile (· ≠ 0x09)).drop
      (text.takeWhile (· ≠ 0x09)).length = text.dropWhile (· ≠ 0x09) := List.drop_left
  rw [List.takeWhile_append_dropWhile] at hdrop
  rw [← List.tail_drop, hdrop]

lemma parse2Entries_eq (text : List UInt8) :
    ((∀ t ∈ copiedTokens text, TokenFits t) →
      parse2Entries text = .ok ((rowTokens text).map rowOf)) ∧
      ((¬∀ t ∈ copiedTokens text, TokenFits t) → ∃ e, parse2Entries text = .error e) := by
  rw [parse2Entries, copiedTokens, rowTokens, ← drop_gap]
  by_cases htab : 0x09 ∈ text
  · obtain ⟨hok, herror⟩ := parseString_gap htab
    rw [if_pos htab]
    generalize text.takeWhile (· ≠ 0x09) = t at hok herror ⊢
    generalize hbehind : text.drop (t.length + 1) = behind
    by_cases hfits : TokenFits t
    · rw [hok hfits, Except.ok_bind]
      cases t with
      | nil =>
        have hcopied : ∀ t ∈ [([] : List UInt8)], TokenFits t := by simpa using hfits
        simp only [ne_eq, not_true_eq_false, false_and, and_false, if_false]
        exact ⟨fun _ => rfl, fun h => absurd hcopied h⟩
      | cons c t =>
        have hne : c :: t ≠ [] := List.cons_ne_nil c t
        simp only [List.length_cons] at hbehind ⊢
        rw [hbehind]
        by_cases htab' : 0x09 ∈ behind
        · obtain ⟨hok', herror'⟩ := parseString_gap htab'
          rw [if_pos ⟨hne, htab'⟩]
          generalize behind.takeWhile (· ≠ 0x09) = t' at hok' herror' ⊢
          by_cases hfits' : TokenFits t'
          · have hboth : ∀ x ∈ [c :: t, t'], TokenFits x := by
              simp only [List.forall_mem_cons]
              exact ⟨hfits, hfits', List.forall_mem_nil _⟩
            refine ⟨fun _ => ?_, fun h => absurd hboth h⟩
            rw [hok' hfits', Except.ok_bind]
            cases t' with
            | nil =>
              rw [if_neg (fun h => h.2.2.2 rfl)]
              rfl
            | cons c' t' =>
              rw [if_pos ⟨htab, htab', hne, List.cons_ne_nil c' t'⟩]
              rfl
          · obtain ⟨e, he⟩ := herror' hfits'
            rw [he]
            refine ⟨fun hall => absurd (hall t' ?_) hfits', fun _ => ⟨e, rfl⟩⟩
            exact List.mem_cons_of_mem _ List.mem_cons_self
        · have hcopied : ∀ x ∈ [c :: t], TokenFits x := by simpa using hfits
          rw [parseString_none htab', if_neg (fun h => htab' h.2), if_neg (fun h => htab' h.2.1)]
          exact ⟨fun _ => rfl, fun h => absurd hcopied h⟩
    · obtain ⟨e, he⟩ := herror hfits
      rw [he]
      refine ⟨fun hall => absurd (hall t ?_) hfits, fun _ => ⟨e, rfl⟩⟩
      split_ifs <;> exact List.mem_cons_self
  · rw [parseString_none htab, if_neg htab, if_neg (fun h => htab h.1)]
    exact ⟨fun _ => rfl, fun h => absurd (List.forall_mem_nil _) h⟩

end Text

section Loop

variable {count : Nat} {text : List UInt8} {texts : List (List UInt8)}

lemma rowsFit_none (hcount : count ≤ maxBbatItemCount) (h : rowTokens text = none) :
    RowsFit count (text :: texts) ↔ ∀ t ∈ copiedTokens text, TokenFits t := by
  have hrows : rowsRead (text :: texts) = [] := by rw [rowsRead, h]
  constructor
  · exact fun hfit => hfit.tokens text (by rw [hrows]; exact List.mem_cons_self)
  · refine fun hfit => ⟨fun x hx => ?_, by rw [hrows]; exact hcount⟩
    rw [hrows] at hx
    obtain rfl : x = text := List.mem_singleton.mp hx
    exact hfit

lemma rowsFit_some {t : List UInt8 × List UInt8} (h : rowTokens text = some t) :
    RowsFit count (text :: texts) ↔
      (∀ t ∈ copiedTokens text, TokenFits t) ∧ RowsFit (count + 1) texts := by
  have hrows : rowsRead (text :: texts) = rowOf t :: rowsRead texts := by rw [rowsRead, h]
  constructor
  · rintro ⟨htokens, hcount⟩
    rw [hrows, List.length_cons] at htokens hcount
    rw [List.take_succ_cons, List.forall_mem_cons] at htokens
    exact ⟨htokens.1, htokens.2, by omega⟩
  · rintro ⟨hfit, htokens, hcount⟩
    refine ⟨?_, by rw [hrows, List.length_cons]; omega⟩
    rw [hrows, List.length_cons, List.take_succ_cons, List.forall_mem_cons]
    exact ⟨hfit, htokens⟩

lemma write_row {table : Block HardwareResult} (hsize : table.size = maxBbatItemCount)
    (row : HardwareResult) :
    (count < maxBbatItemCount →
      table.write count [row] = .ok ⟨table.cells.fill count [row], table.size⟩) ∧
      (maxBbatItemCount ≤ count → table.write count [row] = .error ⟨count, 1⟩) := by
  refine ⟨fun hroom => Block.write_eq (Block.holds_of_le ?_), fun hfull => Block.write_error ?_⟩
  · rw [List.length_singleton]
    omega
  · rw [Block.Holds, List.length_singleton, hsize]
    omega

/-- The rows that are read are stored one behind the other, if they fit. -/
lemma parseConfigLoop_eq (pieces : List (List UInt8)) {table : Block HardwareResult}
    (hsize : table.size = maxBbatItemCount) (hcount : count ≤ maxBbatItemCount)
    (htexts : (pieces.map (·.takeWhile (· ≠ 0))).filter startsWithDigit = texts) :
    (RowsFit count texts → ∃ ret left, parseConfigLoop pieces count table = .ok (ret, left) ∧
        left.cells = table.cells.fill count (rowsRead texts)) ∧
      (¬RowsFit count texts → ∃ e, parseConfigLoop pieces count table = .error e) := by
  induction pieces generalizing count table texts with
  | nil =>
    subst htexts
    refine ⟨fun _ => ⟨0, table, rfl, (fill_nil _ _).symm⟩, fun h => absurd ?_ h⟩
    exact ⟨List.forall_mem_nil _, hcount⟩
  | cons piece pieces ih =>
    rw [parseConfigLoop]
    rw [List.map_cons] at htexts
    generalize piece.takeWhile (· ≠ 0) = text at htexts ⊢
    by_cases hdigit : startsWithDigit text = true
    · have hhash : text.head? ≠ some 0x23 := by
        intro h
        rw [startsWithDigit, h] at hdigit
        exact absurd hdigit (by decide)
      rw [List.filter_cons_of_pos hdigit] at htexts
      obtain ⟨texts, rfl⟩ : ∃ l, texts = text :: l := ⟨_, htexts.symm⟩
      have htexts' := (List.cons.inj htexts).2
      obtain ⟨hok, herror⟩ := parse2Entries_eq text
      rw [if_neg hhash, if_pos hdigit]
      by_cases hfits : ∀ t ∈ copiedTokens text, TokenFits t
      · rw [hok hfits, Except.ok_bind]
        cases htokens : rowTokens text with
        | none =>
          rw [rowsFit_none hcount htokens, rowsRead, htokens]
          exact ⟨fun _ => ⟨-1, table, rfl, (fill_nil _ _).symm⟩, fun h => absurd hfits h⟩
        | some t =>
          rw [rowsFit_some htokens, rowsRead, htokens]
          dsimp only [Option.map_some]
          obtain ⟨hwrite, hfull⟩ := write_row hsize (rowOf t)
          by_cases hroom : count < maxBbatItemCount
          · obtain ⟨hok', herror'⟩ := ih (show (Block.mk (table.cells.fill count [rowOf t])
              table.size).size = maxBbatItemCount from hsize) (show count + 1 ≤ maxBbatItemCount from hroom) htexts'
            rw [hwrite hroom, Except.ok_bind]
            refine ⟨fun h => ?_, fun h => herror' fun hrest => h ⟨hfits, hrest⟩⟩
            obtain ⟨ret, left, hleft, hcells⟩ := hok' h.2
            exact ⟨ret, left, hleft, hcells.trans (fill_fill _ _ _ _)⟩
          · rw [hfull (not_lt.mp hroom), Except.error_bind]
            refine ⟨fun h => absurd h.2.rows (by omega), fun _ => ⟨_, rfl⟩⟩
      · obtain ⟨e, he⟩ := herror hfits
        rw [he, Except.error_bind]
        refine ⟨fun h => absurd (h.tokens text ?_) hfits, fun _ => ⟨e, rfl⟩⟩
        exact List.mem_cons_self
    · rw [List.filter_cons_of_neg hdigit] at htexts
      obtain ⟨hok, herror⟩ := ih hsize hcount htexts
      rw [if_neg hdigit]
      split_ifs <;> exact ⟨hok, herror⟩

end Loop

/-- The test file gets made and written. -/
def BbatIo.Writes (io : BbatIo) : Prop := io.testFile = false ∧ io.openTest = .opened

/-- The rows by their place have the flags that the file has by id: the row at place `i` has the flag of
each row whose id is `i`, and where no row has that id there is none at the place, or its flag is 0. -/
structure RowsInPlace (conf : List UInt8) : Prop where
  placed : ∀ row ∈ confRows conf, ∀ i < maxBbatItemCount, row.id = i →
    flagAt (rowsRead (rowTexts conf)) i = row.flag
  others : ∀ i < maxBbatItemCount, (∀ row ∈ confRows conf, row.id ≠ i) →
    flagAt (rowsRead (rowTexts conf)) i = 0

variable {io : BbatIo} {conf : List UInt8}

lemma rowsInPlace_iff : RowsInPlace conf ↔
    ∀ i < maxBbatItemCount, FlagFor conf i (flagAt (rowsRead (rowTexts conf)) i) :=
  ⟨fun h i hi => ⟨fun row hrow hid => h.placed row hrow i hi hid, h.others i hi⟩,
    fun h => ⟨fun row hrow i hi hid => (h i hi).row row hrow hid, fun i hi hno => (h i hi).none hno⟩⟩

/-- The records that are written for a table of rows. -/
def recordsOf (rows : List HardwareResult) : List TestNewResultInfo :=
  (List.range maxBbatItemCount).map fun i => ⟨2, UInt8.ofNat i, flagAt rows i, 0⟩

lemma recordsRight_iff (rows : List HardwareResult) :
    RecordsRight conf (recordsOf rows) ↔ ∀ i < maxBbatItemCount, FlagFor conf i (flagAt rows i) := by
  have hget : ∀ i < maxBbatItemCount,
      (recordsOf rows)[i]? = some ⟨2, UInt8.ofNat i, flagAt rows i, 0⟩ := by
    intro i hi
    rw [recordsOf, List.getElem?_map, List.getElem?_range hi, Option.map_some]
  constructor
  · rintro ⟨-, hall⟩ i hi
    obtain ⟨r, hr, -, -, -, hflag⟩ := hall i hi
    rw [hget i hi, Option.some_inj] at hr
    rwa [← hr] at hflag
  · refine fun hall => ⟨by rw [recordsOf, List.length_map, List.length_range], fun i hi => ?_⟩
    exact ⟨_, hget i hi, rfl, rfl, rfl, hall i hi⟩

lemma fill_support (rows : List HardwareResult) (i : Nat) :
    ((bbatSupportResult.cells.fill 0 rows) i).support = flagAt rows i := by
  rw [Buffer.fill, flagAt]
  by_cases hi : i < rows.length
  · rw [List.getElem?_eq_getElem hi]
    simp [hi]
  · rw [List.getElem?_eq_none (by omega)]
    simp [hi, bbatSupportResult]

lemma engInitTestFile_of_rows (io : BbatIo) {conf : Option (List UInt8)} {ret : Int}
    {left : Block HardwareResult} {rows : List HardwareResult}
    (hleft : parseBbatConfig conf bbatSupportResult = .ok (ret, left))
    (hcells : left.cells = bbatSupportResult.cells.fill 0 rows) :
    ∃ ret records, engInitTestFile io conf = .ok (ret, records) ∧
      ∀ r, r ∈ records ↔ io.Writes ∧ r = recordsOf rows := by
  have hrecords : (List.range maxBbatItemCount).map (fun i => (⟨2, UInt8.ofNat i,
      (left.cells i).support, 0⟩ : TestNewResultInfo)) = recordsOf rows := by
    refine List.map_congr_left fun i _ => ?_
    rw [hcells, fill_support]
  rw [engInitTestFile, hleft, Except.ok_bind]
  obtain ⟨testFile, openTest⟩ := io
  cases testFile with
  | true => exact ⟨1, none, rfl, fun r => by simp [BbatIo.Writes]⟩
  | false =>
    cases openTest with
    | opened => exact ⟨1, _, rfl, fun r => by simp [BbatIo.Writes, hrecords, eq_comm]⟩
    | eexist => exact ⟨1, none, rfl, fun r => by simp [BbatIo.Writes]⟩
    | failed => exact ⟨0, none, rfl, fun r => by simp [BbatIo.Writes]⟩

/-- What `engInitTestFile` does with rows that fit, and with others. -/
lemma engInitTestFile_eq (io : BbatIo) (conf : List UInt8) :
    (RowsFit 0 (rowTexts conf) → ∃ ret records, engInitTestFile io (some conf) = .ok (ret, records) ∧
        ∀ r, r ∈ records ↔ io.Writes ∧ r = recordsOf (rowsRead (rowTexts conf))) ∧
      (¬RowsFit 0 (rowTexts conf) → ∃ e, engInitTestFile io (some conf) = .error e) := by
  obtain ⟨hok, herror⟩ := parseConfigLoop_eq (fgetsAll bbatLineRoom conf.length conf)
    (show bbatSupportResult.size = maxBbatItemCount from rfl) (Nat.zero_le _)
    (show _ = rowTexts conf from rfl)
  refine ⟨fun h => ?_, fun h => ?_⟩
  · obtain ⟨ret, left, hleft, hcells⟩ := hok h
    exact engInitTestFile_of_rows io hleft hcells
  · obtain ⟨e, he⟩ := herror h
    exact ⟨e, by rw [engInitTestFile, parseBbatConfig, he, Except.error_bind]⟩

/-- The records that get written have the flags of the file just if the rows fit and are in place. -/
theorem bbat_flags_iff (io : BbatIo) (conf : List UInt8) :
    (∃ ret records, engInitTestFile io (some conf) = .ok (ret, records) ∧
      ∀ r ∈ records, RecordsRight conf r) ↔
        RowsFit 0 (rowTexts conf) ∧ (io.Writes → RowsInPlace conf) := by
  obtain ⟨hok, herror⟩ := engInitTestFile_eq io conf
  by_cases hfit : RowsFit 0 (rowTexts conf)
  · obtain ⟨ret, records, hrun, hmem⟩ := hok hfit
    rw [rowsInPlace_iff, ← recordsRight_iff]
    constructor
    · rintro ⟨ret', records', hrun', hright⟩
      rw [hrun] at hrun'
      obtain ⟨-, rfl⟩ := Prod.mk.inj (Except.ok.inj hrun')
      exact ⟨hfit, fun hwrites => hright _ ((hmem _).mpr ⟨hwrites, rfl⟩)⟩
    · rintro ⟨-, hright⟩
      refine ⟨ret, records, hrun, fun r hr => ?_⟩
      obtain ⟨hwrites, rfl⟩ := (hmem r).mp hr
      exact hright hwrites
  · obtain ⟨e, he⟩ := herror hfit
    refine ⟨?_, fun h => absurd h.1 hfit⟩
    rintro ⟨ret, records, hrun, -⟩
    rw [he] at hrun
    cases hrun

/-- The file with the row of one id, whose test is supported. -/
def oneRow (id : UInt8) : List UInt8 := [id, 0x09, 0x31, 0x09, 0x0a]

lemma oneRow_fits : RowsFit 0 (rowTexts (oneRow 0x30)) :=
  ⟨by decide +kernel, by decide +kernel⟩

lemma oneRow_inPlace : RowsInPlace (oneRow 0x30) := by
  have hrows : confRows (oneRow 0x30) = [⟨0, 1⟩] := by decide +kernel
  refine ⟨fun row hrow i _ hid => ?_, fun i hi hno => ?_⟩
  · rw [hrows, List.mem_singleton] at hrow
    subst hrow
    obtain rfl : i = 0 := by simpa using hid.symm
    decide +kernel
  · rw [hrows] at hno
    have hne : i ≠ 0 := fun h => hno _ List.mem_cons_self (by rw [h]; rfl)
    have hone : (rowsRead (rowTexts (oneRow 0x30))).length = 1 := by decide +kernel
    rw [flagAt, List.getElem?_eq_none (by omega)]
    rfl

/-- The file whose only row has the id 0 is read as it should be. -/
theorem bbat_flags_in_place : ∃ ret records,
    engInitTestFile ⟨false, .opened⟩ (some (oneRow 0x30)) = .ok (ret, records) ∧
      ∀ r ∈ records, RecordsRight (oneRow 0x30) r :=
  (bbat_flags_iff ⟨false, .opened⟩ (oneRow 0x30)).mpr ⟨oneRow_fits, fun _ => oneRow_inPlace⟩

/-- The file whose only row has the id 1: its flag ends up with the test 0. -/
theorem bbat_flags_misplaced : ¬∃ ret records,
    engInitTestFile ⟨false, .opened⟩ (some (oneRow 0x31)) = .ok (ret, records) ∧
      ∀ r ∈ records, RecordsRight (oneRow 0x31) r := by
  rintro ⟨ret, records, hrun, hright⟩
  obtain ⟨hok, -⟩ := engInitTestFile_eq ⟨false, .opened⟩ (oneRow 0x31)
  obtain ⟨_, _, hrun', hmem⟩ := hok ⟨by decide +kernel, by decide +kernel⟩
  rw [hrun] at hrun'
  obtain ⟨-, rfl⟩ := Prod.mk.inj (Except.ok.inj hrun')
  have hflags := hright _ ((hmem _).mpr ⟨⟨rfl, rfl⟩, rfl⟩)
  have hone := ((recordsRight_iff _).mp hflags 1 (by decide)).row ⟨1, 1⟩ (by decide +kernel) rfl
  revert hone
  decide +kernel

end EngPc
