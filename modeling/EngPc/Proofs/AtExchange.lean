import EngPc.Model.FactoryRadio

/-!
# The result of an AT exchange

The value of `select` is the result where the output of the modem ends, and no terminating zero is
put behind the text in the buffer of the caller.
-/

namespace EngPc
open Buffer CString

/-- A line that does not end the exchange. -/
def isPlain (line : List UInt8) : Bool := !hasOk line && !hasError line

/-- The lines before the first one that ends the exchange, and that line. -/
def linesBefore (lines : List (List UInt8)) : List (List UInt8) := lines.takeWhile isPlain

def endLine (lines : List (List UInt8)) : Option (List UInt8) := (lines.dropWhile isPlain).head?

/-- A line with OK comes behind `before`, where no line has OK or ERROR. -/
def OkComes (lines before : List (List UInt8)) : Prop :=
  ∃ line after, lines = before ++ line :: after ∧ hasOk line = true ∧
    ∀ l ∈ before, hasOk l = false ∧ hasError l = false

/-- The text is longer than the buffer. -/
def Exhausts (buf : Option RspBuf) (text : List UInt8) : Prop := ∃ b ∈ buf, b.len < text.length

/-- The text stands in the buffer, with its zero. -/
def AtResult.Holds (r : AtResult) (len : Nat) (text : List UInt8) : Prop :=
  ∃ left ∈ r.buf, text.length < len ∧ left.cells.load 0 (text.length + 1) = text ++ [0]

/-- The result tells whether OK came, and then the buffer has the lines before it. -/
def AtResult.Right (r : AtResult) (lines : List (List UInt8)) (buf : Option RspBuf) : Prop :=
  (0 ≤ r.ret ↔ ∃ before, OkComes lines before ∧ ¬Exhausts buf before.flatten) ∧
    (0 ≤ r.ret → ∀ before, OkComes lines before → ∀ b ∈ buf, r.Holds b.len before.flatten)

/-- The lines are too long for the buffer; or one of them ends the exchange, and if it has OK then
the buffer has room for a zero behind the lines before, and has it there already. -/
def EndsWell (lines : List (List UInt8)) (buf : Option RspBuf) : Prop :=
  Exhausts buf (linesBefore lines).flatten ∨
    ∃ line ∈ endLine lines, hasOk line = true → ∀ b ∈ buf,
      (linesBefore lines).flatten.length < b.len ∧
        b.block.cells (linesBefore lines).flatten.length = 0

namespace AtExchange

/-- The command is sent, and there is something to read. -/
def opens (x : AtExchange) (cmd : Option (List UInt8)) : Bool :=
  cmd.any (fun cmd => x.written = cmd.length) && selectLoop x.selects = some true

/-- The lines that come as an answer. -/
def came (x : AtExchange) (cmd : Option (List UInt8)) : List (List UInt8) :=
  if x.opens cmd = true then x.lines else []

end AtExchange

lemma isPlain_iff {line : List UInt8} :
    isPlain line = true ↔ hasOk line = false ∧ hasError line = false := by
  simp [isPlain]

lemma okComes_iff {lines before : List (List UInt8)} :
    OkComes lines before ↔
      before = linesBefore lines ∧ ∃ line ∈ endLine lines, hasOk line = true := by
  constructor
  · rintro ⟨line, after, rfl, hok, hbefore⟩
    have hplain : ∀ l ∈ before, isPlain l = true := fun l hl => isPlain_iff.mpr (hbefore l hl)
    have hline : ¬isPlain line = true := by
      rw [isPlain_iff, hok]
      exact fun h => Bool.noConfusion h.1
    refine ⟨?_, line, ?_, hok⟩
    · rw [linesBefore, List.takeWhile_append_of_pos hplain, List.takeWhile_cons_of_neg hline,
        List.append_nil]
    · rw [endLine, List.dropWhile_append_of_pos hplain, List.dropWhile_cons_of_neg hline]
      rfl
  · rintro ⟨rfl, line, hline, hok⟩
    obtain ⟨after, hafter⟩ := List.head?_eq_some_iff.mp hline
    refine ⟨line, after, ?_, hok, fun l hl => isPlain_iff.mp (List.mem_takeWhile_imp hl)⟩
    rw [← hafter]
    exact List.takeWhile_append_dropWhile.symm

/-- The result by the line that ends the exchange, when `before` is the length of the text. -/
def endValue (ret : Int) (before : Nat) : Option (List UInt8) → Int
  | none => ret
  | some line => if hasOk line then before else -1

section Loop

variable {line : List UInt8} {lines : List (List UInt8)}

lemma linesBefore_cons (line : List UInt8) (lines : List (List UInt8)) :
    linesBefore (line :: lines) = if isPlain line then line :: linesBefore lines else [] :=
  List.takeWhile_cons

lemma endLine_cons (line : List UInt8) (lines : List (List UInt8)) :
    endLine (line :: lines) = if isPlain line then endLine lines else some line := by
  rw [endLine, List.dropWhile_cons]
  split <;> rfl

lemma exchangeLoop_stop (h : ¬isPlain line = true) (len : Nat) (buf : Block UInt8) (rspLen : Nat)
    (ret : Int) :
    exchangeLoop len (line :: lines) buf rspLen ret =
      .ok (endValue ret rspLen (some line), buf) := by
  rw [exchangeLoop, endValue]
  cases hok : hasOk line with
  | true => rfl
  | false =>
    cases herror : hasError line with
    | true => rfl
    | false => exact absurd (isPlain_iff.mpr ⟨hok, herror⟩) h

lemma exchangeLoop_plain (h : isPlain line = true) (len : Nat) (buf : Block UInt8) (rspLen : Nat)
    (ret : Int) :
    exchangeLoop len (line :: lines) buf rspLen ret =
      if len = 0 then exchangeLoop len lines buf rspLen ret
      else if len < rspLen + line.length then .ok (-1, buf)
      else (do
        let buf ← buf.write rspLen line
        exchangeLoop len lines buf (rspLen + line.length) ret) := by
  obtain ⟨hok, herror⟩ := isPlain_iff.mp h
  rw [exchangeLoop, hok, herror, if_neg Bool.false_ne_true, if_neg Bool.false_ne_true]

lemma exchangeLoop_null (lines : List (List UInt8)) (buf : Block UInt8) (rspLen : Nat) (ret : Int) :
    exchangeLoop 0 lines buf rspLen ret = .ok (endValue ret rspLen (endLine lines), buf) := by
  induction lines with
  | nil => rfl
  | cons line lines ih =>
    rw [endLine_cons]
    by_cases hplain : isPlain line = true
    · rw [exchangeLoop_plain hplain, if_pos rfl, if_pos hplain, ih]
    · rw [exchangeLoop_stop hplain, if_neg hplain]

/-- With a buffer of `len` bytes that has `rspLen` of them in use. -/
lemma exchangeLoop_eq (lines : List (List UInt8)) {len : Nat} (hpos : 0 < len) (buf : Block UInt8)
    (hlen : len ≤ buf.size) {rspLen : Nat} (hused : rspLen ≤ len) (ret : Int) :
    ∃ left, exchangeLoop len lines buf rspLen ret =
        .ok (if len < rspLen + (linesBefore lines).flatten.length then -1
          else endValue ret (rspLen + (linesBefore lines).flatten.length) (endLine lines), left) ∧
      (rspLen + (linesBefore lines).flatten.length ≤ len →
        left.cells = buf.cells.fill rspLen (linesBefore lines).flatten) := by
  have hroom : ¬len < rspLen + ([] : List (List UInt8)).flatten.length := not_lt.mpr hused
  induction lines generalizing buf rspLen with
  | nil =>
    refine ⟨buf, ?_, fun _ => (fill_nil _ _).symm⟩
    rw [linesBefore, List.takeWhile_nil, if_neg hroom]
    rfl
  | cons line lines ih =>
    rw [linesBefore_cons, endLine_cons]
    by_cases hplain : isPlain line = true
    · rw [if_pos hplain, if_pos hplain, exchangeLoop_plain hplain, if_neg hpos.ne',
        List.flatten_cons, List.length_append, ← Nat.add_assoc]
      by_cases hfit : len < rspLen + line.length
      · refine ⟨buf, ?_, fun hle => absurd hfit (by omega)⟩
        rw [if_pos hfit, if_pos (by omega)]
      · obtain ⟨left, hleft, hcells⟩ := ih ⟨buf.cells.fill rspLen line, buf.size⟩ hlen
          (show rspLen + line.length ≤ len by omega) hfit
        have hwrite : buf.write rspLen line = .ok ⟨buf.cells.fill rspLen line, buf.size⟩ :=
          Block.write_eq (Block.holds_of_le (by omega))
        refine ⟨left, ?_, fun hle => ?_⟩
        · rw [if_neg hfit, hwrite, Except.ok_bind]
          exact hleft
        · rw [hcells hle]
          exact fill_fill _ _ _ _
    · rw [if_neg hplain, if_neg hplain, exchangeLoop_stop hplain, if_neg hroom]
      exact ⟨buf, rfl, fun _ => (fill_nil _ _).symm⟩

end Loop

lemma sendATCmd_closed {x : AtExchange} {cmd : Option (List UInt8)} (hopens : x.opens cmd = false)
    (hwait : selectLoop x.selects ≠ none) (buf : Option RspBuf) :
    sendATCmd x cmd buf = .ok (some ⟨-1, buf.map RspBuf.block⟩) := by
  cases cmd with
  | none => rfl
  | some cmd =>
    rw [sendATCmd]
    by_cases hwritten : x.written = cmd.length
    · have hselect : selectLoop x.selects = some false := by
        cases hloop : selectLoop x.selects with
        | none => exact absurd hloop hwait
        | some ready =>
          cases ready with
          | false => rfl
          | true => simp [AtExchange.opens, hwritten, hloop] at hopens
      simp [hwritten, hselect]
    · simp [hwritten]

lemma sendATCmd_open {x : AtExchange} {cmd : Option (List UInt8)} (hopens : x.opens cmd = true)
    (buf : Option RspBuf) :
    sendATCmd x cmd buf = (do
      let (ret, left) ← exchangeLoop ((buf.map RspBuf.len).getD 0) x.lines
        ((buf.map RspBuf.block).getD ⟨fun _ => 0, 0⟩) 0 1
      return some ⟨ret, (buf.map RspBuf.block).map fun _ => left⟩) := by
  cases cmd with
  | none => cases hopens
  | some cmd =>
    simp only [AtExchange.opens, Option.any_some, Bool.and_eq_true, decide_eq_true_eq] at hopens
    rw [sendATCmd, hopens.2]
    simp only [hopens.1, ne_eq, not_true_eq_false, if_false]

/-- Only the lines before the first one that ends the exchange matter. -/
lemma right_iff {r : AtResult} {lines : List (List UInt8)} {buf : Option RspBuf} :
    r.Right lines buf ↔
      (0 ≤ r.ret ↔ (∃ line ∈ endLine lines, hasOk line = true) ∧
        ¬Exhausts buf (linesBefore lines).flatten) ∧
      (0 ≤ r.ret → (∃ line ∈ endLine lines, hasOk line = true) →
        ∀ b ∈ buf, r.Holds b.len (linesBefore lines).flatten) := by
  have hok : (∃ before, OkComes lines before ∧ ¬Exhausts buf before.flatten) ↔
      (∃ line ∈ endLine lines, hasOk line = true) ∧
        ¬Exhausts buf (linesBefore lines).flatten := by
    constructor
    · rintro ⟨before, hcomes, hroom⟩
      obtain ⟨rfl, hline⟩ := okComes_iff.mp hcomes
      exact ⟨hline, hroom⟩
    · exact fun h => ⟨_, okComes_iff.mpr ⟨rfl, h.1⟩, h.2⟩
  rw [AtResult.Right, hok]
  refine and_congr_right fun _ => forall_congr' fun _ => ?_
  constructor
  · exact fun h hline => h _ (okComes_iff.mpr ⟨rfl, hline⟩)
  · intro h before hcomes
    obtain ⟨rfl, hline⟩ := okComes_iff.mp hcomes
    exact h hline

/-- The text in the buffer has its zero when that stood there before. -/
lemma holds_iff (ret : Int) {left : Block UInt8} {b : RspBuf} {text : List UInt8}
    (h : left.cells = b.block.cells.fill 0 text) :
    (AtResult.mk ret (some left)).Holds b.len text ↔
      text.length < b.len ∧ b.block.cells text.length = 0 := by
  have hload : left.cells.load 0 (text.length + 1) = text ++ [b.block.cells text.length] := by
    rw [h, load_snoc, load_fill, Nat.zero_add, fill_outside _ (.inr (Nat.zero_add _).le)]
  have hholds : (AtResult.mk ret (some left)).Holds b.len text ↔
      text.length < b.len ∧ left.cells.load 0 (text.length + 1) = text ++ [0] := by
    simp [AtResult.Holds]
  rw [hholds, hload, List.append_cancel_left_eq, List.cons.injEq]
  simp

lemma right_null_iff (lines : List (List UInt8)) :
    (AtResult.mk (endValue 1 0 (endLine lines)) none).Right lines none ↔ EndsWell lines none := by
  rw [right_iff, EndsWell]
  cases hend : endLine lines with
  | none => simp [endValue, Exhausts]
  | some line => cases hok : hasOk line <;> simp [endValue, Exhausts, hok]

lemma right_buf_iff (lines : List (List UInt8)) (b : RspBuf) {left : Block UInt8}
    (hcells : (linesBefore lines).flatten.length ≤ b.len →
      left.cells = b.block.cells.fill 0 (linesBefore lines).flatten) :
    (AtResult.mk (if b.len < (linesBefore lines).flatten.length then -1
        else endValue 1 (linesBefore lines).flatten.length (endLine lines)) (some left)).Right
          lines (some b) ↔ EndsWell lines (some b) := by
  rw [right_iff, EndsWell]
  generalize (linesBefore lines).flatten = text at hcells ⊢
  have hexhausts : Exhausts (some b) text ↔ b.len < text.length := by simp [Exhausts]
  rw [hexhausts]
  by_cases hlong : b.len < text.length
  · simp [hlong]
  · rw [if_neg hlong]
    cases hend : endLine lines with
    | none => simp [endValue, hlong]
    | some line =>
      cases hok : hasOk line with
      | false => simp [endValue, hok]
      | true =>
        have hvalue : endValue 1 text.length (some line) = text.length := if_pos hok
        have hholds := holds_iff text.length (hcells (not_lt.mp hlong))
        rw [hvalue]
        simp only [Option.mem_some_iff, exists_eq_left', forall_eq', hok, hlong, hholds,
          Int.natCast_nonneg, not_false_eq_true, and_self, true_and, true_implies, false_or]

/-- An exchange that returns is right exactly when it does not open, or ends well. -/
theorem sendATCmd_right_iff (x : AtExchange) (cmd : Option (List UInt8)) (buf : Option RspBuf)
    (hwait : selectLoop x.selects ≠ none) :
    ∃ r, sendATCmd x cmd buf = .ok (some r) ∧
      (r.Right (x.came cmd) buf ↔ x.opens cmd = false ∨ EndsWell (x.came cmd) buf) := by
  cases hopens : x.opens cmd with
  | false =>
    have hcame : x.came cmd = [] := if_neg (by rw [hopens]; exact Bool.false_ne_true)
    refine ⟨_, sendATCmd_closed hopens hwait buf, ?_⟩
    rw [hcame, right_iff]
    simp [endLine]
  | true =>
    have hcame : x.came cmd = x.lines := if_pos hopens
    rw [hcame, sendATCmd_open hopens, or_iff_right Bool.noConfusion]
    cases buf with
    | none =>
      refine ⟨⟨endValue 1 0 (endLine x.lines), none⟩, ?_, right_null_iff x.lines⟩
      rw [Option.map_none, Option.map_none, Option.getD_none, exchangeLoop_null]
      rfl
    | some b =>
      obtain ⟨left, hleft, hcells⟩ :=
        exchangeLoop_eq x.lines b.len_pos b.block b.len_le (Nat.zero_le _) 1
      rw [Nat.zero_add] at hleft hcells
      refine ⟨_, ?_, right_buf_iff x.lines b hcells⟩
      rw [Option.map_some, Option.map_some, Option.getD_some, Option.getD_some, hleft]
      rfl

/-- An array of 16 zeros. -/
def zeroRspBuf : RspBuf where
  block := ⟨fun _ => 0, 16⟩
  len := 16
  len_pos := by decide
  len_le := by decide
  len_lt := by decide

theorem sendATCmd_right_card :
    let x : AtExchange := ⟨9, [.interrupted, .ready], [ofString "+EUICC: 0", ofString "OK"]⟩
    ∃ r, sendATCmd x (some (ofString "AT+EUICC?")) (some zeroRspBuf) = .ok (some r) ∧
      r.Right x.lines (some zeroRspBuf) := by
  intro x
  obtain ⟨r, hr, hiff⟩ := sendATCmd_right_iff x (some (ofString "AT+EUICC?")) (some zeroRspBuf)
    (by decide)
  refine ⟨r, hr, hiff.mpr (.inr (.inr ⟨ofString "OK", by decide, fun _ b hb => ?_⟩))⟩
  cases hb
  decide

/-- The output ends after one line, and the result is the value of `select`. -/
theorem sendATCmd_end_of_output :
    let x : AtExchange := ⟨2, [.ready], [ofString "+CME"]⟩
    sendATCmd x (some (ofString "AT")) none = .ok (some ⟨1, none⟩) ∧
      x.came (some (ofString "AT")) = x.lines ∧ ¬(AtResult.mk 1 none).Right x.lines none := by
  refine ⟨rfl, by decide, fun h => ?_⟩
  obtain ⟨before, ⟨line, after, hlines, hok, -⟩, -⟩ := h.1.mp (by decide)
  have hmem : line ∈ before ++ line :: after := List.mem_append_right _ List.mem_cons_self
  rw [← hlines] at hmem
  rw [List.mem_singleton.mp hmem] at hok
  exact absurd hok (by decide)

end EngPc
