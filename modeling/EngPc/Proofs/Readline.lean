import EngPc.Lib.LineStream
import EngPc.Model.FactoryRadio

/-!
# The lines of the modem

`readline` is the reader of LineStream as long as no `read` gives all that was asked for; the one that
does has its terminating zero written behind the buffer.
-/

namespace EngPc
open Buffer CString LineStream

/-- The bytes of `t` and a zero. -/
def TextAt (b : Buffer UInt8) (off : Nat) (t : List UInt8) : Prop :=
  b.load off (t.length + 1) = t ++ [0]

/-- The text from `s_ATBufferCur` on. -/
structure AtBuffer.Holds (s : AtBuffer) (t : List UInt8) : Prop where
  size : s.buf.size = atBufferSize
  room : s.cur + t.length < atBufferSize
  text : TextAt s.buf.cells s.cur t

/-- In the loop: the newlines that were passed, and an unfinished line. -/
structure AtBuffer.Partial (s : AtBuffer) (n u : List UInt8) : Prop where
  size : s.buf.size = atBufferSize
  cur : s.cur = n.length
  room : (n ++ u).length < atBufferSize
  text : TextAt s.buf.cells 0 (n ++ u)
  ends : ∀ x ∈ n, isEol x = true
  free : ∀ x ∈ u, isEol x = false

/-- No zero, and no line that begins like the prompt. -/
structure AtClean (l : List UInt8) : Prop where
  nonzero : 0 ∉ l
  noPrompt : ∀ line ∈ l.splitOnP isEol, ¬[0x3e, 0x20] <+: line

section Text

variable {b : Buffer UInt8} {off : Nat} {t u v : List UInt8}

lemma textAt_nil : TextAt b off [] ↔ b off = 0 := by
  simp [TextAt, load_succ]

lemma textAt_cons {x : UInt8} : TextAt b off (x :: t) ↔ b off = x ∧ TextAt b (off + 1) t := by
  simp only [TextAt, List.length_cons, load_succ, List.cons_append, List.cons.injEq]

lemma TextAt.append (h : TextAt b off (u ++ v)) : TextAt b (off + u.length) v := by
  induction u generalizing off with
  | nil => exact h
  | cons x u ih =>
    rw [List.cons_append, textAt_cons] at h
    have hrest := ih h.2
    rwa [show off + 1 + u.length = off + (x :: u).length by rw [List.length_cons]; omega] at hrest

lemma TextAt.cstr (h : TextAt b off t) (h0 : 0 ∉ t) {n : Nat} (hn : t.length < n) :
    CString.cstr b off n = t := cstr_eq h h0 hn

lemma textAt_fill (b : Buffer UInt8) (t : List UInt8) : TextAt (b.fill 0 (t ++ [0])) 0 t :=
  load_fill_of_length b 0 List.length_append

lemma TextAt.fill (h : TextAt b 0 t) (c : List UInt8) :
    TextAt ((b.fill t.length c).fill (t.length + c.length) [0]) 0 (t ++ c) := by
  have hfront : b.load 0 t.length = t := by
    have htake := load_take b 0 (show t.length ≤ t.length + 1 by omega)
    rw [← htake, h, List.take_left]
  have hboth : (b.fill t.length c).load 0 (t.length + c.length) = t ++ c := by
    rw [load_fill_append, hfront]
  rw [TextAt, List.length_append, ← hboth]
  exact load_fill_append (b.fill t.length c) (t.length + c.length) [0]

end Text

section Scan

variable {b : Block UInt8} {cur left : Nat} {n u v : List UInt8}

lemma skipNewlines_eq (hn : ∀ x ∈ n, isEol x = true) (hv : ∀ x ∈ v.head?, isEol x = false)
    (ht : TextAt b.cells cur (n ++ v)) (hleft : n.length < left) :
    skipNewlines b left cur = .ok (cur + n.length) := by
  induction n generalizing cur left with
  | nil =>
    obtain ⟨left, rfl⟩ := Nat.exists_eq_add_of_lt hleft
    rw [List.nil_append] at ht
    have hstop : isEol (b.cells cur) = false := by
      cases v with
      | nil =>
        rw [textAt_nil.mp ht]
        rfl
      | cons x v =>
        rw [(textAt_cons.mp ht).1]
        exact hv x rfl
    rw [skipNewlines, hstop]
    rfl
  | cons x n ih =>
    obtain ⟨left, rfl⟩ := Nat.exists_eq_add_of_lt hleft
    rw [List.forall_mem_cons] at hn
    rw [List.cons_append, textAt_cons] at ht
    rw [skipNewlines, ht.1, hn.1, if_pos rfl, ih hn.2 ht.2 (by rw [List.length_cons]; omega)]
    rw [List.length_cons, Nat.add_assoc, Nat.add_comm 1]

lemma scanEol_free (hu : ∀ x ∈ u, isEol x = false) (h0 : 0 ∉ u) (ht : TextAt b.cells cur u)
    (hleft : u.length < left) : scanEol b left cur = .ok none := by
  induction u generalizing cur left with
  | nil =>
    obtain ⟨left, rfl⟩ := Nat.exists_eq_add_of_lt hleft
    rw [scanEol, if_pos (textAt_nil.mp ht)]
  | cons x u ih =>
    obtain ⟨left, rfl⟩ := Nat.exists_eq_add_of_lt hleft
    rw [List.forall_mem_cons] at hu
    rw [List.mem_cons, not_or] at h0
    rw [textAt_cons] at ht
    rw [scanEol, ht.1, if_neg (Ne.symm h0.1), hu.1, if_neg Bool.false_ne_true]
    exact ih hu.2 h0.2 ht.2 (by rw [List.length_cons]; omega)

lemma scanEol_cut {c : UInt8} (hu : ∀ x ∈ u, isEol x = false) (hc : isEol c = true) (h0 : 0 ∉ u)
    (ht : TextAt b.cells cur (u ++ c :: v)) (hleft : u.length < left) :
    scanEol b left cur = .ok (some (cur + u.length)) := by
  induction u generalizing cur left with
  | nil =>
    obtain ⟨left, rfl⟩ := Nat.exists_eq_add_of_lt hleft
    rw [List.nil_append, textAt_cons] at ht
    have hne : c ≠ 0 := by
      rintro rfl
      exact absurd hc (by decide)
    rw [scanEol, ht.1, if_neg hne, hc]
    rfl
  | cons x u ih =>
    obtain ⟨left, rfl⟩ := Nat.exists_eq_add_of_lt hleft
    rw [List.forall_mem_cons] at hu
    rw [List.mem_cons, not_or] at h0
    rw [List.cons_append, textAt_cons] at ht
    rw [scanEol, ht.1, if_neg (Ne.symm h0.1), hu.1, if_neg Bool.false_ne_true,
      ih hu.2 h0.2 ht.2 (by rw [List.length_cons]; omega)]
    rw [List.length_cons, Nat.add_assoc, Nat.add_comm 1]

lemma findNextEOL_eq {t : List UInt8} (ht : TextAt b.cells cur t) (hb : cur + t.length < b.size)
    (h0 : 0 ∉ t) (hprompt : t ≠ [0x3e, 0x20]) :
    findNextEOL b cur = scanEol b (b.size - cur) cur := by
  have hcell : ∀ i ≤ t.length, atCell b (cur + i) = .ok (b.cells (cur + i)) :=
    fun i hi => if_pos (by omega)
  have hfalse : isPrompt b cur = .ok false := by
    rw [isPrompt, show atCell b cur = .ok (b.cells cur) from hcell 0 (Nat.zero_le _)]
    by_cases h₁ : b.cells cur = 0x3e
    · obtain ⟨t, rfl⟩ : ∃ t', t = 0x3e :: t' := by
        cases t with
        | nil => exact absurd (h₁.symm.trans (textAt_nil.mp ht)) (by decide)
        | cons x t => exact ⟨t, congrArg (· :: t) ((textAt_cons.mp ht).1.symm.trans h₁)⟩
      have ht₁ := (textAt_cons.mp ht).2
      rw [Except.ok_bind, if_neg (not_not.mpr h₁), hcell 1 (by rw [List.length_cons]; omega)]
      by_cases h₂ : b.cells (cur + 1) = 0x20
      · obtain ⟨t, rfl⟩ : ∃ t', t = 0x20 :: t' := by
          cases t with
          | nil => exact absurd (h₂.symm.trans (textAt_nil.mp ht₁)) (by decide)
          | cons x t => exact ⟨t, congrArg (· :: t) ((textAt_cons.mp ht₁).1.symm.trans h₂)⟩
        have ht₂ := (textAt_cons.mp ht₁).2
        rw [Except.ok_bind, if_neg (not_not.mpr h₂),
          hcell 2 (by rw [List.length_cons, List.length_cons]; omega)]
        cases t with
        | nil => exact absurd rfl hprompt
        | cons x t =>
          have hx : b.cells (cur + 2) = x := (textAt_cons.mp ht₂).1
          have hne : x ≠ 0 := by
            rintro rfl
            exact h0 (List.mem_cons_of_mem _ (List.mem_cons_of_mem _ List.mem_cons_self))
          rw [Except.ok_bind, hx, decide_eq_false hne]
          rfl
      · rw [Except.ok_bind, if_pos h₂]
        rfl
    · rw [Except.ok_bind, if_pos h₁]
      rfl
  rw [findNextEOL, hfalse]
  rfl

lemma scan_partial (hb : cur + (n ++ u).length < b.size) (ht : TextAt b.cells cur (n ++ u))
    (hn : ∀ x ∈ n, isEol x = true) (hu : ∀ x ∈ u, isEol x = false) (h0 : 0 ∉ u)
    (hprompt : u ≠ [0x3e, 0x20]) :
    skipNewlines b (b.size - cur) cur = .ok (cur + n.length) ∧
      findNextEOL b (cur + n.length) = .ok none := by
  rw [List.length_append] at hb
  have hhead : ∀ x ∈ u.head?, isEol x = false := fun x hx => hu x (List.mem_of_mem_head? hx)
  refine ⟨skipNewlines_eq hn hhead ht (by omega), ?_⟩
  rw [findNextEOL_eq ht.append (by omega) h0 hprompt]
  exact scanEol_free hu h0 ht.append (by omega)

lemma scan_line {c : UInt8} (hb : cur + (n ++ (u ++ c :: v)).length < b.size)
    (ht : TextAt b.cells cur (n ++ (u ++ c :: v))) (hn : ∀ x ∈ n, isEol x = true)
    (hu : ∀ x ∈ u, isEol x = false) (hne : u ≠ []) (hc : isEol c = true)
    (h0 : 0 ∉ u ++ c :: v) :
    skipNewlines b (b.size - cur) cur = .ok (cur + n.length) ∧
      findNextEOL b (cur + n.length) = .ok (some (cur + n.length + u.length)) := by
  rw [List.length_append] at hb
  have hu0 : 0 ∉ u := fun h => h0 (List.mem_append_left _ h)
  have hhead : ∀ x ∈ (u ++ c :: v).head?, isEol x = false := by
    intro x hx
    cases u with
    | nil => exact absurd rfl hne
    | cons y u => exact hu x (by rw [← Option.mem_some.mp hx]; exact List.mem_cons_self)
  have hprompt : u ++ c :: v ≠ [0x3e, 0x20] := by
    intro h
    have hmem : c ∈ u ++ c :: v := List.mem_append_right _ List.mem_cons_self
    rw [h] at hmem
    rcases List.mem_pair.mp hmem with rfl | rfl <;> exact absurd hc (by decide)
  refine ⟨skipNewlines_eq hn hhead ht (by omega), ?_⟩
  rw [findNextEOL_eq ht.append (by omega) h0 hprompt]
  rw [List.length_append] at hb
  exact scanEol_cut hu hc hu0 ht.append (by omega)

end Scan

namespace AtClean

variable {n u v l : List UInt8}

lemma behind_ends (hn : ∀ x ∈ n, isEol x = true) (h : AtClean (n ++ l)) : AtClean l := by
  induction n with
  | nil => exact h
  | cons c n ih =>
    rw [List.forall_mem_cons] at hn
    refine ih hn.2 ⟨fun h0 => h.nonzero (List.mem_cons_of_mem c h0), fun line hline => ?_⟩
    apply h.noPrompt
    rw [List.cons_append, List.splitOnP_cons_eq_if_modifyHead, if_pos hn.1]
    exact List.mem_cons_of_mem _ hline

lemma behind_line {c : UInt8} (hu : ∀ x ∈ u, isEol x = false) (hc : isEol c = true)
    (h : AtClean (u ++ c :: v)) : AtClean v := by
  refine ⟨fun h0 => h.nonzero ?_, fun line hline => h.noPrompt line ?_⟩
  · exact List.mem_append_right _ (List.mem_cons_of_mem c h0)
  · rw [List.splitOnP_append_cons_of_forall_mem hu c hc]
    exact List.mem_cons_of_mem _ hline

lemma ne_prompt (h : AtClean (u ++ l)) : u ≠ [0x3e, 0x20] := by
  rintro rfl
  obtain ⟨line, lines, hlines⟩ := List.exists_cons_of_ne_nil (List.splitOnP_ne_nil isEol l)
  have hsplit : ([0x3e, 0x20] ++ l).splitOnP isEol = (0x3e :: 0x20 :: line) :: lines := by
    rw [List.cons_append, List.cons_append, List.nil_append, List.splitOnP_cons_eq_if_modifyHead,
      if_neg (by decide), List.splitOnP_cons_eq_if_modifyHead, if_neg (by decide), hlines]
    rfl
  refine h.noPrompt (0x3e :: 0x20 :: line) ?_ ⟨line, rfl⟩
  rw [hsplit]
  exact List.mem_cons_self

end AtClean

/-! ### One call -/

lemma takeLine_eq {s : AtBuffer} {u v : List UInt8} {c : UInt8} (h : s.Holds (u ++ c :: v))
    (hu : 0 ∉ u) :
    ∃ s', s'.Holds v ∧
      ∀ reads, takeLine s (s.cur + u.length) reads = .ok (some u, s', reads) := by
  have hroom := h.room
  have hsize := h.size
  rw [List.length_append, List.length_cons] at hroom
  have hwrite : s.buf.write (s.cur + u.length) [0] =
      .ok ⟨s.buf.cells.fill (s.cur + u.length) [0], s.buf.size⟩ :=
    Block.write_eq (Block.holds_of_le (by rw [List.length_singleton]; omega))
  have hfront : TextAt (s.buf.cells.fill (s.cur + u.length) [0]) s.cur u := by
    have htake := load_take s.buf.cells s.cur
      (show u.length ≤ (u ++ c :: v).length + 1 by rw [List.length_append]; omega)
    have htext := h.text
    rw [TextAt] at htext
    rw [htext, List.append_assoc, List.take_left] at htake
    rw [TextAt, load_snoc, load_fill_before _ _ _ _ _ le_rfl, ← htake]
    congr 2
    exact fill_inside s.buf.cells (i := 0) (by decide)
  have hback : TextAt (s.buf.cells.fill (s.cur + u.length) [0]) (s.cur + u.length + 1) v := by
    have htext := h.text.append
    rw [textAt_cons] at htext
    rw [TextAt, ← htext.2]
    apply load_congr
    intro i hi
    exact fill_outside _ (.inr (by rw [List.length_singleton]; omega))
  refine ⟨⟨⟨s.buf.cells.fill (s.cur + u.length) [0], s.buf.size⟩, s.cur + u.length + 1⟩,
    ⟨hsize, by dsimp only; omega, hback⟩, fun reads => ?_⟩
  rw [takeLine, hwrite, Except.ok_bind]
  dsimp only
  rw [hfront.cstr hu (by omega)]
  rfl

/-- The call gives the line of the reader, with a buffer for what that holds, or it ends outside of
the buffer. It does the latter only where the pieces do not fit. -/
def Simulates (r : Except OutOfBounds AtLine)
    (next : Option (List UInt8) × List UInt8 × List (List UInt8)) (fits : Prop) : Prop :=
  (∃ e, r = .error e) ∧ ¬fits ∨
    ∃ s, r = .ok (next.1, s, next.2.2.map .data) ∧ s.Holds next.2.1 ∧
      AtClean (next.2.1 ++ next.2.2.flatten) ∧ (∀ c ∈ next.2.2, c ≠ []) ∧
      (fits ↔ Fits isEol atBufferSize (rest isEol next.2.1) next.2.2)

section Loop

variable {s : AtBuffer} {n u c : List UInt8}

/-- The block after a read. -/
def AtBuffer.received (s : AtBuffer) (pRead : Nat) (c : List UInt8) : Block UInt8 :=
  ⟨(s.buf.cells.fill pRead c).fill (pRead + c.length) [0], s.buf.size⟩

lemma ditch_room (s : AtBuffer) {pRead : Nat} (h : pRead < atBufferSize) :
    ditch s pRead = .ok (s, pRead) := by
  rw [ditch, if_neg (by omega)]
  rfl

lemma readlineLoop_room (h : s.Partial n u) (hc : c ≠ []) (hroom : (n ++ u ++ c).length < atBufferSize)
    (reads : List AtRead) :
    readlineLoop (.data c :: reads) s (n ++ u).length = (do
      let cur ← skipNewlines (s.received (n ++ u).length c)
        ((s.received (n ++ u).length c).size - s.cur) s.cur
      match ← findNextEOL (s.received (n ++ u).length c) cur with
      | some eol => takeLine ⟨s.received (n ++ u).length c, cur⟩ eol reads
      | none => readlineLoop reads ⟨s.received (n ++ u).length c, cur⟩ (n ++ u ++ c).length) := by
  have hsize := h.size
  rw [List.length_append] at hroom
  have htake : c.take (atBufferSize - (n ++ u).length) = c := List.take_of_length_le (by omega)
  rw [readlineLoop, ditch_room s h.room, Except.ok_bind]
  dsimp only
  rw [htake, if_neg hc, Block.write_eq (Block.holds_of_le (by omega)), Except.ok_bind,
    Block.write_eq (Block.holds_of_le (by rw [List.length_singleton]; dsimp only; omega)),
    Except.ok_bind, @List.length_append _ (n ++ u)]
  rfl

/-- A read that gives all that was asked for has its zero behind the buffer. -/
lemma readlineLoop_full (h : s.Partial n u) (hroom : atBufferSize ≤ (n ++ u ++ c).length)
    (reads : List AtRead) :
    ∃ e, readlineLoop (.data c :: reads) s (n ++ u).length = .error e := by
  have hsize := h.size
  have hpos := h.room
  rw [List.length_append] at hroom
  have hlen : (c.take (atBufferSize - (n ++ u).length)).length = atBufferSize - (n ++ u).length := by
    rw [List.length_take]
    omega
  have hne : c.take (atBufferSize - (n ++ u).length) ≠ [] := by
    intro hnil
    rw [hnil, List.length_nil] at hlen
    omega
  refine ⟨⟨(n ++ u).length + (c.take (atBufferSize - (n ++ u).length)).length, 1⟩, ?_⟩
  rw [readlineLoop, ditch_room s h.room, Except.ok_bind]
  dsimp only
  rw [if_neg hne, Block.write_eq (Block.holds_of_le (by omega)), Except.ok_bind,
    Block.write_error (fun hholds => ?_), Except.error_bind]
  · rfl
  rcases hholds with hzero | hle
  · cases hzero
  · rw [List.length_singleton] at hle
    dsimp only at hle
    omega

/-- What a read that leaves room does, by the first line that there is then. -/
lemma readlineLoop_read (h : s.Partial n u) (hc : c ≠ [])
    (hroom : (n ++ u ++ c).length < atBufferSize) {l : List UInt8} (hclean : AtClean (u ++ c ++ l)) :
    (first isEol (n ++ u ++ c) = none ∧ ∃ s' n' u', s'.Partial n' u' ∧ n' ++ u' = n ++ u ++ c ∧
        AtClean (u' ++ l) ∧ ∀ reads, readlineLoop (.data c :: reads) s (n ++ u).length =
          readlineLoop reads s' (n' ++ u').length) ∨
      ∃ line held s', first isEol (n ++ u ++ c) = some (line, held) ∧ s'.Holds held ∧
        AtClean (held ++ l) ∧ ∀ reads, readlineLoop (.data c :: reads) s (n ++ u).length =
          .ok (some line, s', reads) := by
  have hsize : (s.received (n ++ u).length c).size = atBufferSize := h.size
  have htext : TextAt (s.received (n ++ u).length c).cells 0 (n ++ u ++ c) := h.text.fill c
  rw [List.append_assoc] at htext
  have hscan := htext.append
  rw [Nat.zero_add, ← h.cur] at hscan
  have hlen : s.cur + (u ++ c).length < (s.received (n ++ u).length c).size := by
    rw [hsize, h.cur, ← List.length_append, ← List.append_assoc]
    exact hroom
  obtain ⟨n₁, u₁, hn₁, hu₁, hsplit⟩ := split_first isEol (u ++ c)
  have hends : ∀ x ∈ n ++ n₁, isEol x = true := List.forall_mem_append.mpr ⟨h.ends, hn₁⟩
  rcases hsplit with hsplit | ⟨hne, e, v, he, hsplit⟩
  · left
    have hwhole : n ++ n₁ ++ u₁ = n ++ u ++ c := by
      rw [List.append_assoc, ← hsplit, List.append_assoc]
    have hclean₁ : AtClean (u₁ ++ l) := by
      rw [hsplit, List.append_assoc] at hclean
      exact hclean.behind_ends hn₁
    have h0 : 0 ∉ u₁ := fun h0 => hclean₁.nonzero (List.mem_append_left _ h0)
    have hpartial : AtBuffer.Partial ⟨s.received (n ++ u).length c, s.cur + n₁.length⟩
        (n ++ n₁) u₁ := {
      size := hsize
      cur := by
        dsimp only
        rw [h.cur, ← List.length_append]
      room := hwhole ▸ hroom
      text := by rwa [List.append_assoc, ← hsplit]
      ends := hends
      free := hu₁ }
    rw [hsplit] at hlen hscan
    obtain ⟨hskip, heol⟩ := scan_partial hlen hscan hn₁ hu₁ h0 hclean₁.ne_prompt
    refine ⟨hwhole ▸ first_free hends hu₁, _, _, _, hpartial, hwhole, hclean₁, fun reads => ?_⟩
    rw [readlineLoop_room h hc hroom, hskip, Except.ok_bind, heol, Except.ok_bind, hwhole]
  · right
    have hwhole : n ++ n₁ ++ (u₁ ++ e :: v) = n ++ u ++ c := by
      rw [List.append_assoc, ← hsplit, List.append_assoc]
    have hclean₁ : AtClean (u₁ ++ e :: (v ++ l)) := by
      rw [hsplit, List.append_assoc, List.append_assoc] at hclean
      exact hclean.behind_ends hn₁
    have h0 : 0 ∉ u₁ ++ e :: v := by
      intro h0
      apply hclean.nonzero
      rw [hsplit]
      exact List.mem_append_left _ (List.mem_append_right _ h0)
    rw [hsplit] at hlen hscan
    obtain ⟨hskip, heol⟩ := scan_line hlen hscan hn₁ hu₁ hne he h0
    have hholds : AtBuffer.Holds ⟨s.received (n ++ u).length c, s.cur + n₁.length⟩
        (u₁ ++ e :: v) := {
      size := hsize
      room := by rwa [List.length_append, ← Nat.add_assoc, hsize] at hlen
      text := hscan.append }
    have hu0 : 0 ∉ u₁ := fun h => h0 (List.mem_append_left _ h)
    obtain ⟨s', hs', htake⟩ := takeLine_eq hholds hu0
    refine ⟨u₁, v, s', hwhole ▸ first_cut hends hu₁ hne he v, hs', hclean₁.behind_line hu₁ he,
      fun reads => ?_⟩
    rw [readlineLoop_room h hc hroom, hskip, Except.ok_bind, heol, Except.ok_bind]
    exact htake reads

lemma readlineLoop_simulates (cs : List (List UInt8)) (h : s.Partial n u)
    (hclean : AtClean (u ++ cs.flatten)) (hne : ∀ c ∈ cs, c ≠ []) :
    Simulates (readlineLoop (cs.map .data) s (n ++ u).length) (more isEol cs (n ++ u))
      (Fits isEol atBufferSize (n ++ u) cs) := by
  induction cs generalizing s n u with
  | nil =>
    have hroom := h.room
    have hcur := h.cur
    have htext := h.text.append
    rw [Nat.zero_add, ← hcur] at htext
    rw [List.length_append] at hroom
    have hrest : rest isEol (n ++ u) = u := by rw [(ends_append h.ends u).2, rest_free h.free]
    have hholds : s.Holds u := ⟨h.size, by omega, htext⟩
    rw [more, hrest]
    refine .inr ⟨s, ?_, hholds, hclean, List.forall_mem_nil _, Iff.rfl⟩
    rw [List.map_nil, readlineLoop, ditch_room s h.room]
    rfl
  | cons c cs ih =>
    rw [List.forall_mem_cons] at hne
    rw [List.flatten_cons, ← List.append_assoc] at hclean
    by_cases hroom : (n ++ u ++ c).length < atBufferSize
    · rw [List.map_cons, more, Fits, and_iff_right hroom]
      rcases readlineLoop_read h hne.1 hroom hclean with
        ⟨hfirst, s', n', u', hs', hwhole, hclean', hread⟩ |
        ⟨line, held, s', hfirst, hs', hclean', hread⟩
      · rw [hfirst, if_pos (lines_of_first_none hfirst).1, hread, ← hwhole]
        exact ih hs' hclean' hne.2
      · have hline := lines_of_first hfirst []
        rw [List.append_nil] at hline
        rw [hfirst, if_neg (by rw [hline.1]; exact List.cons_ne_nil _ _), hline.2.1, hread]
        exact .inr ⟨s', rfl, hs', hclean', hne.2, Iff.rfl⟩
    · obtain ⟨e, he⟩ := readlineLoop_full h (not_lt.mp hroom) (cs.map .data)
      exact .inl ⟨⟨e, he⟩, fun hfits => hroom hfits.1⟩

end Loop

lemma readline_simulates {s : AtBuffer} {t : List UInt8} (h : s.Holds t) (cs : List (List UInt8))
    (hclean : AtClean (t ++ cs.flatten)) (hne : ∀ c ∈ cs, c ≠ []) :
    Simulates (readline (cs.map .data) s) (call isEol cs t)
      (Fits isEol atBufferSize (rest isEol t) cs) := by
  have hsize := h.size
  have hroom := h.room
  have hcell : atCell s.buf s.cur = .ok (s.buf.cells s.cur) := if_pos (by omega)
  rw [readline, hcell, Except.ok_bind, call]
  by_cases hempty : t = []
  · subst hempty
    have hpartial : AtBuffer.Partial ⟨⟨s.buf.cells.fill 0 [0], s.buf.size⟩, 0⟩ [] [] := {
      size := hsize
      cur := rfl
      room := by decide
      text := textAt_fill s.buf.cells []
      ends := List.forall_mem_nil _
      free := List.forall_mem_nil _ }
    rw [if_pos (textAt_nil.mp h.text),
      Block.write_eq (Block.holds_of_le (by rw [hsize]; decide)), Except.ok_bind]
    exact readlineLoop_simulates cs hpartial hclean hne
  · have hnonzero : s.buf.cells s.cur ≠ 0 := by
      cases t with
      | nil => exact absurd rfl hempty
      | cons x t =>
        rw [(textAt_cons.mp h.text).1]
        rintro rfl
        exact hclean.nonzero List.mem_cons_self
    rw [if_neg hnonzero]
    rw [← hsize] at hroom
    obtain ⟨n, u, hn, hu, rfl | ⟨hune, e, v, he, rfl⟩⟩ := split_first isEol t
    · rw [List.append_assoc] at hclean
      have hclean' := hclean.behind_ends hn
      have h0 : 0 ∉ u := fun h0 => hclean'.nonzero (List.mem_append_left _ h0)
      have htext : TextAt s.buf.cells (s.cur + n.length) u := h.text.append
      obtain ⟨hskip, heol⟩ := scan_partial hroom h.text hn hu h0 hclean'.ne_prompt
      rw [List.length_append] at hroom
      have hstr := htext.cstr h0 (show u.length < s.buf.size - (s.cur + n.length) by omega)
      have hpartial : AtBuffer.Partial ⟨⟨s.buf.cells.fill 0 (u ++ [0]), s.buf.size⟩, 0⟩ [] u := {
        size := hsize
        cur := rfl
        room := by rw [List.nil_append, ← hsize]; omega
        text := textAt_fill s.buf.cells u
        ends := List.forall_mem_nil _
        free := hu }
      rw [hskip, Except.ok_bind, heol, Except.ok_bind]
      dsimp only
      rw [hstr, Block.read_eq (Block.holds_of_le (by omega)), Except.ok_bind,
        show s.buf.cells.load (s.cur + n.length) (u.length + 1) = u ++ [0] from htext,
        Block.write_eq (Block.holds_of_le (by rw [List.length_append, List.length_singleton]; omega)),
        Except.ok_bind, first_free hn hu, (ends_append hn u).2, rest_free hu]
      exact readlineLoop_simulates cs hpartial hclean' hne
    · have h0 : 0 ∉ u ++ e :: v := by
        intro h0
        exact hclean.nonzero (List.mem_append_left _ (List.mem_append_right _ h0))
      obtain ⟨hskip, heol⟩ := scan_line hroom h.text hn hu hune he h0
      have hholds : AtBuffer.Holds ⟨s.buf, s.cur + n.length⟩ (u ++ e :: v) := {
        size := hsize
        room := by rwa [List.length_append, ← Nat.add_assoc, hsize] at hroom
        text := h.text.append }
      have hu0 : 0 ∉ u := fun h => h0 (List.mem_append_left _ h)
      obtain ⟨s', hs', htake⟩ := takeLine_eq hholds hu0
      rw [List.append_assoc, List.append_assoc] at hclean
      rw [hskip, Except.ok_bind, heol, Except.ok_bind, first_cut hn hu hune he,
        (ends_append hn _).2, rest_cut hu he]
      exact .inr ⟨s', htake _, hs', (hclean.behind_ends hn).behind_line hu he, hne, Iff.rfl⟩

lemma initial_holds : AtBuffer.initial.Holds [] where
  size := rfl
  room := by decide
  text := rfl

lemma readlines_eq_calls (n : Nat) {s : AtBuffer} {t : List UInt8} (h : s.Holds t)
    {cs : List (List UInt8)} (hclean : AtClean (t ++ cs.flatten)) (hne : ∀ c ∈ cs, c ≠ [])
    (hfits : Fits isEol atBufferSize (rest isEol t) cs) :
    readlines n (cs.map .data) s = .ok (calls isEol n cs t) := by
  induction n generalizing s t cs with
  | zero => rfl
  | succ n ih =>
    rcases readline_simulates h cs hclean hne with ⟨-, hnot⟩ | ⟨s', heq, hs', hclean', hne', hfits'⟩
    · exact absurd hfits hnot
    · rw [readlines, calls, heq, Except.ok_bind]
      rw [hfits'] at hfits
      rcases hcall : call isEol cs t with ⟨_ | line, t', cs'⟩
      · rfl
      · rw [hcall] at hs' hclean' hne' hfits
        dsimp only
        rw [ih hs' hclean' hne' hfits]
        rfl

lemma readlines_error (n : Nat) {s : AtBuffer} {t : List UInt8} (h : s.Holds t)
    {cs : List (List UInt8)} (hclean : AtClean (t ++ cs.flatten)) (hne : ∀ c ∈ cs, c ≠ [])
    (hfits : ¬Fits isEol atBufferSize (rest isEol t) cs)
    (hn : (lines isEol (t ++ cs.flatten)).length < n) :
    ∃ e, readlines n (cs.map .data) s = .error e := by
  induction n generalizing s t cs with
  | zero => exact absurd hn (Nat.not_lt_zero _)
  | succ n ih =>
    rcases readline_simulates h cs hclean hne with ⟨⟨e, he⟩, -⟩ | ⟨s', heq, hs', hclean', hne', hfits'⟩
    · exact ⟨e, by rw [readlines, he]; rfl⟩
    · rw [hfits'] at hfits
      obtain ⟨hhead, htail⟩ := call_spec (p := isEol) cs t
      rcases hcall : call isEol cs t with ⟨_ | line, t', cs'⟩
      · have hpieces : cs' = [] := by
          have hnone := @call_none _ isEol cs t (by rw [hcall])
          rwa [hcall] at hnone
        rw [hcall, hpieces] at hfits
        exact absurd trivial hfits
      · rw [hcall] at hs' hclean' hne' hfits hhead htail
        obtain ⟨ls, hls⟩ := List.head?_eq_some_iff.mp hhead.symm
        rw [hls, List.length_cons] at hn
        obtain ⟨e, he⟩ := ih hs' hclean' hne' hfits (by rw [htail, hls, List.tail_cons]; omega)
        refine ⟨e, ?_⟩
        rw [readlines, heq, hcall, Except.ok_bind]
        dsimp only
        rw [he]
        rfl

/-- Successive calls return the lines of the output exactly when no read gives as many bytes as were
asked for: each piece, with what the buffer holds, has less than 512 bytes. -/
theorem readline_lines_iff (pieces : List (List UInt8)) (hne : ∀ c ∈ pieces, c ≠ [])
    (hclean : AtClean pieces.flatten) :
    (∀ n, readlines n (pieces.map .data) .initial = .ok ((lines isEol pieces.flatten).take n)) ↔
      Fits isEol atBufferSize [] pieces := by
  constructor
  · intro h
    by_contra hfits
    obtain ⟨e, he⟩ := readlines_error _ initial_holds hclean hne hfits (Nat.lt_succ_self _)
    rw [h] at he
    cases he
  · intro hfits n
    rw [readlines_eq_calls n initial_holds hclean hne hfits, calls_eq, List.nil_append]

/-- Two lines in three pieces. -/
theorem readline_lines_two :
    let pieces : List (List UInt8) := [[0x0d, 0x0a, 0x2b], [0x43, 0x0d, 0x0a, 0x4f], [0x4b, 0x0d]]
    ∀ n, readlines n (pieces.map .data) .initial =
      .ok (([[0x2b, 0x43], [0x4f, 0x4b]] : List (List UInt8)).take n) := by
  intro pieces n
  have hclean : AtClean pieces.flatten := ⟨by decide, by decide⟩
  have hlines := (readline_lines_iff pieces (by decide) hclean).mpr (by decide) n
  rw [hlines]
  congr 1

/-- Lines of one byte, as many as fill the buffer. -/
def oneByteLines (k : Nat) : List UInt8 := (List.replicate k [0x41, 0x0d]).flatten

lemma length_oneByteLines (k : Nat) : (oneByteLines k).length = 2 * k := by
  induction k with
  | zero => rfl
  | succ k ih =>
    have hcons : oneByteLines (k + 1) = 0x41 :: 0x0d :: oneByteLines k := rfl
    rw [hcons, List.length_cons, List.length_cons, ih]
    omega

lemma mem_oneByteLines (k : Nat) :
    0 ∉ oneByteLines k ∧ ∀ line ∈ (oneByteLines k).splitOnP isEol, line = [0x41] ∨ line = [] := by
  induction k with
  | zero => exact ⟨List.not_mem_nil, by decide⟩
  | succ k ih =>
    have hcons : oneByteLines (k + 1) = [0x41] ++ 0x0d :: oneByteLines k := rfl
    have hsplit : (oneByteLines (k + 1)).splitOnP isEol =
        [0x41] :: (oneByteLines k).splitOnP isEol := by
      have hbyte : ∀ x ∈ [(0x41 : UInt8)], isEol x = false := List.forall_mem_singleton.mpr rfl
      rw [hcons]
      exact List.splitOnP_append_cons_of_forall_mem hbyte 0x0d rfl _
    refine ⟨fun h0 => ?_, fun line hline => ?_⟩
    · rw [hcons] at h0
      have hmem : (0 : UInt8) ∈ oneByteLines k := by simpa using h0
      exact ih.1 hmem
    · rw [hsplit, List.mem_cons] at hline
      exact hline.elim .inl (ih.2 line)

/-- The first read gives 512 bytes, all of lines that are short. -/
theorem readline_fills_buffer :
    (∀ line ∈ (oneByteLines 256).splitOnP isEol, line.length < 511) ∧ AtClean (oneByteLines 256) ∧
      ¬∀ n, readlines n [.data (oneByteLines 256)] .initial =
        .ok ((lines isEol (oneByteLines 256)).take n) := by
  obtain ⟨h0, hmem⟩ := mem_oneByteLines 256
  have hclean : AtClean (oneByteLines 256) := by
    refine ⟨h0, fun line hline => ?_⟩
    rcases hmem line hline with rfl | rfl <;> decide
  have hlen : (oneByteLines 256).length = 512 := length_oneByteLines 256
  refine ⟨fun line hline => ?_, hclean, fun h => ?_⟩
  · rcases hmem line hline with rfl | rfl <;> decide
  · have hfits : ¬Fits isEol atBufferSize (rest isEol []) [oneByteLines 256] := by
      intro hfits
      have hroom := hfits.1
      rw [List.length_append, hlen] at hroom
      exact absurd hroom (by rw [atBufferSize]; omega)
    have hflat : AtClean ([] ++ [oneByteLines 256].flatten) := by
      rwa [List.flatten_singleton, List.nil_append]
    have hne : ∀ c ∈ [oneByteLines 256], c ≠ [] := by
      intro c hc hnil
      rw [← List.mem_singleton.mp hc, hnil] at hlen
      cases hlen
    obtain ⟨e, he⟩ := readlines_error _ initial_holds hflat hne hfits (Nat.lt_succ_self _)
    rw [List.map_singleton, h] at he
    cases he

end EngPc
