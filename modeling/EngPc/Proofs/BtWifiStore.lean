import EngPc.Lib.Machine
import EngPc.Model.BtWifiMac

/-!
# The store of the BT and WiFi addresses

The text of an address is read back as its bytes, the BT address turned round on the way in and on
the way out. A write of one address writes the text of the other again, over random text of the
same length.
-/

namespace EngPc
open Buffer CString LittleEndian

lemma length_macText (b : UInt8) (l : List UInt8) :
    (macText (b :: l)).length = 3 * l.length + 2 := by
  induction l generalizing b with
  | nil => rfl
  | cons c l ih =>
    rw [macText, List.length_append, length_hex2, List.length_cons, ih, List.length_cons]
    omega

lemma notMem_macText (l : List UInt8) {c : UInt8} (hc : c = 0 ∨ c = 0x3b) : c ∉ macText l := by
  induction l with
  | nil => exact List.not_mem_nil
  | cons b l ih =>
    have hdigits : c ∉ hex2 b := notMem_hex2 b (hc.imp_right .inr)
    cases l with
    | nil => exact hdigits
    | cons b' l =>
      have hcolon : c ≠ colon := by
        rcases hc with rfl | rfl
        · decide
        · decide
      rw [macText, List.mem_append, List.mem_cons, not_or, not_or]
      exact ⟨hdigits, hcolon, ih⟩

lemma zero_notMem_macText (l : List UInt8) : 0 ∉ macText l := notMem_macText l (.inl rfl)

lemma colon_notMem_hex2 (b : UInt8) : colon ∉ hex2 b := notMem_hex2 b (.inr (.inl rfl))

lemma ofInt_strtol_hex2 (b : UInt8) : UInt8.ofInt (strtol longBits 16 (hex2 b)) = b := by
  have hb := b.toNat_lt
  have hmod : ((b.toNat : Int) % 2 ^ 8).toNat = b.toNat := by omega
  rw [strtol_hex2 (by decide), UInt8.ofInt, hmod, UInt8.ofNat_toNat]

lemma char2hexLoop_macText (n : Nat) (b : UInt8) (l : List UInt8) (h : l.length < n) :
    char2hexLoop n (macText (b :: l)) = b :: l := by
  induction l generalizing n b with
  | nil =>
    obtain ⟨n, rfl⟩ := Nat.exists_eq_add_of_lt h
    rw [char2hexLoop, macText, if_neg (colon_notMem_hex2 b), ofInt_strtol_hex2]
  | cons c l ih =>
    obtain ⟨m, rfl⟩ : ∃ m, n = m + 1 := ⟨n - 1, by omega⟩
    have hmem : colon ∈ hex2 b ++ colon :: macText (c :: l) := by simp
    have hfirst : (hex2 b ++ colon :: macText (c :: l)).take 2 = hex2 b :=
      List.take_left' (length_hex2 b)
    have hrest : ((hex2 b ++ colon :: macText (c :: l)).dropWhile (· ≠ colon)).tail =
        macText (c :: l) := by
      rw [List.dropWhile_append_of_pos]
      · rw [List.dropWhile_cons_of_neg (by simp), List.tail_cons]
      · intro d hd
        have hne : d ≠ colon := fun heq => colon_notMem_hex2 b (heq ▸ hd)
        simpa using hne
    rw [char2hexLoop, macText, if_pos hmem, hfirst, hrest, ofInt_strtol_hex2,
      ih m c (by rw [List.length_cons] at h; omega)]

/-- The text of some bytes is read back as these. -/
theorem engDiagChar2hex_macText {l : List UInt8} (hl : l ≠ []) :
    engDiagChar2hex (macText l) = l := by
  cases l with
  | nil => exact absurd rfl hl
  | cons b l =>
    apply char2hexLoop_macText
    rw [length_macText]
    omega

lemma macString_fill {base : Buffer UInt8} {text : List UInt8} (hbase : base text.length = 0)
    (htext : 0 ∉ text) (hlen : text.length < 32) : macString (base.fill 0 text) = text := by
  apply cstr_eq _ htext hlen
  rw [load_add, load_fill, Nat.zero_add]
  congr 1
  rw [load_succ, load_zero, fill_outside _ (by omega), hbase]

lemma randmacfile_text {btmac wifimac : List UInt8} (hbt : btmac.length = 17)
    (hwifi : wifimac.length = 17) (hclean : ∀ c ∈ btmac ++ wifimac, c ≠ 0 ∧ c ≠ 0x3b) :
    cstr (Buffer.fill macZero 0 ((randmacfileBytes btmac wifimac).take 79)) 0 80 =
      btmac ++ 0x3b :: wifimac := by
  have hlen : (btmac ++ 0x3b :: wifimac).length = 35 := by
    rw [List.length_append, List.length_cons, hbt, hwifi]
  have htake : (randmacfileBytes btmac wifimac).take 79 =
      (btmac ++ 0x3b :: wifimac) ++ List.replicate 44 0 := by
    rw [randmacfileBytes, hlen, List.take_append, hlen, List.take_of_length_le (by omega),
      List.take_replicate]
    rfl
  have hzero : 0 ∉ btmac ++ 0x3b :: wifimac := by
    intro h
    rw [List.mem_append, List.mem_cons] at h
    rcases h with h | h | h
    · exact (hclean 0 (List.mem_append_left _ h)).1 rfl
    · exact absurd h (by decide)
    · exact (hclean 0 (List.mem_append_right _ h)).1 rfl
  apply cstr_eq _ hzero (by omega)
  have htotal : ((btmac ++ 0x3b :: wifimac) ++ List.replicate 44 0).length = 79 := by
    rw [List.length_append, hlen, List.length_replicate]
  have hload := load_fill_of_length macZero 0 htotal
  rw [htake]
  rw [hlen, ← load_take _ 0 (show 35 + 1 ≤ 79 by omega), hload, List.take_append, hlen,
    List.take_of_length_le (by omega)]
  rfl

lemma macRand_written {file : RandMacFile} (seed : MacSeed) {btmac wifimac : List UInt8}
    (hbytes : file.bytes = randmacfileBytes btmac wifimac) (hbt : btmac.length = 17)
    (hwifi : wifimac.length = 17) (hclean : ∀ c ∈ btmac ++ wifimac, c ≠ 0 ∧ c ≠ 0x3b) :
    macRand (some file) seed = (btmac, wifimac) := by
  have hne : ∀ c ∈ btmac, decide (c ≠ 0x3b) = true := fun c hc =>
    decide_eq_true (hclean c (List.mem_append_left _ hc)).2
  rw [macRand, hbytes]
  simp only [randmacfile_text hbt hwifi hclean]
  rw [if_pos (by simp), List.takeWhile_append_of_pos hne, List.dropWhile_append_of_pos hne,
    List.takeWhile_cons_of_neg (by simp), List.dropWhile_cons_of_neg (by simp),
    List.append_nil, List.tail_cons]

/-- The file of the random texts, as `mac_rand` means to make it. -/
def MacSeed.randMacFile (seed : MacSeed) : RandMacFile where
  bytes := randmacfileBytes (macText (0 :: seed.bt)) (macText (0 :: seed.wifi))
  written := by
    refine ⟨_, _, rfl, ?_, ?_, ?_⟩
    · rw [length_macText, seed.bt_length]
    · rw [length_macText, seed.wifi_length]
    · intro c hc
      rw [List.mem_append] at hc
      constructor
      · rintro rfl
        exact hc.elim (notMem_macText _ (.inl rfl)) (notMem_macText _ (.inl rfl))
      · rintro rfl
        exact hc.elim (notMem_macText _ (.inr rfl)) (notMem_macText _ (.inr rfl))

/-- Whatever `mac_rand` finds, its texts have the length of an address. -/
lemma length_macRand (file : Option RandMacFile) (seed : MacSeed) :
    (macRand file seed).1.length = 17 ∧ (macRand file seed).2.length = 17 := by
  have hrandom : (macText (0 :: seed.bt)).length = 17 ∧ (macText (0 :: seed.wifi)).length = 17 := by
    rw [length_macText, length_macText, seed.bt_length, seed.wifi_length]
    exact ⟨rfl, rfl⟩
  cases file with
  | none => exact hrandom
  | some file =>
    obtain ⟨btmac, wifimac, hbytes, hbt, hwifi, hclean⟩ := file.written
    rw [macRand_written seed hbytes hbt hwifi hclean]
    exact ⟨hbt, hwifi⟩

/-- The file of this type holds the text of six bytes. -/
def MacFiles.Holds (f : MacFiles) (type : MacType) (addr : List UInt8) : Prop :=
  addr.length = 6 ∧ f.current type = some (macText addr)

lemma length_macText_six {addr : List UInt8} (h : addr.length = 6) :
    (macText addr).length = 17 := by
  cases addr with
  | nil => cases h
  | cons b l =>
    rw [List.length_cons] at h
    rw [length_macText]
    omega

lemma MacFiles.Holds.ne_nil {f : MacFiles} {type : MacType} {addr : List UInt8}
    (h : f.Holds type addr) : addr ≠ [] := by
  apply List.ne_nil_of_length_pos
  rw [h.1]
  exact Nat.succ_pos 5

lemma MacFiles.Holds.read {f : MacFiles} {type : MacType} {addr : List UInt8}
    (h : f.Holds type addr) {base : Buffer UInt8} (hbase : base 17 = 0) :
    (engBtwifimacRead f base type).1 = 0 ∧
      macString (engBtwifimacRead f base type).2 = macText addr := by
  have hlen := length_macText_six h.1
  have hne : macText addr ≠ [] := List.ne_nil_of_length_pos (by omega)
  rw [engBtwifimacRead, h.2]
  simp only [if_neg hne, List.take_of_length_le (show (macText addr).length ≤ 31 by omega)]
  exact ⟨trivial, macString_fill (by rwa [hlen]) (zero_notMem_macText addr) (by omega)⟩

lemma MacFiles.Holds.fill {f : MacFiles} {type : MacType} {addr : List UInt8}
    (h : f.Holds type addr) {rand : List UInt8} (hrand : rand.length = 17) :
    macFill f rand type = macText addr := by
  have hbase : Buffer.fill macZero 0 rand 17 = 0 := by
    rw [fill_outside _ (by omega)]
    rfl
  exact (h.read hbase).2

lemma writeMac2file_fine (f : MacFiles) (wifimac btmac : List UInt8) :
    (writeMac2file .fine f wifimac btmac).2.current .wifi = some wifimac ∧
      (writeMac2file .fine f wifimac btmac).2.current .bt = some btmac :=
  ⟨rfl, rfl⟩

section Write

variable (file : Option RandMacFile) (seed : MacSeed) (f : MacFiles)
  {btMac wifiMac : Option (List UInt8)}

lemma engBtwifimacWrite_current (type : MacType) :
    (engBtwifimacWrite .fine file seed f btMac wifiMac).files.current type =
      match type with
      | .bt => some (macTexts file seed f btMac wifiMac).2
      | .wifi => some (macTexts file seed f btMac wifiMac).1 := by
  obtain ⟨hwifi, hbt⟩ := writeMac2file_fine f (macTexts file seed f btMac wifiMac).1
    (macTexts file seed f btMac wifiMac).2
  cases type with
  | bt => exact hbt
  | wifi => exact hwifi

lemma engBtwifimacWrite_bt {addr : List UInt8} (hlen : addr.length = 6)
    (h : btMac = some (macText addr) ∨ btMac = none ∧ f.Holds .bt addr) :
    (engBtwifimacWrite .fine file seed f btMac wifiMac).files.Holds .bt addr := by
  refine ⟨hlen, ?_⟩
  rw [engBtwifimacWrite_current, macTexts]
  rcases h with rfl | ⟨rfl, hold⟩
  · rfl
  · exact congrArg some (hold.fill (length_macRand file seed).1)

lemma engBtwifimacWrite_wifi {addr : List UInt8} (hlen : addr.length = 6)
    (h : wifiMac = some (macText addr) ∨ wifiMac = none ∧ f.Holds .wifi addr) :
    (engBtwifimacWrite .fine file seed f btMac wifiMac).files.Holds .wifi addr := by
  refine ⟨hlen, ?_⟩
  rw [engBtwifimacWrite_current, macTexts]
  rcases h with rfl | ⟨rfl, hold⟩
  · rfl
  · exact congrArg some (hold.fill (length_macRand file seed).2)

end Write

def replyBtaddr (reply : List UInt8) : List UInt8 :=
  (reply.drop (1 + (msgHeadLen + directBtaddr))).take 6

def replyWifiaddr (reply : List UInt8) : List UInt8 :=
  (reply.drop (1 + (msgHeadLen + directWifiaddr))).take 6

lemma load_macTranslate (rsp tmprsp : Buffer UInt8) (size : Nat) :
    (macTranslate rsp tmprsp size).load 0 (size + 2) = 0x7e :: tmprsp.load 0 size ++ [0x7e] := by
  apply load_fill_of_length
  rw [List.length_append, List.length_cons, length_load]
  rfl

lemma reply_field (tmprsp : Buffer UInt8) {off n size : Nat} (h : off + n ≤ size) :
    ((0x7e :: tmprsp.load 0 size ++ [0x7e]).drop (1 + off)).take n = tmprsp.load off n := by
  have hlen : (tmprsp.load 0 size).length = size := length_load _ _ _
  rw [Nat.add_comm 1 off, List.cons_append, List.drop_succ_cons,
    List.drop_append_of_le_length (by omega),
    load_drop _ _ (show off ≤ size by omega), List.take_append_of_le_length (by
      rw [length_load]; omega),
    load_take _ _ (by omega), Nat.zero_add]

lemma readBtaddr_load {f : MacFiles} {addr : List UInt8} (h : f.Holds .bt addr.reverse)
    (tmprsp : Buffer UInt8) :
    (readBtaddr f tmprsp).load (msgHeadLen + directBtaddr) 6 = addr := by
  have hlen : addr.reverse.length = 6 := h.1
  obtain ⟨hret, htext⟩ := h.read (show macZero 17 = 0 from rfl)
  have hfirst := load_fill_of_length tmprsp (msgHeadLen + directBtaddr) hlen
  rw [readBtaddr]
  simp only [hret, if_true, htext, engDiagChar2hex_macText h.ne_nil, hfirst, List.reverse_reverse]
  apply load_fill_of_length
  rwa [List.length_reverse] at hlen

lemma readWifiaddr_load {f : MacFiles} {addr : List UInt8} (h : f.Holds .wifi addr)
    (tmprsp : Buffer UInt8) :
    (readWifiaddr f tmprsp).load (msgHeadLen + directWifiaddr) 6 = addr := by
  obtain ⟨hret, htext⟩ := h.read (show macZero 17 = 0 from rfl)
  rw [readWifiaddr]
  simp only [hret, if_true, htext, engDiagChar2hex_macText h.ne_nil]
  exact load_fill_of_length _ _ h.1

lemma readWifiaddr_before (f : MacFiles) (tmprsp : Buffer UInt8) :
    (readWifiaddr f tmprsp).load (msgHeadLen + directBtaddr) 6 =
      tmprsp.load (msgHeadLen + directBtaddr) 6 := by
  rw [readWifiaddr]
  split
  · exact load_fill_before _ _ _ _ _ (by decide)
  · rfl

lemma fill_load_outside (b : Buffer UInt8) {off n k m : Nat} {l : List UInt8}
    (hl : l.length = n) (h : k + m ≤ off ∨ off + n ≤ k) :
    (b.fill off l).load k m = b.load k m := by
  apply load_congr
  intro i hi
  exact fill_outside b (by omega)

/-- The header and the CRC that complete the reply leave the fields as they are. -/
lemma btwifiRead_field (f : MacFiles) (buf rsp : Buffer UInt8) {off : Nat}
    (h : msgHeadLen ≤ off) (h' : off + 6 ≤ msgHeadLen + directLen) :
    (((btwifiRead f buf rsp).rsp.load 0 (btwifiRead f buf rsp).rlen).drop (1 + off)).take 6 =
      (let tmprsp := if hasBit (buf 8) diagCmdBtbit then readBtaddr f macZero else macZero
        if hasBit (buf 8) diagCmdWifibit then readWifiaddr f tmprsp else tmprsp).load off 6 := by
  have hhead : msgHeadLen = 8 := rfl
  have hdirect : directLen = 106 := rfl
  rw [btwifiRead]
  simp only
  rw [load_macTranslate, reply_field _ (by omega),
    fill_load_outside _ (length_bytesLE 2 _) (by omega),
    fill_load_outside _ (length_bytesLE 2 _) (by omega),
    fill_load_outside _ (length_load _ 1 msgHeadLen) (by omega)]

lemma hasBit_mask {subtype bit : UInt8} (h : rmValidCmdMask &&& bit = bit) :
    hasBit (subtype &&& rmValidCmdMask) bit ↔ hasBit subtype bit := by
  rw [hasBit, hasBit, UInt8.and_assoc, h]

lemma validCommand_ne_zero_iff (subtype : UInt8) :
    validCommand subtype ≠ 0 ↔ hasBit subtype diagCmdBtbit ∨ hasBit subtype diagCmdWifibit := by
  have hbt := @hasBit_mask subtype diagCmdBtbit rfl
  have hwifi := @hasBit_mask subtype diagCmdWifibit rfl
  rw [← hbt, ← hwifi, validCommand]
  by_cases hmask : subtype &&& rmValidCmdMask = 0
  · simp [hmask, hasBit]
  · simp only [hmask, and_false, if_false]
    split_ifs with hbits hother
    · exact iff_of_true (by decide) hbits
    · exact iff_of_true (by decide) hbits
    · exact iff_of_false (fun h => h rfl) hbits

/-- A request with a valid CRC, and what its call finds. -/
structure MacCall where
  buf : Block UInt8
  crc_ok : crcCheck buf = .ok true
  rsp : Buffer UInt8
  file : Option RandMacFile
  seed : MacSeed

namespace MacCall

variable (c : MacCall)

def subtype : UInt8 := c.buf.cells 8

def Served : Prop := hasBit c.subtype diagCmdBtbit ∨ hasBit c.subtype diagCmdWifibit

def IsRead : Prop := hasBit c.subtype diagCmdRead

/-- A WiFi address with one of its two low bits set in the first byte. -/
def BadWifi : Prop :=
  hasBit c.subtype diagCmdWifibit ∧ hasBit (c.buf.cells (directAt + directWifiaddr)) 0x03

/-- A write that is not refused. -/
def Accepted : Prop := c.Served ∧ ¬c.IsRead ∧ directCrcOk c.buf.cells ∧ ¬c.BadWifi

instance : Decidable c.Served := inferInstanceAs (Decidable (_ ∨ _))

instance : Decidable c.IsRead := inferInstanceAs (Decidable (hasBit _ _))

instance : Decidable c.BadWifi := inferInstanceAs (Decidable (_ ∧ _))

instance : Decidable c.Accepted := inferInstanceAs (Decidable (_ ∧ _))

end MacCall

/-- One call without file errors. The output is what is sent to the host, and the files. -/
def macStep (f : MacFiles) (c : MacCall) :
    Except OutOfBounds (MacFiles × List (List UInt8) × MacFiles) := do
  let r ← btWifiMacHandler .fine c.file c.seed f c.buf c.rsp
  return (r.files, r.host, r.files)

/-- The files, and the last address of each kind that a write gave and that was accepted. -/
structure MacLast where
  files : MacFiles
  bt : Option (List UInt8)
  wifi : Option (List UInt8)

namespace MacLast

/-- A read returns the last addresses; the files change with an accepted write only; a bad WiFi
address is answered with status 0. -/
structure Allow (t : MacLast) (c : MacCall) (o : List (List UInt8) × MacFiles) : Prop where
  read : c.Served → c.IsRead → ∃ reply, o.1 = [reply] ∧
    (hasBit c.subtype diagCmdBtbit → ∀ addr, t.bt = some addr → replyBtaddr reply = addr) ∧
    (hasBit c.subtype diagCmdWifibit → ∀ addr, t.wifi = some addr → replyWifiaddr reply = addr)
  kept : ¬c.Accepted → o.2 = t.files
  refused : c.Served → ¬c.IsRead → directCrcOk c.buf.cells → c.BadWifi →
    ∃ reply, o.1 = [reply] ∧ reply[8]? = some 0

def next (t : MacLast) (c : MacCall) (o : List (List UInt8) × MacFiles) : MacLast where
  files := o.2
  bt := if c.Accepted ∧ hasBit c.subtype diagCmdBtbit then some (reqBtaddr c.buf.cells) else t.bt
  wifi := if c.Accepted ∧ hasBit c.subtype diagCmdWifibit then some (reqWifiaddr c.buf.cells)
    else t.wifi

/-- The files hold the last addresses. -/
structure Sim (f : MacFiles) (t : MacLast) : Prop where
  files : t.files = f
  bt : ∀ addr, t.bt = some addr → f.Holds .bt addr.reverse
  wifi : ∀ addr, t.wifi = some addr → f.Holds .wifi addr

end MacLast

section Step

variable (f : MacFiles) (c : MacCall)

def macOut : MacOut :=
  btwifiimei .fine c.file c.seed f c.buf.cells c.rsp (validCommand c.subtype = 2)

def MacOut.host (o : MacOut) : List (List UInt8) :=
  if 0 < o.rlen then [o.rsp.load 0 o.rlen] else []

lemma macStep_served (h : c.Served) :
    macStep f c = .ok ((macOut f c).files, (macOut f c).host, (macOut f c).files) := by
  have hvalid : validCommand (c.buf.cells 8) ≠ 0 := (validCommand_ne_zero_iff _).mpr h
  rw [macStep, btWifiMacHandler, btwifiCheckValid, c.crc_ok, Except.ok_bind, if_neg (by decide),
    pure_bind, if_neg hvalid]
  rfl

lemma macStep_ignored (h : ¬c.Served) : macStep f c = .ok (f, [], f) := by
  have hvalid : validCommand (c.buf.cells 8) = 0 :=
    not_ne_iff.mp fun hne => h ((validCommand_ne_zero_iff _).mp hne)
  rw [macStep, btWifiMacHandler, btwifiCheckValid, c.crc_ok, Except.ok_bind, if_neg (by decide),
    pure_bind, if_pos hvalid]
  rfl

lemma macOut_read (hread : c.IsRead) : macOut f c = btwifiRead f c.buf.cells c.rsp :=
  if_pos hread

lemma macOut_write (hread : ¬c.IsRead) :
    macOut f c = btwifiWrite .fine c.file c.seed f c.buf.cells c.rsp (validCommand c.subtype = 2) :=
  if_neg hread

lemma macStep_read (hserved : c.Served) (hread : c.IsRead) :
    macStep f c = .ok (f, [(btwifiRead f c.buf.cells c.rsp).rsp.load 0
      (btwifiRead f c.buf.cells c.rsp).rlen], f) := by
  rw [macStep_served f c hserved, macOut_read f c hread]
  rfl

lemma btwifiEnd_files (f : MacFiles) (buf rsp : Buffer UInt8) (cpApProc : Bool) (ret : Int) :
    (btwifiEnd f buf rsp cpApProc ret).files = f := by
  rw [btwifiEnd]
  split
  · rfl
  · rfl

/-- The reply with which a write ends has the status at the place of the subtype. -/
lemma macStatus_host (rsp buf : Buffer UInt8) (status : UInt8) (f : MacFiles) :
    ∃ reply, (macStatus rsp buf status f).host = [reply] ∧ reply[8]? = some status := by
  let tmprsp := (Buffer.fill macZero 0 ((buf.store 8 status).load 1 msgHeadLen)).fill 4
    (bytesLE 2 (msgHeadLen + 2))
  have hload := load_macTranslate rsp tmprsp (msgHeadLen + 2)
  have hcell : tmprsp 7 = status := by
    have hin := fill_load_apply macZero (buf.store 8 status) 1 (show 7 < msgHeadLen by decide)
    rw [show tmprsp 7 = _ from fill_outside _ (by rw [length_bytesLE]; omega), hin]
    exact store_same buf 8 status
  refine ⟨_, rfl, ?_⟩
  change ((macTranslate rsp tmprsp (msgHeadLen + 2)).load 0 (msgHeadLen + 2 + 2))[8]? = _
  rw [hload, List.cons_append, List.getElem?_cons_succ,
    List.getElem?_append_left (by simp [msgHeadLen]),
    List.getElem?_eq_getElem (by simp [msgHeadLen]), getElem_load, Nat.zero_add, hcell]

lemma macStep_kept (hserved : c.Served) (hread : ¬c.IsRead) (h : ¬c.Accepted) :
    ∃ host, macStep f c = .ok (f, host, f) ∧
      (directCrcOk c.buf.cells → c.BadWifi → ∃ reply, host = [reply] ∧ reply[8]? = some 0) := by
  rw [macStep_served f c hserved, macOut_write f c hread, btwifiWrite]
  by_cases hcrc : directCrcOk c.buf.cells
  · have hbad : c.BadWifi := not_not.mp fun hbad => h ⟨hserved, hread, hcrc, hbad⟩
    rw [if_pos ⟨hcrc, hserved⟩, if_pos (show hasBit (c.buf.cells 8) _ ∧ _ from hbad)]
    exact ⟨_, rfl, fun _ _ => macStatus_host _ _ _ _⟩
  · rw [if_neg fun h => hcrc h.1, btwifiEnd_files]
    exact ⟨_, rfl, fun h => absurd h hcrc⟩

def macWrite : MacWritten :=
  engBtwifimacWrite .fine c.file c.seed f
    (if hasBit c.subtype diagCmdBtbit then some (macText (reqBtaddr c.buf.cells).reverse) else none)
    (if hasBit c.subtype diagCmdWifibit then some (macText (reqWifiaddr c.buf.cells)) else none)

lemma macOut_accepted (h : c.Accepted) :
    macOut f c = btwifiEnd (macWrite f c).files c.buf.cells c.rsp (validCommand c.subtype = 2)
      (macWrite f c).ret := by
  obtain ⟨hserved, hread, hcrc, hbad⟩ := h
  rw [macOut_write f c hread, btwifiWrite, if_pos ⟨hcrc, hserved⟩,
    if_neg (show ¬(hasBit (c.buf.cells 8) _ ∧ _) from hbad)]
  rfl

lemma macStep_accepted (h : c.Accepted) :
    ∃ host, macStep f c = .ok ((macWrite f c).files, host, (macWrite f c).files) := by
  rw [macStep_served f c h.1, macOut_accepted f c h, btwifiEnd_files]
  exact ⟨_, rfl⟩

lemma btwifiRead_bt {addr : List UInt8} (h : f.Holds .bt addr.reverse)
    (hbit : hasBit c.subtype diagCmdBtbit) :
    replyBtaddr ((btwifiRead f c.buf.cells c.rsp).rsp.load 0
      (btwifiRead f c.buf.cells c.rsp).rlen) = addr := by
  rw [replyBtaddr, btwifiRead_field f _ _ (by decide) (by decide)]
  simp only [if_pos (show hasBit (c.buf.cells 8) diagCmdBtbit from hbit)]
  split
  · rw [readWifiaddr_before, readBtaddr_load h]
  · rw [readBtaddr_load h]

lemma btwifiRead_wifi {addr : List UInt8} (h : f.Holds .wifi addr)
    (hbit : hasBit c.subtype diagCmdWifibit) :
    replyWifiaddr ((btwifiRead f c.buf.cells c.rsp).rsp.load 0
      (btwifiRead f c.buf.cells c.rsp).rlen) = addr := by
  rw [replyWifiaddr, btwifiRead_field f _ _ (by decide) (by decide)]
  simp only [if_pos (show hasBit (c.buf.cells 8) diagCmdWifibit from hbit)]
  exact readWifiaddr_load h _

lemma macWrite_bt {last : Option (List UInt8)}
    (hlast : ∀ addr, last = some addr → f.Holds .bt addr.reverse) (addr : List UInt8)
    (h : (if hasBit c.subtype diagCmdBtbit then some (reqBtaddr c.buf.cells) else last) =
      some addr) : (macWrite f c).files.Holds .bt addr.reverse := by
  by_cases hbit : hasBit c.subtype diagCmdBtbit
  · rw [if_pos hbit, Option.some.injEq] at h
    apply engBtwifimacWrite_bt
    · rw [← h, List.length_reverse, reqBtaddr, length_load]
    · left
      rw [if_pos hbit, h]
  · rw [if_neg hbit] at h
    apply engBtwifimacWrite_bt
    · exact (hlast addr h).1
    · right
      exact ⟨if_neg hbit, hlast addr h⟩

lemma macWrite_wifi {last : Option (List UInt8)}
    (hlast : ∀ addr, last = some addr → f.Holds .wifi addr) (addr : List UInt8)
    (h : (if hasBit c.subtype diagCmdWifibit then some (reqWifiaddr c.buf.cells) else last) =
      some addr) : (macWrite f c).files.Holds .wifi addr := by
  by_cases hbit : hasBit c.subtype diagCmdWifibit
  · rw [if_pos hbit, Option.some.injEq] at h
    apply engBtwifimacWrite_wifi
    · rw [← h, reqWifiaddr, length_load]
    · left
      rw [if_pos hbit, h]
  · rw [if_neg hbit] at h
    apply engBtwifimacWrite_wifi
    · exact (hlast addr h).1
    · right
      exact ⟨if_neg hbit, hlast addr h⟩

lemma MacLast.next_kept {t : MacLast} {c : MacCall} (h : ¬c.Accepted)
    (o : List (List UInt8) × MacFiles) : t.next c o = { t with files := o.2 } := by
  rw [MacLast.next, if_neg fun hn => h hn.1, if_neg fun hn => h hn.1]

lemma MacLast.next_accepted {t : MacLast} {c : MacCall} (h : c.Accepted)
    (o : List (List UInt8) × MacFiles) :
    t.next c o = ⟨o.2,
      if hasBit c.subtype diagCmdBtbit then some (reqBtaddr c.buf.cells) else t.bt,
      if hasBit c.subtype diagCmdWifibit then some (reqWifiaddr c.buf.cells) else t.wifi⟩ := by
  simp only [MacLast.next, h, true_and]

lemma macStep_sim {t : MacLast} (hsim : MacLast.Sim f t) :
    ∃ f' o, macStep f c = .ok (f', o) ∧ t.Allow c o ∧ MacLast.Sim f' (t.next c o) := by
  by_cases haccepted : c.Accepted
  · obtain ⟨host, hstep⟩ := macStep_accepted f c haccepted
    refine ⟨_, _, hstep, ⟨?_, ?_, ?_⟩, ?_⟩
    · exact fun _ hread => absurd hread haccepted.2.1
    · exact fun h => absurd haccepted h
    · exact fun _ _ _ hbad => absurd hbad haccepted.2.2.2
    · rw [MacLast.next_accepted haccepted]
      exact ⟨rfl, macWrite_bt f c hsim.bt, macWrite_wifi f c hsim.wifi⟩
  · have hkeep : ∀ host, MacLast.Sim f (t.next c (host, f)) := by
      intro host
      rw [MacLast.next_kept haccepted]
      exact ⟨rfl, hsim.bt, hsim.wifi⟩
    by_cases hserved : c.Served
    · by_cases hread : c.IsRead
      · refine ⟨_, _, macStep_read f c hserved hread, ⟨?_, ?_, ?_⟩, hkeep _⟩
        · exact fun _ _ => ⟨_, rfl, fun hbit addr h => btwifiRead_bt f c (hsim.bt addr h) hbit,
            fun hbit addr h => btwifiRead_wifi f c (hsim.wifi addr h) hbit⟩
        · exact fun _ => hsim.files.symm
        · exact fun _ h => absurd hread h
      · obtain ⟨host, hstep, hrefused⟩ := macStep_kept f c hserved hread haccepted
        refine ⟨_, _, hstep, ⟨?_, ?_, ?_⟩, hkeep _⟩
        · exact fun _ h => absurd h hread
        · exact fun _ => hsim.files.symm
        · exact fun _ _ => hrefused
    · refine ⟨_, _, macStep_ignored f c hserved, ⟨?_, ?_, ?_⟩, hkeep _⟩
      · exact fun h => absurd h hserved
      · exact fun _ => hsim.files.symm
      · exact fun h => absurd h hserved

end Step

/-- Over any requests with a valid CRC, on any files: reads return the last accepted addresses. -/
theorem mac_store_obeys (f : MacFiles) (l : List MacCall) :
    ∃ f' os, Machine.run macStep f l = .ok (f', os) ∧
      Machine.Obeys MacLast.Allow MacLast.next ⟨f, none, none⟩ l os := by
  have hguard : Machine.Guarded macStep (fun _ _ => True) f l :=
    Machine.guarded_of_forall (fun _ _ _ => trivial) f
  have hinit : MacLast.Sim f ⟨f, none, none⟩ :=
    ⟨rfl, fun addr h => absurd h (Option.some_ne_none addr).symm,
      fun addr h => absurd h (Option.some_ne_none addr).symm⟩
  exact Machine.run_obeys MacLast.Sim l (fun f t c _ hsim _ => macStep_sim f c hsim) f
    ⟨f, none, none⟩ hinit hguard

end EngPc
