import EngPc.Lib.Lookup
import EngPc.Proofs.ModuleMgr

/-!
# The module of an AT command

A command comes on an AT port or in a diag frame of type 0x68. The first text is compared with the
beginning of each registered command, the second searched for it; and behind the second stands the
flag of its frame.
-/

namespace EngPc
open Buffer CString Lookup

variable {φ : Type}

/-- The first entry whose command begins the text in `buf`. -/
def atChosen (cbs : List (EngCallback φ)) (buf : Buffer UInt8) : Option Nat :=
  cbs.findIdx? fun cb => cb.atMatches buf

/-- The first entry that is selected, with either function. -/
def diagChosen (cbs : List (EngCallback φ)) (F : Funcs φ) (buf : Buffer UInt8) (len : Nat) :
    Option Nat :=
  cbs.findIdx? fun cb => cb.selects F buf len ≠ none

/-- The call returns something else than that it does not support the request. -/
def Call.Supports : Call → Prop
  | .ret rlen _ _ => rlen ≠ engDiagRetUnsupport
  | .send _ _ _ next => ∀ rlen req, (next rlen req).Supports

/-- Functions of modules that support every AT command they get. -/
structure AtFuncs (φ : Type) extends Funcs φ where
  supports : ∀ f req rsp, (linuxcmd f req rsp).Supports

lemma Call.run_supports {dispatch : Dispatch} {c : Call} (hc : c.Supports) {m : MgrState}
    {a : Answer} (h : c.run dispatch m = .ok a) : a.rlen ≠ engDiagRetUnsupport := by
  induction c generalizing m a with
  | ret rlen req rsp =>
    obtain rfl := Except.ok.inj h
    exact hc
  | send way buf len next ih =>
    obtain ⟨d, a', -, hrun, rfl⟩ := Call.run_send h
    have ha := ih d.rlen d.req (hc d.rlen d.req) hrun
    exact ha

/-- What becomes of a request whose AT command is that of entry `k`; an entry without a function
ends the search as well. -/
def EngCallback.serveAt (cb : EngCallback φ) (F : Funcs φ) (dispatch : Dispatch) (k : Nat)
    (s : Served) : Except Fault Served :=
  match cb.call F .linuxcmd s 0 with
  | none => .ok s
  | some c =>
    match c.run dispatch s.mgr with
    | .error e => .error e
    | .ok a => .ok (cb.accept (s.called k .linuxcmd a))

/-- A search ends as it does at the chosen entry alone, or with nobody. -/
structure ServesChosen (cbs : List (EngCallback φ)) (chosen : Option Nat)
    (serve : Nat → EngCallback φ → Except Fault Served) (nobody r : Except Fault Served) : Prop where
  nobody_eq : chosen = none → r = nobody
  serve_eq : ∀ i cb, chosen = some i → cbs[i]? = some cb → r = serve i cb

section Loops

variable {dispatch : Dispatch}

lemma atLoop_matches (F : AtFuncs φ) {cb : EngCallback φ} (cbs : List (EngCallback φ)) (k : Nat)
    {s : Served} (h : cb.atMatches s.req) :
    atLoop F.toFuncs dispatch (cb :: cbs) k s = cb.serveAt F.toFuncs dispatch k s := by
  rw [atLoop, if_pos h, EngCallback.serveAt]
  cases hcall : cb.call F.toFuncs .linuxcmd s 0 with
  | none => rfl
  | some c =>
    obtain ⟨f, -, rfl⟩ := Option.map_eq_some_iff.mp hcall
    dsimp only
    cases hrun : (F.linuxcmd f s.req s.rsp).run dispatch s.mgr with
    | error e => rfl
    | ok a =>
      dsimp only
      rw [if_neg (Call.run_supports (F.supports f s.req s.rsp) hrun)]

lemma atLoop_serves (F : AtFuncs φ) (cbs : List (EngCallback φ)) (k : Nat) (s : Served) :
    ServesChosen cbs (atChosen cbs s.req)
      (fun i cb => cb.serveAt F.toFuncs dispatch (k + i) s) (.ok s)
      (atLoop F.toFuncs dispatch cbs k s) := by
  induction cbs generalizing k with
  | nil => exact ⟨fun _ => rfl, fun i cb h => by simp [atChosen] at h⟩
  | cons cb cbs ih =>
    unfold atChosen at ih ⊢
    rw [List.findIdx?_cons]
    by_cases hm : cb.atMatches s.req
    · rw [if_pos (decide_eq_true hm), atLoop_matches F cbs k hm]
      constructor
      · intro h
        cases h
      · intro i cb' hi hcb
        cases hi
        cases hcb
        rfl
    · rw [if_neg (by simpa using hm), atLoop, if_neg hm]
      constructor
      · intro h
        exact (ih (k + 1)).nobody_eq (Option.map_eq_none_iff.mp h)
      · intro i cb' hi hcb
        obtain ⟨j, hj, rfl⟩ := Option.map_eq_some_iff.mp hi
        rw [(ih (k + 1)).serve_eq j cb' hj hcb]
        congr 1
        omega

end Loops

/-- An entry with a command; neither it nor a function of its own asks for diag frames of the type
0x68. -/
structure EngCallback.IsAt (cb : EngCallback φ) : Prop where
  atCmd_ne : cb.atCmd ≠ []
  atCmd_text : 0 ∉ cb.atCmd
  type_ne : cb.type ≠ 0x68
  engCmdMatch_eq : cb.engCmdMatch = none

structure AtList (φ : Type) where
  cbs : List (EngCallback φ)
  isAt : ∀ cb ∈ cbs, cb.IsAt

lemma EngCallback.IsAt.selects_eq {cb : EngCallback φ} (h : cb.IsAt) (F : Funcs φ)
    {buf : Buffer UInt8} (hbuf : buf 7 = 0x68) (len : Nat) :
    cb.selects F buf len =
      if strcasestr (diagText buf) cb.atCmd then some .linuxcmd else none := by
  have hother : ¬((buf 7 = cb.type ∧ buf 8 = cb.subtype) ∨ cb.cmdMatches F buf len = true) := by
    rintro (⟨htype, -⟩ | hmatch)
    · exact h.type_ne (htype.symm.trans hbuf)
    · rw [EngCallback.cmdMatches, h.engCmdMatch_eq] at hmatch
      cases hmatch
  rw [EngCallback.selects]
  by_cases htext : strcasestr (diagText buf) cb.atCmd
  · rw [if_pos ⟨hbuf, h.atCmd_ne, htext⟩, if_pos htext]
  · rw [if_neg fun hall => htext hall.2.2, if_neg hother, if_neg htext]

section Loops

variable {dispatch : Dispatch}

/-- `m_lpCurCB` after a loop without a hit. -/
def Served.passed (s : Served) (k n : Nat) : Served := if n = 0 then s else s.setCur (k + n - 1)

lemma Served.setCur_setCur (s : Served) (j k : Nat) : (s.setCur j).setCur k = s.setCur k := rfl

lemma Served.passed_setCur (s : Served) (k n : Nat) :
    (s.setCur k).passed (k + 1) n = s.passed k (n + 1) := by
  unfold Served.passed
  cases n with
  | zero => rfl
  | succ n =>
    have hplace : k + 1 + (n + 1) - 1 = k + (n + 1 + 1) - 1 := by omega
    rw [if_neg (Nat.succ_ne_zero n), if_neg (Nat.succ_ne_zero _), hplace, Served.setCur_setCur]

lemma diagLoop_selects (F : AtFuncs φ) {cb : EngCallback φ} (cbs : List (EngCallback φ)) (len k : Nat)
    {s : Served} (h : cb.selects F.toFuncs s.req len = some .linuxcmd) :
    diagLoop F.toFuncs dispatch len (cb :: cbs) k s =
      cb.serveAt F.toFuncs dispatch k (s.setCur k) := by
  have hreq : (s.setCur k).req = s.req := rfl
  rw [diagLoop, hreq, h, EngCallback.serveAt]
  dsimp only
  have hcall : cb.call F.toFuncs .linuxcmd (s.setCur k) len =
      cb.call F.toFuncs .linuxcmd (s.setCur k) 0 := rfl
  rw [hcall]
  cases hcall : cb.call F.toFuncs .linuxcmd (s.setCur k) 0 with
  | none => rfl
  | some c =>
    obtain ⟨f, -, rfl⟩ := Option.map_eq_some_iff.mp hcall
    dsimp only
    cases hrun : (F.linuxcmd f (s.setCur k).req (s.setCur k).rsp).run dispatch (s.setCur k).mgr with
    | error e => rfl
    | ok a =>
      have hquiet : cb.announce k .linuxcmd (s.setCur k) = s.setCur k := if_neg (by simp)
      dsimp only
      rw [if_neg (Call.run_supports (F.supports f _ _) hrun), hquiet]

lemma diagLoop_serves (F : AtFuncs φ) {cbs : List (EngCallback φ)} (hcbs : ∀ cb ∈ cbs, cb.IsAt)
    (len k : Nat) {s : Served} (hs : s.req 7 = 0x68) :
    ServesChosen cbs (diagChosen cbs F.toFuncs s.req len)
      (fun i cb => cb.serveAt F.toFuncs dispatch (k + i) (s.setCur (k + i)))
      (.ok (s.passed k cbs.length)) (diagLoop F.toFuncs dispatch len cbs k s) := by
  induction cbs generalizing k s with
  | nil => exact ⟨fun _ => rfl, fun i cb h => by simp [diagChosen] at h⟩
  | cons cb cbs ih =>
    have hrest : ∀ cb ∈ cbs, cb.IsAt := fun cb' hcb' => hcbs cb' (List.mem_cons_of_mem cb hcb')
    have hsel := (hcbs cb List.mem_cons_self).selects_eq F.toFuncs hs len
    unfold diagChosen at ih ⊢
    rw [List.findIdx?_cons]
    by_cases htext : strcasestr (diagText s.req) cb.atCmd
    · rw [if_pos htext] at hsel
      rw [if_pos (by simp [hsel]), diagLoop_selects F cbs len k hsel]
      constructor
      · intro h
        cases h
      · intro i cb' hi hcb
        cases hi
        cases hcb
        rfl
    · rw [if_neg htext] at hsel
      have hreq : (s.setCur k).req = s.req := rfl
      have ih' := ih hrest (k + 1) (s := s.setCur k) hs
      rw [hreq] at ih'
      rw [if_neg (by simp [hsel]), diagLoop, hreq, hsel]
      dsimp only
      constructor
      · intro h
        rw [ih'.nobody_eq (Option.map_eq_none_iff.mp h), Served.passed_setCur]
        rfl
      · intro i cb' hi hcb
        obtain ⟨j, hj, rfl⟩ := Option.map_eq_some_iff.mp hi
        have hplace : k + 1 + j = k + (j + 1) := by omega
        rw [ih'.serve_eq j cb' hj hcb, hplace, Served.setCur_setCur]

end Loops

/-- A text that fits into the buffer of a request, also with the rest of a diag frame. -/
structure AtText where
  bytes : List UInt8
  nul_free : 0 ∉ bytes
  fits : msgHeadLen + bytes.length + 2 < maxChnlBuff

/-- The header of a diag frame that carries an AT command. -/
structure AtHeader where
  bytes : List UInt8
  length_eq : bytes.length = msgHeadLen
  type_eq : bytes[6]? = some 0x68

/-- A request buffer, cleared before the read. -/
def requestBuffer (bytes : List UInt8) : Buffer UInt8 := Buffer.fill (fun _ => 0) 0 bytes

def AtText.onPort (t : AtText) : Buffer UInt8 := requestBuffer t.bytes

/-- The text between header and flag, decoded. -/
def AtText.inFrame (t : AtText) (head : AtHeader) : Buffer UInt8 :=
  requestBuffer (0x7e :: head.bytes ++ t.bytes ++ [0x7e])

lemma requestBuffer_append_zeros (bytes : List UInt8) (n : Nat) :
    requestBuffer (bytes ++ List.replicate n 0) = requestBuffer bytes := by
  funext k
  unfold requestBuffer Buffer.fill
  rw [if_pos (Nat.zero_le k), if_pos (Nat.zero_le k), Nat.sub_zero]
  by_cases hk : k < bytes.length
  · rw [List.getElem?_append_left hk]
  · rw [List.getElem?_append_right (not_lt.mp hk), List.getElem?_eq_none (not_lt.mp hk),
      List.getElem?_replicate]
    split_ifs <;> rfl

lemma load_requestBuffer (bytes : List UInt8) (n : Nat) :
    (requestBuffer bytes).load 0 n = (bytes ++ List.replicate n 0).take n := by
  have hlen : n ≤ (bytes ++ List.replicate n (0 : UInt8)).length := by simp
  rw [← requestBuffer_append_zeros bytes n, ← load_take _ 0 hlen, requestBuffer, load_fill]

lemma load_requestBuffer_append (pre l : List UInt8) :
    (requestBuffer (pre ++ l)).load pre.length l.length = l := by
  have hall := load_fill (fun _ => (0 : UInt8)) 0 (pre ++ l)
  rw [List.length_append, load_add, Nat.zero_add] at hall
  exact List.append_inj_right hall (length_load _ _ _)

lemma toLower_eq_zero {c : UInt8} (h : toLower c = 0) : c = 0 := by
  have hall : ∀ v : BitVec 8, toLower ⟨v⟩ = 0 → v = 0 := by decide +kernel
  exact UInt8.toBitVec_inj.mp (hall c.toBitVec h)

/-- A text that ends before the command does: the zero behind it is compared, too. -/
lemma zero_mem_of_short {cmd text : List UInt8} (hlen : text.length < cmd.length)
    (h : (text ++ List.replicate cmd.length 0).take cmd.length = cmd) : 0 ∈ cmd := by
  rw [← h, List.take_append, List.mem_append, List.take_replicate]
  right
  exact List.mem_replicate.mpr ⟨by omega, rfl⟩

lemma atMatches_onPort {cb : EngCallback φ} (h : cb.IsAt) (t : AtText) :
    cb.atMatches t.onPort ↔ cb.atCmd.map toLower <+: t.bytes.map toLower := by
  have hload := load_requestBuffer t.bytes cb.atCmd.length
  rw [EngCallback.atMatches, AtText.onPort, hload, strcaseeq, List.map_take, List.map_append,
    List.map_replicate]
  have hzero : toLower 0 = 0 := by decide
  rw [hzero]
  constructor
  · rintro ⟨-, heq⟩
    have hlen : cb.atCmd.length ≤ t.bytes.length := by
      by_contra hshort
      have hmem : 0 ∈ cb.atCmd.map toLower := by
        have hlen : (t.bytes.map toLower).length < (cb.atCmd.map toLower).length := by
          simpa using hshort
        apply zero_mem_of_short hlen
        rw [List.length_map]
        exact heq
      obtain ⟨c, hc, hlower⟩ := List.mem_map.mp hmem
      exact h.atCmd_text (toLower_eq_zero hlower ▸ hc)
    rw [List.take_append_of_le_length (by simpa using hlen)] at heq
    exact heq ▸ List.take_prefix _ _
  · intro hpre
    refine ⟨h.atCmd_ne, ?_⟩
    have hlen : cb.atCmd.length ≤ (t.bytes.map toLower).length := by
      simpa using hpre.length_le
    have heq := List.prefix_iff_eq_take.mp hpre
    rw [List.length_map] at heq
    rw [List.take_append_of_le_length hlen]
    exact heq.symm

lemma inFrame_type (t : AtText) (head : AtHeader) : t.inFrame head 7 = 0x68 := by
  have hhead : msgHeadLen = 8 := rfl
  have hget : (0x7e :: head.bytes ++ t.bytes ++ [0x7e])[7]? = some 0x68 := by
    rw [List.append_assoc, List.getElem?_append_left, List.getElem?_cons_succ, head.type_eq]
    rw [List.length_cons, head.length_eq]
    omega
  unfold AtText.inFrame requestBuffer Buffer.fill
  rw [if_pos (Nat.zero_le 7), Nat.sub_zero, hget]
  rfl

lemma diagText_inFrame (t : AtText) (head : AtHeader) :
    diagText (t.inFrame head) = t.bytes ++ [0x7e] := by
  have hhead : msgHeadLen = 8 := rfl
  have hfits := t.fits
  have hzero : requestBuffer (0x7e :: head.bytes ++ t.bytes ++ [0x7e]) =
      requestBuffer ((0x7e :: head.bytes) ++ (t.bytes ++ [0x7e] ++ [0])) := by
    have h := requestBuffer_append_zeros (0x7e :: head.bytes ++ t.bytes ++ [0x7e]) 1
    simpa using h.symm
  have hload : (t.inFrame head).load 9 ((t.bytes ++ [0x7e]).length + 1) =
      t.bytes ++ [0x7e] ++ [0] := by
    have hrest := load_requestBuffer_append (0x7e :: head.bytes) (t.bytes ++ [0x7e] ++ [0])
    have hlen : (t.bytes ++ [0x7e] ++ [0]).length = (t.bytes ++ [0x7e]).length + 1 := by simp
    rw [List.length_cons, head.length_eq, ← hzero, hlen] at hrest
    exact hrest
  apply cstr_eq hload
  · simp [t.nul_free]
  · rw [List.length_append, List.length_singleton]
    omega

/-- The command begins the text. -/
def EngCallback.Begins (cb : EngCallback φ) (t : AtText) : Prop :=
  cb.atCmd.map toLower <+: t.bytes.map toLower

/-- The command occurs in the text or in the flag behind it. -/
def EngCallback.Occurs (cb : EngCallback φ) (t : AtText) : Prop :=
  strcasestr (t.bytes ++ [0x7e]) cb.atCmd

instance (cb : EngCallback φ) (t : AtText) : Decidable (cb.Begins t) :=
  inferInstanceAs (Decidable (_ <+: _))

instance (cb : EngCallback φ) (t : AtText) : Decidable (cb.Occurs t) :=
  inferInstanceAs (Decidable (strcasestr _ _))

lemma EngCallback.Begins.occurs {cb : EngCallback φ} {t : AtText} (h : cb.Begins t) :
    cb.Occurs t := by
  rw [EngCallback.Occurs, strcasestr, List.map_append]
  exact (h.trans (List.prefix_append _ _)).isInfix

lemma findIdx?_congr_mem {α : Type} {p q : α → Bool} {l : List α} (h : ∀ a ∈ l, p a = q a) :
    l.findIdx? p = l.findIdx? q := by
  induction l with
  | nil => rfl
  | cons a l ih =>
    rw [List.findIdx?_cons, List.findIdx?_cons, h a List.mem_cons_self,
      ih fun b hb => h b (List.mem_cons_of_mem a hb)]

/-- Every entry whose command occurs in the text or the flag without beginning the text stands behind
one whose command begins it. -/
def AtList.BeginsFirst (l : AtList φ) (t : AtText) : Prop :=
  Behind (fun cb => cb.Begins t) (fun cb => cb.Occurs t) l.cbs

lemma chosen_eq_iff (l : AtList φ) (F : Funcs φ) (t : AtText) (head : AtHeader) (len : Nat) :
    atChosen l.cbs t.onPort = diagChosen l.cbs F (t.inFrame head) len ↔ l.BeginsFirst t := by
  have hat : atChosen l.cbs t.onPort = l.cbs.findIdx? fun cb => cb.Begins t := by
    apply findIdx?_congr_mem
    intro cb hcb
    exact decide_eq_decide.mpr (atMatches_onPort (l.isAt cb hcb) t)
  have hdiag : diagChosen l.cbs F (t.inFrame head) len =
      l.cbs.findIdx? fun cb => cb.Occurs t := by
    apply findIdx?_congr_mem
    intro cb hcb
    apply decide_eq_decide.mpr
    rw [(l.isAt cb hcb).selects_eq F (inFrame_type t head) len, diagText_inFrame]
    unfold EngCallback.Occurs
    split_ifs with htext
    · simp [htext]
    · simp [htext]
  rw [hat, hdiag]
  exact findIdx?_eq_findIdx?_iff (fun cb h => h.occurs) l.cbs

/-- Both transports serve the request as the entry alone does that they choose, and they choose the
same **exactly if no command is found in the middle of the text before one that begins it**. -/
theorem at_choice_iff (l : AtList φ) (F : AtFuncs φ) (dispatch : Dispatch) (m : MgrState)
    (rsp : Buffer UInt8) (t : AtText) (head : AtHeader) (len : Nat) :
    ServesChosen l.cbs (atChosen l.cbs t.onPort)
        (fun i cb => cb.serveAt F.toFuncs dispatch i (.start m t.onPort rsp))
        (.ok (.start m t.onPort rsp)) (processAT l.cbs F.toFuncs dispatch m t.onPort rsp) ∧
      ServesChosen l.cbs (diagChosen l.cbs F.toFuncs (t.inFrame head) len)
        (fun i cb => cb.serveAt F.toFuncs dispatch i
          ((Served.start m (t.inFrame head) rsp).setCur i) >>= pendingCall l.cbs F.toFuncs dispatch)
        (pendingCall l.cbs F.toFuncs dispatch
          ((Served.start m (t.inFrame head) rsp).passed 0 l.cbs.length))
        (processDiag l.cbs F.toFuncs dispatch m (t.inFrame head) rsp len) ∧
      (atChosen l.cbs t.onPort = diagChosen l.cbs F.toFuncs (t.inFrame head) len ↔
        l.BeginsFirst t) := by
  have hat := @atLoop_serves _ dispatch F l.cbs 0 (.start m t.onPort rsp)
  have hdiag := @diagLoop_serves _ dispatch F _ l.isAt len 0
    (.start m (t.inFrame head) rsp) (inFrame_type t head)
  simp only [Nat.zero_add] at hat hdiag
  refine ⟨hat, ?_, chosen_eq_iff l F.toFuncs t head len⟩
  constructor
  · intro h
    rw [processDiag, hdiag.nobody_eq h]
  · intro i cb hi hcb
    rw [processDiag, hdiag.serve_eq i cb hi hcb]
    cases cb.serveAt F.toFuncs dispatch i ((Served.start m (t.inFrame head) rsp).setCur i) with
    | error e => rfl
    | ok s => rfl

def atEntry (cmd : List UInt8) : EngCallback Nat :=
  ⟨0xffffffff, 0xff, 0xff, cmd, false, none, some 0, none, none⟩

/-- Two commands, neither the beginning of the other. -/
def twoCommands : AtList Nat where
  cbs := [atEntry (ofString "AT+B"), atEntry (ofString "AT+A")]
  isAt := by
    intro cb hcb
    simp only [List.mem_cons, List.not_mem_nil, or_false] at hcb
    rcases hcb with rfl | rfl
    · exact ⟨by decide, by decide, by decide, rfl⟩
    · exact ⟨by decide, by decide, by decide, rfl⟩

def silentFuncs : AtFuncs Nat where
  linuxcmd := fun _ req rsp => .ret 0 req rsp
  diag := fun _ req _ rsp _ => .ret 0 req rsp
  cmdMatch := fun _ _ _ => 0
  supports := fun _ _ _ => (by decide : (0 : Int) ≠ engDiagRetUnsupport)

/-- The second command, with the first one in its parameter. -/
def nestedText : AtText where
  bytes := ofString "AT+A=AT+B"
  nul_free := by decide
  fits := by decide

def nestedHeader : AtHeader where
  bytes := [0, 0, 0, 0, 17, 0, 0x68, 0]
  length_eq := rfl
  type_eq := rfl

/-- The port gives it to the second module, the frame to the first. -/
theorem nested_command_diverges :
    atChosen twoCommands.cbs nestedText.onPort = some 1 ∧
      diagChosen twoCommands.cbs silentFuncs.toFuncs (nestedText.inFrame nestedHeader) 19 =
        some 0 := by
  constructor
  · decide +kernel
  · decide +kernel

end EngPc
