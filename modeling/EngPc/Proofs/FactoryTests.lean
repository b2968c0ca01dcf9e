import EngPc.Model.FactoryTests
import EngPc.Proofs.AtExchange
import EngPc.Proofs.AtTok

/-!
# When the call test dials

The loop of `TestMakeCall` keeps a mode and an array from one response to the next. The mode decides
nothing; in the array a response stands before what the earlier ones have left behind it. The test
dials once, as soon as the array says that the modem has registered, and only for the two numbers.
-/

namespace EngPc
open CString Buffer

lemma nextTok_some (s : List UInt8) : ∃ tok cur, nextTok (some s) = (some tok, cur) := by
  unfold nextTok skipWhiteSpace
  rw [Option.map_some]
  dsimp only
  split_ifs
  · exact ⟨_, _, rfl⟩
  · exact ⟨_, _, rfl⟩

lemma atTokNextint_some (s : List UInt8) (out out' : Int) :
    atTokNextint (some s) out = atTokNextint (some s) out' := by
  obtain ⟨tok, cur, htok⟩ := nextTok_some s
  unfold atTokNextint atTokNextintBase
  dsimp only
  rw [htok]

lemma atTokNextint_none (out : Int) : atTokNextint none out = (⟨-1, out⟩, none) := rfl

/-- A response that holds no number leaves the old mode, which never says that the modem has
registered. -/
lemma cregMode_verdict (text : List UInt8) (mode mode' : Int) :
    (cregMode text mode).2 = (cregMode text mode').2 := by
  have hold : ∀ mode, cregStart text = none → (cregMode text mode).2 = false := by
    intro mode hcur
    unfold cregMode
    rw [hcur, atTokNextint_none]
    dsimp only
    split_ifs with hmode
    · rw [atTokNextint_none, hmode]
      rfl
    · rfl
  cases hcur : cregStart text with
  | none => rw [hold mode hcur, hold mode' hcur]
  | some s =>
    unfold cregMode
    rw [hcur, atTokNextint_some s mode mode']

lemma cregTmp_stale (text : List UInt8) (mode mode' : Int) (tmp : Block UInt8) :
    cregTmp text mode tmp = cregTmp text mode' tmp := by
  have hold : ∀ mode, cregStart text = none → cregTmp text mode tmp = tmp := by
    intro mode hcur
    unfold cregTmp
    rw [hcur, atTokNextint_none]
    dsimp only
    split_ifs
    · rfl
    · rfl
  cases hcur : cregStart text with
  | none => rw [hold mode hcur, hold mode' hcur]
  | some s =>
    unfold cregTmp
    rw [hcur, atTokNextint_some s mode mode']

/-- The response says that the modem has registered. -/
def Registered (text : List UInt8) : Prop := (cregMode text 0).2 = true

instance (text : List UInt8) : Decidable (Registered text) := inferInstanceAs (Decidable (_ = true))

/-- The responses that the array holds, one for each question, up to one that does not come. -/
def pollTexts : List CallPoll → Block UInt8 → List (List UInt8)
  | [], _ => []
  | p :: ps, tmp =>
    match askModem p.exchange cregCmd tmp with
    | .ok (some (_, tmp)) =>
      match tmpText tmp with
      | .ok text => text :: pollTexts ps (cregTmp text 0 tmp)
      | .error _ => []
    | _ => []

/-- The response at `k` is the first one that says so, and none before it has come too late. -/
def RegistersAt (ps : List CallPoll) (tmp : Block UInt8) (k : Nat) : Prop :=
  (∃ text, (pollTexts ps tmp)[k]? = some text ∧ Registered text) ∧
    ∀ j < k, (∀ text, (pollTexts ps tmp)[j]? = some text → ¬Registered text) ∧
      ∀ p, ps[j]? = some p → p.elapsed ≤ telTimeout

section Loop

variable {p : CallPoll} {ps : List CallPoll} {tmp tmp' : Block UInt8} {ret : Int} {text : List UInt8}

lemma not_registersAt_nil {ps : List CallPoll} {tmp : Block UInt8} (h : pollTexts ps tmp = [])
    (k : Nat) : ¬RegistersAt ps tmp k := by
  rintro ⟨⟨text, htext, -⟩, -⟩
  rw [h] at htext
  cases htext

lemma pollTexts_cons (hask : askModem p.exchange cregCmd tmp = .ok (some (ret, tmp')))
    (htext : tmpText tmp' = .ok text) :
    pollTexts (p :: ps) tmp = text :: pollTexts ps (cregTmp text 0 tmp') := by
  rw [pollTexts, hask]
  dsimp only
  rw [htext]

lemma registersAt_zero (hask : askModem p.exchange cregCmd tmp = .ok (some (ret, tmp')))
    (htext : tmpText tmp' = .ok text) : RegistersAt (p :: ps) tmp 0 ↔ Registered text := by
  unfold RegistersAt
  rw [pollTexts_cons hask htext]
  simp

lemma registersAt_succ (hask : askModem p.exchange cregCmd tmp = .ok (some (ret, tmp')))
    (htext : tmpText tmp' = .ok text) (k : Nat) : RegistersAt (p :: ps) tmp (k + 1) ↔
    (¬Registered text ∧ p.elapsed ≤ telTimeout) ∧ RegistersAt ps (cregTmp text 0 tmp') k := by
  unfold RegistersAt
  rw [pollTexts_cons hask htext]
  constructor
  · rintro ⟨hk, hbefore⟩
    refine ⟨⟨(hbefore 0 (Nat.succ_pos k)).1 text rfl, (hbefore 0 (Nat.succ_pos k)).2 p rfl⟩, hk,
      fun j hj => ?_⟩
    exact hbefore (j + 1) (Nat.succ_lt_succ hj)
  · rintro ⟨⟨hnot, hearly⟩, hk, hbefore⟩
    refine ⟨hk, fun j hj => ?_⟩
    cases j with
    | zero =>
      refine ⟨fun t ht => ?_, fun q hq => ?_⟩
      · rw [← Option.some.inj ht]
        exact hnot
      · rw [← Option.some.inj hq]
        exact hearly
    | succ j => exact hbefore j (Nat.lt_of_succ_lt_succ hj)

end Loop

lemma tellModem_ok {cmd : List UInt8} {x : AtExchange} {next : Int → Except AtTestFault ModemTalk}
    {o : ModemTalk} (h : tellModem cmd x next = .ok o) :
    (sendATCmd x (some cmd) none = .ok none ∧ o = ⟨[cmd], none⟩) ∨
      ∃ r o', sendATCmd x (some cmd) none = .ok (some r) ∧ next r.ret = .ok o' ∧
        o = ⟨cmd :: o'.sent, o'.ret⟩ := by
  unfold tellModem at h
  split at h
  next => cases h
  next hsend => exact .inl ⟨hsend, (Except.ok.inj h).symm⟩
  next r hsend =>
    cases hnext : next r.ret with
    | error e =>
      rw [hnext] at h
      cases h
    | ok o' =>
      rw [hnext] at h
      exact .inr ⟨r, o', hsend, hnext, (Except.ok.inj h).symm⟩

lemma dialOut_sent {env : CallEnv} {cmd : List UInt8} {o : ModemTalk}
    (h : dialOut env cmd = .ok o) : o.sent = [cmd] ∨ o.sent = [cmd, speakerCmd] := by
  rcases tellModem_ok h with ⟨-, rfl⟩ | ⟨r, o', -, hnext, rfl⟩
  · exact .inl rfl
  · split_ifs at hnext
    · obtain rfl := Except.ok.inj hnext
      exact .inl rfl
    · rcases tellModem_ok hnext with ⟨-, rfl⟩ | ⟨_, _, -, hlast, rfl⟩
      · exact .inr rfl
      · obtain rfl := Except.ok.inj hlast
        exact .inr rfl

/-- What the loop sends: the question again and again, and the call behind the response that says that
the modem has registered. -/
lemma pollLoop_sent {env : CallEnv} {cmd : List UInt8} (ps : List CallPoll) {tmp : Block UInt8}
    {mode : Int} {o : ModemTalk} (h : pollLoop env cmd ps tmp mode = .ok o) :
    ∃ n tail, o.sent = List.replicate (n + 1) cregCmd ++ tail ∧
      ((tail = [] ∧ ∀ k, ¬RegistersAt ps tmp k) ∨
        RegistersAt ps tmp n ∧ (tail = [cmd] ∨ tail = [cmd, speakerCmd])) := by
  induction ps generalizing tmp mode o with
  | nil =>
    obtain rfl := Except.ok.inj h
    exact ⟨0, [], rfl, .inl ⟨rfl, not_registersAt_nil rfl⟩⟩
  | cons p ps ih =>
    rw [pollLoop] at h
    split at h
    next => cases h
    next hask =>
      obtain rfl := Except.ok.inj h
      refine ⟨0, [], rfl, .inl ⟨rfl, not_registersAt_nil ?_⟩⟩
      rw [pollTexts, hask]
    next ret tmp' hask =>
      split at h
      next => cases h
      next text htext =>
        obtain ⟨o', ho', rfl⟩ : ∃ o', (if (cregMode text mode).2 then dialOut env cmd
            else if telTimeout < p.elapsed then .ok ⟨[], some (-1)⟩
            else pollLoop env cmd ps (cregTmp text mode tmp') (cregMode text mode).1) = .ok o' ∧
            (⟨cregCmd :: o'.sent, o'.ret⟩ : ModemTalk) = o := by
          revert h
          generalize (if (cregMode text mode).2 then dialOut env cmd
            else if telTimeout < p.elapsed then .ok ⟨[], some (-1)⟩
            else pollLoop env cmd ps (cregTmp text mode tmp') (cregMode text mode).1) = r
          intro h
          cases r with
          | error e => cases h
          | ok o' => exact ⟨o', rfl, Except.ok.inj h⟩
        rw [cregMode_verdict text mode 0, cregTmp_stale text mode 0] at ho'
        split_ifs at ho' with hreg hlate
        · refine ⟨0, o'.sent, rfl, .inr ⟨(registersAt_zero hask htext).mpr hreg, dialOut_sent ho'⟩⟩
        · obtain rfl := Except.ok.inj ho'
          refine ⟨0, [], rfl, .inl ⟨rfl, fun k hk => ?_⟩⟩
          cases k with
          | zero => exact hreg ((registersAt_zero hask htext).mp hk)
          | succ k => exact absurd ((registersAt_succ hask htext k).mp hk).1.2 (not_le.mpr hlate)
        · obtain ⟨n, tail, hsent, hcases⟩ := ih ho'
          refine ⟨n + 1, tail, ?_, ?_⟩
          · dsimp only
            rw [hsent]
            rfl
          · rcases hcases with ⟨htail, hnone⟩ | ⟨hn, htail⟩
            · refine .inl ⟨htail, fun k hk => ?_⟩
              cases k with
              | zero => exact hreg ((registersAt_zero hask htext).mp hk)
              | succ k => exact hnone k ((registersAt_succ hask htext k).mp hk).2
            · exact .inr ⟨(registersAt_succ hask htext n).mpr ⟨⟨hreg, not_lt.mp hlate⟩, hn⟩, htail⟩

/-- A command that makes a call. -/
def isDial (cmd : List UInt8) : Bool := (ofString "ATD").isPrefixOf cmd

/-- The exchange comes to an end. -/
def AtExchange.Returns (x : AtExchange) (cmd : List UInt8) : Prop :=
  ∃ r, sendATCmd x (some cmd) none = .ok (some r)

/-- The request asks for the call `d`, and the modem goes through with it. -/
structure CallGoesOut (env : CallEnv) (r : CallRequest) (d : List UInt8) : Prop where
  operate : r.operate = 1
  simNum : r.simNum = 1 ∨ r.simNum = 2
  number : r.number.bind dialCmd = some d
  closes : env.setup.1.Returns (ofString "AT+SFUN=5")
  mode : env.setup.2.1.Returns (testModemCmd env.workmode r.simNum)
  opens : env.setup.2.2.Returns (ofString "AT+SFUN=4")
  registers : ∃ k, RegistersAt env.polls env.tmp k

lemma isDial_testModemCmd (workmode : List UInt8) (simNum : Int) :
    isDial (testModemCmd workmode simNum) = false := by
  unfold testModemCmd
  split_ifs
  · decide
  · decide

lemma isDial_dialCmd {number cmd : List UInt8} (h : dialCmd number = some cmd) :
    isDial cmd = true := by
  unfold dialCmd at h
  split_ifs at h
  · rw [← Option.some.inj h]
    decide
  · rw [← Option.some.inj h]
    decide

lemma not_returns {x : AtExchange} {cmd : List UInt8}
    (h : sendATCmd x (some cmd) none = .ok none) : ¬x.Returns cmd := by
  rintro ⟨r, hr⟩
  rw [h] at hr
  cases hr

lemma hangUp_filter {env : CallEnv} {ptr : AtCursor} {o : ModemTalk} (h : hangUp env ptr = .ok o) :
    o.sent.filter isDial = [] := by
  rcases tellModem_ok h with ⟨-, rfl⟩ | ⟨_, o₁, -, hnext, rfl⟩
  · decide
  · rcases tellModem_ok hnext with ⟨-, rfl⟩ | ⟨_, o₂, -, hlast, rfl⟩
    · decide
    · cases ptr with
      | none =>
        obtain rfl := Except.ok.inj hlast
        decide
      | some s => cases hlast

lemma makeCall_filter {env : CallEnv} {simNum : Int} {cmd : List UInt8} (hcmd : isDial cmd = true)
    {o : ModemTalk} (h : makeCall env simNum cmd = .ok o) :
    (o.sent.filter isDial = [] ∧ ¬(env.setup.1.Returns (ofString "AT+SFUN=5") ∧
        env.setup.2.1.Returns (testModemCmd env.workmode simNum) ∧
        env.setup.2.2.Returns (ofString "AT+SFUN=4") ∧ ∃ k, RegistersAt env.polls env.tmp k)) ∨
      (o.sent.filter isDial = [cmd] ∧ env.setup.1.Returns (ofString "AT+SFUN=5") ∧
        env.setup.2.1.Returns (testModemCmd env.workmode simNum) ∧
        env.setup.2.2.Returns (ofString "AT+SFUN=4") ∧ ∃ k, RegistersAt env.polls env.tmp k) := by
  have hmode := isDial_testModemCmd env.workmode simNum
  rcases tellModem_ok h with ⟨hsend, rfl⟩ | ⟨r₁, o₁, h₁, hnext₁, rfl⟩
  · exact .inl ⟨by decide, fun hall => not_returns hsend hall.1⟩
  rcases tellModem_ok hnext₁ with ⟨hsend, rfl⟩ | ⟨r₂, o₂, h₂, hnext₂, rfl⟩
  · refine .inl ⟨?_, fun hall => not_returns hsend hall.2.1⟩
    rw [List.filter_cons_of_neg (by decide), List.filter_cons_of_neg (by rw [hmode]; decide)]
    rfl
  rcases tellModem_ok hnext₂ with ⟨hsend, rfl⟩ | ⟨r₃, o₃, h₃, hloop, rfl⟩
  · refine .inl ⟨?_, fun hall => not_returns hsend hall.2.2.1⟩
    rw [List.filter_cons_of_neg (by decide), List.filter_cons_of_neg (by rw [hmode]; decide)]
    decide
  obtain ⟨n, tail, hsent, hcases⟩ := pollLoop_sent env.polls hloop
  have hfilter : (ofString "AT+SFUN=5" :: testModemCmd env.workmode simNum ::
      ofString "AT+SFUN=4" :: o₃.sent).filter isDial = tail.filter isDial := by
    have hcreg : (List.replicate (n + 1) cregCmd).filter isDial = [] := by
      rw [List.filter_eq_nil_iff]
      intro c hc
      rw [List.eq_of_mem_replicate hc]
      decide
    rw [List.filter_cons_of_neg (by decide), List.filter_cons_of_neg (by rw [hmode]; decide),
      List.filter_cons_of_neg (by decide), hsent, List.filter_append, hcreg, List.nil_append]
  rcases hcases with ⟨rfl, hnone⟩ | ⟨hn, htail⟩
  · exact .inl ⟨hfilter, fun hall => hall.2.2.2.elim hnone⟩
  · refine .inr ⟨hfilter.trans ?_, ⟨r₁, h₁⟩, ⟨r₂, h₂⟩, ⟨r₃, h₃⟩, n, hn⟩
    have hspeaker : isDial speakerCmd = false := by decide
    rcases htail with rfl | rfl
    · rw [List.filter_cons_of_pos hcmd]
      rfl
    · rw [List.filter_cons_of_pos hcmd, List.filter_cons_of_neg (by rw [hspeaker]; decide)]
      rfl

/-- An exchange with lines in front of the OK. -/
def answeredOk (cmd : List UInt8) (lines : List (List UInt8)) : AtExchange :=
  ⟨cmd.length, [.ready], lines ++ [ofString "OK"]⟩

/-- The modem answers every command with OK, and has registered at the second question. -/
def sampleCall : CallEnv where
  modemtype := []
  workmode := ofString "0,0"
  whale := false
  hangup := (answeredOk (ofString "ATH") [], answeredOk (ofString "AT") [])
  setup := (answeredOk (ofString "AT+SFUN=5") [], answeredOk (ofString "AT+SPTESTMODEM=15,10") [],
    answeredOk (ofString "AT+SFUN=4") [])
  polls := [⟨answeredOk cregCmd [ofString "+CREG: 2,0"], 0⟩,
    ⟨answeredOk cregCmd [ofString "+CREG: 2,1"], 2⟩]
  dial := answeredOk (ofString "ATD112@1,#;") []
  speaker := answeredOk speakerCmd []
  tmp := ⟨fun _ => 0, 512⟩

lemma exchangeLoop_size {len : Nat} (lines : List (List UInt8)) {buf left : Block UInt8}
    {rspLen : Nat} {ret r : Int} (h : exchangeLoop len lines buf rspLen ret = .ok (r, left)) :
    left.size = buf.size := by
  induction lines generalizing buf rspLen with
  | nil =>
    obtain ⟨-, rfl⟩ := Prod.mk.inj (Except.ok.inj h)
    rfl
  | cons line lines ih =>
    rw [exchangeLoop] at h
    split_ifs at h
    · obtain ⟨-, rfl⟩ := Prod.mk.inj (Except.ok.inj h)
      rfl
    · obtain ⟨-, rfl⟩ := Prod.mk.inj (Except.ok.inj h)
      rfl
    · exact ih h
    · obtain ⟨-, rfl⟩ := Prod.mk.inj (Except.ok.inj h)
      rfl
    · cases hwrite : buf.write rspLen line with
      | error e =>
        rw [hwrite] at h
        cases h
      | ok buf' =>
        rw [hwrite] at h
        have hsize : buf'.size = buf.size := by
          unfold Block.write at hwrite
          split_ifs at hwrite
          obtain rfl := Except.ok.inj hwrite
          rfl
        exact (ih h).trans hsize

/-- The lines in front of the one that ends the exchange. -/
def AtExchange.reply (x : AtExchange) : List UInt8 := (linesBefore x.lines).flatten

/-- The exchange does not fail, and its response has room. -/
def AtExchange.Succeeds (x : AtExchange) (cmd : List UInt8) : Prop :=
  x.opens (some cmd) = true ∧ x.reply.length ≤ atTmpSize ∧
    ∀ line ∈ endLine x.lines, hasOk line = true

lemma askModem_open {x : AtExchange} {cmd : List UInt8} (hopens : x.opens (some cmd) = true)
    {tmp : Block UInt8} (hsize : tmp.size = atTmpSize) :
    ∃ ret left, askModem x cmd tmp = .ok (some (ret, left)) ∧ left.size = atTmpSize ∧
      (0 ≤ ret ↔ x.Succeeds cmd) ∧
      (x.reply.length ≤ atTmpSize → left.cells = tmp.cells.fill 0 x.reply) := by
  have hbuf : tmpBuf tmp = some ⟨tmp, atTmpSize, by decide, hsize.ge, by decide⟩ := dif_pos hsize.ge
  obtain ⟨left, hloop, hcells⟩ := exchangeLoop_eq x.lines (show 0 < atTmpSize by decide) tmp hsize.ge
    (Nat.zero_le _) 1
  rw [Nat.zero_add] at hloop hcells
  refine ⟨if atTmpSize < (linesBefore x.lines).flatten.length then -1
    else endValue 1 (linesBefore x.lines).flatten.length (endLine x.lines), left, ?_,
    (exchangeLoop_size _ hloop).trans hsize, ?_, hcells⟩
  · unfold askModem
    rw [sendATCmd_open hopens, hbuf]
    simp only [Option.map_some, Option.getD_some, hloop]
    rfl
  · unfold AtExchange.Succeeds AtExchange.reply
    split_ifs with hlong
    · exact ⟨fun h => absurd h (by decide), fun h => absurd h.2.1 (not_le.mpr hlong)⟩
    · have hfits := not_lt.mp hlong
      cases hend : endLine x.lines with
      | none => exact ⟨fun _ => ⟨hopens, hfits, by simp⟩, fun _ => (by decide : (0 : Int) ≤ 1)⟩
      | some line =>
        cases hok : hasOk line with
        | false => simp [endValue, hok]
        | true => simp [-List.length_flatten, endValue, hopens, hok, hfits]

lemma sendATCmd_failed {x : AtExchange} {cmd : List UInt8} (hopens : x.opens (some cmd) = false)
    {buf : Option RspBuf} {r : AtResult} (h : sendATCmd x (some cmd) buf = .ok (some r)) :
    r.ret = -1 := by
  by_cases hwait : selectLoop x.selects = none
  · rw [sendATCmd, hwait] at h
    split_ifs at h
    · rw [← Option.some.inj (Except.ok.inj h)]
    · cases h
  · rw [sendATCmd_closed hopens hwait] at h
    rw [← Option.some.inj (Except.ok.inj h)]

lemma askModem_answer {x : AtExchange} {cmd : List UInt8} {tmp left : Block UInt8} {ret : Int}
    (hsize : tmp.size = atTmpSize) (h : askModem x cmd tmp = .ok (some (ret, left))) :
    (0 ≤ ret ↔ x.Succeeds cmd) ∧
      (x.Succeeds cmd → left.size = atTmpSize ∧ left.cells = tmp.cells.fill 0 x.reply) := by
  cases hopens : x.opens (some cmd) with
  | true =>
    obtain ⟨ret', left', hopen, hleft, hret, hcells⟩ := askModem_open hopens hsize
    rw [h] at hopen
    obtain ⟨rfl, rfl⟩ := Prod.mk.inj (Option.some.inj (Except.ok.inj hopen))
    exact ⟨hret, fun hs => ⟨hleft, hcells hs.2.1⟩⟩
  | false =>
    have hnot : ¬x.Succeeds cmd := fun hs => by
      rw [hs.1] at hopens
      cases hopens
    refine ⟨?_, fun hs => absurd hs hnot⟩
    unfold askModem at h
    split at h
    next => cases h
    next => cases h
    next r hsend =>
      obtain ⟨hr, -⟩ := Prod.mk.inj (Option.some.inj (Except.ok.inj h))
      have hclosed := sendATCmd_failed hopens hsend
      rw [← hr, hclosed]
      exact ⟨fun hle => absurd hle (by decide), fun hs => absurd hs hnot⟩

/-- The number that a text has behind the name of a field. -/
def NumberIs (name text : List UInt8) (v : Int) : Prop :=
  ∃ ptmp rest tok, strstr name text = some ptmp ∧ strchrNext 0x3a ptmp = some rest ∧
    (nextTok (some rest)).1 = some tok ∧ intOf (strtol longBits 10 tok) = v

lemma simState_zero_iff {ret : Int} {text : List UInt8} :
    simState ret text = 0 ↔ 0 ≤ ret ∧ NumberIs (ofString "EUICC") text 0 := by
  unfold simState NumberIs
  split_ifs with hret
  · exact ⟨fun h => absurd h (by decide), fun h => absurd h.1 (not_le.mpr hret)⟩
  · cases hname : strstr (ofString "EUICC") text with
    | none => simp
    | some ptmp =>
      dsimp only
      unfold atTokStart atTokFlagStart
      rw [Option.bind_some]
      cases hcolon : strchrNext 0x3a ptmp with
      | none => simp [atTokNextint_none, hcolon]
      | some rest =>
        obtain ⟨tok, cur, htok⟩ := nextTok_some rest
        have hout : (atTokNextint (some rest) (-1)).1.out = intOf (strtol longBits 10 tok) := by
          unfold atTokNextint atTokNextintBase
          dsimp only
          rw [htok]
        dsimp only
        rw [hout]
        simp [hcolon, htok, not_lt.mp hret]

/-- What the array holds as a text behind the response: nothing if it has been cleared. -/
def AtExchange.stale (x : AtExchange) (tmp : Block UInt8) : List UInt8 :=
  cstr tmp.cells x.reply.length (atTmpSize - x.reply.length)

lemma tmpText_reply {x : AtExchange} (hlines : ∀ line ∈ x.lines, 0 ∉ line) {tmp left : Block UInt8}
    (hsize : left.size = atTmpSize) (hfits : x.reply.length ≤ atTmpSize)
    (hcells : left.cells = tmp.cells.fill 0 x.reply) {text : List UInt8}
    (h : tmpText left = .ok text) : text = x.reply ++ x.stale tmp := by
  have hreply : 0 ∉ x.reply := by
    intro hmem
    obtain ⟨line, hline, hzero⟩ := List.mem_flatten.mp hmem
    exact hlines line ((List.takeWhile_sublist _).subset hline) hzero
  unfold tmpText at h
  split_ifs at h
  obtain rfl := Except.ok.inj h
  have hreplied : (tmp.cells.fill 0 x.reply).load 0 x.reply.length = x.reply :=
    load_fill tmp.cells 0 x.reply
  have hbehind : (tmp.cells.fill 0 x.reply).load x.reply.length (atTmpSize - x.reply.length) =
      tmp.cells.load x.reply.length (atTmpSize - x.reply.length) := by
    apply load_congr
    intro i _
    exact fill_outside _ (.inr (by omega))
  unfold AtExchange.stale
  rw [hsize, hcells, cstr_eq_takeWhile, cstr_eq_takeWhile,
    show atTmpSize = x.reply.length + (atTmpSize - x.reply.length) by omega, load_add, hreplied,
    Nat.zero_add, hbehind, takeWhile_ne_append hreply, Nat.add_sub_cancel_left]

lemma askSim_passes_iff {x : AtExchange} (hlines : ∀ line ∈ x.lines, 0 ∉ line) {tmp : Block UInt8}
    (hsize : tmp.size = atTmpSize) {talk : ModemTalk} (h : askSim x tmp = .ok talk) :
    talk.ret = some 0 ↔ x.Succeeds euiccCmd ∧
      NumberIs (ofString "EUICC") (x.reply ++ x.stale tmp) 0 := by
  unfold askSim at h
  cases hask : askModem x euiccCmd tmp with
  | error e =>
    rw [hask] at h
    cases h
  | ok answer =>
    rw [hask, Except.ok_bind] at h
    cases answer with
    | none =>
      obtain rfl := Except.ok.inj h
      constructor
      · intro hret
        cases hret
      · intro hall
        obtain ⟨ret, left, hopen, -⟩ := askModem_open hall.1.1 hsize
        rw [hask] at hopen
        cases hopen
    | some answer =>
      obtain ⟨ret, left⟩ := answer
      obtain ⟨hret, hleft⟩ := askModem_answer hsize hask
      dsimp only at h
      by_cases hneg : ret < 0
      · rw [if_pos hneg] at h
        obtain rfl := Except.ok.inj h
        have hstate : simState ret [] = -1 := if_pos hneg
        constructor
        · rw [hstate]
          intro hzero
          exact absurd hzero (by decide)
        · exact fun hall => absurd (hret.mpr hall.1) (not_le.mpr hneg)
      · have hsucceeds : x.Succeeds euiccCmd := hret.mp (not_lt.mp hneg)
        obtain ⟨hleftSize, hcells⟩ := hleft hsucceeds
        rw [if_neg hneg] at h
        cases htext : tmpText left with
        | error e =>
          rw [htext] at h
          cases h
        | ok text =>
          rw [htext, Except.ok_bind] at h
          obtain rfl := Except.ok.inj h
          have htext := tmpText_reply hlines hleftSize hsucceeds.2.1 hcells htext
          have hstate : simState ret text = 0 ↔ 0 ≤ ret ∧ NumberIs (ofString "EUICC") text 0 :=
            simState_zero_iff
          rw [← htext]
          by_cases hzero : simState ret text = 0
          · rw [if_pos hzero]
            exact ⟨fun _ => ⟨hsucceeds, (hstate.mp hzero).2⟩, fun _ => rfl⟩
          · rw [if_neg hzero]
            exact ⟨fun hbad => absurd hbad (by decide),
              fun hall => absurd (hstate.mpr ⟨not_lt.mp hneg, hall.2⟩) hzero⟩

/-- In a test without a fault the card of a request is there exactly if the modem gives the number 0,
which a field without a number stands for too; the text is that of the response, with what the array
held behind it. -/
theorem check_sim_passes_iff (modemtype : List UInt8) (x : AtExchange)
    (hlines : ∀ line ∈ x.lines, 0 ∉ line) (tmp : Block UInt8) (hsize : tmp.size = atTmpSize)
    (req : List UInt8) (out : TestOut) (h : testCheckSIM modemtype x tmp req = .ok out) :
    out.talk.ret = some 0 ↔
      ((simRequest req).1 = 1 ∨ (simRequest req).1 = 2) ∧ x.Succeeds euiccCmd ∧
        NumberIs (ofString "EUICC") (x.reply ++ x.stale tmp) 0 := by
  unfold testCheckSIM at h
  cases hfree : freeMoved (simRequest req).2 with
  | error e =>
    rw [hfree] at h
    cases h
  | ok u =>
    rw [hfree, Except.ok_bind] at h
    split_ifs at h with hbad
    · obtain rfl := Except.ok.inj h
      exact ⟨fun hret => absurd hret (by decide), fun hall => by omega⟩
    · obtain ⟨talk, htalk, rfl⟩ : ∃ talk, askSim x tmp = .ok talk ∧
          out = ⟨some (atPath modemtype (simRequest req).1), talk⟩ := by
        cases hask : askSim x tmp with
        | error e =>
          rw [hask] at h
          cases h
        | ok talk =>
          rw [hask] at h
          exact ⟨talk, rfl, (Except.ok.inj h).symm⟩
      have hsim : (simRequest req).1 = 1 ∨ (simRequest req).1 = 2 := by omega
      rw [show (TestOut.mk (some (atPath modemtype (simRequest req).1)) talk).talk = talk from rfl,
        askSim_passes_iff hlines hsize htalk]
      exact ⟨fun hall => ⟨hsim, hall⟩, And.right⟩

/-- In a cleared array the number of the response is read; digits that the array held stand behind
it. -/
theorem check_sim_passes_sample :
    NumberIs (ofString "EUICC") (ofString "+EUICC: 0") 0 ∧
      ¬NumberIs (ofString "EUICC") (ofString "+EUICC: 07") 0 := by
  have hlines : ∀ line ∈ (answeredOk euiccCmd [ofString "+EUICC: 0"]).lines, 0 ∉ line := by decide
  have hcleared : testCheckSIM [] (answeredOk euiccCmd [ofString "+EUICC: 0"]) ⟨fun _ => 0, 512⟩
      (ofString "AT+SIMTEST=1") = .ok ⟨some (ofString "/dev/stty_lte1"), [euiccCmd], some 0⟩ := by
    rfl
  have hused : testCheckSIM [] (answeredOk euiccCmd [ofString "+EUICC: 0"])
      ⟨Buffer.store (fun _ => 0) 9 0x37, 512⟩ (ofString "AT+SIMTEST=1") =
        .ok ⟨some (ofString "/dev/stty_lte1"), [euiccCmd], some (-1)⟩ := by
    rfl
  refine ⟨((check_sim_passes_iff _ _ hlines _ rfl _ _ hcleared).mp rfl).2.2, fun h => ?_⟩
  have hfails := (check_sim_passes_iff _ _ hlines _ rfl _ _ hused).mpr
    ⟨by decide, ⟨by decide, by decide, by decide⟩, h⟩
  exact absurd hfails (by decide)

end EngPc
