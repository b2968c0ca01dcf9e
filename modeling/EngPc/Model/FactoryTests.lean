import EngPc.Model.AtTok
import EngPc.Model.FactoryRadio

/-!
# The tests of the factory radio module

`TestCheckSIM` and `TestMakeCall` of modules/libFactoryRadioTest/factorytest_radio.c, on top of the
exchanges with the modem and the fields of a response. The answers of the modem, the properties and the
clock come from outside; the array for the responses is not cleared.
-/

namespace EngPc
open CString

/-- What a test runs into: an access outside of an array, a text without its end, a pointer to no text,
and a call of `free` for a pointer that has been moved. -/
inductive AtTestFault
  | outOfBounds
  | unterminated
  | nullString
  | movedFree
  deriving DecidableEq, Repr

def isNrMode (modemtype : List UInt8) : Bool := modemtype = ofString "nr"

def ltePaths : List (List UInt8) := [ofString "/dev/stty_lte1", ofString "/dev/stty_lte4"]

def nrPaths : List (List UInt8) := [ofString "/dev/stty_nr1", ofString "/dev/stty_nr4"]

/-- The channel of a card, which the request counts from 1. -/
def atPath (modemtype : List UInt8) (simNum : Int) : List UInt8 :=
  (if isNrMode modemtype then nrPaths else ltePaths).getD (simNum - 1).toNat []

/-- A character of a text in an array. -/
def charAt (s : List UInt8) (i : Nat) : UInt8 := s.getD i 0

def isLteOnly (workmode : List UInt8) (phoneId : Int) : Bool :=
  if phoneId = 0 then charAt workmode 0 = 0x33 else charAt workmode 2 = 0x33

/-- `free (ptr)` after `ptr = strdup (req)` and the search for the mark. -/
def freeMoved (ptr : AtCursor) : Except AtTestFault Unit :=
  match ptr with
  | none => .ok ()
  | some _ => .error .movedFree

/-- `sizeof (tmp)` -/
def atTmpSize : Nat := 512

def tmpBuf (tmp : Block UInt8) : Option RspBuf :=
  if h : atTmpSize ≤ tmp.size then some ⟨tmp, atTmpSize, by decide, h, by decide⟩ else none

/-- A command whose response goes to `tmp`: what is returned and what the array holds then. -/
def askModem (x : AtExchange) (cmd : List UInt8) (tmp : Block UInt8) :
    Except AtTestFault (Option (Int × Block UInt8)) :=
  match sendATCmd x (some cmd) (tmpBuf tmp) with
  | .error _ => .error .outOfBounds
  | .ok none => .ok none
  | .ok (some r) => .ok (some (r.ret, r.buf.getD tmp))

def tmpText (tmp : Block UInt8) : Except AtTestFault (List UInt8) :=
  if 0 ∈ tmp.cells.load 0 tmp.size then .ok (cstr tmp.cells 0 tmp.size) else .error .unterminated

/-- What a test has sent to the modem and what it returns; nothing yet while it waits. -/
structure ModemTalk where
  sent : List (List UInt8)
  ret : Option Int
  deriving DecidableEq, Repr

/-- The channel that a test has opened, and what it has sent there. -/
structure TestOut where
  path : Option (List UInt8)
  talk : ModemTalk
  deriving DecidableEq, Repr

/-- A request with a wrong number. -/
def TestOut.refused : TestOut := ⟨none, [], some (-1)⟩

/-- A command without a buffer for the response, and what comes behind it. -/
def tellModem (cmd : List UInt8) (x : AtExchange) (next : Int → Except AtTestFault ModemTalk) :
    Except AtTestFault ModemTalk :=
  match sendATCmd x (some cmd) none with
  | .error _ => .error .outOfBounds
  | .ok none => .ok ⟨[cmd], none⟩
  | .ok (some r) => (next r.ret).map fun o => { o with sent := cmd :: o.sent }

def euiccCmd : List UInt8 := ofString "AT+EUICC?"

/-- `simState`, which holds -1 before. -/
def simState (ret : Int) (text : List UInt8) : Int :=
  if ret < 0 then -1
  else
    match strstr (ofString "EUICC") text with
    | none => -1
    | some ptmp => (atTokNextint (atTokStart (some ptmp)).2 (-1)).1.out

/-- The number of the card in a request, and where the pointer stands. -/
def simRequest (req : List UInt8) : Int × AtCursor :=
  let r := atTokNextint (atTokFlagStart 0x3d (some req)).2 (-1)
  (r.1.out, r.2)

/-- The question for the card. The array is read only where the exchange has not failed. -/
def askSim (x : AtExchange) (tmp : Block UInt8) : Except AtTestFault ModemTalk := do
  match ← askModem x euiccCmd tmp with
  | none => return ⟨[euiccCmd], none⟩
  | some (ret, tmp) =>
    let text ← if ret < 0 then pure [] else tmpText tmp
    return ⟨[euiccCmd], some (if simState ret text = 0 then 0 else -1)⟩

def testCheckSIM (modemtype : List UInt8) (x : AtExchange) (tmp : Block UInt8) (req : List UInt8) :
    Except AtTestFault TestOut := do
  freeMoved (simRequest req).2
  if (simRequest req).1 < 1 ∨ 2 < (simRequest req).1 then return .refused
  let talk ← askSim x tmp
  return ⟨some (atPath modemtype (simRequest req).1), talk⟩

/-- `TEL_TIMEOUT` -/
def telTimeout : Int := 100

def cregCmd : List UInt8 := ofString "AT+CREG?"

/-- A question for the registration, and the seconds since the first one. -/
structure CallPoll where
  exchange : AtExchange
  elapsed : Int
  deriving DecidableEq, Repr

/-- What the modem and the system do while a call is tested. With `whale` the audio goes another
way than over the modem. -/
structure CallEnv where
  modemtype : List UInt8
  workmode : List UInt8
  whale : Bool
  hangup : AtExchange × AtExchange
  setup : AtExchange × AtExchange × AtExchange
  polls : List CallPoll
  dial : AtExchange
  speaker : AtExchange
  tmp : Block UInt8

/-- What `strsep` leaves of the text in the array. -/
def cutTmp (text : List UInt8) (cur : AtCursor) (tmp : Block UInt8) : Block UInt8 :=
  match nextTokCut cur with
  | none => tmp
  | some rest => { tmp with cells := tmp.cells.store (text.length - rest.length - 1) 0 }

/-- The pointer behind the colon of a response. -/
def cregStart (text : List UInt8) : AtCursor := (atTokStart (strstr (ofString "CREG") text)).2

/-- `mode` after a response, and whether the modem has registered. -/
def cregMode (text : List UInt8) (mode : Int) : Int × Bool :=
  let r := atTokNextint (cregStart text) mode
  if r.1.out = 2 then
    let state := (atTokNextint r.2 r.1.out).1.out
    (state, state = 1 ∨ state = 8 ∨ state = 5)
  else (r.1.out, false)

/-- The array behind it. -/
def cregTmp (text : List UInt8) (mode : Int) (tmp : Block UInt8) : Block UInt8 :=
  let r := atTokNextint (cregStart text) mode
  if r.1.out = 2 then cutTmp text r.2 (cutTmp text (cregStart text) tmp)
  else cutTmp text (cregStart text) tmp

def speakerCmd : List UInt8 := ofString "AT+SSAM=1"

/-- The call, once the modem has registered. -/
def dialOut (env : CallEnv) (cmd : List UInt8) : Except AtTestFault ModemTalk :=
  tellModem cmd env.dial fun ret =>
    if env.whale then .ok ⟨[], some ret⟩
    else tellModem speakerCmd env.speaker fun _ => .ok ⟨[], some ret⟩

/-- The loop around the question. -/
def pollLoop (env : CallEnv) (cmd : List UInt8) :
    List CallPoll → (tmp : Block UInt8) → (mode : Int) → Except AtTestFault ModemTalk
  | [], _, _ => .ok ⟨[cregCmd], none⟩
  | p :: ps, tmp, mode =>
    match askModem p.exchange cregCmd tmp with
    | .error e => .error e
    | .ok none => .ok ⟨[cregCmd], none⟩
    | .ok (some (_, tmp)) =>
      match tmpText tmp with
      | .error e => .error e
      | .ok text =>
        (if (cregMode text mode).2 then dialOut env cmd
        else if telTimeout < p.elapsed then .ok ⟨[], some (-1)⟩
        else pollLoop env cmd ps (cregTmp text mode tmp) (cregMode text mode).1).map
          fun o => { o with sent := cregCmd :: o.sent }

/-- `operate`, `simNum` and `number` of a request, and where the pointer stands. -/
structure CallRequest where
  operate : Int
  simNum : Int
  number : Option (List UInt8)
  ptr : AtCursor
  deriving DecidableEq, Repr

def callRequest (req : List UInt8) : CallRequest :=
  let operate := atTokNextint (atTokFlagStart 0x3d (some req)).2 (-1)
  let simNum := atTokNextint operate.2 (-1)
  let number := atTokNextstr simNum.2
  ⟨operate.1.out, simNum.1.out, (number.1.2.getD none), number.2⟩

/-- `cmd`; there is one for two numbers only. -/
def dialCmd (number : List UInt8) : Option (List UInt8) :=
  if number = ofString "112" then some (ofString "ATD112@1,#;")
  else if number = ofString "10086" then some (ofString "ATD10086;")
  else none

/-- The mode for the test, by a property whose places count from 0. -/
def testModemCmd (workmode : List UInt8) (simNum : Int) : List UInt8 :=
  if isLteOnly workmode simNum then ofString "AT+SPTESTMODEM=21,254"
  else ofString "AT+SPTESTMODEM=15,10"

def hangUp (env : CallEnv) (ptr : AtCursor) : Except AtTestFault ModemTalk :=
  tellModem (ofString "ATH") env.hangup.1 fun _ =>
    tellModem (ofString "AT") env.hangup.2 fun _ => do
      freeMoved ptr
      return ⟨[], some 0⟩

/-- The protocol stack starts again in the mode for the test. -/
def makeCall (env : CallEnv) (simNum : Int) (cmd : List UInt8) : Except AtTestFault ModemTalk :=
  tellModem (ofString "AT+SFUN=5") env.setup.1 fun _ =>
    tellModem (testModemCmd env.workmode simNum) env.setup.2.1 fun _ =>
      tellModem (ofString "AT+SFUN=4") env.setup.2.2 fun _ =>
        pollLoop env cmd env.polls env.tmp (-1)

def testMakeCall (env : CallEnv) (req : List UInt8) : Except AtTestFault TestOut :=
  let r := callRequest req
  let opened := fun talk => TestOut.mk (some (atPath env.modemtype r.simNum)) talk
  if r.simNum < 1 ∨ 2 < r.simNum ∨ r.operate < 0 ∨ 1 < r.operate then
    (freeMoved r.ptr).map fun _ => .refused
  else if r.operate = 0 then (hangUp env r.ptr).map opened
  else
    match r.number with
    | none => .error .nullString
    | some number =>
      match freeMoved r.ptr with
      | .error e => .error e
      | .ok _ =>
        match dialCmd number with
        | none => .ok (opened ⟨[], some (-1)⟩)
        | some cmd => (makeCall env r.simNum cmd).map opened

end EngPc
