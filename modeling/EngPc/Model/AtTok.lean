import EngPc.Lib.Decimal
import EngPc.Model.Types

/-!
# The fields of an AT response

at_tok.c of modules/libFactoryRadioTest, and its copy in modules/libnpipropsrv. The pointer that the
functions move is NULL or stands before the rest of the text. `strsep` writes a zero behind the token
that it returns and leaves the rest as it is.
-/

namespace EngPc
open CString

/-- `*p_cur` -/
abbrev AtCursor := Option (List UInt8)

def isSpace (c : UInt8) : Bool := c = 0x20 ∨ 0x09 ≤ c ∧ c ≤ 0x0d

/-- What stands behind the first `c`. -/
def strchrNext (c : UInt8) (s : List UInt8) : AtCursor :=
  match s.dropWhile (· ≠ c) with
  | [] => none
  | _ :: rest => some rest

def strsep (delim : UInt8) (s : List UInt8) : List UInt8 × AtCursor :=
  (s.takeWhile (· ≠ delim), strchrNext delim s)

def atTokFlagStart (startFlag : UInt8) (cur : AtCursor) : Int × AtCursor :=
  match cur.bind (strchrNext startFlag) with
  | none => (-1, none)
  | some rest => (0, some rest)

def atTokStart : AtCursor → Int × AtCursor := atTokFlagStart 0x3a

def skipWhiteSpace (cur : AtCursor) : AtCursor := cur.map fun s => s.dropWhile isSpace

/-- At the end of the text the pointer stays where it is. -/
def skipNextComma (cur : AtCursor) : AtCursor := cur.map fun s => (s.dropWhile (· ≠ 0x2c)).tail

def nextTok (cur : AtCursor) : Option (List UInt8) × AtCursor :=
  match skipWhiteSpace cur with
  | none => (none, none)
  | some s =>
    if s.head? = some 0x22 then
      (some (strsep 0x22 s.tail).1, skipNextComma (strsep 0x22 s.tail).2)
    else (some (strsep 0x2c s).1, (strsep 0x2c s).2)

/-- Where the pointer stands when `strsep` returns; there is a zero in front of it. -/
def nextTokCut (cur : AtCursor) : AtCursor :=
  (skipWhiteSpace cur).bind fun s =>
    if s.head? = some 0x22 then (strsep 0x22 s.tail).2 else (strsep 0x2c s).2

/-- Behind the spaces and the sign. -/
def unsigned (s : List UInt8) : List UInt8 :=
  let s := s.dropWhile isSpace
  if s.head? = some 0x2d ∨ s.head? = some 0x2b then s.tail else s

/-- `end != ret`: a mark in front of a number of base 16 is itself a digit. -/
def converts (base : Nat) (s : List UInt8) : Bool := (unsigned s).head?.any (digit · < base)

/-- `strtoul (s, NULL, 16)`. -/
def strtoulHex (s : List UInt8) : Nat :=
  let marked := strcaseeq ((unsigned s).take 2) [0x30, 0x78] ∧
    ((unsigned s).drop 2).head?.any (digit · < 16)
  let n := digitsValue 16 (if marked then (unsigned s).drop 2 else unsigned s)
  if 2 ^ longBits ≤ n then 2 ^ longBits - 1
  else if (s.dropWhile isSpace).head? = some 0x2d then (2 ^ longBits - n) % 2 ^ longBits else n

/-- A number: the returned value and `*p_out`, which stays as it is where there is no token. -/
structure AtInt where
  ret : Int
  out : Int
  deriving DecidableEq, Repr

def atTokNextintBase (value : List UInt8 → Int) (base : Nat) (cur : AtCursor) (out : Int) :
    AtInt × AtCursor :=
  match cur with
  | none => (⟨-1, out⟩, none)
  | some s =>
    match nextTok (some s) with
    | (none, cur) => (⟨-1, out⟩, cur)
    | (some tok, cur) => (⟨if converts base tok then 0 else -1, intOf (value tok)⟩, cur)

def atTokNextint : AtCursor → Int → AtInt × AtCursor := atTokNextintBase (strtol longBits 10) 10

def atTokNexthexint : AtCursor → Int → AtInt × AtCursor :=
  atTokNextintBase (fun s => strtoulHex s) 16

/-- The returned value and what `*p_out` gets. -/
def atTokNextbool (cur : AtCursor) : (Int × Option Int) × AtCursor :=
  let r := atTokNextint cur 0
  if r.1.ret < 0 then ((-1, none), r.2)
  else if r.1.out = 0 ∨ r.1.out = 1 then ((0, some r.1.out), r.2)
  else ((-1, none), r.2)

/-- The returned value and the text, where `*p_out` is set. -/
def atTokNextstr (cur : AtCursor) : (Int × Option (Option (List UInt8))) × AtCursor :=
  match cur with
  | none => ((-1, none), none)
  | some s => ((0, some (nextTok (some s)).1), (nextTok (some s)).2)

def atTokHasmore (cur : AtCursor) : Bool := cur.any fun s => s ≠ []

/-- A call, for a number with what the variable holds before. -/
inductive AtKind
  | int (out : Int)
  | hexint (out : Int)
  | bool
  | str
  deriving DecidableEq, Repr

/-- What one of the calls returns and stores. -/
inductive AtValue
  | number (ret out : Int)
  | flag (ret : Int) (out : Option Int)
  | text (ret : Int) (out : Option (Option (List UInt8)))
  deriving DecidableEq, Repr

def AtKind.read (k : AtKind) (cur : AtCursor) : AtValue × AtCursor :=
  match k with
  | .int out =>
    (.number (atTokNextint cur out).1.ret (atTokNextint cur out).1.out, (atTokNextint cur out).2)
  | .hexint out =>
    (.number (atTokNexthexint cur out).1.ret (atTokNexthexint cur out).1.out,
      (atTokNexthexint cur out).2)
  | .bool => (.flag (atTokNextbool cur).1.1 (atTokNextbool cur).1.2, (atTokNextbool cur).2)
  | .str => (.text (atTokNextstr cur).1.1 (atTokNextstr cur).1.2, (atTokNextstr cur).2)

/-- The calls of a caller, one after the other. -/
def atTokRead : List AtKind → AtCursor → List AtValue × AtCursor
  | [], cur => ([], cur)
  | k :: ks, cur => ((k.read cur).1 :: (atTokRead ks (k.read cur).2).1, (atTokRead ks (k.read cur).2).2)

end EngPc
