import EngPc.Lib.Block
import EngPc.Model.AtCommands

/-!
# The property commands

Both handlers look for one character after the other and follow what they find, so they crash where
one is missing. Of the command only the first character is compared.
-/

namespace EngPc
open CString

/-- The end of a line or of a frame, or nothing. -/
def EndOfRequest (rest : List UInt8) : Prop := ∀ c ∈ rest, c = 0x0d ∨ c = 0x0a ∨ c = 0x7e

/-- `0,[key]` behind the first `=`. -/
def GetForm (text key : List UInt8) : Prop :=
  ∃ front rest, text = front ++ 0x3d :: 0x30 :: 0x2c :: 0x5b :: (key ++ 0x5d :: rest) ∧
    0x3d ∉ front ∧ 0x5d ∉ key ∧ EndOfRequest rest

/-- `1,[key][val]` behind the first `=`. -/
def SetForm (text key val : List UInt8) : Prop :=
  ∃ front rest,
    text = front ++ 0x3d :: 0x31 :: 0x2c :: 0x5b :: (key ++ 0x5d :: 0x5b :: (val ++ 0x5d :: rest)) ∧
      0x3d ∉ front ∧ 0x5d ∉ key ∧ 0x5d ∉ val ∧ EndOfRequest rest

/-- What a handler is to do with a text. -/
structure PropRight (props : List UInt8 → List UInt8) (text : List UInt8) (r : PropOut) : Prop where
  set : ∀ key val, SetForm text key val → r.sets = [(key, val)]
  get : ∀ key, GetForm text key → ∃ reply, r.rsp = some reply ∧ propertyGet props key <:+: reply
  unchanged : (¬∃ key val, SetForm text key val) → r.sets = []
  rejected : (¬∃ key, GetForm text key) → (¬∃ key val, SetForm text key val) → r.rsp = none

/-- The texts that are handled as they should be: those of the two forms, and those with a comma
behind the first `=` that either no bracket follows, or a bracket that is closed and a command that
does not begin with `0` or `1`. -/
inductive PropFine (text : List UInt8) : Prop
  | get (key : List UInt8) (h : GetForm text key)
  | set (key val : List UInt8) (h : SetForm text key val)
  | noKey (front cmd rest : List UInt8) (h : text = front ++ 0x3d :: (cmd ++ 0x2c :: rest))
      (hfront : 0x3d ∉ front) (hcmd : 0x2c ∉ cmd) (hrest : rest.head? ≠ some 0x5b)
  | noCommand (front cmd key rest : List UInt8)
      (h : text = front ++ 0x3d :: (cmd ++ 0x2c :: 0x5b :: (key ++ 0x5d :: rest)))
      (hfront : 0x3d ∉ front) (hcmd : 0x2c ∉ cmd) (hkey : 0x5d ∉ key)
      (hcommand : cmd.head? ≠ some 0x30 ∧ cmd.head? ≠ some 0x31)

lemma strchr_append {c : UInt8} {a : List UInt8} (h : c ∉ a) (b : List UInt8) :
    strchr (a ++ c :: b) c = .ok (c :: b) := by
  have hdrop : (a ++ c :: b).dropWhile (· ≠ c) = c :: b := by
    rw [List.dropWhile_append_of_pos, List.dropWhile_cons_of_neg (by simp)]
    intro x hx
    have hne : x ≠ c := fun heq => h (heq ▸ hx)
    simpa using hne
  rw [strchr, hdrop]

lemma strchr_error {c : UInt8} {s : List UInt8} (h : c ∉ s) :
    strchr s c = .error .nullPointer := by
  have hdrop : s.dropWhile (· ≠ c) = [] := by
    rw [List.dropWhile_eq_nil_iff]
    intro x hx
    have hne : x ≠ c := fun heq => h (heq ▸ hx)
    simpa using hne
  rw [strchr, hdrop]

lemma takeWhile_append_first {c : UInt8} {a : List UInt8} (h : c ∉ a) (b : List UInt8) :
    (a ++ c :: b).takeWhile (· ≠ c) = a := by
  rw [takeWhile_ne_append h, List.takeWhile_cons_of_neg (by simp), List.append_nil]

/-- How far the searches come in a text. -/
inductive PropText (text : List UInt8) : Prop
  | noEq (h : 0x3d ∉ text)
  | noComma (front rest : List UInt8) (h : text = front ++ 0x3d :: rest) (hfront : 0x3d ∉ front)
      (hrest : 0x2c ∉ rest)
  | noKey (front cmd rest : List UInt8) (h : text = front ++ 0x3d :: (cmd ++ 0x2c :: rest))
      (hfront : 0x3d ∉ front) (hcmd : 0x2c ∉ cmd) (hrest : rest.head? ≠ some 0x5b)
  | openKey (front cmd rest : List UInt8) (h : text = front ++ 0x3d :: (cmd ++ 0x2c :: 0x5b :: rest))
      (hfront : 0x3d ∉ front) (hcmd : 0x2c ∉ cmd) (hrest : 0x5d ∉ rest)
  | key (front cmd key rest : List UInt8)
      (h : text = front ++ 0x3d :: (cmd ++ 0x2c :: 0x5b :: (key ++ 0x5d :: rest)))
      (hfront : 0x3d ∉ front) (hcmd : 0x2c ∉ cmd) (hkey : 0x5d ∉ key)

lemma propText (text : List UInt8) : PropText text := by
  by_cases heq : 0x3d ∈ text
  · obtain ⟨front, rest, rfl, hfront⟩ := List.eq_append_cons_of_mem heq
    by_cases hcomma : 0x2c ∈ rest
    · obtain ⟨cmd, rest, rfl, hcmd⟩ := List.eq_append_cons_of_mem hcomma
      by_cases hopen : rest.head? = some 0x5b
      · obtain ⟨rest, rfl⟩ := List.head?_eq_some_iff.mp hopen
        by_cases hclose : 0x5d ∈ rest
        · obtain ⟨key, rest, rfl, hkey⟩ := List.eq_append_cons_of_mem hclose
          exact .key front cmd key rest rfl hfront hcmd hkey
        · exact .openKey front cmd rest rfl hfront hcmd hclose
      · exact .noKey front cmd rest rfl hfront hcmd hopen
    · exact .noComma front rest rfl hfront hcomma
  · exact .noEq heq

section Command

variable {props : List UInt8 → List UInt8}
  {set : List UInt8 → List UInt8 → Except PropFault PropOut} {front cmd key rest : List UInt8}

lemma propCommand_noEq {text : List UInt8} (h : 0x3d ∉ text) :
    propCommand props set text = .error .nullPointer := by
  rw [propCommand, strchr_error h]
  rfl

lemma propCommand_noComma (hfront : 0x3d ∉ front) (hrest : 0x2c ∉ rest) :
    propCommand props set (front ++ 0x3d :: rest) = .error .nullPointer := by
  rw [propCommand, strchr_append hfront, Except.ok_bind, List.tail_cons, strchr_error hrest]
  rfl

lemma propCommand_noKey (hfront : 0x3d ∉ front) (hcmd : 0x2c ∉ cmd)
    (hrest : rest.head? ≠ some 0x5b) :
    propCommand props set (front ++ 0x3d :: (cmd ++ 0x2c :: rest)) = .ok ⟨-1, none, []⟩ := by
  rw [propCommand, strchr_append hfront, Except.ok_bind, List.tail_cons, strchr_append hcmd,
    Except.ok_bind, List.tail_cons, if_pos hrest]
  rfl

lemma propCommand_openKey (hfront : 0x3d ∉ front) (hcmd : 0x2c ∉ cmd) (hrest : 0x5d ∉ rest) :
    propCommand props set (front ++ 0x3d :: (cmd ++ 0x2c :: 0x5b :: rest)) =
      .error .nullPointer := by
  rw [propCommand, strchr_append hfront, Except.ok_bind, List.tail_cons, strchr_append hcmd,
    Except.ok_bind, List.tail_cons, if_neg (by simp), List.tail_cons]
  dsimp only
  rw [strchr_error hrest]
  rfl

/-- The command is told by its first character, which is the comma if there is no other. -/
lemma propCommand_key (hfront : 0x3d ∉ front) (hcmd : 0x2c ∉ cmd) (hkey : 0x5d ∉ key) :
    propCommand props set (front ++ 0x3d :: (cmd ++ 0x2c :: 0x5b :: (key ++ 0x5d :: rest))) =
      if cmd.head? = some 0x30 then .ok ⟨0, some (propGetReply (propertyGet props key)), []⟩
      else if cmd.head? = some 0x31 then set key rest
      else .ok ⟨0, none, []⟩ := by
  rw [propCommand, strchr_append hfront, Except.ok_bind, List.tail_cons, strchr_append hcmd,
    Except.ok_bind, List.tail_cons, if_neg (by simp), List.tail_cons]
  dsimp only
  rw [strchr_append hkey, Except.ok_bind, List.tail_cons, takeWhile_append_first hkey]
  cases cmd with
  | nil => rfl
  | cons c cmd =>
    simp only [List.cons_append, List.headD_cons, List.head?_cons, Option.some.injEq]
    rfl

end Command

lemma setProperty_first {key val : List UInt8} (hval : 0x5d ∉ val) (rest : List UInt8) :
    setProperty key (val ++ 0x5d :: rest) = .ok ⟨0, some (propSetReply key val), [(key, val)]⟩ := by
  rw [setProperty, strchr_append hval, Except.ok_bind, takeWhile_append_first hval]
  rfl

lemma setProperty_sets {key ptrVal : List UInt8} {r : PropOut} (h : setProperty key ptrVal = .ok r) :
    r.sets ≠ [] := by
  by_cases hclose : 0x5d ∈ ptrVal
  · obtain ⟨val, rest, rfl, hval⟩ := List.eq_append_cons_of_mem hclose
    rw [setProperty_first hval] at h
    cases h
    exact List.cons_ne_nil _ _
  · rw [setProperty, strchr_error hclose] at h
    cases h

lemma infix_propGetReply (buf : List UInt8) : buf <:+: propGetReply buf := by
  unfold propGetReply
  split_ifs
  · exact ⟨engStrend, engStrend, rfl⟩
  · exact ⟨engStrend ++ [0x5b], [0x5d] ++ engStrend, by simp⟩

section Forms

variable {front cmd rest key val : List UInt8} (hfront : 0x3d ∉ front) (hcmd : 0x2c ∉ cmd)

include hfront hcmd

/-- A text that is cut at its `=` and its comma has the command of its form in between. -/
lemma cut_unique {front' rest' : List UInt8} {c : UInt8} (hfront' : 0x3d ∉ front') (hc : c ≠ 0x2c)
    (h : front ++ 0x3d :: (cmd ++ 0x2c :: rest) = front' ++ 0x3d :: c :: 0x2c :: rest') :
    cmd = [c] ∧ rest = rest' := by
  obtain ⟨-, htail⟩ := first_unique h hfront hfront'
  have hsingle : (0x2c : UInt8) ∉ [c] := by
    rw [List.mem_singleton]
    exact hc.symm
  exact first_unique (show cmd ++ 0x2c :: rest = [c] ++ 0x2c :: rest' from htail) hcmd hsingle

lemma GetForm.cut (h : GetForm (front ++ 0x3d :: (cmd ++ 0x2c :: rest)) key) :
    cmd = [0x30] ∧ 0x5d ∉ key ∧ ∃ rest', rest = 0x5b :: (key ++ 0x5d :: rest') := by
  obtain ⟨front', rest', heq, hfront', hkey, -⟩ := h
  obtain ⟨hcommand, hrest⟩ := cut_unique hfront hcmd hfront' (by decide) heq
  exact ⟨hcommand, hkey, rest', hrest⟩

lemma SetForm.cut (h : SetForm (front ++ 0x3d :: (cmd ++ 0x2c :: rest)) key val) :
    cmd = [0x31] ∧ 0x5d ∉ key ∧ 0x5d ∉ val ∧
      ∃ rest', rest = 0x5b :: (key ++ 0x5d :: 0x5b :: (val ++ 0x5d :: rest')) := by
  obtain ⟨front', rest', heq, hfront', hkey, hval, -⟩ := h
  obtain ⟨hcommand, hrest⟩ := cut_unique hfront hcmd hfront' (by decide) heq
  exact ⟨hcommand, hkey, hval, rest', hrest⟩

end Forms

lemma propRight_of_neither {props : List UInt8 → List UInt8} {text : List UInt8} {ret : Int}
    (hget : ∀ key, ¬GetForm text key) (hset : ∀ key val, ¬SetForm text key val) :
    PropRight props text ⟨ret, none, []⟩ where
  set key val h := absurd h (hset key val)
  get key h := absurd h (hget key)
  unchanged _ := rfl
  rejected _ _ := rfl

lemma propRight_get (props : List UInt8 → List UInt8) {text key : List UInt8}
    (h : GetForm text key) :
    PropRight props text ⟨0, some (propGetReply (propertyGet props key)), []⟩ := by
  have hget := h
  obtain ⟨front, rest, rfl, hfront, hkey, -⟩ := h
  have hcomma : (0x2c : UInt8) ∉ [0x30] := by decide
  have hnot : ∀ key' val, ¬SetForm (front ++ 0x3d :: ([0x30] ++ 0x2c :: 0x5b :: (key ++ 0x5d :: rest)))
      key' val := by
    intro key' val hset
    exact absurd (SetForm.cut hfront hcomma hset).1 (by decide)
  constructor
  · exact fun key' val hset => absurd hset (hnot key' val)
  · intro key' hget
    obtain ⟨-, hkey', rest', heq⟩ :=
      GetForm.cut hfront hcomma
        (show GetForm (front ++ 0x3d :: ([0x30] ++ 0x2c :: 0x5b :: (key ++ 0x5d :: rest))) key' from hget)
    obtain ⟨rfl, -⟩ := first_unique (List.cons.inj heq).2 hkey hkey'
    exact ⟨_, rfl, infix_propGetReply _⟩
  · exact fun _ => rfl
  · exact fun hno _ => absurd ⟨key, hget⟩ hno

lemma propRight_set (props : List UInt8 → List UInt8) {text key val : List UInt8}
    (h : SetForm text key val) :
    PropRight props text ⟨0, some (propSetReply key val), [(key, val)]⟩ := by
  have hset := h
  obtain ⟨front, rest, rfl, hfront, hkey, hval, -⟩ := h
  have hcomma : (0x2c : UInt8) ∉ [0x31] := by decide
  constructor
  · intro key' val' hset'
    obtain ⟨-, hkey', hval', rest', heq⟩ := SetForm.cut hfront hcomma
      (show SetForm (front ++ 0x3d :: ([0x31] ++ 0x2c ::
        0x5b :: (key ++ 0x5d :: 0x5b :: (val ++ 0x5d :: rest)))) key' val' from hset')
    obtain ⟨rfl, hrest⟩ := first_unique (List.cons.inj heq).2 hkey hkey'
    obtain ⟨rfl, -⟩ := first_unique (List.cons.inj hrest).2 hval hval'
    rfl
  · intro key' hget
    have hcut := GetForm.cut hfront hcomma
      (show GetForm (front ++ 0x3d :: ([0x31] ++ 0x2c ::
        0x5b :: (key ++ 0x5d :: 0x5b :: (val ++ 0x5d :: rest)))) key' from hget)
    exact absurd hcut.1 (by decide)
  · exact fun hno => absurd ⟨key, val, hset⟩ hno
  · exact fun _ hno => absurd ⟨key, val, hset⟩ hno

/-- Where the handler that goes on behind the missing bracket gets a right result, the text is fine. -/
lemma propFine_of_right {props : List UInt8 → List UInt8} {buff : Buffer UInt8} {r : PropOut}
    (hget : getPropHandle props buff = .ok r) (hright : PropRight props (requestText buff) r) :
    PropFine (requestText buff) := by
  unfold getPropHandle at hget
  generalize requestText buff = text at hget hright ⊢
  cases propText text with
  | noEq h =>
    rw [propCommand_noEq h] at hget
    cases hget
  | noComma front rest h hfront hrest =>
    rw [h, propCommand_noComma hfront hrest] at hget
    cases hget
  | noKey front cmd rest h hfront hcmd hrest => exact .noKey front cmd rest h hfront hcmd hrest
  | openKey front cmd rest h hfront hcmd hrest =>
    rw [h, propCommand_openKey hfront hcmd hrest] at hget
    cases hget
  | key front cmd key rest h hfront hcmd hkey =>
    rw [h, propCommand_key hfront hcmd hkey] at hget
    by_cases hzero : cmd.head? = some 0x30
    · -- what is replied to must be of one of the forms
      rw [if_pos hzero] at hget
      cases hget
      by_contra hfine
      have hrsp := hright.rejected (fun ⟨key, h⟩ => hfine (.get key h))
        fun ⟨key, val, h⟩ => hfine (.set key val h)
      cases hrsp
    · rw [if_neg hzero] at hget
      by_cases hone : cmd.head? = some 0x31
      · -- what sets a property must be of the second form
        rw [if_pos hone] at hget
        have hsets : r.sets ≠ [] := by
          cases rest with
          | nil => cases hget
          | cons c ptrVal => exact setProperty_sets hget
        by_contra hfine
        exact hsets (hright.unchanged fun ⟨key, val, h⟩ => hfine (.set key val h))
      · exact .noCommand front cmd key rest h hfront hcmd hkey ⟨hzero, hone⟩

lemma right_of_propFine (props : List UInt8 → List UInt8) {buff : Buffer UInt8}
    (h : PropFine (requestText buff)) : ∃ r, getPropHandle props buff = .ok r ∧
      propHandler props buff = .ok r ∧ PropRight props (requestText buff) r := by
  unfold getPropHandle propHandler
  generalize requestText buff = text at h ⊢
  cases h with
  | get key h =>
    have hright := propRight_get props h
    obtain ⟨front, rest, rfl, hfront, hkey, -⟩ := h
    have hrun := fun set => @propCommand_key props set front [0x30] key rest hfront (by decide) hkey
    exact ⟨_, hrun _, hrun _, hright⟩
  | set key val h =>
    have hright := propRight_set props h
    obtain ⟨front, rest, rfl, hfront, hkey, hval, -⟩ := h
    have hrun := fun set => @propCommand_key props set front [0x31] key
      (0x5b :: (val ++ 0x5d :: rest)) hfront (by decide) hkey
    exact ⟨_, (hrun _).trans (setProperty_first hval rest),
      (hrun _).trans (setProperty_first hval rest), hright⟩
  | noKey front cmd rest h hfront hcmd hrest =>
    subst h
    have hnot : ∀ rest' : List UInt8, rest ≠ 0x5b :: rest' := by
      rintro rest' rfl
      exact hrest rfl
    refine ⟨_, propCommand_noKey hfront hcmd hrest, propCommand_noKey hfront hcmd hrest,
      propRight_of_neither (fun key hget => ?_) fun key val hset => ?_⟩
    · obtain ⟨-, -, rest', heq⟩ := hget.cut hfront hcmd
      exact hnot _ heq
    · obtain ⟨-, -, -, rest', heq⟩ := hset.cut hfront hcmd
      exact hnot _ heq
  | noCommand front cmd key rest h hfront hcmd hkey hcommand =>
    subst h
    have hrun := fun set => @propCommand_key props set front cmd key rest hfront hcmd hkey
    simp only [if_neg hcommand.1, if_neg hcommand.2] at hrun
    refine ⟨_, hrun _, hrun _,
      propRight_of_neither (fun key hget => ?_) fun key val hset => ?_⟩
    · apply hcommand.1
      rw [(hget.cut hfront hcmd).1]
      rfl
    · apply hcommand.2
      rw [(hset.cut hfront hcmd).1]
      rfl

/-- **Both handlers do what they should with the same result exactly on the texts of the two forms
and on those that their searches leave early.** Everywhere else one of them crashes, takes a command
by its first character only, or goes on behind an error or text that does not belong there. -/
theorem prop_commands_right_iff (props : List UInt8 → List UInt8) (buff : Buffer UInt8) :
    (∃ r, getPropHandle props buff = .ok r ∧ propHandler props buff = .ok r ∧
      PropRight props (requestText buff) r) ↔ PropFine (requestText buff) := by
  constructor
  · rintro ⟨r, hget, -, hright⟩
    exact propFine_of_right hget hright
  · exact right_of_propFine props

/-- A request of an AT port, in cleared memory. -/
def textRequest (s : String) : Buffer UInt8 := Buffer.fill (fun _ => 0) 0 (ofString s)

/-- No property is set. -/
def noProps : List UInt8 → List UInt8 := fun _ => []

/-- No `=`; no bracket before the value, which only one of the two takes; a command that is no `1`; a
text that goes on behind its last bracket. -/
theorem prop_commands_diverge :
    propHandler noProps (textRequest "AT+PROP") = .error .nullPointer ∧
      getPropHandle noProps (textRequest "AT+PROP=1,[a]xb]") =
        .ok ⟨0, some (propSetReply (ofString "a") (ofString "b")), [(ofString "a", ofString "b")]⟩ ∧
      propHandler noProps (textRequest "AT+PROP=1,[a]xb]") = .ok ⟨-1, none, []⟩ ∧
      propHandler noProps (textRequest "AT+PROP=12,[a][b]") =
        .ok ⟨0, some (propSetReply (ofString "a") (ofString "b")), [(ofString "a", ofString "b")]⟩ ∧
      propHandler noProps (textRequest "AT+PROP=1,[a][b]x") =
        .ok ⟨0, some (propSetReply (ofString "a") (ofString "b")), [(ofString "a", ofString "b")]⟩ ∧
      ¬∃ r, getPropHandle noProps (textRequest "AT+PROP=1,[a]xb]") = .ok r ∧
        propHandler noProps (textRequest "AT+PROP=1,[a]xb]") = .ok r ∧
        PropRight noProps (requestText (textRequest "AT+PROP=1,[a]xb]")) r := by
  refine ⟨rfl, rfl, rfl, rfl, rfl, ?_⟩
  rintro ⟨r, hget, hprop, -⟩
  cases hget
  cases hprop

end EngPc
