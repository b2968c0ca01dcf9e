import EngPc.Model.UsbEvent
import EngPc.Proofs.PortEnable

/-!
# The events of the kernel

Of a message the parser keeps, for each key, the value of the last line that begins with it. The
flags for writing of the host's ports follow the last message that reports a state.
-/

namespace EngPc
open CString Terminated

/-- The value of the last of the lines with this key, empty if there is none. -/
def lastValue (key : List UInt8) (ls : List (List UInt8)) : List UInt8 :=
  match (ls.filter (key.isPrefixOf ·)).getLast? with
  | none => []
  | some line => line.drop key.length

def eventValue (key bytes : List UInt8) : List UInt8 := lastValue key (lines bytes)

/-- The texts that the pointers of an event point to. -/
structure Uevent.Holds (ev : Uevent) (ls : List (List UInt8)) : Prop where
  action : ∃ rest, ev.action = lastValue actionKey ls ++ 0 :: rest
  path : ∃ rest, ev.path = lastValue devpathKey ls ++ 0 :: rest
  subsystem : ∃ rest, ev.subsystem = lastValue subsystemKey ls ++ 0 :: rest
  usbConnect : ∃ rest, ev.usbConnect = lastValue usbStateKey ls ++ 0 :: rest

lemma Uevent.holds_init : Uevent.init.Holds [] :=
  ⟨⟨[], rfl⟩, ⟨[], rfl⟩, ⟨[], rfl⟩, ⟨[], rfl⟩⟩

lemma lastValue_snoc (key : List UInt8) (ls : List (List UInt8)) (line : List UInt8) :
    lastValue key (ls ++ [line]) =
      if key.isPrefixOf line then line.drop key.length else lastValue key ls := by
  rw [lastValue, List.filter_append]
  by_cases h : key.isPrefixOf line = true
  · simp [h]
  · simp [h, lastValue]

lemma zero_notMem_lastValue {key : List UInt8} {ls : List (List UInt8)} (h : ∀ line ∈ ls, 0 ∉ line) :
    0 ∉ lastValue key ls := by
  rw [lastValue]
  cases hlast : (ls.filter (key.isPrefixOf ·)).getLast? with
  | none => exact List.not_mem_nil
  | some line =>
    have hmem := List.mem_of_getLast? hlast
    rw [List.mem_filter] at hmem
    exact fun hzero => h line hmem.1 (List.mem_of_mem_drop hzero)

/-- Of two keys neither of which begins with the other, a line begins with one at most. -/
lemma isPrefixOf_unique {key key' line : List UInt8} (hkey : key.isPrefixOf key' = false)
    (hkey' : key'.isPrefixOf key = false) (h : key.isPrefixOf line = true) :
    key'.isPrefixOf line = false := by
  rw [Bool.eq_false_iff] at hkey hkey' ⊢
  intro h'
  have hboth := List.prefix_or_prefix_of_prefix (List.isPrefixOf_iff_prefix.mp h)
    (List.isPrefixOf_iff_prefix.mp h')
  exact hboth.elim (fun hp => hkey (List.isPrefixOf_iff_prefix.mpr hp))
    fun hp => hkey' (List.isPrefixOf_iff_prefix.mpr hp)

section Line

variable {line : List UInt8} (hline : 0 ∉ line) (rest : List UInt8)

include hline

lemma afterNul_drop {key : List UInt8} (h : key.isPrefixOf line = true) :
    afterNul ((line ++ 0 :: rest).drop key.length) = .ok rest := by
  rw [drop_line (List.isPrefixOf_iff_prefix.mp h).length_le]
  exact afterNul_line (fun hmem => hline (List.mem_of_mem_drop hmem)) rest

omit hline in
lemma drop_key {key : List UInt8} (h : key.isPrefixOf line = true) (ls : List (List UInt8)) :
    ∃ more, (line ++ 0 :: rest).drop key.length = lastValue key (ls ++ [line]) ++ 0 :: more := by
  rw [lastValue_snoc, if_pos h, drop_line (List.isPrefixOf_iff_prefix.mp h).length_le]
  exact ⟨rest, rfl⟩

omit hline in
lemma lastValue_kept {key : List UInt8} (h : key.isPrefixOf line = false) {p : List UInt8}
    {ls : List (List UInt8)} (hp : ∃ more, p = lastValue key ls ++ 0 :: more) :
    ∃ more, p = lastValue key (ls ++ [line]) ++ 0 :: more := by
  rw [lastValue_snoc, if_neg (by simp [h])]
  exact hp

/-- The pointer stays in the line, and the event gets the line's value under its key. -/
lemma parseKey_line {ev : Uevent} {ls : List (List UInt8)} (hev : ev.Holds ls) :
    ∃ p ev', parseKey (line ++ 0 :: rest) ev = .ok (p, ev') ∧ afterNul p = .ok rest ∧
      ev'.Holds (ls ++ [line]) := by
  have hread : ∀ key : List UInt8, 0 ∉ key →
      startsWith key (line ++ 0 :: rest) = .ok (key.isPrefixOf line) :=
    fun key hkey => startsWith_line hline rest hkey
  rw [parseKey, hread actionKey (by decide), hread devpathKey (by decide),
    hread subsystemKey (by decide), hread usbStateKey (by decide)]
  cases haction : actionKey.isPrefixOf line with
  | true =>
    exact ⟨_, _, rfl, afterNul_drop hline rest haction, drop_key rest haction ls,
      lastValue_kept (isPrefixOf_unique (by decide) (by decide) haction) hev.path,
      lastValue_kept (isPrefixOf_unique (by decide) (by decide) haction) hev.subsystem,
      lastValue_kept (isPrefixOf_unique (by decide) (by decide) haction) hev.usbConnect⟩
  | false =>
  have hactionKept := lastValue_kept haction hev.action
  cases hpath : devpathKey.isPrefixOf line with
  | true =>
    exact ⟨_, _, rfl, afterNul_drop hline rest hpath, hactionKept, drop_key rest hpath ls,
      lastValue_kept (isPrefixOf_unique (by decide) (by decide) hpath) hev.subsystem,
      lastValue_kept (isPrefixOf_unique (by decide) (by decide) hpath) hev.usbConnect⟩
  | false =>
  have hpathKept := lastValue_kept hpath hev.path
  cases hsub : subsystemKey.isPrefixOf line with
  | true =>
    exact ⟨_, _, rfl, afterNul_drop hline rest hsub, hactionKept, hpathKept,
      drop_key rest hsub ls,
      lastValue_kept (isPrefixOf_unique (by decide) (by decide) hsub) hev.usbConnect⟩
  | false =>
  have hsubKept := lastValue_kept hsub hev.subsystem
  cases husb : usbStateKey.isPrefixOf line with
  | true =>
    exact ⟨_, _, rfl, afterNul_drop hline rest husb, hactionKept, hpathKept, hsubKept,
      drop_key rest husb ls⟩
  | false =>
    exact ⟨_, _, rfl, afterNul_line hline rest, hactionKept, hpathKept, hsubKept,
      lastValue_kept husb hev.usbConnect⟩

end Line

/-- The invariant of the loop: the event holds the lines passed so far. -/
lemma parseLoop_lines {ls seen : List (List UInt8)} (hls : ∀ line ∈ ls, line ≠ [] ∧ 0 ∉ line)
    (rest : List UInt8) {ev : Uevent} (hev : ev.Holds seen) {fuel : Nat} (hfuel : ls.length < fuel) :
    ∃ ev', parseLoop fuel (ofLines ls ++ 0 :: rest) ev = .ok ev' ∧ ev'.Holds (seen ++ ls) := by
  induction ls generalizing seen ev fuel with
  | nil =>
    obtain ⟨fuel, rfl⟩ := Nat.exists_eq_succ_of_ne_zero hfuel.ne_bot
    exact ⟨ev, rfl, by rwa [List.append_nil]⟩
  | cons line ls ih =>
    obtain ⟨fuel, rfl⟩ := Nat.exists_eq_succ_of_ne_zero hfuel.ne_bot
    have hline := hls line List.mem_cons_self
    obtain ⟨p, ev₁, hkey, hafter, hev₁⟩ :=
      parseKey_line hline.2 (ofLines ls ++ 0 :: rest) hev
    obtain ⟨ev', hloop, hev'⟩ := ih (fun line hmem => hls line (List.mem_cons_of_mem _ hmem)) hev₁
      (Nat.lt_of_succ_lt_succ hfuel)
    have hstep : parseLoop (fuel + 1) (ofLines (line :: ls) ++ 0 :: rest) ev =
        parseLoop fuel (ofLines ls ++ 0 :: rest) ev₁ := by
      obtain ⟨c, line, rfl⟩ := List.exists_cons_of_ne_nil hline.1
      have hc : c ≠ 0 := fun h => hline.2 (h ▸ List.mem_cons_self)
      have hcons : ofLines ((c :: line) :: ls) ++ 0 :: rest =
          (c :: line) ++ 0 :: (ofLines ls ++ 0 :: rest) := by
        simp [ofLines]
      rw [hcons, List.cons_append, parseLoop, if_neg hc, ← List.cons_append, hkey]
      change (afterNul p >>= fun next => parseLoop fuel next ev₁) = _
      rw [hafter]
      rfl
    refine ⟨ev', hstep.trans hloop, ?_⟩
    rwa [← List.append_cons] at hev'

/-- Any message is parsed, and the event holds its lines. -/
theorem parseEvent_holds (bytes : List UInt8) :
    ∃ ev, parseEvent (bytes ++ [0, 0]) = .ok ev ∧ ev.Holds (lines bytes) := by
  obtain ⟨rest, hspec⟩ := lines_spec bytes
  have hfuel : (lines bytes).length < (bytes ++ [0, 0]).length := by
    rw [hspec, List.length_append, List.length_cons]
    have := length_le_ofLines (lines bytes)
    omega
  rw [parseEvent]
  have hlines := parseLoop_lines (fun line hmem => mem_lines hmem) rest Uevent.holds_init hfuel
  rwa [← hspec, List.nil_append] at hlines

/-- What a message says of the host: plugged in, pulled out, or nothing. -/
def plugged (bytes : List UInt8) : Option Bool :=
  if bytes = [] ∨ ueventMsgLen ≤ bytes.length then none
  else if configured.isPrefixOf (eventValue usbStateKey bytes) then some true
  else if disconnected.isPrefixOf (eventValue usbStateKey bytes) then some false
  else none

section Flags

variable {π : Type} [DecidableEq π] (mgr : CDevMgr π)

/-- The notification of a message, as an operation on the flags. -/
def notification : Option Bool → UeventMsg
  | some true => .usbConnect
  | some false => .usbDisconnect
  | none => .usbUnknown

lemma notify_usbUnknown (flags : PortFlags π) : mgr.notify .usbUnknown flags = flags := by
  unfold CDevMgr.notify
  cases devFind mgr.devList devHostName <;> rfl

lemma handleMessage_eq (flags : PortFlags π) (bytes : List UInt8) :
    handleMessage mgr flags bytes = .ok (mgr.notify (notification (plugged bytes)) flags) := by
  rw [handleMessage, plugged]
  by_cases hsize : bytes = [] ∨ ueventMsgLen ≤ bytes.length
  · rw [if_pos hsize, if_pos hsize]
    exact congrArg Except.ok (notify_usbUnknown mgr flags).symm
  rw [if_neg hsize, if_neg hsize]
  obtain ⟨ev, hparse, hev⟩ := parseEvent_holds bytes
  obtain ⟨rest, husb⟩ := hev.usbConnect
  have hzero : 0 ∉ lastValue usbStateKey (lines bytes) :=
    zero_notMem_lastValue fun line hmem => (mem_lines hmem).2
  rw [hparse]
  change handleDeviceEvent mgr ev flags = _
  rw [handleDeviceEvent, husb, startsWith_line hzero rest (by decide),
    startsWith_line hzero rest (by decide), ← eventValue]
  cases configured.isPrefixOf (eventValue usbStateKey bytes) with
  | true => rfl
  | false =>
    cases disconnected.isPrefixOf (eventValue usbStateKey bytes) with
    | true => rfl
    | false => exact congrArg Except.ok (notify_usbUnknown mgr flags).symm

lemma handleMessages_eq (flags : PortFlags π) (msgs : List (List UInt8)) :
    handleMessages mgr flags msgs = .ok
      ((msgs.map fun bytes => EnableOp.usb (notification (plugged bytes))).foldl
        (EnableOp.apply mgr) flags) := by
  induction msgs generalizing flags with
  | nil => rfl
  | cons bytes msgs ih =>
    rw [handleMessages, handleMessage_eq]
    exact ih _

/-- The ports that the notifications are about. -/
def hostPort (port : π) : Prop :=
  ∃ host, devFind mgr.devList devHostName = some host ∧ port ∈ host.activePorts

variable {mgr}

lemma effect_usb_of_host {port : π} (hport : hostPort mgr port) (msg : UeventMsg)
    (old : PortEnable) : (EnableOp.usb msg).effect mgr port old = ⟨old.rd, msg.wr old.wr⟩ := by
  obtain ⟨host, hfind, hmem⟩ := hport
  exact EnableOp.effect_of_mem mgr old hfind hmem

lemma foldl_usb_of_host {port : π} (hport : hostPort mgr port) (states : List (Option Bool))
    (old : PortEnable) :
    (states.map fun state => EnableOp.usb (notification state)).foldl
        (EnableOp.effect mgr port) old =
      ⟨old.rd, (states.filterMap id).getLast?.getD old.wr⟩ := by
  induction states generalizing old with
  | nil => rfl
  | cons state states ih =>
    rw [List.map_cons, List.foldl_cons, effect_usb_of_host hport, ih]
    cases state with
    | none => rfl
    | some on => cases on <;> simp [notification, UeventMsg.wr, List.getLast?_cons]

variable (mgr)

/-- Every message is parsed inside its buffer into the last values before its first empty line. After
any messages, the active ports of the host are open for writing as the last message that told of
the host said, and no other flag has changed. -/
theorem usb_events_followed :
    (∀ bytes, ∃ ev, parseEvent (bytes ++ [0, 0]) = .ok ev ∧
      text ev.action = eventValue actionKey bytes ∧ text ev.path = eventValue devpathKey bytes ∧
      text ev.subsystem = eventValue subsystemKey bytes ∧
      text ev.usbConnect = eventValue usbStateKey bytes) ∧
    ∀ (msgs : List (List UInt8)) (flags : PortFlags π),
      ∃ flags', handleMessages mgr flags msgs = .ok flags' ∧ ∀ port,
        (flags' port).rd = (flags port).rd ∧
        (hostPort mgr port →
          (flags' port).wr = (msgs.filterMap plugged).getLast?.getD (flags port).wr) ∧
        (¬ hostPort mgr port → (flags' port).wr = (flags port).wr) := by
  constructor
  · intro bytes
    obtain ⟨ev, hparse, ⟨_, haction⟩, ⟨_, hpath⟩, ⟨_, hsub⟩, ⟨_, husb⟩⟩ := parseEvent_holds bytes
    have hzero : ∀ key, 0 ∉ lastValue key (lines bytes) :=
      fun key => zero_notMem_lastValue fun line hmem => (mem_lines hmem).2
    refine ⟨ev, hparse, ?_, ?_, ?_, ?_⟩
    · rw [haction, text_line (hzero _), eventValue]
    · rw [hpath, text_line (hzero _), eventValue]
    · rw [hsub, text_line (hzero _), eventValue]
    · rw [husb, text_line (hzero _), eventValue]
  · intro msgs flags
    refine ⟨_, handleMessages_eq mgr flags msgs, fun port => ?_⟩
    rw [foldl_apply_eq_effect]
    by_cases hport : hostPort mgr port
    · have hfold := foldl_usb_of_host hport (msgs.map plugged) (flags port)
      rw [List.map_map, List.filterMap_map] at hfold
      have hall : (msgs.map fun bytes => EnableOp.usb (notification (plugged bytes))).foldl
          (EnableOp.effect mgr port) (flags port) =
          ⟨(flags port).rd, (msgs.filterMap plugged).getLast?.getD (flags port).wr⟩ := hfold
      rw [hall]
      exact ⟨rfl, fun _ => rfl, fun hout => absurd hport hout⟩
    · rw [foldl_effect_of_notMem mgr _ (flags port)]
      · exact ⟨rfl, fun hin => absurd hin hport, fun _ => rfl⟩
      · intro op hop dev hdev hmem
        obtain ⟨bytes, -, rfl⟩ := List.mem_map.mp hop
        exact hport ⟨dev, hdev, hmem⟩

end Flags

end EngPc
