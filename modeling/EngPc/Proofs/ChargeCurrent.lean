import EngPc.Model.ChargeCurrent

/-!
# Setting the charge current

The text of the current and its zero have to fit into five bytes, and five bytes are written whatever
its length is. The exact condition under which nothing goes wrong, for both ways to read a file: all
bytes that it has received, or those in front of the first zero.
-/

namespace EngPc
open Buffer CString LittleEndian

/-- A charger of which both files were written. -/
def ChargeComplete (written : List ChargeWritten) : Prop :=
  ∃ charger, (∃ w ∈ written, w.node = .inputLimit ∧ w.charger = charger) ∧
    ∃ w ∈ written, w.node = .current ∧ w.charger = charger

/-- No byte outside of the text buffer is written, each file has received the current, and the status
is 0 only when a charger is complete. -/
def ChargeKept (view : List UInt8 → List UInt8) (files : ChargeFiles) (stack buf rsp : Buffer UInt8) :
    Prop :=
  (engDiagSetChargeCurrent files stack (some buf) rsp).Succeeds fun o =>
    (∀ w ∈ o.written, view w.bytes = printInt (requestedCurrent buf)) ∧
    (le16 o.rsp 9 = 0 → ChargeComplete o.written)

/-- The files for the two values, where a write is as good as it takes so many bytes. -/
def ChargeFilesFit (good : Nat → Prop) (files : ChargeFiles) : Prop :=
  match openCharger files .inputLimit, openCharger files .current with
  | some (_, .failed), _ => True
  | some (_, .took n), some (_, .failed) => good n
  | some (charger, .took n), some (charger', .took n') => good n ∧ good n' ∧ charger = charger'
  | some (_, .took _), none => False
  | none, some (_, .failed) => True
  | none, _ => False

section Text

variable {stack : Buffer UInt8} {cur : Int} {n : Nat} {rest : List UInt8}

lemma length_printInt_iff : (printInt cur).length ≤ 4 ↔ -999 ≤ cur ∧ cur ≤ 9999 := by
  rw [printInt]
  split_ifs with hneg
  · rw [List.length_cons, Nat.add_le_add_iff_right, show 3 = 2 + 1 from rfl, length_decimal_iff]
    omega
  · rw [show 4 = 3 + 1 from rfl, length_decimal_iff]
    omega

lemma write_text (h : (printInt cur).length ≤ 4) : ∃ rest current,
    (⟨stack, chargeTextLen⟩ : Block UInt8).write 0 (printInt cur ++ [0]) = .ok current ∧
      current.read 0 5 = .ok (printInt cur ++ 0 :: rest) := by
  have hlen : (printInt cur ++ [0]).length = (printInt cur).length + 1 := List.length_append
  have hsize : (⟨stack, chargeTextLen⟩ : Block UInt8).size = 5 := rfl
  have hroom : (⟨stack, chargeTextLen⟩ : Block UInt8).Holds 0 (printInt cur ++ [0]).length :=
    Block.holds_of_le (by omega)
  refine ⟨(stack.fill 0 (printInt cur ++ [0])).load ((printInt cur).length + 1)
    (4 - (printInt cur).length), _, Block.write_eq hroom, ?_⟩
  rw [Block.read_eq (Block.holds_of_le (Nat.zero_add 5).le),
    show 5 = (printInt cur).length + 1 + (4 - (printInt cur).length) by omega, load_add,
    load_fill_of_length _ _ hlen, Nat.zero_add, List.append_assoc]
  rfl

lemma write_text_error (h : ¬(printInt cur).length ≤ 4) :
    (⟨stack, chargeTextLen⟩ : Block UInt8).write 0 (printInt cur ++ [0]) =
      .error ⟨0, (printInt cur ++ [0]).length⟩ := by
  have hlen : (printInt cur ++ [0]).length = (printInt cur).length + 1 := List.length_append
  have hsize : (⟨stack, chargeTextLen⟩ : Block UInt8).size = 5 := rfl
  refine Block.write_error ?_
  rintro (hzero | hroom)
  · omega
  · omega

/-- All bytes of a write are the text when it takes no more and no less. -/
lemma take_text_iff (t rest : List UInt8) : (t ++ 0 :: rest).take n = t ↔ n = t.length := by
  constructor
  · intro h
    have hlen := congrArg List.length h
    rw [List.length_take, List.length_append, List.length_cons] at hlen
    omega
  · rintro rfl
    exact List.take_left' rfl

lemma take_text_view_iff {t : List UInt8} (ht : 0 ∉ t) (rest : List UInt8) :
    ((t ++ 0 :: rest).take n).takeWhile (· ≠ 0) = t ↔ t.length ≤ n := by
  constructor
  · intro h
    have hlen := (List.takeWhile_prefix (· ≠ 0) (l := (t ++ 0 :: rest).take n)).length_le
    rw [h, List.length_take] at hlen
    omega
  · intro h
    obtain ⟨k, rfl⟩ := Nat.exists_eq_add_of_le h
    rw [List.take_append, List.take_of_length_le h, Nat.add_sub_cancel_left, takeWhile_ne_append ht]
    cases k with
    | zero => exact List.append_nil t
    | succ k => rw [List.take_succ_cons, List.takeWhile_cons_of_neg (by decide), List.append_nil]

end Text

section Files

variable {files : ChargeFiles} {stack buf rsp : Buffer UInt8} {cur : Int}

lemma not_chargeComplete_nil : ¬ChargeComplete [] := by
  rintro ⟨charger, ⟨w, hw, -⟩, -⟩
  cases hw

lemma not_chargeComplete_singleton (w : ChargeWritten) : ¬ChargeComplete [w] := by
  rintro ⟨charger, ⟨w₁, hw₁, hlimit, -⟩, ⟨w₂, hw₂, hcurrent, -⟩⟩
  rw [List.mem_singleton] at hw₁ hw₂
  rw [hw₁] at hlimit
  rw [hw₂, hlimit] at hcurrent
  cases hcurrent

/-- A charger is complete where one file of each kind was written, if both are its own. -/
lemma chargeComplete_two {charger charger' : Charger} {bytes bytes' : List UInt8} :
    ChargeComplete [⟨.inputLimit, charger, bytes⟩, ⟨.current, charger', bytes'⟩] ↔
      charger = charger' := by
  constructor
  · rintro ⟨c, ⟨w₁, hw₁, hlimit, rfl⟩, ⟨w₂, hw₂, hcurrent, heq⟩⟩
    rcases List.mem_pair.mp hw₁ with rfl | rfl
    · rcases List.mem_pair.mp hw₂ with rfl | rfl
      · cases hcurrent
      · exact heq.symm
    · cases hlimit
  · rintro rfl
    exact ⟨charger, ⟨_, List.mem_cons_self, rfl, rfl⟩,
      ⟨_, List.mem_cons_of_mem _ List.mem_cons_self, rfl, rfl⟩⟩

lemma apSetChargeCurrent_iff {view : List UInt8 → List UInt8} {good : Nat → Prop}
    (h : (printInt cur).length ≤ 4)
    (hgood : ∀ n rest, view ((printInt cur ++ 0 :: rest).take n) = printInt cur ↔ good n) :
    ((apSetChargeCurrent files stack cur).Succeeds fun r =>
      (∀ w ∈ r.written, view w.bytes = printInt cur) ∧ (r.ret = 0 → ChargeComplete r.written)) ↔
    ChargeFilesFit good files := by
  obtain ⟨rest, current, hwrite, hread⟩ := @write_text stack cur h
  rw [apSetChargeCurrent, hwrite, Except.ok_bind]
  unfold writeCurrent ChargeFilesFit
  rcases openCharger files .inputLimit with - | ⟨charger, - | n⟩ <;>
    rcases openCharger files .current with - | ⟨charger', - | n'⟩ <;>
    simp [hread, hgood, pure, Except.pure, not_chargeComplete_nil, not_chargeComplete_singleton,
      chargeComplete_two, and_assoc]

lemma apSetChargeCurrent_error (h : ¬(printInt cur).length ≤ 4) :
    apSetChargeCurrent files stack cur = .error ⟨0, (printInt cur ++ [0]).length⟩ := by
  rw [apSetChargeCurrent, write_text_error h, Except.error_bind]

lemma apSetChargeCurrent_ret {r : ChargeSet} (h : apSetChargeCurrent files stack cur = .ok r) :
    r.ret = 0 ∨ r.ret = -1 := by
  unfold apSetChargeCurrent at h
  cases hwrite : (⟨stack, chargeTextLen⟩ : Block UInt8).write 0 (printInt cur ++ [0]) with
  | error e =>
    rw [hwrite] at h
    cases h
  | ok current =>
    rw [hwrite, Except.ok_bind] at h
    cases hlimit : writeCurrent files current .inputLimit with
    | error e =>
      rw [hlimit] at h
      cases h
    | ok limit =>
      cases limit with
      | none =>
        rw [hlimit] at h
        cases h
        exact .inr rfl
      | some limit =>
        rw [hlimit, Except.ok_bind] at h
        cases hcharge : writeCurrent files current .current with
        | error e =>
          rw [hcharge] at h
          cases h
        | ok charge =>
          rw [hcharge] at h
          cases charge with
          | none =>
            cases h
            exact .inr rfl
          | some charge =>
            cases h
            exact .inl rfl

lemma chargeKept_iff {view : List UInt8 → List UInt8} :
    ChargeKept view files stack buf rsp ↔
      (apSetChargeCurrent files stack (requestedCurrent buf)).Succeeds fun r =>
        (∀ w ∈ r.written, view w.bytes = printInt (requestedCurrent buf)) ∧
        (r.ret = 0 → ChargeComplete r.written) := by
  rw [ChargeKept, engDiagSetChargeCurrent]
  dsimp only
  rw [Except.succeeds_bind]
  cases hset : apSetChargeCurrent files stack (requestedCurrent buf) with
  | error e => exact Iff.rfl
  | ok r =>
    have hret := apSetChargeCurrent_ret hset
    rw [Except.succeeds_ok, Except.succeeds_ok]
    refine and_congr_right fun _ => ?_
    have hstatus : ∀ b : Buffer UInt8, le16 ((((b.fill (1 + msgHeadLen)
        (bytesLE 2 (r.ret % 65536).toNat)).fill (1 + msgHeadLen + 2) (bytesLE 2 2)).store 5
          (UInt8.ofNat (msgHeadLen + 2 + 2))).store (msgHeadLen + 2 + 2 + 2 - 1) 0x7e) 9 =
        (r.ret % 65536).toNat % 65536 := by
      intro b
      refine Eq.trans ?_ (le16_fill b 9 _)
      refine le16_congr fun i hi => ?_
      have hhead : msgHeadLen = 8 := rfl
      rw [store_ne _ _ (by omega), store_ne _ _ (by omega), fill_outside _ (.inl (by omega))]
      rfl
    dsimp only
    rw [hstatus]
    exact imp_congr_left (by omega)

end Files

/-- For currents that fit, everything is kept exactly where the files fit: all bytes of a file are the
current when the write took as many as the text has, and the bytes in front of the first zero when it
took no fewer. -/
theorem charge_current_iff (files : ChargeFiles) (stack buf rsp : Buffer UInt8) :
    (ChargeKept id files stack buf rsp ↔
      (-999 ≤ requestedCurrent buf ∧ requestedCurrent buf ≤ 9999) ∧
        ChargeFilesFit (· = (printInt (requestedCurrent buf)).length) files) ∧
    (ChargeKept (·.takeWhile (· ≠ 0)) files stack buf rsp ↔
      (-999 ≤ requestedCurrent buf ∧ requestedCurrent buf ≤ 9999) ∧
        ChargeFilesFit ((printInt (requestedCurrent buf)).length ≤ ·) files) := by
  rw [chargeKept_iff, chargeKept_iff, ← length_printInt_iff]
  by_cases hlen : (printInt (requestedCurrent buf)).length ≤ 4
  · rw [and_iff_right hlen, and_iff_right hlen]
    exact ⟨apSetChargeCurrent_iff hlen fun n rest => take_text_iff _ rest,
      apSetChargeCurrent_iff hlen fun n rest => take_text_view_iff (zero_notMem_printInt _) rest⟩
  · rw [apSetChargeCurrent_error hlen]
    exact ⟨iff_of_false (Except.succeeds_error _) fun h => hlen h.1,
      iff_of_false (Except.succeeds_error _) fun h => hlen h.1⟩

/-- A request for this current. -/
def chargeRequest (current : Nat) : Buffer UInt8 :=
  Buffer.fill (fun _ => 0) 13 (bytesLE 4 current)

/-- Five bytes are written for 500, the status is 0 where no file can be opened, and the zero behind
10000 comes to stand outside of the buffer. -/
theorem charge_current_fails :
    ¬ChargeKept id (fun _ _ => some (.took 5)) (fun _ => 0) (chargeRequest 500) (fun _ => 0) ∧
      ¬ChargeKept id (fun _ _ => none) (fun _ => 0) (chargeRequest 500) (fun _ => 0) ∧
      ¬ChargeKept id (fun _ _ => some (.took 5)) (fun _ => 0) (chargeRequest 10000) (fun _ => 0) := by
  have h500 : requestedCurrent (chargeRequest 500) = 500 := by decide
  have h10000 : requestedCurrent (chargeRequest 10000) = 10000 := by decide
  have hfit : (printInt 500).length ≤ 4 := by decide
  have hlong : ¬(printInt 10000).length ≤ 4 := by decide
  rw [chargeKept_iff, chargeKept_iff, chargeKept_iff, h500, h10000,
    apSetChargeCurrent_iff hfit fun n rest => take_text_iff _ rest,
    apSetChargeCurrent_iff hfit fun n rest => take_text_iff _ rest, apSetChargeCurrent_error hlong]
  refine ⟨fun h => ?_, fun h => h, fun h => h⟩
  exact absurd h.1 (by decide)

end EngPc
