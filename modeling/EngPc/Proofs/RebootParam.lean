import EngPc.Model.AtCommands

/-!
# The reboot parameter on the two transports

The handler counts the characters from the start of the request, so in a frame the count covers the
header or ends in it, and the flag behind the text is copied along with the parameter.
-/

namespace EngPc
open CString

/-- The command as an AT port delivers it. -/
def atRequest (t : List UInt8) : Buffer UInt8 := Buffer.fill (fun _ => 0) 0 t

/-- The command in a decoded frame. -/
def diagRequest (head t : List UInt8) : Buffer UInt8 :=
  Buffer.fill (fun _ => 0) 0 (0x7e :: (head ++ (t ++ [0x7e])))

/-- What stands behind the command. -/
def rebootParam (t : List UInt8) : List UInt8 := t.drop atRebootCmd.length

/-- The text begins with the command. -/
def IsReboot (t : List UInt8) : Prop := strcaseeq (t.take atRebootCmd.length) atRebootCmd

instance (t : List UInt8) : Decidable (IsReboot t) := inferInstanceAs (Decidable (strcaseeq _ _))

section Requests

variable {t head : List UInt8}

lemma IsReboot.length_le (h : IsReboot t) : atRebootCmd.length ≤ t.length := by
  have hlength := congrArg List.length h
  rw [List.length_map, List.length_map, List.length_take] at hlength
  omega

lemma IsReboot.append (h : IsReboot t) (rest : List UInt8) : IsReboot (t ++ rest) := by
  rw [IsReboot, List.take_append_of_le_length h.length_le]
  exact h

lemma IsReboot.head_ne (h : IsReboot t) : t.head? ≠ some 0x7e := by
  intro heq
  obtain ⟨rest, rfl⟩ : ∃ rest, t = 0x7e :: rest := by
    cases t with
    | nil => cases heq
    | cons c rest => exact ⟨rest, by rw [Option.some.inj heq]⟩
  have hfirst : toLower 0x7e = toLower 0x41 := Option.some.inj (congrArg List.head? h)
  exact absurd hfirst (by decide)

lemma requestText_at (ht : 0 ∉ t) (hcmd : IsReboot t) (hfit : t.length < maxChnlBuff) :
    requestText (atRequest t) = t := by
  have hpos : 0 < t.length := lt_of_lt_of_le (by decide) hcmd.length_le
  have hfirst : atRequest t 0 ≠ 0x7e := by
    intro heq
    apply hcmd.head_ne
    rw [← heq, List.head?_eq_getElem?, List.getElem?_eq_getElem hpos]
    exact congrArg some (Buffer.fill_inside (fun _ => 0) hpos).symm
  rw [requestText, if_neg hfirst, atRequest, cstr_fill_zero t (Nat.zero_le _) hfit, List.drop_zero,
    takeWhile_text ht]

lemma requestText_diag (ht : 0 ∉ t) (hhead : head.length = msgHeadLen)
    (hfit : t.length + 10 < maxChnlBuff) :
    requestText (diagRequest head t) = t ++ [0x7e] := by
  have hflag : (0 : UInt8) ∉ t ++ [0x7e] := by
    rw [List.mem_append, not_or]
    exact ⟨ht, by decide⟩
  have hlength : (0x7e :: (head ++ (t ++ [0x7e]))).length = t.length + 10 := by
    simp only [List.length_cons, List.length_append, hhead, msgHeadLen, List.length_nil]
    omega
  have hdrop : (0x7e :: (head ++ (t ++ [0x7e]))).drop (1 + msgHeadLen) = t ++ [0x7e] := by
    rw [Nat.add_comm, List.drop_succ_cons, List.drop_left' hhead]
  have hfirst : diagRequest head t 0 = 0x7e := rfl
  rw [requestText, if_pos hfirst, diagRequest,
    cstr_fill_zero _ (by rw [hlength, msgHeadLen]; omega) (by omega), hdrop, takeWhile_text hflag]

/-- The flag and what stands in the header before its first zero; or the whole frame. -/
lemma strlen_diag (ht : 0 ∉ t) (hhead : head.length = msgHeadLen)
    (hfit : t.length + 10 < maxChnlBuff) :
    (cstr (diagRequest head t) 0 maxChnlBuff).length ≤ 1 + msgHeadLen ∨
      (cstr (diagRequest head t) 0 maxChnlBuff).length = t.length + 10 := by
  have hlength : (0x7e :: (head ++ (t ++ [0x7e]))).length = t.length + 10 := by
    simp only [List.length_cons, List.length_append, hhead, msgHeadLen, List.length_nil]
    omega
  rw [diagRequest, cstr_fill_zero _ (Nat.zero_le _) (by omega), List.drop_zero,
    List.takeWhile_cons_of_pos (by decide), List.length_cons]
  by_cases hzero : 0 ∈ head
  · left
    have hlt : (head.takeWhile (· ≠ 0)).length ≠ head.length := by
      intro heq
      have hall := List.takeWhile_eq_self_iff.mp
        ((List.takeWhile_prefix (· ≠ (0 : UInt8))).eq_of_length heq)
      simpa using hall 0 hzero
    rw [List.takeWhile_append, if_neg hlt]
    have hle := (List.takeWhile_prefix (l := head) (· ≠ (0 : UInt8))).length_le
    omega
  · right
    have hall : (0 : UInt8) ∉ head ++ (t ++ [0x7e]) := by
      simp only [List.mem_append, not_or]
      exact ⟨hzero, ht, by decide⟩
    rw [takeWhile_text hall]
    exact hlength

end Requests

lemma rebootCmdHandle_param {buff : Buffer UInt8} (h : IsReboot (requestText buff)) :
    (rebootCmdHandle buff).param =
      some ((rebootParam (requestText buff)).take (rebootParamLen buff)) :=
  congrArg RebootOut.param (if_pos h)

/-- The count cuts a text at 63 characters if it is negative or covers the text. -/
lemma take_rebootParamLen {buff : Buffer UInt8} {rest : List UInt8} {n : Nat}
    (hn : (cstr buff 0 maxChnlBuff).length = n) (hlt : n < 2 ^ 31)
    (h : n < atRebootCmd.length ∨ rest.length + atRebootCmd.length ≤ n) :
    rest.take (rebootParamLen buff) = rest.take (rebootParamSize - 1) := by
  have hcmd : atRebootCmd.length = 15 := rfl
  rw [rebootParamLen, hn, hcmd, intOf_eq (by omega) (by omega), show longBits = 32 from rfl]
  rw [hcmd] at h
  split_ifs with hlarge
  · rfl
  · have hsize : ((rebootParamSize - 1 : Nat) : Int) = 63 := rfl
    have hlong : rest.length ≤ ((n : Int) - (15 : Nat)).toNat := by
      push_cast [rebootParamSize] at hlarge ⊢
      omega
    rw [List.take_of_length_le hlong, List.take_of_length_le]
    push_cast [rebootParamSize] at hlarge ⊢
    omega

/-- **The parameter is the same on both transports exactly when it fills its array**: a shorter one
comes out of a frame with the closing flag behind it. -/
theorem reboot_param_iff (t head : List UInt8) (ht : 0 ∉ t) (hcmd : IsReboot t)
    (hhead : head.length = msgHeadLen) (hfit : t.length + 10 < maxChnlBuff) :
    ((rebootCmdHandle (atRequest t)).param = some ((rebootParam t).take (rebootParamSize - 1)) ∧
      (rebootCmdHandle (diagRequest head t)).param =
        some ((rebootParam t).take (rebootParamSize - 1))) ↔
      rebootParamSize - 1 ≤ (rebootParam t).length := by
  have hlength : (rebootParam t).length + atRebootCmd.length = t.length := by
    rw [rebootParam, List.length_drop, Nat.sub_add_cancel hcmd.length_le]
  have hmax : maxChnlBuff < 2 ^ 31 := by decide
  have hat : (rebootCmdHandle (atRequest t)).param =
      some ((rebootParam t).take (rebootParamSize - 1)) := by
    have hstrlen : (cstr (atRequest t) 0 maxChnlBuff).length = t.length := by
      rw [atRequest, cstr_fill_zero t (Nat.zero_le _) (by omega), List.drop_zero, takeWhile_text ht]
    have htext := requestText_at ht hcmd (by omega)
    rw [rebootCmdHandle_param (htext.symm ▸ hcmd), htext]
    exact congrArg some (take_rebootParamLen hstrlen (by omega) (.inr hlength.le))
  have hdiag : (rebootCmdHandle (diagRequest head t)).param =
      some ((rebootParam t ++ [0x7e]).take (rebootParamSize - 1)) := by
    have htext := requestText_diag ht hhead hfit
    have hdrop : rebootParam (t ++ [0x7e]) = rebootParam t ++ [0x7e] :=
      List.drop_append_of_le_length hcmd.length_le
    rw [rebootCmdHandle_param (htext.symm ▸ hcmd.append [0x7e]), htext, hdrop]
    apply congrArg some
    have hshort : 1 + msgHeadLen < atRebootCmd.length := by decide
    cases strlen_diag ht hhead hfit with
    | inl hle => exact take_rebootParamLen rfl (by omega) (.inl (by omega))
    | inr heq =>
      refine take_rebootParamLen heq (by omega) (.inr ?_)
      rw [List.length_append, List.length_singleton]
      omega
  rw [hat, hdiag, and_iff_right rfl, Option.some.injEq]
  constructor
  · intro h
    by_contra hlt
    have hlong := congrArg List.length h
    rw [List.length_take, List.length_take, List.length_append, List.length_singleton] at hlong
    omega
  · exact List.take_append_of_le_length

/-- The longest parameter that the array holds. -/
theorem reboot_param_full :
    ((rebootCmdHandle (atRequest (atRebootCmd ++ List.replicate 63 0x61))).param =
        some (List.replicate 63 0x61) ∧
      (rebootCmdHandle (diagRequest (List.replicate 8 0)
        (atRebootCmd ++ List.replicate 63 0x61))).param = some (List.replicate 63 0x61)) :=
  (reboot_param_iff (atRebootCmd ++ List.replicate 63 0x61) (List.replicate 8 0) (by decide)
    (by decide) (by decide) (by decide)).mpr (by decide)

/-- A header without zeros, and one of zeros. -/
theorem reboot_param_with_flag :
    (rebootCmdHandle (atRequest (ofString "AT+SPREBOOTCMD=cftreboot"))).param =
        some (ofString "cftreboot") ∧
      (rebootCmdHandle (diagRequest (List.replicate 8 1)
        (ofString "AT+SPREBOOTCMD=cftreboot"))).param = some (ofString "cftreboot~") ∧
      (rebootCmdHandle (diagRequest (List.replicate 8 0)
        (ofString "AT+SPREBOOTCMD=cftreboot"))).param = some (ofString "cftreboot~") := by
  decide

end EngPc
