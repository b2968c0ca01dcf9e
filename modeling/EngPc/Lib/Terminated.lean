import EngPc.Lib.Block
import Mathlib.Data.List.TakeWhile

/-!
# Pointers into terminated text

A pointer into a block is the list of the cells from there to the end of the block: moving it
forward drops cells, and reading at the end fails. A block of lines, each ended by a zero, stops
at the first empty line.
-/

namespace Terminated

inductive ReadFault
  | outside | noReturn
  deriving DecidableEq, Repr

/-- The C string at a pointer. -/
def text (p : List UInt8) : List UInt8 := p.takeWhile (· ≠ 0)

/-- `strncmp (p, key, strlen (key)) == 0`, which reads no further than the first difference. -/
def startsWith : List UInt8 → List UInt8 → Except ReadFault Bool
  | [], _ => .ok true
  | _ :: _, [] => .error .outside
  | c :: key, x :: p => if x = c then startsWith key p else .ok false

/-- `while (*p++);`. -/
def afterNul : List UInt8 → Except ReadFault (List UInt8)
  | [] => .error .outside
  | x :: p => if x = 0 then .ok p else afterNul p

/-- The lines before the first empty one. -/
def lines (bytes : List UInt8) : List (List UInt8) :=
  (bytes.splitOn 0).takeWhile (· ≠ [])

def ofLines (ls : List (List UInt8)) : List UInt8 := ls.flatMap (· ++ [0])

section Line

variable {line : List UInt8} (hline : 0 ∉ line) (rest : List UInt8)

include hline

lemma text_line : text (line ++ 0 :: rest) = line := by
  have hall : ∀ x ∈ line, (x ≠ 0) = true := by
    intro x hx
    simpa using fun heq : x = 0 => hline (heq ▸ hx)
  rw [text, List.takeWhile_append_of_pos (by simpa using hall)]
  simp

lemma afterNul_line : afterNul (line ++ 0 :: rest) = .ok rest := by
  induction line with
  | nil => simp [afterNul]
  | cons x line ih =>
    rw [List.mem_cons, not_or] at hline
    rw [List.cons_append, afterNul, if_neg (Ne.symm hline.1), ih hline.2]

lemma startsWith_line {key : List UInt8} (hkey : 0 ∉ key) :
    startsWith key (line ++ 0 :: rest) = .ok (key.isPrefixOf line) := by
  induction key generalizing line with
  | nil => rfl
  | cons c key ih =>
    rw [List.mem_cons, not_or] at hkey
    cases line with
    | nil =>
      rw [List.nil_append, startsWith, if_neg hkey.1]
      rfl
    | cons x line =>
      rw [List.mem_cons, not_or] at hline
      rw [List.cons_append, startsWith, ih hline.2 hkey.2]
      by_cases hx : x = c
      · simp [hx]
      · rw [if_neg hx, List.isPrefixOf_cons_cons]
        simp [Ne.symm hx]

end Line

/-- A pointer to a line whose first cells are known moves over them. -/
lemma drop_line {line : List UInt8} {n : Nat} (h : n ≤ line.length) (rest : List UInt8) :
    (line ++ 0 :: rest).drop n = line.drop n ++ 0 :: rest :=
  List.drop_append_of_le_length h

lemma ofLines_splitOn (bytes : List UInt8) : ofLines (bytes.splitOn 0) = bytes ++ [0] := by
  induction bytes with
  | nil => rfl
  | cons x bytes ih =>
    rw [List.splitOn_cons_eq_if_modifyHead]
    by_cases hx : x = 0
    · subst hx
      simp [ofLines, ← ih]
    · obtain ⟨line, ls, hls⟩ := List.exists_cons_of_ne_nil (List.splitOn_ne_nil 0 bytes)
      rw [hls, ofLines, List.flatMap_cons] at ih
      simp [hls, hx, ofLines, ← ih]

lemma notMem_of_mem_splitOn {bytes line : List UInt8} (h : line ∈ bytes.splitOn 0) : 0 ∉ line := by
  induction bytes generalizing line with
  | nil =>
    rw [List.splitOn_nil, List.mem_singleton] at h
    simp [h]
  | cons x bytes ih =>
    rw [List.splitOn_cons_eq_if_modifyHead] at h
    obtain ⟨line', ls, hls⟩ := List.exists_cons_of_ne_nil (List.splitOn_ne_nil 0 bytes)
    rw [hls] at ih h
    by_cases hx : x = 0
    · rw [if_pos (by simp [hx]), List.mem_cons] at h
      apply h.elim
      · intro hnil
        simp [hnil]
      · exact fun hmem => ih hmem
    · rw [if_neg (by simp [hx]), List.modifyHead_cons, List.mem_cons] at h
      apply h.elim
      · intro heq
        rw [heq, List.mem_cons, not_or]
        exact ⟨Ne.symm hx, ih List.mem_cons_self⟩
      · exact fun hmem => ih (List.mem_cons_of_mem _ hmem)

lemma mem_lines {bytes line : List UInt8} (h : line ∈ lines bytes) : line ≠ [] ∧ 0 ∉ line := by
  have hne := List.mem_takeWhile_imp h
  exact ⟨by simpa using hne,
    notMem_of_mem_splitOn ((List.takeWhile_prefix _).subset h)⟩

/-- With two zeros behind them, any bytes are their lines, an empty line and something more. -/
theorem lines_spec (bytes : List UInt8) :
    ∃ rest, bytes ++ [0, 0] = ofLines (lines bytes) ++ 0 :: rest := by
  have hsplit : bytes ++ [0, 0] = ofLines (lines bytes) ++
      (ofLines ((bytes.splitOn 0).dropWhile (· ≠ [])) ++ [0]) := by
    rw [← List.append_assoc, ofLines, ofLines, lines, ← List.flatMap_append,
      List.takeWhile_append_dropWhile, ← ofLines, ofLines_splitOn]
    simp
  cases hdrop : (bytes.splitOn 0).dropWhile (· ≠ []) with
  | nil => exact ⟨[], by rw [hsplit, hdrop]; rfl⟩
  | cons line ls =>
    have hhead := List.head?_dropWhile_not (· ≠ []) (bytes.splitOn 0)
    rw [hdrop] at hhead
    have hnil : line = [] := by simpa using hhead
    exact ⟨ofLines ls ++ [0], by rw [hsplit, hdrop, hnil]; simp [ofLines]⟩

lemma length_le_ofLines (ls : List (List UInt8)) : ls.length ≤ (ofLines ls).length := by
  induction ls with
  | nil => exact le_rfl
  | cons line ls ih =>
    rw [ofLines] at ih ⊢
    simp only [List.flatMap_cons, List.length_append, List.length_cons, List.length_nil]
    omega

end Terminated
