import EngPc.Model.CtlClient
import Mathlib.Data.List.Nodup

/-!
# From the command line to the threads

The server takes the name of the channel out of the structure that the client has filled, and each
thread gets what the command lines with its name ask for, in their order.
-/

namespace EngPc
open CString RequestStream

/-- One run of engpcctl, with arguments that are strings and fit. -/
structure CtlRun where
  argv : List (List UInt8)
  fits : argv.length ≤ 16
  text : ∀ arg ∈ argv, (0 : UInt8) ∉ arg

/-- The name of a channel, as far as it fits, and what is asked for. -/
def CtlRun.typed (run : CtlRun) : Option (List UInt8 × Bool) :=
  match run.argv with
  | _ :: dst :: act :: args =>
    if strcaseeq dst (ofString "chnl") then
      if strcaseeq act (ofString "enable") then some ((args.getD 1 []).take 127, true)
      else if strcaseeq act (ofString "disable") then some ((args.getD 1 []).take 127, false)
      else none
    else none
  | _ => none

/-- The connection of a run: the command is read whole. -/
def CtlRun.conns (run : CtlRun) : List (List (List UInt8)) :=
  match clientMain run.argv with
  | .ok (some cmd) => [[cmd]]
  | _ => []

lemma length_ctlField {size : Nat} (hsize : 0 < size) (s : Option (List UInt8)) :
    (ctlField size s).length = size := by
  rw [ctlField, List.length_append, List.length_replicate, List.length_take]
  omega

lemma takeWhile_ctlField {size : Nat} (hsize : 0 < size) {s : Option (List UInt8)}
    (hs : (0 : UInt8) ∉ s.getD []) (rest : List UInt8) :
    (ctlField size s ++ rest).takeWhile (· ≠ 0) = (s.getD []).take (size - 1) := by
  have hfree : (0 : UInt8) ∉ (s.getD []).take (size - 1) := fun h => hs (List.mem_of_mem_take h)
  have hroom : ((s.getD []).take (size - 1)).length ≤ size - 1 := List.length_take_le _ _
  obtain ⟨n, hn⟩ : ∃ n, size - ((s.getD []).take (size - 1)).length = n + 1 :=
    ⟨size - ((s.getD []).take (size - 1)).length - 1, by omega⟩
  rw [ctlField, hn, List.replicate_succ, List.append_assoc, List.cons_append,
    takeWhile_ne_append hfree, List.takeWhile_cons_of_neg (by simp), List.append_nil]

lemma length_ctlFields {sizes : List Nat} (hsizes : ∀ size ∈ sizes, 0 < size)
    {args : List (Option (List UInt8))} (hargs : args.length = sizes.length) :
    (ctlFields sizes args).length = sizes.sum := by
  induction sizes generalizing args with
  | nil => rfl
  | cons size sizes ih =>
    obtain ⟨arg, args, rfl⟩ := List.exists_cons_of_length_eq_add_one hargs
    rw [List.forall_mem_cons] at hsizes
    have hrest := ih hsizes.2 (Nat.succ.inj hargs)
    rw [ctlFields, List.zipWith_cons_cons, List.flatten_cons, List.length_append,
      length_ctlField hsizes.1, List.sum_cons, ← hrest, ctlFields]

lemma length_engpcCtlDev (act : UInt8) {args : List (Option (List UInt8))}
    (hargs : args.length = ctlDevSizes.length) : (engpcCtlDev act args).length = engpcCmdLen := by
  have hfields := length_ctlFields (by decide) hargs
  rw [engpcCtlDev, List.length_append, List.length_append, List.length_replicate, hfields]
  rfl

lemma length_engpcCtlChnl (act : UInt8) {args : List (Option (List UInt8))}
    (hargs : args.length = ctlChnlSizes.length) :
    (engpcCtlChnl act args).length = engpcCmdLen := by
  rw [engpcCtlChnl, List.length_append, length_ctlFields (by decide) hargs]
  rfl

lemma chnlName_engpcCtlChnl (act : UInt8) (bootmode name : Option (List UInt8))
    (args : List (Option (List UInt8))) (hname : (0 : UInt8) ∉ name.getD []) :
    chnlName (engpcCtlChnl act (bootmode :: name :: args)) = (name.getD []).take 127 := by
  have hfields : engpcCtlChnl act (bootmode :: name :: args) =
      ([1, act] ++ ctlField 64 bootmode) ++ (ctlField 128 name ++
        ctlFields [32, 32, 32, 32, 16, 16, 16, 16] args) := by
    rw [engpcCtlChnl, ctlFields, ctlChnlSizes, List.zipWith_cons_cons, List.zipWith_cons_cons,
      List.flatten_cons, List.flatten_cons, List.append_assoc]
    rfl
  have hfront : ([1, act] ++ ctlField 64 bootmode).length = 2 + 64 := by
    rw [List.length_append, length_ctlField (by decide)]
    rfl
  rw [chnlName, hfields, List.drop_left' hfront, takeWhile_ctlField (by decide) hname]

lemma process_engpcCtlDev (act : UInt8) (args : List (Option (List UInt8))) (calls : EnableCalls) :
    (CEngCtl.process (engpcCtlDev act args) calls).2 = calls := rfl

lemma process_engpcCtlChnl (act : UInt8) (args : List (Option (List UInt8)))
    (calls : EnableCalls) :
    (CEngCtl.process (engpcCtlChnl act args) calls).2 =
      calls ++ if act = 3 ∨ act = 4 then
        [(chnlName (engpcCtlChnl act args), decide (act = 3))] else [] := by
  have hact : (engpcCtlChnl act args).getD 1 0 = act := rfl
  have hdst : (engpcCtlChnl act args).getD 0 0 = 1 := rfl
  rw [CEngCtl.process, hdst, if_neg (by decide), if_pos rfl, ctlChnl, hact]
  split_ifs
  · rfl
  · exact (List.append_nil _).symm

/-- The words of a table stand for their numbers, where no two are the same. -/
lemma word_iff {table : List (List UInt8 × UInt8)}
    (hwords : (table.map fun w => w.1.map toLower).Nodup)
    (hnumbers : (table.map Prod.snd).Nodup) {w : List UInt8 × UInt8} (hw : w ∈ table)
    (s : List UInt8) :
    (table.find? fun w => strcaseeq s w.1).map Prod.snd = some w.2 ↔ strcaseeq s w.1 := by
  constructor
  · intro h
    obtain ⟨w', hfind, hnumber⟩ := Option.map_eq_some_iff.mp h
    obtain rfl := List.inj_on_of_nodup_map hnumbers (List.mem_of_find?_eq_some hfind) hw hnumber
    simpa using List.find?_some hfind
  · intro h
    cases hfind : table.find? fun w => strcaseeq s w.1 with
    | none => exact absurd (decide_eq_true h) (List.find?_eq_none.mp hfind w hw)
    | some w' =>
      have hw' : strcaseeq s w'.1 := by simpa using List.find?_some hfind
      have hword : w'.1.map toLower = w.1.map toLower := hw'.symm.trans h
      rw [List.inj_on_of_nodup_map hwords (List.mem_of_find?_eq_some hfind) hw hword,
        Option.map_some]

def dstWords : List (List UInt8 × UInt8) := [(ofString "dev", 0), (ofString "chnl", 1)]

def actWords : List (List UInt8 × UInt8) :=
  [(ofString "list", 0), (ofString "add", 1), (ofString "del", 2), (ofString "enable", 3),
    (ofString "disable", 4)]

lemma getDst_eq (s : List UInt8) :
    getDst (some s) = (dstWords.find? fun w => strcaseeq s w.1).map Prod.snd := by
  unfold getDst dstWords
  simp only [List.find?_cons, List.find?_nil]
  split_ifs <;> simp [*]

lemma getAct_eq (s : List UInt8) :
    getAct (some s) = (actWords.find? fun w => strcaseeq s w.1).map Prod.snd := by
  unfold getAct actWords
  simp only [List.find?_cons, List.find?_nil]
  split_ifs <;> simp [*]

lemma getDst_chnl_iff (s : List UInt8) :
    getDst (some s) = some 1 ↔ strcaseeq s (ofString "chnl") := by
  rw [getDst_eq]
  exact word_iff (w := (ofString "chnl", 1)) (by decide) (by decide) (by decide) s

lemma getAct_enable_iff (s : List UInt8) :
    getAct (some s) = some 3 ↔ strcaseeq s (ofString "enable") := by
  rw [getAct_eq]
  exact word_iff (w := (ofString "enable", 3)) (by decide) (by decide) (by decide) s

lemma getAct_disable_iff (s : List UInt8) :
    getAct (some s) = some 4 ↔ strcaseeq s (ofString "disable") := by
  rw [getAct_eq]
  exact word_iff (w := (ofString "disable", 4)) (by decide) (by decide) (by decide) s

lemma getDst_values {s : List UInt8} {dst : UInt8} (h : getDst (some s) = some dst) :
    dst = 0 ∨ dst = 1 := by
  rw [getDst_eq] at h
  obtain ⟨w, hfind, rfl⟩ := Option.map_eq_some_iff.mp h
  have hvalues : ∀ w ∈ dstWords, w.2 = 0 ∨ w.2 = 1 := by decide
  exact hvalues w (List.mem_of_find?_eq_some hfind)

lemma typed_eq {run : CtlRun} {prog dst act : List UInt8} {args : List (List UInt8)}
    (h : run.argv = prog :: dst :: act :: args) :
    run.typed = if getDst (some dst) = some 1 then
      if getAct (some act) = some 3 then some ((args.getD 1 []).take 127, true)
      else if getAct (some act) = some 4 then some ((args.getD 1 []).take 127, false)
      else none
    else none := by
  rw [CtlRun.typed, h]
  simp only [getDst_chnl_iff, getAct_enable_iff, getAct_disable_iff]

/-- A command line makes a command that does what is typed, or none. -/
lemma clientMain_typed (run : CtlRun) :
    (∃ cmd, clientMain run.argv = .ok (some cmd) ∧ cmd.length = engpcCmdLen ∧
      ∀ calls, (CEngCtl.process cmd calls).2 = calls ++ run.typed.toList) ∨
    clientMain run.argv = .ok none ∧ run.typed = none := by
  match hargv : run.argv with
  | [] =>
    right
    simp [CtlRun.typed, clientMain, hargv]
  | [prog] =>
    right
    simp [CtlRun.typed, clientMain, hargv]
  | [prog, dst] =>
    right
    simp [CtlRun.typed, clientMain, hargv, getAct]
  | prog :: dst :: act :: args =>
    have hlen : ¬(prog :: dst :: act :: args).length < 2 := by simp
    have hfits : ¬16 < (prog :: dst :: act :: args).length := by
      rw [← hargv]
      exact Nat.not_lt.mpr run.fits
    have hname : (0 : UInt8) ∉ args[1]?.getD [] := by
      cases harg : args[1]? with
      | none => exact List.not_mem_nil
      | some name =>
        have hmem : name ∈ run.argv := by
          rw [hargv]
          exact List.mem_cons_of_mem _ (List.mem_cons_of_mem _ (List.mem_cons_of_mem _
            (List.mem_of_getElem? harg)))
        exact run.text name hmem
    rw [clientMain, if_neg hlen, if_neg hfits, typed_eq hargv]
    dsimp only [List.getElem?_cons_succ, List.getElem?_cons_zero]
    cases hdst : getDst (some dst) with
    | none =>
      right
      simp
    | some d =>
      cases hact : getAct (some act) with
      | none =>
        right
        simp
      | some a =>
        left
        obtain rfl | rfl := getDst_values hdst
        · refine ⟨_, rfl, length_engpcCtlDev a rfl, fun calls => ?_⟩
          rw [process_engpcCtlDev]
          simp
        · refine ⟨_, rfl, length_engpcCtlChnl a rfl, fun calls => ?_⟩
          have hchnl : chnlName (engpcCtlChnl a ((List.range 10).map fun i => args[i]?)) =
              (args.getD 1 []).take 127 := by
            rw [List.getD_eq_getElem?_getD]
            exact chnlName_engpcCtlChnl a args[0]? args[1]? _ hname
          rw [process_engpcCtlChnl, hchnl]
          by_cases henable : a = 3
          · simp [henable]
          · by_cases hdisable : a = 4
            · simp [hdisable]
            · simp [henable, hdisable]

lemma engSocketRwThread_whole (calls : EnableCalls) {cmd : List UInt8}
    (hcmd : cmd.length = engpcCmdLen) :
    (CEngCtl.engSocketRwThread calls (fun _ => ()) [cmd]).1 = (CEngCtl.process cmd calls).2 := by
  have hlen : ¬cmd.length = 0 := by
    rw [hcmd]
    decide
  rw [CEngCtl.engSocketRwThread, serve, if_neg hlen, pad_full hcmd]
  rfl

lemma engCtl_conns (calls : EnableCalls) (run : CtlRun) :
    CEngCtl.engCtl calls run.conns = calls ++ run.typed.toList := by
  unfold CtlRun.conns
  obtain ⟨cmd, hmain, hlen, hprocess⟩ | ⟨hmain, htyped⟩ := clientMain_typed run
  · rw [hmain]
    exact (engSocketRwThread_whole calls hlen).trans (hprocess calls)
  · rw [hmain, htyped]
    exact (List.append_nil calls).symm

lemma engCtl_typed (calls : EnableCalls) (runs : List CtlRun) :
    CEngCtl.engCtl calls (runs.flatMap CtlRun.conns) = calls ++ runs.filterMap CtlRun.typed := by
  induction runs generalizing calls with
  | nil => exact (List.append_nil calls).symm
  | cons run runs ih =>
    have hsplit : CEngCtl.engCtl calls (run.conns ++ runs.flatMap CtlRun.conns) =
        CEngCtl.engCtl (CEngCtl.engCtl calls run.conns) (runs.flatMap CtlRun.conns) :=
      List.foldl_append
    rw [List.flatMap_cons, hsplit, engCtl_conns, ih, List.append_assoc, List.filterMap_cons]
    cases run.typed <;> rfl

variable {π : Type}

/-- What happens to thread `i` in the course of the calls. -/
def threadOps (tds : List (ChnlThread π)) (i : Nat) (calls : EnableCalls) : List ThreadOp :=
  (calls.flatMap fun call => CChnlThreadMgr.enableChnl tds call.1 call.2).filterMap
    fun op => if op.1 = i then some op.2 else none

/-- What a run asks of the thread with the name. -/
def CtlRun.asks (name : List UInt8) (run : CtlRun) : Option ThreadOp :=
  run.typed.bind fun call =>
    if strcaseeq name call.1 then some (if call.2 = true then .run else .stop) else none

lemma filterMap_zipIdx {α β : Type} (f : α → Option β) (l : List α) (k i : Nat) :
    (l.zipIdx k).filterMap (fun a => if a.2 = k + i then f a.1 else none) =
      (l[i]?.bind f).toList := by
  induction l generalizing k i with
  | nil => rfl
  | cons a l ih =>
    cases i with
    | zero =>
      have hrest : (l.zipIdx (k + 1)).filterMap
          (fun a => if a.2 = k + 0 then f a.1 else none) = [] := by
        rw [List.filterMap_eq_nil_iff]
        intro b hb
        have hle := (List.mem_zipIdx hb).1
        rw [if_neg (by omega)]
      rw [List.zipIdx_cons, List.filterMap_cons, hrest]
      cases hf : f a <;> simp [hf]
    | succ i =>
      have hk : ∀ b : α × Nat, b.2 = k + (i + 1) ↔ b.2 = k + 1 + i := by
        intro b
        omega
      rw [List.zipIdx_cons, List.filterMap_cons, List.getElem?_cons_succ, ← ih (k + 1) i]
      simp [hk]

lemma threadOps_call (tds : List (ChnlThread π)) (i : Fin tds.length)
    (call : List UInt8 × Bool) :
    threadOps tds i [call] = (if strcaseeq tds[i].name call.1 then
      some (if call.2 = true then ThreadOp.run else .stop) else none).toList := by
  have hplace := filterMap_zipIdx (fun td : ChnlThread π => if strcaseeq td.name call.1 then
    some (if call.2 = true then ThreadOp.run else .stop) else none) tds 0 i
  rw [List.getElem?_eq_getElem i.isLt, Option.bind_some] at hplace
  rw [threadOps, List.flatMap_singleton, CChnlThreadMgr.enableChnl, List.filterMap_filterMap]
  refine Eq.trans ?_ hplace
  congr 1
  funext td
  rw [Nat.zero_add]
  by_cases hname : strcaseeq td.1.name call.1
  · simp [hname]
  · simp [hname]

/-- Each thread is started and stopped as the command lines with its name ask for. -/
theorem ctl_commands_followed (tds : List (ChnlThread π)) (runs : List CtlRun)
    (i : Fin tds.length) :
    threadOps tds i (CEngCtl.engCtl [] (runs.flatMap CtlRun.conns)) =
      runs.filterMap (CtlRun.asks tds[i].name) := by
  rw [engCtl_typed, List.nil_append]
  induction runs with
  | nil => rfl
  | cons run runs ih =>
    rw [List.filterMap_cons, List.filterMap_cons, CtlRun.asks]
    cases run.typed with
    | none => exact ih
    | some call =>
      have hsplit : threadOps tds i (call :: runs.filterMap CtlRun.typed) =
          threadOps tds i [call] ++ threadOps tds i (runs.filterMap CtlRun.typed) := by
        rw [threadOps, threadOps, threadOps, List.flatMap_cons, List.filterMap_append,
          List.flatMap_singleton]
      dsimp only [Option.bind_some]
      rw [hsplit, threadOps_call, ih]
      split_ifs <;> rfl

end EngPc
