import EngPc.Proofs.ChnlGraph

/-!
# Where replies go

A read of a port redirects the first thread that has it as a destination. A loop therefore writes to
the last port read among those for which its thread is that first one, and so answers the port whose
request it got exactly when the request was the last such read.
-/

namespace EngPc
open CString Reach

variable {π : Type} [DecidableEq π] {tds tds' : List (ChnlThread π)}

/-- The source port of the thread that a read of `port` redirects. -/
def lister (tds : List (ChnlThread π)) (port : π) : Option π :=
  (findSameDstPort tds port).map ChnlThread.portSrc

/-- The reads that redirect the thread of `port`. -/
def redirecting (tds : List (ChnlThread π)) (port : π) (reads : List π) : List π :=
  reads.filter fun x => lister tds x = some port

/-- The last of the reads that redirect the thread of `port` is one of `requester`; or none does,
and the thread writes to `requester` already. -/
def AnswersTo (tds : List (ChnlThread π)) (port requester : π) (reads : List π) : Prop :=
  (redirecting tds port reads).getLast? = some requester ∨
    redirecting tds port reads = [] ∧ transDst tds port = some requester

lemma lister_activeOther (x port : π) :
    lister (activeOtherChnlDstPort tds x) port = lister tds port := by
  have hlister : ∀ l : List (ChnlThread π), lister l port =
      ((l.map fun td => (td.portSrc, td.listDstPort)).find? fun e => port ∈ e.2).map Prod.fst := by
    intro l
    unfold lister findSameDstPort
    rw [List.find?_map, Option.map_map]
    rfl
  rw [hlister, hlister]
  unfold activeOtherChnlDstPort
  rw [map_updateFirst]
  intro td
  rfl

/-- A read moves the destination of the loop of `port` when its thread is the one redirected. -/
lemma transDst_activeOther (h : (tds.map ChnlThread.portSrc).Nodup) (x port : π) :
    transDst (activeOtherChnlDstPort tds x) port =
      if lister tds x = some port then (transDst tds port).map fun _ => x
      else transDst tds port := by
  unfold activeOtherChnlDstPort
  rcases updateFirst_cases (fun td => x ∈ td.listDstPort) (fun td => td.activeDstPort x) tds with
    ⟨pre, td, post, rfl, htd, hpre, heq⟩ | ⟨hall, heq⟩
  · have hlister : lister (pre ++ td :: post) x = some td.portSrc := by
      unfold lister findSameDstPort
      rw [List.find?_append, List.find?_eq_none.mpr (fun u hu => by simpa using hpre u hu)]
      simp [htd]
    rw [heq, hlister]
    unfold transDst findSameSrcPort
    by_cases hport : td.portSrc = port
    · have hout : pre.find? (fun u => u.portSrc = port) = none := by
        rw [List.find?_eq_none]
        intro u hu husrc
        rw [List.map_append, List.nodup_append] at h
        have hne := h.2.2 u.portSrc (List.mem_map_of_mem hu) td.portSrc
          (List.mem_map_of_mem List.mem_cons_self)
        exact hne ((of_decide_eq_true husrc).trans hport.symm)
      rw [if_pos (by rw [hport]), List.find?_append, List.find?_append, hout]
      simp [hport, ChnlThread.activeDstPort]
    · rw [if_neg (by simpa using hport), List.find?_append, List.find?_append]
      simp [hport]
  · have hlister : lister tds x = none := by
      unfold lister findSameDstPort
      rw [List.find?_eq_none.mpr (fun u hu => by simpa using hall u hu)]
      rfl
    rw [heq, hlister]
    rfl

lemma chnlNext_read {devs : List (CDev π)} {x : π}
    (h : chnlNext devs tds (.read x) = some tds') :
    (transDst tds x).isSome = true ∧ tds' = activeOtherChnlDstPort tds x := by
  simp only [chnlNext] at h
  split_ifs at h with hlive
  cases h
  exact ⟨hlive, rfl⟩

/-- After a run of reads a live loop writes to the last port that redirected it. -/
lemma transDst_reads {devs : List (CDev π)} (port : π) (reads : List π) (hwf : WellFormed tds)
    (hrun : replay (chnlNext devs) tds (reads.map .read) = some tds') :
    transDst tds' port =
      (transDst tds port).map fun d => (redirecting tds port reads).getLastD d := by
  induction reads generalizing tds with
  | nil =>
    obtain rfl : tds = tds' := Option.some.inj hrun
    cases transDst tds port with
    | none => rfl
    | some d => rfl
  | cons x reads ih =>
    rw [List.map_cons, replay_cons] at hrun
    obtain ⟨s, hx, hrun⟩ := hrun
    obtain ⟨-, rfl⟩ := chnlNext_read hx
    have hredirecting : redirecting (activeOtherChnlDstPort tds x) port reads =
        redirecting tds port reads := by
      unfold redirecting
      apply List.filter_congr
      intro y _
      rw [lister_activeOther]
    rw [ih (hwf.activeOther x) hrun, hredirecting, transDst_activeOther hwf.src_nodup]
    unfold redirecting
    by_cases hx : lister tds x = some port
    · rw [if_pos hx, List.filter_cons_of_pos (by simpa using hx), Option.map_map]
      cases transDst tds port with
      | none => rfl
      | some d => rw [Option.map_some, Option.map_some, Function.comp_apply, List.getLastD_cons]
    · rw [if_neg hx, List.filter_cons_of_neg (by simpa using hx)]

/-- The thread of `h` reads a request, others read `xs`, the thread of `c` reads and, when `ys` have
been read, writes: the port it writes to is `h` exactly under `AnswersTo`. -/
theorem reply_returns_iff (devs : List (CDev π)) (chnl : CChnl) (tds tds' : List (ChnlThread π))
    (hreach : Reachable (chnlNext devs) (chnl.run devs []) tds) (h c : π) (xs ys : List π)
    (hrun : replay (chnlNext devs) tds ((h :: xs ++ c :: ys).map .read) = some tds') :
    transDst tds' c = some h ↔ AnswersTo tds c h (h :: xs ++ c :: ys) := by
  obtain ⟨hwf, -⟩ := Reachable.wellFormed hreach (wellFormed_run devs chnl wellFormed_nil)
  have hlive : (transDst tds c).isSome = true := by
    rw [List.map_append, replay_append] at hrun
    obtain ⟨s, hbefore, hrest⟩ := hrun
    rw [List.map_cons, replay_cons] at hrest
    obtain ⟨s', hread, -⟩ := hrest
    have hlive := (chnlNext_read hread).1
    rw [transDst_reads c _ hwf hbefore, Option.isSome_map] at hlive
    exact hlive
  obtain ⟨d, hd⟩ := Option.isSome_iff_exists.mp hlive
  unfold AnswersTo
  rw [transDst_reads c _ hwf hrun, hd, Option.map_some]
  cases hlast : redirecting tds c (h :: xs ++ c :: ys) with
  | nil => simp
  | cons x l => simp [List.getLast?_cons]

/-- The exchange of the second host port: port 3 replies to it. -/
theorem reply_returns_second_host :
    ∃ tds', replay (chnlNext sharedDevs) sharedState ((1 :: [] ++ 3 :: []).map .read) = some tds' ∧
      transDst tds' 3 = some 1 := by
  refine ⟨_, rfl, ?_⟩
  apply (reply_returns_iff sharedDevs sharedChnl sharedState _ sharedState_reachable
    1 3 [] [] rfl).mpr
  left
  decide

/-- The request of the first host port goes to port 3 but redirects the thread of port 2, the first
one to have that host port; port 3 replies to the second host port. -/
theorem reply_to_other_host :
    (∀ row ∈ sharedChnl.chnlList, row.act = .F) ∧
    Reachable (chnlNext sharedDevs) (sharedChnl.run sharedDevs []) sharedState ∧
    transDst sharedState 0 = some 3 ∧
    ∃ tds', replay (chnlNext sharedDevs) sharedState ((0 :: [] ++ 3 :: []).map .read) = some tds' ∧
      transDst tds' 3 = some 1 :=
  ⟨by decide, sharedState_reachable, rfl, _, rfl, rfl⟩

end EngPc
