import EngPc.Proofs.Reassembly

/-!
# Streams of frames

`internal_read` keeps nothing from one call to the next. `Framing` says on lists of bytes which
requests it makes of the reads; with it a stream of frames comes through exactly when the reads
hold the frames apart.
-/

namespace EngPc
open Buffer

/-- `Framing nLen b pieces requests`: a read that holds the bytes `b` and then meets `pieces`
gives `requests`, with the reads that follow it. -/
inductive Framing (nLen : Nat) : List UInt8 → List (List UInt8) → List (List UInt8) → Prop
  | nil (b) : Framing nLen b [] []
  | ends {b q ps rs} : flagEnds (b ++ q) → Framing nLen [] ps rs →
      Framing nLen b (q :: ps) ((b ++ q) :: rs)
  | invalid {b q ps rs} : 0x7e ∉ b ++ q → Framing nLen [] ps rs →
      Framing nLen b (q :: ps) ((b ++ q) :: rs)
  | inner {b q ps rs} (u m r) : b ++ q = u ++ 0x7e :: (m ++ 0x7e :: r) → 0x7e ∉ u → 0x7e ∉ m →
      ¬flagEnds (b ++ q) → Framing nLen [] ps rs → Framing nLen b (q :: ps) (flagged m :: rs)
  | half {b q ps rs} (u m) : b ++ q = u ++ 0x7e :: m → 0x7e ∉ u → 0x7e ∉ m →
      ¬flagEnds (b ++ q) → Framing nLen (0x7e :: m) ps rs → Framing nLen b (q :: ps) rs
  | full {b q ps rs} (u m) : b ++ q = u ++ 0x7e :: m → 0x7e ∉ u → 0x7e ∉ m →
      ¬flagEnds (b ++ q) → nLen ≤ m.length + 1 → Framing nLen [] ps rs →
      Framing nLen b (q :: ps) ((0x7e :: m) :: rs)

lemma flag_cases (w : List UInt8) :
    0x7e ∉ w ∨ (∃ u m, w = u ++ 0x7e :: m ∧ 0x7e ∉ u ∧ 0x7e ∉ m) ∨
      ∃ u m r, w = u ++ 0x7e :: (m ++ 0x7e :: r) ∧ 0x7e ∉ u ∧ 0x7e ∉ m := by
  by_cases hw : 0x7e ∈ w
  · obtain ⟨u, v, rfl, hu⟩ := List.eq_append_cons_of_mem hw
    by_cases hv : 0x7e ∈ v
    · obtain ⟨m, r, rfl, hm⟩ := List.eq_append_cons_of_mem hv
      exact .inr (.inr ⟨u, m, r, rfl, hu, hm⟩)
    · exact .inr (.inl ⟨u, v, rfl, hu, hv⟩)
  · exact .inl hw

section Requests

variable (t : PortType) (nLen : Nat)

/-- The bytes of the requests that the reads `pieces` give. -/
def requests (s : RdState) (pieces : List (List UInt8)) : List (List UInt8) :=
  (receivedFrom 1 t nLen s (pieces.map .data)).map Received.bytes

variable {t nLen}

lemma requests_of_endsWith {s : RdState} {q l : List UInt8} (h : endsWith t nLen s q l)
    (hl : l ≠ []) (ps : List (List UInt8)) :
    ∃ buff, requests t nLen s (q :: ps) = l :: requests t nLen (rdStart t nLen buff) ps := by
  obtain ⟨r, hr, hb, ho⟩ := h
  have hoff : r.offset ≠ 0 := by
    rw [← r.length_bytes, hb]
    exact mt List.length_eq_zero_iff.mp hl
  have hbytes : Received.bytes ⟨r.buff, r.offset⟩ = l := hb
  refine ⟨r.buff, ?_⟩
  simp [requests, receivedFrom, hr, hoff, ho, hbytes]

lemma requests_of_goesOnWith {s : RdState} {q l : List UInt8} (h : goesOnWith t nLen s q l)
    (ps : List (List UInt8)) :
    ∃ s', s'.bytes = l ∧ requests t nLen s (q :: ps) = requests t nLen s' ps := by
  obtain ⟨s', hs', hb⟩ := h
  refine ⟨s', hb, ?_⟩
  simp [requests, receivedFrom, hs']

lemma rdStep_full {s : RdState} {q u m : List UInt8} (h : s.bytes ++ q = u ++ 0x7e :: m)
    (hu : 0x7e ∉ u) (hm : 0x7e ∉ m) (hends : ¬flagEnds (s.bytes ++ q))
    (hfull : nLen ≤ m.length + 1) : endsWith t nLen s q (0x7e :: m) := by
  have hload := (load_received s q).trans h
  rw [h] at hends
  obtain ⟨htype, hnlen, hbuff⟩ := checkframe_half (s.buff.fill s.offset q) u m hload hu hm hends
  refine ⟨⟨(checkframe 1 (s.buff.fill s.offset q) (s.offset + q.length)).buff,
    m.length + 1, true⟩, ?_, hbuff, rfl⟩
  simp [rdStep, htype, hnlen, hfull]

/-- What `internal_read` makes of its reads is what `Framing` says. -/
lemma framing_requests (pieces : List (List UInt8)) (hne : ∀ q ∈ pieces, q ≠ []) (s : RdState) :
    Framing nLen s.bytes pieces (requests t nLen s pieces) := by
  induction pieces generalizing s with
  | nil => exact .nil _
  | cons q ps ih =>
    have hq : q ≠ [] := hne q List.mem_cons_self
    have hps : ∀ x ∈ ps, x ≠ [] := fun x hx => hne x (List.mem_cons_of_mem _ hx)
    have hw : s.bytes ++ q ≠ [] := by simp [hq]
    by_cases hends : flagEnds (s.bytes ++ q)
    · obtain ⟨buff, hr⟩ := requests_of_endsWith (rdStep_ends hq hends) hw ps
      rw [hr]
      exact .ends hends (ih hps (rdStart t nLen buff))
    rcases flag_cases (s.bytes ++ q) with h | ⟨u, m, h, hu, hm⟩ | ⟨u, m, r, h, hu, hm⟩
    · obtain ⟨buff, hr⟩ := requests_of_endsWith (rdStep_invalid hq h) hw ps
      rw [hr]
      exact .invalid h (ih hps (rdStart t nLen buff))
    · by_cases hfull : nLen ≤ m.length + 1
      · obtain ⟨buff, hr⟩ :=
          requests_of_endsWith (rdStep_full h hu hm hends hfull) (List.cons_ne_nil _ _) ps
        rw [hr]
        exact .full u m h hu hm hends hfull (ih hps (rdStart t nLen buff))
      · obtain ⟨s', hb, hr⟩ :=
          requests_of_goesOnWith (rdStep_half h hu hm hends (Nat.lt_of_not_le hfull)) ps
        rw [hr]
        refine .half u m h hu hm hends ?_
        rw [← hb]
        exact ih hps s'
    · obtain ⟨buff, hr⟩ :=
        requests_of_endsWith (rdStep_inner h hu hm hends) (List.cons_ne_nil _ _) ps
      rw [hr]
      exact .inner u m r h hu hm hends (ih hps (rdStart t nLen buff))

lemma rdLoop_append {s : RdState} {r : RdResult} {es : List RdEvent}
    (h : rdLoop 1 t nLen s es = some (r, [])) (es' : List RdEvent) :
    rdLoop 1 t nLen s (es ++ es') = some (r, es') := by
  induction es generalizing s with
  | nil => simp [rdLoop] at h
  | cons e es ih =>
    rw [rdLoop] at h
    rw [List.cons_append, rdLoop]
    cases hstep : rdStep 1 t nLen s e with
    | inl s' =>
      rw [hstep] at h
      exact ih h
    | inr r' =>
      rw [hstep] at h
      obtain ⟨rfl, rfl⟩ := Prod.mk.inj (Option.some.inj h)
      rfl

lemma requests_frame (e : List UInt8) (hflag : 0x7e ∉ e) (hfit : (flagged e).length ≤ nLen)
    (g ps : List (List UInt8)) (hne : ∀ q ∈ g, q ≠ []) (hsome : g ≠ []) (s : RdState)
    (hall : s.bytes ++ g.flatten = flagged e) (hfirst : s.bytes = [] → g.head? ≠ some [0x7e]) :
    ∃ buff, requests t nLen s (g ++ ps) =
      flagged e :: requests t nLen (rdStart t nLen buff) ps := by
  rw [length_flagged] at hfit
  obtain ⟨⟨r, hr, hb, ho⟩, -⟩ := rdLoop_completes t nLen e hflag hfit g hne hsome s hall hfirst
  have hloop := rdLoop_append hr (ps.map .data)
  have hoff : r.offset ≠ 0 := by
    rw [← r.length_bytes, hb, length_flagged]
    omega
  have hbytes : Received.bytes ⟨r.buff, r.offset⟩ = flagged e := hb
  refine ⟨r.buff, ?_⟩
  unfold requests
  rw [List.map_append, receivedFrom_eq_rdLoop, hloop]
  simp [hoff, ho, hbytes]

end Requests

/-- The stream: noise, then frames. -/
def behind (noise : List UInt8) : List (List UInt8) → List (List UInt8)
  | [] => []
  | f :: fs => (noise ++ f) :: fs

/-- The reads come in groups, one for each frame; noise comes with the first bytes of the first
frame. -/
structure HeldApart (noise : List UInt8) (frames : List (List UInt8))
    (groups : List (List (List UInt8))) : Prop where
  frames_eq : groups.map List.flatten = behind noise frames
  noise_lt : ∀ q ∈ groups.flatten.head?, noise.length < q.length

section Apart

variable {t : PortType} {nLen : Nat}

lemma requests_groups (es : List (List UInt8)) (hflag : ∀ e ∈ es, 0x7e ∉ e)
    (hfit : ∀ e ∈ es, (flagged e).length ≤ nLen) (groups : List (List (List UInt8)))
    (hne : ∀ q ∈ groups.flatten, q ≠ []) (hgroups : groups.map List.flatten = es.map flagged)
    (hlone : ∀ g ∈ groups, g.head? ≠ some [0x7e]) (buff : Buffer UInt8) :
    requests t nLen (rdStart t nLen buff) groups.flatten = es.map flagged := by
  induction groups generalizing es buff with
  | nil =>
    have hes : es = [] := List.map_eq_nil_iff.mp hgroups.symm
    rw [hes]
    rfl
  | cons g groups ih =>
    cases es with
    | nil => simp at hgroups
    | cons e es =>
      rw [List.map_cons, List.map_cons] at hgroups
      obtain ⟨hg, hrest⟩ := List.cons.inj hgroups
      have hsome : g ≠ [] := by
        rintro rfl
        simp [flagged] at hg
      rw [List.flatten_cons]
      obtain ⟨buff', hr⟩ := requests_frame e (hflag e List.mem_cons_self)
        (hfit e List.mem_cons_self) g groups.flatten
        (fun q hq => hne q (List.mem_append_left _ hq)) hsome (rdStart t nLen buff)
        (by rw [rdStart_bytes, List.nil_append, hg]) (fun _ => hlone g List.mem_cons_self)
      rw [hr, List.map_cons]
      congr 1
      exact ih es (fun x hx => hflag x (List.mem_cons_of_mem _ hx))
        (fun x hx => hfit x (List.mem_cons_of_mem _ hx))
        (fun q hq => hne q (List.mem_append_right _ hq)) hrest
        (fun x hx => hlone x (List.mem_cons_of_mem _ hx)) buff'

@[simp] lemma behind_nil (frames : List (List UInt8)) : behind [] frames = frames := by
  cases frames <;> rfl

lemma not_flagEnds_noise {noise w : List UInt8} (hnoise : 0x7e ∉ noise) (hne : noise ≠ []) :
    ¬flagEnds (noise ++ w) := by
  rintro ⟨hhead, -⟩
  rw [List.head?_append_of_ne_nil _ hne] at hhead
  exact hnoise (List.mem_of_mem_head? hhead)

lemma read_past {noise q rest stream : List UInt8} (h : q ++ rest = noise ++ stream)
    (hlt : noise.length < q.length) :
    ∃ x, x ≠ [] ∧ q = noise ++ x ∧ x ++ rest = stream := by
  rcases List.append_eq_append_iff.mp h with ⟨l, hl, -⟩ | ⟨x, hx, hs⟩
  · rw [hl, List.length_append] at hlt
    omega
  · refine ⟨x, ?_, hx, hs.symm⟩
    rintro rfl
    rw [hx, List.append_nil] at hlt
    exact absurd hlt (lt_irrefl _)

/-- The reads of the first frame, with noise in front, give that frame. -/
lemma requests_behind {noise : List UInt8} (hnoise : 0x7e ∉ noise) (hnil : noise ≠ [])
    (e : List UInt8) (hflag : 0x7e ∉ e) (hfit : (flagged e).length ≤ nLen) (q : List UInt8)
    (g ps : List (List UInt8)) (hne : ∀ x ∈ g, x ≠ []) (hlt : noise.length < q.length)
    (hall : q ++ g.flatten = noise ++ flagged e) (buff : Buffer UInt8) :
    ∃ buff', requests t nLen (rdStart t nLen buff) (q :: (g ++ ps)) =
      flagged e :: requests t nLen (rdStart t nLen buff') ps := by
  obtain ⟨x, hx, rfl, hframe⟩ := read_past hall hlt
  have hends : ¬flagEnds (noise ++ x) := not_flagEnds_noise hnoise hnil
  by_cases hlast : g = []
  · subst hlast
    rw [List.flatten_nil, List.append_nil] at hframe
    have hword : (rdStart t nLen buff).bytes ++ (noise ++ x) =
        noise ++ 0x7e :: (e ++ 0x7e :: []) := by
      rw [rdStart_bytes, List.nil_append, hframe]
      rfl
    have hword_ends : ¬flagEnds ((rdStart t nLen buff).bytes ++ (noise ++ x)) := by
      rwa [rdStart_bytes, List.nil_append]
    exact requests_of_endsWith (rdStep_inner hword hnoise hflag hword_ends)
      (List.cons_ne_nil _ _) ps
  · obtain ⟨m, rest, rfl, -, he⟩ := split_flagged hframe hx (flatten_ne_nil hne hlast)
    have hmflag : 0x7e ∉ m := fun h => hflag (by rw [he]; exact List.mem_append_left _ h)
    have hroom : m.length + 1 < nLen := by
      rw [length_flagged, he, List.length_append] at hfit
      omega
    have hword : (rdStart t nLen buff).bytes ++ (noise ++ 0x7e :: m) = noise ++ 0x7e :: m := by
      rw [rdStart_bytes, List.nil_append]
    have hword_ends : ¬flagEnds ((rdStart t nLen buff).bytes ++ (noise ++ 0x7e :: m)) := by
      rwa [rdStart_bytes, List.nil_append]
    obtain ⟨s', hb, hr⟩ :=
      requests_of_goesOnWith (rdStep_half hword hnoise hmflag hword_ends hroom) (g ++ ps)
    rw [hr]
    exact requests_frame e hflag hfit g ps hne hlast s' (by rw [hb, hframe])
      (fun h => absurd h (by rw [hb]; exact List.cons_ne_nil _ _))

lemma requests_heldApart (noise : List UInt8) (hnoise : 0x7e ∉ noise) (es : List (List UInt8))
    (hflag : ∀ e ∈ es, 0x7e ∉ e) (hfit : ∀ e ∈ es, (flagged e).length ≤ nLen)
    (groups : List (List (List UInt8))) (hne : ∀ q ∈ groups.flatten, q ≠ [])
    (happart : HeldApart noise (es.map flagged) groups)
    (hlone : ∀ g ∈ groups, g.head? ≠ some [0x7e]) (buff : Buffer UInt8) :
    requests t nLen (rdStart t nLen buff) groups.flatten = es.map flagged := by
  by_cases hnil : noise = []
  · subst hnil
    have hgroups := happart.frames_eq
    rw [behind_nil] at hgroups
    exact requests_groups es hflag hfit groups hne hgroups hlone buff
  cases groups with
  | nil =>
    have hes : es = [] := by
      cases es with
      | nil => rfl
      | cons e es => simpa [behind] using happart.frames_eq
    rw [hes]
    rfl
  | cons g groups =>
    obtain ⟨e, es, rfl⟩ : ∃ e es', es = e :: es' := by
      cases es with
      | nil => simpa [behind] using happart.frames_eq
      | cons e es => exact ⟨e, es, rfl⟩
    obtain ⟨hg, hrest⟩ := List.cons.inj happart.frames_eq
    obtain ⟨q, g, rfl⟩ : ∃ q g', g = q :: g' := by
      cases g with
      | nil => simp [flagged] at hg
      | cons q g => exact ⟨q, g, rfl⟩
    have hgne : ∀ y ∈ g, y ≠ [] := fun y hy =>
      hne y (List.mem_append_left _ (List.mem_cons_of_mem _ hy))
    rw [List.flatten_cons] at hg
    obtain ⟨buff', hr⟩ := requests_behind (t := t) hnoise hnil e (hflag e List.mem_cons_self)
      (hfit e List.mem_cons_self) q g groups.flatten hgne (happart.noise_lt q rfl) hg buff
    rw [List.flatten_cons, List.cons_append, hr, List.map_cons]
    congr 1
    exact requests_groups es (fun x hx => hflag x (List.mem_cons_of_mem _ hx))
      (fun x hx => hfit x (List.mem_cons_of_mem _ hx)) groups
      (fun x hx => hne x (List.mem_append_right _ hx)) hrest
      (fun x hx => hlone x (List.mem_cons_of_mem _ hx)) buff'

end Apart

lemma behind_map_flatten (l q : List UInt8) (g : List (List UInt8))
    (gs : List (List (List UInt8))) :
    behind l (((q :: g) :: gs).map List.flatten) =
      behind (l ++ q) ((g :: gs).map List.flatten) := by
  simp [behind]

section Only

variable {nLen : Nat}

lemma Framing.length_le {b : List UInt8} {ps rs : List (List UInt8)} (h : Framing nLen b ps rs) :
    rs.flatten.length ≤ b.length + ps.flatten.length := by
  induction h with
  | nil b => simp
  | ends _ _ ih => simp at ih ⊢; omega
  | invalid _ _ ih => simp at ih ⊢; omega
  | inner u m r hw _ _ _ _ ih =>
    have hlen := congrArg List.length hw
    simp at hlen ih ⊢
    omega
  | half u m hw _ _ _ _ ih =>
    have hlen := congrArg List.length hw
    simp at hlen ih ⊢
    omega
  | full u m hw _ _ _ _ _ ih =>
    have hlen := congrArg List.length hw
    simp at hlen ih ⊢
    omega

/-- Where the requests are the frames of the stream, no read has bytes of two of them. -/
lemma Framing.groups {b : List UInt8} {ps rs : List (List UInt8)} (h : Framing nLen b ps rs)
    (es : List (List UInt8)) (hflag : ∀ e ∈ es, 0x7e ∉ e) (hrs : rs = es.map flagged)
    (hall : b ++ ps.flatten = (es.map flagged).flatten) :
    ∃ groups : List (List (List UInt8)),
      groups.flatten = ps ∧ behind b (groups.map List.flatten) = es.map flagged := by
  induction h generalizing es with
  | nil b =>
    have hes : es = [] := List.map_eq_nil_iff.mp hrs.symm
    subst hes
    exact ⟨[], rfl, rfl⟩
  | @ends b q ps rs hends _ ih =>
    obtain ⟨e, es, rfl⟩ : ∃ e es', es = e :: es' := by
      cases es with
      | nil => simp at hrs
      | cons e es => exact ⟨e, es, rfl⟩
    obtain ⟨hq, hrs⟩ := List.cons.inj hrs
    rw [List.flatten_cons, ← List.append_assoc, hq, List.map_cons, List.flatten_cons] at hall
    obtain ⟨groups, hps, hgs⟩ := ih es (fun x hx => hflag x (List.mem_cons_of_mem _ hx)) hrs
      (List.append_cancel_left hall)
    rw [behind_nil] at hgs
    refine ⟨[q] :: groups, by simp [hps], ?_⟩
    simp [behind, hgs, hq]
  | @invalid b q ps rs hw _ ih =>
    cases es with
    | nil => simp at hrs
    | cons e es =>
      have hq := (List.cons.inj hrs).1
      rw [hq] at hw
      exact absurd List.mem_cons_self hw
  | @inner b q ps rs u m r hw hu hm hends hps ih =>
    cases es with
    | nil => simp at hrs
    | cons e es =>
      obtain ⟨he, hrs⟩ := List.cons.inj hrs
      have hle := hps.length_le
      have htotal := congrArg List.length hall
      have hlen := congrArg List.length hw
      have hsame := congrArg List.length he
      rw [hrs] at hle
      simp only [List.length_append, List.length_cons, List.flatten_cons, List.map_cons,
        length_flagged, List.length_nil] at hle htotal hlen hsame
      have hunil : u = [] := List.length_eq_zero_iff.mp (by omega)
      have hrnil : r = [] := List.length_eq_zero_iff.mp (by omega)
      subst hunil hrnil
      exact absurd (by rw [hw]; exact flagEnds_flagged m) hends
  | @half b q ps rs u m hw hu hm hends hps ih =>
    have hle := hps.length_le
    have htotal := congrArg List.length hall
    have hlen := congrArg List.length hw
    rw [hrs] at hle
    simp only [List.length_append, List.length_cons, List.flatten_cons] at hle htotal hlen
    have hunil : u = [] := List.length_eq_zero_iff.mp (by omega)
    subst hunil
    rw [List.nil_append] at hw
    obtain ⟨groups, hgps, hgs⟩ := ih es hflag hrs
      (by rw [← hw, List.append_assoc]; exact hall)
    cases groups with
    | nil =>
      rw [List.map_nil, behind] at hgs
      rw [← hgs] at htotal
      simp only [List.flatten_nil, List.length_nil] at htotal
      omega
    | cons g groups =>
      refine ⟨(q :: g) :: groups, by simp [← hgps], ?_⟩
      rw [behind_map_flatten, hw, hgs]
  | @full b q ps rs u m hw hu hm hends _ _ ih =>
    cases es with
    | nil => simp at hrs
    | cons e es =>
      have hm' := (List.cons.inj (List.cons.inj hrs).1).2
      exact absurd (by rw [hm']; simp) hm

lemma flagged_of_requests {es : List (List UInt8)} {l : List UInt8} {rs : List (List UInt8)}
    (h : l :: rs = es.map flagged) :
    ∃ e es', es = e :: es' ∧ l = flagged e ∧ rs = es'.map flagged := by
  cases es with
  | nil => simp at h
  | cons e es => exact ⟨e, es, rfl, (List.cons.inj h).1, (List.cons.inj h).2⟩

lemma Framing.noise_lt {q : List UInt8} {ps rs : List (List UInt8)}
    (h : Framing nLen [] (q :: ps) rs) {noise stream : List UInt8} (hnoise : 0x7e ∉ noise)
    (es : List (List UInt8)) (hrs : rs = es.map flagged)
    (hall : q ++ ps.flatten = noise ++ stream) : noise.length < q.length := by
  by_contra hle
  have hq : 0x7e ∉ q := by
    rcases List.append_eq_append_iff.mp hall with ⟨l, hl, -⟩ | ⟨x, hx, -⟩
    · exact fun hm => hnoise (by rw [hl]; exact List.mem_append_left _ hm)
    · have hx0 : x = [] := by
        have hlen := congrArg List.length hx
        rw [List.length_append] at hlen
        exact List.length_eq_zero_iff.mp (by omega)
      rw [hx, hx0, List.append_nil]
      exact hnoise
  cases h with
  | ends hends _ => exact hq (List.mem_of_mem_head? hends.1)
  | invalid _ _ =>
    obtain ⟨e, es', -, he, -⟩ := flagged_of_requests hrs
    exact hq (by rw [← List.nil_append q, he]; exact List.mem_cons_self)
  | inner u m r hw => exact hq (by rw [← List.nil_append q, hw]; simp)
  | half u m hw => exact hq (by rw [← List.nil_append q, hw]; simp)
  | full u m hw => exact hq (by rw [← List.nil_append q, hw]; simp)

/-- A first read with noise and the bytes `x` behind it: with the bytes alone in its place, the
reads are those of the frames. -/
lemma Framing.behind_noise {noise x : List UInt8} {ps rs : List (List UInt8)}
    (h : Framing nLen [] ((noise ++ 0x7e :: x) :: ps) rs) (hnoise : 0x7e ∉ noise)
    (hnil : noise ≠ []) (es : List (List UInt8)) (hflag : ∀ e ∈ es, 0x7e ∉ e)
    (hrs : rs = es.map flagged) (hstream : 0x7e :: x ++ ps.flatten = (es.map flagged).flatten) :
    ∃ g groups, (g :: groups).flatten = ps ∧
      ((0x7e :: x) ++ g.flatten) :: groups.map List.flatten = es.map flagged := by
  cases h with
  | ends hends _ =>
    rw [List.nil_append] at hends
    exact absurd hends (not_flagEnds_noise hnoise hnil)
  | invalid hw _ => exact absurd (by simp) hw
  | inner u m r hw hu hm hends hps =>
    obtain ⟨rfl, rfl⟩ := CString.first_unique hw hnoise hu
    obtain ⟨e, es', rfl, hm', hrs⟩ := flagged_of_requests hrs
    have hle := hps.length_le
    have htotal := congrArg List.length hstream
    have hsame := congrArg List.length hm'
    rw [hrs] at hle
    simp only [List.length_append, List.length_cons, List.flatten_cons, List.map_cons,
      length_flagged, List.length_nil] at hle htotal hsame
    have hrnil : r = [] := List.length_eq_zero_iff.mp (by omega)
    subst hrnil
    have hframe : 0x7e :: (m ++ [0x7e]) = flagged e := hm'
    rw [List.map_cons, List.flatten_cons, ← hm'] at hstream
    obtain ⟨groups, hgps, hgs⟩ := hps.groups es'
      (fun y hy => hflag y (List.mem_cons_of_mem _ hy)) hrs (List.append_cancel_left hstream)
    rw [behind_nil] at hgs
    refine ⟨[], groups, by simp [hgps], ?_⟩
    rw [List.flatten_nil, List.append_nil, hgs, hframe, List.map_cons]
  | half u m hw hu hm hends hps =>
    obtain ⟨rfl, rfl⟩ := CString.first_unique hw hnoise hu
    obtain ⟨groups, hgps, hgs⟩ := hps.groups es hflag hrs hstream
    cases groups with
    | nil =>
      rw [← hgs] at hstream
      simp [behind] at hstream
    | cons g groups => exact ⟨g, groups, hgps, hgs⟩
  | full u m hw hu hm hends _ hps =>
    obtain ⟨e, es', rfl, hq, -⟩ := flagged_of_requests hrs
    have hm' := (List.cons.inj hq).2
    exact absurd (by rw [hm']; simp) hm

/-- The same with noise in front: it comes with the first bytes of the first frame. -/
lemma Framing.heldApart {ps rs : List (List UInt8)} (h : Framing nLen [] ps rs)
    (noise : List UInt8) (hnoise : 0x7e ∉ noise) (es : List (List UInt8))
    (hflag : ∀ e ∈ es, 0x7e ∉ e) (hne : ∀ q ∈ ps, q ≠ []) (hrs : rs = es.map flagged)
    (hall : ps.flatten = noise ++ (es.map flagged).flatten) :
    ∃ groups : List (List (List UInt8)),
      groups.flatten = ps ∧ HeldApart noise (es.map flagged) groups := by
  by_cases hnil : noise = []
  · subst hnil
    obtain ⟨groups, hps, hgs⟩ := h.groups es hflag hrs hall
    refine ⟨groups, hps, by simpa using hgs, ?_⟩
    intro q hq
    rw [hps] at hq
    exact List.length_pos_iff.mpr (hne q (List.mem_of_mem_head? hq))
  cases ps with
  | nil => exact absurd (List.append_eq_nil_iff.mp hall.symm).1 hnil
  | cons q ps =>
    rw [List.flatten_cons] at hall
    have hlt := h.noise_lt hnoise es hrs hall
    obtain ⟨x, hx, rfl, hstream⟩ := read_past hall hlt
    obtain ⟨x, rfl⟩ : ∃ y, x = 0x7e :: y := by
      obtain ⟨a, y, rfl⟩ := List.exists_cons_of_ne_nil hx
      cases es with
      | nil => simp at hstream
      | cons e es => exact ⟨y, by rw [(List.cons.inj hstream).1]⟩
    obtain ⟨g, groups, hgps, hgs⟩ := h.behind_noise hnoise hnil es hflag hrs hstream
    have hflat : (((noise ++ 0x7e :: x) :: g) :: groups).flatten =
        (noise ++ 0x7e :: x) :: ps := by simp [← hgps]
    refine ⟨_, hflat, ?_, ?_⟩
    · rw [← hgs]
      simp [behind]
    · intro y hy
      rw [hflat] at hy
      obtain rfl : noise ++ 0x7e :: x = y := by simpa using hy
      exact hlt

lemma no_double_flag {e m l : List UInt8} (he : e ≠ []) (hflag : 0x7e ∉ e)
    (h : e ++ m = 0x7e :: l) : False := by
  obtain ⟨a, e, rfl⟩ := List.exists_cons_of_ne_nil he
  have ha := (List.cons.inj h).1
  exact hflag (by rw [ha]; exact List.mem_cons_self)

/-- The closing flag of an earlier frame in front spoils the first frame. -/
lemma Framing.tail_spoils {b : List UInt8} {ps rs : List (List UInt8)} (h : Framing nLen b ps rs)
    (t l : List UInt8) (ht : 0x7e ∉ t) (hall : b ++ ps.flatten = t ++ 0x7e :: 0x7e :: l)
    (es : List (List UInt8)) (hes : ∀ e ∈ es, e ≠ [] ∧ 0x7e ∉ e) (hsome : es ≠ []) :
    rs ≠ es.map flagged := by
  intro hrs
  induction h generalizing t with
  | nil b => exact hsome (List.map_eq_nil_iff.mp hrs.symm)
  | @ends b q ps rs hends _ ih =>
    obtain ⟨e, es', rfl, hq, -⟩ := flagged_of_requests hrs
    obtain ⟨he, hflag⟩ := hes e List.mem_cons_self
    rw [List.flatten_cons, ← List.append_assoc, hq] at hall
    have hall' : [] ++ 0x7e :: (e ++ [0x7e] ++ ps.flatten) = t ++ 0x7e :: 0x7e :: l := hall
    obtain ⟨-, hv⟩ := CString.first_unique hall' List.not_mem_nil ht
    rw [List.append_assoc] at hv
    exact no_double_flag he hflag hv
  | @invalid b q ps rs hw _ ih =>
    obtain ⟨e, es', rfl, hq, -⟩ := flagged_of_requests hrs
    exact hw (by rw [hq]; exact List.mem_cons_self)
  | @inner b q ps rs u m r hw hu hm hends _ ih =>
    obtain ⟨e, es', rfl, hq, -⟩ := flagged_of_requests hrs
    obtain ⟨he, hflag⟩ := hes e List.mem_cons_self
    have hme : m = e := List.append_cancel_right (List.cons.inj hq).2
    rw [List.flatten_cons, ← List.append_assoc, hw, List.append_assoc] at hall
    obtain ⟨-, hv⟩ := CString.first_unique (v := m ++ 0x7e :: r ++ ps.flatten) hall hu ht
    rw [List.append_assoc, hme] at hv
    exact no_double_flag he hflag hv
  | @half b q ps rs u m hw hu hm hends _ ih =>
    rw [List.flatten_cons, ← List.append_assoc, hw, List.append_assoc] at hall
    obtain ⟨-, hv⟩ := CString.first_unique (v := m ++ ps.flatten) hall hu ht
    have hnil : m = [] := by
      by_contra hne
      exact no_double_flag hne hm hv
    subst hnil
    refine ih [] List.not_mem_nil ?_ hrs
    rw [List.nil_append] at hv
    rw [hv]
    rfl
  | @full b q ps rs u m hw hu hm hends _ _ ih =>
    obtain ⟨e, es', rfl, hq, -⟩ := flagged_of_requests hrs
    have hm' := (List.cons.inj hq).2
    exact hm (by rw [hm']; simp)

end Only

lemma decoded_of_bytes (o : CProtolDiag) (r : Received) (e : List UInt8)
    (h : r.bytes = flagged e) : r.decoded o = flagged (diagStuffing.unstuff e) := by
  have hlen : r.len = e.length + 2 := by
    have hl := congrArg List.length h
    rwa [Received.bytes, length_load, length_flagged] at hl
  have hload : r.buff.load 0 (e.length + 2) = flagged e := by
    rw [← hlen]
    exact h
  unfold Received.decoded
  rw [hlen]
  exact (decode_flagged o hload).2

lemma decoded_of_requests (o : CProtolDiag) (rs : List Received) (es : List (List UInt8))
    (h : rs.map Received.bytes = es.map flagged) :
    rs.map (Received.decoded o) = es.map fun e => flagged (diagStuffing.unstuff e) := by
  induction rs generalizing es with
  | nil =>
    have hes : es = [] := List.map_eq_nil_iff.mp h.symm
    rw [hes]
    rfl
  | cons r rs ih =>
    obtain ⟨e, es, rfl, hr, hrs⟩ := flagged_of_requests h
    rw [List.map_cons, List.map_cons, decoded_of_bytes o r e hr, ih es hrs]

/-- On a diag channel a stream of frames behind noise comes through when the reads hold the
frames apart, and only then; behind the tail of an earlier frame it never does. -/
theorem frames_held_apart (p : CPort) (hrd : p.bEnableRD = true) (hfd : p.fdOpen = true)
    (hloop : p.portType ≠ .loop) (o : CProtolDiag) (buff : Buffer UInt8) (noise : List UInt8)
    (hnoise : 0x7e ∉ noise) (es : List (List UInt8))
    (hes : ∀ e ∈ es, e ≠ [] ∧ 0x7e ∉ e ∧ (flagged e).length ≤ maxChnlBuff) :
    (∀ groups : List (List (List UInt8)), HeldApart noise (es.map flagged) groups →
      (∀ g ∈ groups, g.head? ≠ some [0x7e]) → p.grants 1 buff (groups.flatten.map .data) →
      (p.received 1 buff (groups.flatten.map .data)).map Received.bytes = es.map flagged ∧
      (p.received 1 buff (groups.flatten.map .data)).map (Received.decoded o) =
        es.map fun e => flagged (diagStuffing.unstuff e)) ∧
    (∀ pieces : List (List UInt8), p.grants 1 buff (pieces.map .data) →
      pieces.flatten = noise ++ (es.map flagged).flatten →
      (p.received 1 buff (pieces.map .data)).map Received.bytes = es.map flagged →
      ∃ groups : List (List (List UInt8)),
        groups.flatten = pieces ∧ HeldApart noise (es.map flagged) groups) ∧
    (∀ pieces : List (List UInt8), p.grants 1 buff (pieces.map .data) → es ≠ [] →
      pieces.flatten = noise ++ 0x7e :: (es.map flagged).flatten →
      (p.received 1 buff (pieces.map .data)).map Received.bytes ≠ es.map flagged) := by
  have hread : ∀ pieces : List (List UInt8),
      (p.received 1 buff (pieces.map .data)).map Received.bytes =
        requests p.portType maxChnlBuff (rdStart p.portType maxChnlBuff buff) pieces := by
    intro pieces
    unfold CPort.received requests
    rw [if_pos ⟨hrd, hfd, hloop⟩]
  have hframing : ∀ pieces : List (List UInt8), (∀ q ∈ pieces, q ≠ []) →
      Framing maxChnlBuff [] pieces
        (requests p.portType maxChnlBuff (rdStart p.portType maxChnlBuff buff) pieces) :=
    fun pieces hne => framing_requests pieces hne (rdStart p.portType maxChnlBuff buff)
  have hflag : ∀ e ∈ es, 0x7e ∉ e := fun e he => (hes e he).2.1
  have hfit : ∀ e ∈ es, (flagged e).length ≤ maxChnlBuff := fun e he => (hes e he).2.2
  refine ⟨?_, ?_, ?_⟩
  · intro groups happart hlone hgrant
    have hne := granted_ne_nil _ _ _ _ _ hgrant
    have hrs := requests_heldApart (t := p.portType) noise hnoise es hflag hfit groups hne happart
      hlone buff
    have hbytes := (hread groups.flatten).trans hrs
    exact ⟨hbytes, decoded_of_requests o _ es hbytes⟩
  · intro pieces hgrant hcut hrs
    have hne := granted_ne_nil _ _ _ _ _ hgrant
    rw [hread] at hrs
    exact (hframing pieces hne).heldApart noise hnoise es hflag hne hrs hcut
  · intro pieces hgrant hsome hcut
    have hne := granted_ne_nil _ _ _ _ _ hgrant
    obtain ⟨e, es, rfl⟩ := List.exists_cons_of_ne_nil hsome
    rw [hread]
    exact (hframing pieces hne).tail_spoils noise _ hnoise hcut (e :: es)
      (fun x hx => ⟨(hes x hx).1, (hes x hx).2.1⟩) hsome

/-- Noise and a first frame in two reads, then a second frame. -/
theorem frames_held_apart_two :
    let p : CPort := ⟨.gser, true, true⟩
    let m : Buffer UInt8 := fun _ => 0
    let reads : List (List UInt8) := [[0x05, 0x7e, 0x01], [0x02, 0x7e], [0x7e, 0x03, 0x7e]]
    (p.received 1 m (reads.map .data)).map (Received.decoded (CProtolDiag.init .diag 1)) =
      [flagged [1, 2], flagged [3]] ∧
    (∃ groups : List (List (List UInt8)),
      groups.flatten = reads ∧ HeldApart [5] [flagged [1, 2], flagged [3]] groups) ∧
    (p.received 1 m ([[0x05, 0x7e, 0x7e, 0x01, 0x7e]].map .data)).map Received.bytes ≠
      [flagged [1]] := by
  intro p m reads
  have hfirst := frames_held_apart p rfl rfl (by decide) (CProtolDiag.init .diag 1) m [5]
    (by decide) [[1, 2], [3]] (by decide)
  have hthrough := hfirst.1 [[[0x05, 0x7e, 0x01], [0x02, 0x7e]], [[0x7e, 0x03, 0x7e]]]
    ⟨by decide, by decide⟩ (by decide) (by decide)
  have htail := (frames_held_apart p rfl rfl (by decide) (CProtolDiag.init .diag 1) m [5]
    (by decide) [[1]] (by decide)).2.2 [[0x05, 0x7e, 0x7e, 0x01, 0x7e]] (by decide) (by decide)
    (by decide)
  exact ⟨hthrough.2, hfirst.2.1 reads (by decide) (by decide) hthrough.1, htail⟩

/-- Two frames in one read become one request. -/
theorem frames_in_one_read :
    ((CPort.mk .gser true true).received 1 (fun _ => 0)
      ([flagged [1] ++ flagged [2]].map .data)).map Received.bytes ≠
      [flagged [1], flagged [2]] := by
  decide

end EngPc
