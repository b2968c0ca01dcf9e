import EngPc.Model.PQLaterTables
import EngPc.Proofs.PQTables

/-!
# What the walks of the later DPUs read and write

Their parsers are built from loops with a key and from macros, and read two versions where they write
one. A document that is saved and loaded gives every field back but the major version, which stays as
the document has it.
-/

namespace EngPc
open CString ReadWrite XmlTree

section StoredIn

variable {σ : Type} [DecidableEq σ] {s : σ} {stores stores' : List (Store σ)}

/-- The numbers that are stored in a field. -/
def storedIn (s : σ) (stores : List (Store σ)) : List Nat :=
  stores.filterMap fun st => if st.1 = s then some st.2 else none

@[simp] lemma storedIn_append :
    storedIn s (stores ++ stores') = storedIn s stores ++ storedIn s stores' :=
  List.filterMap_append

lemma storedIn_eq_nil : storedIn s stores = [] ↔ s ∉ stores.map Prod.fst := by
  induction stores with
  | nil => simp [storedIn]
  | cons st stores ih =>
    by_cases hs : st.1 = s
    · simp [storedIn, hs]
    · rw [List.map_cons, List.mem_cons, not_or, ← ih]
      simp [storedIn, hs, Ne.symm hs]

lemma storedIn_relabel (s : σ) (val : σ → Nat) (stores : List (Store σ)) :
    storedIn s (relabel val stores) = (storedIn s stores).map fun _ => val s := by
  induction stores with
  | nil => rfl
  | cons st stores ih =>
    by_cases hs : st.1 = s
    · subst hs
      simpa [storedIn, relabel] using ih
    · simpa [storedIn, relabel, hs] using ih

variable [PQFields σ]

lemma storeAll_getLast? (ctx : PQCtx σ) (stores : List (Store σ)) :
    ctx.storeAll stores s = ((storedIn s stores).getLast?.map (BitVec.ofNat _)).getD (ctx s) := by
  induction stores using List.reverseRecOn with
  | nil => rfl
  | append_singleton stores st ih =>
    obtain ⟨t, n⟩ := st
    rw [PQCtx.storeAll, List.foldl_append, List.foldl_cons, List.foldl_nil, ← PQCtx.storeAll,
      storedIn_append]
    by_cases hs : t = s
    · subst hs
      rw [Function.update_self]
      simp [storedIn]
    · rw [Function.update_of_ne (Ne.symm hs), ih]
      simp [storedIn, hs]

lemma storeAll_congr (ctx : PQCtx σ) (h : storedIn s stores = storedIn s stores') :
    ctx.storeAll stores s = ctx.storeAll stores' s := by
  rw [storeAll_getLast?, storeAll_getLast?, h]

end StoredIn

section Versions

variable {σ : Type}

/-- The major versions that are read: those of elements without a version. -/
def majorNumbers : List Node → List Nat
  | [] => []
  | node :: next =>
    if node.name = ofString "enhance" then
      (if node.hasProp (ofString "version") then []
        else ((node.getProp (ofString "major_version")).map (strtoul longBits)).toList) ++ majorNumbers next
    else []

/-- What of an element the version functions read besides the number of its version. -/
def nodeMajor (node : Node) : Text × Bool × Option Text :=
  (node.name, node.hasProp (ofString "version"), node.getProp (ofString "major_version"))

lemma name_of_nodeMajor (node node' : Node) (h : nodeMajor node = nodeMajor node') :
    node.name = node'.name := (Prod.mk.inj h).1

lemma majorNumbers_congr {nodes nodes' : List Node} (h : nodes.map nodeMajor = nodes'.map nodeMajor) :
    majorNumbers nodes = majorNumbers nodes' := by
  induction nodes generalizing nodes' with
  | nil => rw [List.map_eq_nil_iff.mp h.symm]
  | cons node nodes ih =>
    cases nodes' with
    | nil => cases h
    | cons node' nodes' =>
      obtain ⟨hnode, hnodes⟩ := List.cons.inj h
      simp only [nodeMajor, Prod.mk.injEq] at hnode
      rw [majorNumbers, majorNumbers, hnode.1, hnode.2.1, hnode.2.2, ih hnodes]

lemma succeeds_parseVersions {version major : σ} {nodes : List Node} :
    (parseVersions version major nodes).Succeeds (fun _ => True) ↔ RunEnds nodes := by
  induction nodes with
  | nil => simp [parseVersions, RunEnds]
  | cons node nodes ih =>
    rw [parseVersions]
    split_ifs with hname
    · rw [Except.succeeds_bind]
      simp only [pure, Except.pure, Except.succeeds_ok, ih, RunEnds, List.exists_mem_cons_iff,
        hname, ne_eq, not_true_eq_false, false_or]
    · simp [RunEnds, hname]

variable [DecidableEq σ] {version major : σ}

/-- Besides the major versions, the loop reads what the loop of the first DPU reads. -/
lemma parseVersions_of_parseVersion (hne : version ≠ major) {nodes : List Node}
    {found : List (Store σ)} (h : parseVersion version nodes = .ok found) :
    ∃ all, parseVersions version major nodes = .ok all ∧
      storedIn major all = majorNumbers nodes ∧ ∀ s ≠ major, storedIn s all = storedIn s found := by
  induction nodes generalizing found with
  | nil => cases h
  | cons node nodes ih =>
    rw [parseVersion] at h
    rw [parseVersions, majorNumbers, Node.hasProp]
    split_ifs at h with hname
    · simp only [bind_eq_ok, pure, Except.pure, Except.ok.injEq] at h
      obtain ⟨rest, hrest, rfl⟩ := h
      obtain ⟨all, hall, hmajor, hothers⟩ := ih hrest
      rw [if_pos hname, if_pos hname, hall]
      refine ⟨_, rfl, ?_, ?_⟩
      · rw [storedIn_append, hmajor]
        cases node.getProp (ofString "version") with
        | some text => simp [storedIn, hne]
        | none =>
          cases node.getProp (ofString "major_version") <;> simp [storedIn]
      · intro s hs
        rw [storedIn_append, storedIn_append, hothers s hs]
        cases node.getProp (ofString "version") with
        | some text => rfl
        | none =>
          cases node.getProp (ofString "major_version") <;> simp [storedIn, Ne.symm hs]
    · cases h
      rw [if_neg hname, if_neg hname]
      exact ⟨[], rfl, rfl, fun s _ => rfl⟩

lemma parseVersionsAt (hne : version ≠ major) {nodes : List Node} {all : List (Store σ)}
    (h : parseAt (ofString "enhance") (parseVersions version major) nodes = .ok all) :
    ∃ found, parseAt (ofString "enhance") (parseVersion version) nodes = .ok found ∧
      storedIn major all = majorNumbers (findNode nodes (ofString "enhance")) ∧
      ∀ s ≠ major, storedIn s all = storedIn s found := by
  cases hfind : findNode nodes (ofString "enhance") with
  | nil =>
    rw [parseAt_of_nil hfind] at h
    cases h
    exact ⟨[], parseAt_of_nil hfind, rfl, fun s _ => rfl⟩
  | cons node next =>
    rw [parseAt_of_cons hfind] at h
    have hends : RunEnds (node :: next) := succeeds_parseVersions.mp (by rw [h]; trivial)
    have hsucceeds : (parseVersion version (node :: next)).Succeeds fun _ => True :=
      succeeds_parseVersion.mpr hends
    obtain ⟨found, hfound, -⟩ := Except.succeeds_iff.mp hsucceeds
    obtain ⟨all', hall', hmajor, hothers⟩ := parseVersions_of_parseVersion hne hfound
    cases h.symm.trans hall'
    exact ⟨found, (parseAt_of_cons hfind).trans hfound, hmajor, hothers⟩

lemma parseVersionsAt_of (major : σ) (hne : version ≠ major) {nodes : List Node} {found : List (Store σ)}
    (h : parseAt (ofString "enhance") (parseVersion version) nodes = .ok found) :
    ∃ all, parseAt (ofString "enhance") (parseVersions version major) nodes = .ok all := by
  cases hfind : findNode nodes (ofString "enhance") with
  | nil => exact ⟨[], parseAt_of_nil hfind⟩
  | cons node next =>
    rw [parseAt_of_cons hfind] at h
    obtain ⟨all, hall, -⟩ := parseVersions_of_parseVersion hne h
    exact ⟨all, (parseAt_of_cons hfind).trans hall⟩

end Versions

section RoundTrips

variable {σ : Type} [PQFields σ]

/-- As `RoundTrips`, but the field `kept` has the number that it had behind the old document. -/
def RoundTripsBut (kept : σ) (parseXml : Node → PQCtx σ → Except XmlFault (Int × PQCtx σ))
    (updateXml : PQCtx σ → Node → Except XmlFault (Int × Node)) (Has : Node → σ → Prop) : Prop :=
  ∀ (root : Node) (ctx ctx' old : PQCtx σ) (ret : Int), parseXml root ctx' = .ok (ret, old) →
    ∃ ret' root' ctx'', updateXml ctx root = .ok (ret', root') ∧ (ret' = 0 ↔ ret = 0) ∧
      root'.shape = root.shape ∧ parseXml root' ctx' = .ok (ret, ctx'') ∧ ctx'' kept = old kept ∧
      ∀ s ≠ kept, (Has root s → ctx'' s = ctx s) ∧ (¬Has root s → ctx'' s = ctx' s)

variable [DecidableEq σ]

/-- Behind the writer the reader stores as often in each field, and its number then; only in the field
`kept` it stores what it stored before. -/
def Saves (kept : Option σ) (walk : List Node → Except XmlFault (List (Store σ)))
    (write : PQCtx σ → List Node → Except XmlFault (List Node)) : Prop :=
  ∀ (ctx : PQCtx σ) (nodes : List Node) (found : List (Store σ)), walk nodes = .ok found →
    ∃ nodes' found', write ctx nodes = .ok nodes' ∧ nodes'.map Node.shape = nodes.map Node.shape ∧
      walk nodes' = .ok found' ∧ ∀ s, storedIn s found' =
        if kept = some s then storedIn s found else (storedIn s found).map fun _ => ctx.number s

variable {name : Text} {other other' : Int} {version major : σ}
  {walk tables : List Node → Except XmlFault (List (Store σ))}
  {write : PQCtx σ → List Node → Except XmlFault (List Node)} {Has : Node → σ → Prop}

lemma saves_of_agree
    (hagree : ∀ ctx : PQCtx σ, Agree ctx.number (List.map Node.shape) walk (write ctx)) :
    Saves none walk write := by
  intro ctx nodes found h
  obtain ⟨nodes', hwrite, hwalk, hshape⟩ := hagree ctx nodes found h
  exact ⟨nodes', _, hwrite, hshape, hwalk, fun s => storedIn_relabel s ctx.number found⟩

lemma saves_of_agree_versions (hne : version ≠ major)
    (hagree : ∀ ctx : PQCtx σ, Agree ctx.number (List.map Node.shape)
      (fun nodes => do
        return (← tables nodes) ++ (← parseAt (ofString "enhance") (parseVersion version) nodes))
      (write ctx))
    (hkeeps : ∀ ctx, Keeps nodeMajor (write ctx))
    (htables : ∀ nodes found, tables nodes = .ok found → major ∉ found.map Prod.fst) :
    Saves (some major)
      (fun nodes => do
        return (← tables nodes) ++
          (← parseAt (ofString "enhance") (parseVersions version major) nodes)) write := by
  intro ctx nodes found h
  simp only [bind_eq_ok, pure, Except.pure, Except.ok.injEq] at h
  obtain ⟨old, hold, all, hall, rfl⟩ := h
  obtain ⟨old', hold', hmajor, hothers⟩ := parseVersionsAt hne hall
  -- what the reader of the first DPU finds behind the writer
  obtain ⟨nodes', hwrite, hparse, hshape⟩ := hagree ctx nodes (old ++ old') (by
    dsimp only
    rw [hold, Except.ok_bind, hold']
    rfl)
  simp only [bind_eq_ok, pure, Except.pure, Except.ok.injEq] at hparse
  obtain ⟨new, hnew, new', hnew', happend⟩ := hparse
  obtain ⟨all₁, hall₁⟩ := parseVersionsAt_of major hne hnew'
  obtain ⟨new₁, hnew₁, hmajor₁, hothers₁⟩ := parseVersionsAt hne hall₁
  cases hnew'.symm.trans hnew₁
  refine ⟨nodes', new ++ all₁, hwrite, hshape, ?_, fun s => ?_⟩
  · dsimp only
    rw [hnew, Except.ok_bind, hall₁]
    rfl
  · split_ifs with hs
    · cases hs
      rw [storedIn_append, storedIn_append, storedIn_eq_nil.mpr (htables _ _ hnew),
        storedIn_eq_nil.mpr (htables _ _ hold), hmajor, hmajor₁]
      exact majorNumbers_congr (map_findNode name_of_nodeMajor _ (hkeeps ctx _ _ hwrite))
    · have hs' : s ≠ major := fun h => hs (congrArg some h.symm)
      rw [storedIn_append, storedIn_append, hothers₁ s hs', ← storedIn_append, happend,
        storedIn_relabel, storedIn_append, ← hothers s hs']

/-- A parser whose writer saves its tables, and what the document holds of them. -/
lemma roundTripsBut_of_saves (hne : version ≠ major) (hother : other ≠ 0) (hother' : other' ≠ 0)
    (hsaves : Saves (some major)
      (fun nodes => do
        return (← tables nodes) ++
          (← parseAt (ofString "enhance") (parseVersions version major) nodes)) write)
    (hname : ∀ root s, Has root s → root.name = name)
    (hhas : ∀ root found found', root.name = name → tables root.children = .ok found →
      parseAt (ofString "enhance") (parseVersion version) root.children = .ok found' →
      ∀ s, s ∈ (found ++ found').map Prod.fst ↔ Has root s) :
    RoundTripsBut major
      (parseDocument name other fun nodes => do
        return (← tables nodes) ++
          (← parseAt (ofString "enhance") (parseVersions version major) nodes))
      (fun ctx => updateDocument name other' (write ctx)) Has := by
  intro root ctx ctx' old ret h
  by_cases hroot : root.name = name
  · have hroot' : ¬root.name ≠ name := not_not.mpr hroot
    rw [parseDocument, if_neg hroot', bind_eq_ok] at h
    obtain ⟨stores, hstores, h⟩ := h
    cases h
    obtain ⟨children, stores', hchildren, hshape, hstores', hsaved⟩ := hsaves ctx _ _ hstores
    refine ⟨0, root.withChildren children, ctx'.storeAll stores', ?_, Iff.rfl,
      shape_withChildren hshape, ?_, ?_, ?_⟩
    · dsimp only [updateDocument]
      rw [if_neg hroot', hchildren]
      rfl
    · rw [parseDocument, if_neg (by simpa using hroot), children_withChildren]
      exact bind_eq_ok.mpr ⟨stores', hstores', rfl⟩
    · exact storeAll_congr ctx' ((hsaved major).trans (if_pos rfl))
    · intro s hs
      simp only [bind_eq_ok, pure, Except.pure, Except.ok.injEq] at hstores
      obtain ⟨found, hfound, all, hall, rfl⟩ := hstores
      obtain ⟨found', hfound', -, hothers⟩ := parseVersionsAt hne hall
      have hstored : storedIn s stores' = storedIn s (relabel ctx.number (found ++ found')) := by
        rw [hsaved s, if_neg fun h => hs (Option.some.inj h).symm, storedIn_relabel, storedIn_append,
          storedIn_append, hothers s hs]
      have hmem := hhas root found found' hroot hfound hfound' s
      rw [storeAll_congr ctx' hstored, storeAll_relabel]
      exact ⟨fun hin => if_pos (hmem.mpr hin), fun hout => if_neg fun hin => hout (hmem.mp hin)⟩
  · rw [parseDocument, if_pos hroot] at h
    cases h
    refine ⟨other', root, ctx', if_pos hroot, ?_, rfl, if_pos hroot, rfl, ?_⟩
    · exact ⟨fun h => absurd h hother', fun h => absurd h hother⟩
    · exact fun s _ => ⟨fun hin => absurd (hname root s hin) hroot, fun _ => rfl⟩

end RoundTrips

section Keyed

variable {σ κ : Type} {key : Node → Option κ}
  {walk : Nat → κ → List Node → Except XmlFault (List (Store σ))}
  {write : Nat → κ → List Node → Except XmlFault (List Node)}

/-- A loop agrees with a loop, when what is done for each key does. -/
lemma agree_keyed {val : σ → Nat} (hkey : ∀ node children, key (node.withChildren children) = key node)
    (h : ∀ i k, Agree val (List.map Node.shape) (walk i k) (write i k)) :
    Agree val (List.map Node.shape) (parseKeyed key walk) (updateKeyed key write) := by
  apply agree_each
  intro i
  apply agree_table key hkey (h i)
  · intro node hnode
    simp only [hnode, and_self]
  · intro node k hnode
    simp only [hnode, and_self]

lemma mem_keyed {P : Nat → κ → List Node → Prop} {s : σ}
    (hwalk : ∀ i k nodes here, walk i k nodes = .ok here → (s ∈ here.map Prod.fst ↔ P i k nodes))
    {nodes : List Node} {found : List (Store σ)} (h : parseKeyed key walk nodes = .ok found) :
    s ∈ found.map Prod.fst ↔ ∃ (i : Nat) (node : Node), nodes[i]? = some node ∧
      ∃ k, key node = some k ∧ P i k node.children := by
  rw [mem_slots_collect (P := fun i node => ∃ k, key node = some k ∧ P i k node.children) _ h]
  · simp only [Nat.zero_add]
  · intro i node here hhere
    cases hnode : key node with
    | none =>
      rw [hnode] at hhere
      cases hhere
      simp
    | some k =>
      rw [hnode] at hhere
      rw [hwalk i k _ here hhere]
      simp

lemma mem_keyed_each {walk : κ → List Node → Except XmlFault (List (Store σ))}
    {P : κ → List Node → Prop} {s : σ}
    (hwalk : ∀ k nodes here, walk k nodes = .ok here → (s ∈ here.map Prod.fst ↔ P k nodes))
    {nodes : List Node} {found : List (Store σ)}
    (h : parseKeyed key (fun _ => walk) nodes = .ok found) :
    s ∈ found.map Prod.fst ↔ ∃ node ∈ nodes, ∃ k, key node = some k ∧ P k node.children := by
  rw [mem_keyed (fun _ => hwalk) h]
  simp only [List.mem_iff_getElem?]
  constructor
  · rintro ⟨i, node, hnode, hk⟩
    exact ⟨node, ⟨i, hnode⟩, hk⟩
  · rintro ⟨node, ⟨i, hnode⟩, hk⟩
    exact ⟨i, node, hnode, hk⟩

lemma keeps_updateKeyed : Keeps nodeHead (updateKeyed key write) := by
  apply keeps_updateEach
  intro i node node' h
  cases hnode : key node with
  | none =>
    rw [hnode] at h
    cases h
    rfl
  | some k =>
    rw [hnode] at h
    exact nodeHead_withChildren h

lemma seenAs_parseKeyed
    (hkey : ∀ node node', nodeBody node = nodeBody node' → key node = key node') :
    SeenAs nodeBody (parseKeyed key walk) := by
  apply seenAs_collect
  intro i node node' h
  rw [hkey node node' h, (Prod.mk.inj (Prod.mk.inj h).2).2]

variable {modes : List (Text × κ)}

lemma tableMode_withChildren (node : Node) (children : List Node) :
    tableMode modes (node.withChildren children) = tableMode modes node := by
  rw [tableMode, tableMode, getProp_withChildren]

lemma tableMode_congr (node node' : Node) (h : nodeBody node = nodeBody node') :
    tableMode modes node = tableMode modes node' := by
  rw [tableMode, tableMode, (Prod.mk.inj (Prod.mk.inj h).2).1]

lemma partName_withChildren (node : Node) (children : List Node) :
    partName modes (node.withChildren children) = partName modes node := by
  rw [partName, partName, name_withChildren]

end Keyed

section Arrays

variable {σ φ : Type} {names : List (Text × φ)} {slot : φ → Option σ}

/-- The field is one that the macros come upon. -/
def FieldHas (names : List (Text × φ)) (nodes : List Node) (f : φ) : Prop :=
  ∃ a ∈ chainNames (names.map Prod.fst) nodes, (a, f) ∈ names

lemma fieldChain_names : (fieldChain names slot).map Prod.fst = names.map Prod.fst := by
  rw [fieldChain, List.map_map]
  rfl

lemma mem_fieldChain {a : Text} {s : Option σ} :
    (a, s) ∈ fieldChain names slot ↔ ∃ f, (a, f) ∈ names ∧ slot f = s := by
  simp [fieldChain]

lemma mem_parseArrays (hnodup : (names.map Prod.fst).Nodup) {nodes : List Node}
    {found : List (Store σ)} (h : parseArrays (fieldChain names slot) nodes = .ok found) {s : σ} :
    s ∈ found.map Prod.fst ↔ ∃ f, FieldHas names nodes f ∧ slot f = some s := by
  simp only [parseArrays, bind_eq_ok, pure, Except.pure, Except.ok.injEq] at h
  obtain ⟨⟨stores, rest⟩, hstores, rfl⟩ := h
  have hchain : ((fieldChain names slot).map Prod.fst).Nodup := by rwa [fieldChain_names]
  rw [mem_parseChain hchain hstores, fieldChain_names]
  simp only [mem_fieldChain, FieldHas]
  constructor
  · rintro ⟨a, ha, f, hf, hs⟩
    exact ⟨f, ⟨a, ha, hf⟩, hs⟩
  · rintro ⟨f, ⟨a, ha, hf⟩, hs⟩
    exact ⟨a, ha, f, hf, hs⟩

variable [PQFields σ]

lemma short_fieldChain (h : ∀ f s, slot f = some s → PQFields.width s ≤ 16) :
    ShortChain (fieldChain names slot) := by
  intro a s hs
  obtain ⟨f, -, hf⟩ := mem_fieldChain.mp hs
  exact h f s hf

lemma agree_parseArrays (ctx : PQCtx σ) {chain : Cascade σ} (hshort : ShortChain chain) :
    Agree ctx.number (List.map Node.shape) (parseArrays chain) (updateArrays ctx chain) :=
  agree_parseChain ctx hshort

end Arrays

section Frames

variable {σ τ : Type} {π : Node → τ} {write write' : List Node → Except XmlFault (List Node)}
  {nodes nodes' : List Node} {name name' : Text}

lemma Keeps.bind (h : Keeps π write) (h' : Keeps π write') :
    Keeps π (fun nodes => do write' (← write nodes)) := by
  intro nodes nodes' heq
  obtain ⟨nodes₁, hwrite, hwrite'⟩ := bind_eq_ok.mp heq
  exact (h' _ _ hwrite').trans (h _ _ hwrite)

/-- A writer that keeps the attributes keeps what the version functions read. -/
lemma Keeps.major (h : Keeps nodeHead write) : Keeps nodeMajor write := by
  intro nodes nodes' heq
  have hmajor : nodeMajor = (fun head => nodeMajor (.mk head.1 head.2 [])) ∘ nodeHead := by
    funext node
    cases node
    rfl
  rw [hmajor, ← List.map_map, ← List.map_map, h nodes nodes' heq]

lemma keepsMajor_updateVersion [PQFields σ] (ctx : PQCtx σ) (slot : σ) :
    Keeps nodeMajor (updateVersion ctx slot) := by
  intro nodes
  induction nodes with
  | nil =>
    intro nodes' h
    cases h
  | cons node nodes ih =>
    intro nodes' h
    rw [updateVersion] at h
    split_ifs at h with hname hprop
    · simp only [bind_eq_ok, pure, Except.pure, Except.ok.injEq] at h
      obtain ⟨rest, hrest, rfl⟩ := h
      rw [List.map_cons, List.map_cons, ih rest hrest, nodeMajor, nodeMajor, name_setProp,
        hasProp_setProp hprop, getProp_setProp_ne (by decide)]
    · simp only [bind_eq_ok, pure, Except.pure, Except.ok.injEq] at h
      obtain ⟨rest, hrest, rfl⟩ := h
      rw [List.map_cons, List.map_cons, ih rest hrest]
    · cases h
      rfl

lemma keepsMajor_versionAt [PQFields σ] (ctx : PQCtx σ) (slot : σ) :
    Keeps nodeMajor (updateAt (ofString "enhance") (updateVersion ctx slot)) :=
  (keepsMajor_updateVersion ctx slot).updateAt _

lemma keepsMajor_section : Keeps nodeMajor
    (updateAt name (updateNode fun node => do return node.withChildren (← write node.children))) :=
  (keeps_children.updateAt name).major

/-- What a section's writer does is not seen by the version function. -/
lemma parseVersionAt_section {slot : σ} (h : updateAt name
      (updateNode fun node => do return node.withChildren (← write node.children)) nodes = .ok nodes') :
    parseAt (ofString "enhance") (parseVersion slot) nodes' =
      parseAt (ofString "enhance") (parseVersion slot) nodes :=
  ((seenAs_parseVersion slot).parseAt name_of_nodeHead _).unchanged (keeps_children.updateAt _) h

variable {walk : List Node → Except XmlFault (List (Store σ))}

lemma parseSectionAt_version [PQFields σ] {ctx : PQCtx σ} {slot : σ}
    (h : updateAt (ofString "enhance") (updateVersion ctx slot) nodes = .ok nodes') :
    parseAt name (onNode fun node => walk node.children) nodes' =
      parseAt name (onNode fun node => walk node.children) nodes :=
  (seenAs_children.parseAt name_of_nodeBody _).unchanged
    ((keeps_updateVersion ctx slot).updateAt _) h

lemma parseSectionAt_ne (hne : name' ≠ name) (h : updateAt name'
      (updateNode fun node => do return node.withChildren (← write node.children)) nodes = .ok nodes') :
    parseAt name (onNode fun node => walk node.children) nodes' =
      parseAt name (onNode fun node => walk node.children) nodes :=
  parseAt_updateAt_ne hne _
    (fun _ _ hnode => name_of_nodeHead _ _ (nodeHead_withChildren hnode)) h

end Frames

end EngPc
