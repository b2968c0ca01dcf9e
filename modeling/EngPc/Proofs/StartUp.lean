import EngPc.Lib.Grouping
import EngPc.Model.StartUp
import EngPc.Proofs.ChnlGraph
import EngPc.Proofs.ChnlLookup
import EngPc.Proofs.PortEnable

/-!
# What the configuration files mean

The loaders put ports into modes and rows into threads one after the other. What comes of it is read
off the rows alone: a port is the first row with its name in the mode of its device, and a thread is
what the rows of one source port say, with the properties of the first.
-/

namespace EngPc
open CString Grouping

/-- The rows of a file, and the name that it stands for. -/
structure ParsedFile (ρ : Type) where
  index : Nat
  name : List UInt8
  rows : List ρ

section Parse

variable {n : Nat} {ρ : Type} (build : FieldVars n → Except LoadFault (Option ρ)) (size : Nat)

def parseFiles : Nat → List ConfFile → Except LoadFault (List (ParsedFile ρ))
  | _, [] => .ok []
  | k, f :: fs =>
    if f.isConf = true then do
      let name ← f.stem size
      let rows ← loadFile build f.text
      let files ← parseFiles (k + 1) fs
      return ⟨k, name, rows⟩ :: files
    else parseFiles (k + 1) fs

end Parse

/-- The first file with the name. -/
def fileNamed {ρ : Type} (files : List (ParsedFile ρ)) (name : List UInt8) :
    Option (ParsedFile ρ) :=
  files.find? fun f => strcaseeq f.name name

/-- The mode whose rows count. -/
def ParsedFile.mode (f : ParsedFile PortRow) (bootmode : List UInt8) : List UInt8 :=
  if f.rows.any fun r => strcaseeq r.bootmode bootmode then bootmode
  else if f.rows.any fun r => strcaseeq r.bootmode defBootMode then defBootMode
  else []

/-- The port that a name means in the file of a device. -/
def ParsedFile.port (f : ParsedFile PortRow) (bootmode name : List UInt8) : Option PortId :=
  (f.rows.zipIdx.find? fun r =>
    strcaseeq r.1.bootmode (f.mode bootmode) ∧ portFind name r.1.portName).map
      fun r => ⟨f.index, r.2⟩

def portNamed (files : List (ParsedFile PortRow)) (bootmode dev name : List UInt8) :
    Option PortId :=
  (fileNamed files dev).bind fun f => f.port bootmode name

/-- One direction of a row. -/
structure Link where
  name : List UInt8
  src : PortId
  dst : PortId
  enable : Int
  dataType : DataType
  apProcess : Int
  deriving DecidableEq, Repr

/-- The links of a row, with its ports. -/
def ChnlProp.links (row : ChnlProp) (port : List UInt8 → List UInt8 → Option PortId) : List Link :=
  match port row.srcDevName row.srcPortName, port row.dstDevName row.dstPortName with
  | some src, some dst =>
    let forth := ⟨row.name, src, dst, row.enable, row.dataType, row.processes 1⟩
    let back := ⟨row.name ++ ofString "-R", dst, src, row.enable, row.dataType, row.processes 2⟩
    match row.act with
    | .S => [forth]
    | .F => [forth, back]
    | .unknow => []
  | _, _ => []

/-- The thread of a source port: the properties of its first link, the destinations of all. -/
def Link.thread (links : List Link) (l : Link) : ChnlThread PortId :=
  { newThread l.name l.src l.dst l.enable l.dataType l.apProcess with
    listDstPort := (links.filter fun l' => l'.src = l.src).map Link.dst }

/-- The threads of the files. -/
def fileThreads (ports : List (ParsedFile PortRow)) (chnls : List (ParsedFile ChnlRow))
    (bootmode : List UInt8) : List (ChnlThread PortId) :=
  match fileNamed chnls bootmode with
  | none => []
  | some f =>
    let links := f.rows.flatMap fun row => row.links (portNamed ports bootmode)
    (firsts Link.src links).map (Link.thread links)

def linkGrouper : Grouper Link (ChnlThread PortId) PortId where
  item := Link.src
  key := ChnlThread.portSrc
  start := fun l => newThread l.name l.src l.dst l.enable l.dataType l.apProcess
  add := fun td l => td.addDstPort l.dst
  key_start := fun _ => rfl
  key_add := fun _ _ => rfl

lemma install_eq (tds : List (ChnlThread PortId)) (l : Link) :
    install tds l.name l.src l.dst l.enable l.dataType l.apProcess = linkGrouper.insert l tds := by
  unfold install
  induction tds with
  | nil => rfl
  | cons td tds ih =>
    rw [findSameSrcPort, List.find?_cons, Grouper.insert]
    by_cases htd : td.portSrc = l.src
    · have hkey : linkGrouper.key td = linkGrouper.item l := htd
      rw [decide_eq_true htd, if_pos hkey]
      dsimp only
      rw [updateFirst, if_pos (decide_eq_true htd)]
      rfl
    · have hkey : ¬linkGrouper.key td = linkGrouper.item l := htd
      rw [decide_eq_false htd, if_neg hkey, ← ih]
      dsimp only
      rw [← findSameSrcPort]
      cases findSameSrcPort tds l.src with
      | none => rfl
      | some t =>
        dsimp only
        rw [updateFirst, if_neg (by simpa using htd)]

lemma foldl_addDstPort (ls : List Link) (td : ChnlThread PortId) :
    ls.foldl (fun td l => td.addDstPort l.dst) td =
      { td with listDstPort := td.listDstPort ++ ls.map Link.dst } := by
  induction ls generalizing td with
  | nil =>
    rw [List.map_nil, List.append_nil]
    rfl
  | cons l ls ih =>
    rw [List.foldl_cons, ih, ChnlThread.addDstPort, List.map_cons]
    simp

lemma groupOf_link {links : List Link} {l : Link} (h : l ∈ firsts Link.src links) :
    linkGrouper.groupOf links l = l.thread links := by
  have hfirst : (firsts Link.src links).filter (fun l' => l'.src = l.src) =
      (links.filter fun l' => l'.src = l.src).head?.toList := filter_firsts links l.src
  have hmem : l ∈ (firsts Link.src links).filter fun l' => l'.src = l.src :=
    List.mem_filter.mpr ⟨h, by simp⟩
  have hgroup : linkGrouper.groupOf links l = (links.filter fun l' => l'.src = l.src).tail.foldl
      (fun td l' => ChnlThread.addDstPort td l'.dst) (linkGrouper.start l) := rfl
  rw [hfirst] at hmem
  rw [hgroup, Link.thread]
  cases hfilter : links.filter fun l' => l'.src = l.src with
  | nil =>
    rw [hfilter] at hmem
    exact absurd hmem List.not_mem_nil
  | cons l' ls =>
    rw [hfilter] at hmem
    obtain rfl : l = l' := List.mem_singleton.mp hmem
    rw [List.tail_cons, foldl_addDstPort]
    rfl

lemma groups_links (links : List Link) :
    linkGrouper.groups links = (firsts Link.src links).map (Link.thread links) := by
  rw [Grouper.groups_eq]
  exact List.map_congr_left fun l hl => groupOf_link hl

lemma runInThread_links {devs : List (CDev PortId)}
    {port : List UInt8 → List UInt8 → Option PortId}
    (hport : ∀ dev name, port dev name = (devFind devs dev).bind fun d => d.find name)
    (tds : List (ChnlThread PortId)) (row : ChnlProp) :
    (runInThread devs true tds row).2 =
      (row.links port).foldl (fun tds l => linkGrouper.insert l tds) tds := by
  have hports : row.ports devs = (port row.srcDevName row.srcPortName).bind fun src =>
      (port row.dstDevName row.dstPortName).map fun dst => (src, dst) := by
    rw [ChnlProp.ports, hport, hport]
    simp only [Option.bind_eq_bind, Option.pure_def, Option.bind_assoc, Option.map_eq_bind]
    rfl
  unfold runInThread ChnlProp.links
  rw [hports]
  cases port row.srcDevName row.srcPortName with
  | none => cases row.act <;> rfl
  | some src =>
    cases port row.dstDevName row.dstPortName with
    | none => cases row.act <;> rfl
    | some dst =>
      cases row.act with
      | S => exact install_eq tds ⟨row.name, src, dst, row.enable, row.dataType, row.processes 1⟩
      | F =>
        dsimp only [Option.bind_some, Option.map_some, List.foldl_cons, List.foldl_nil]
        rw [← install_eq, ← install_eq]
        rfl
      | unknow => rfl

lemma run_links {devs : List (CDev PortId)} {port : List UInt8 → List UInt8 → Option PortId}
    (hport : ∀ dev name, port dev name = (devFind devs dev).bind fun d => d.find name)
    {chnl : CChnl} (henable : chnl.enable = true) :
    chnl.run devs [] = linkGrouper.groups (chnl.chnlList.flatMap fun row => row.links port) := by
  have hfold : ∀ (rows : List ChnlProp) (tds : List (ChnlThread PortId)),
      rows.foldl (fun tds row => (runInThread devs true tds row).2) tds =
        (rows.flatMap fun row => row.links port).foldl (fun tds l => linkGrouper.insert l tds)
          tds := by
    intro rows
    induction rows with
    | nil => exact fun _ => rfl
    | cons row rows ih =>
      intro tds
      rw [List.foldl_cons, ih, runInThread_links hport, List.flatMap_cons, List.foldl_append]
  rw [CChnl.run, henable, hfold]
  rfl

section Modes

variable {π : Type}

/-- A port with its name goes into the mode of its row. -/
def modeGrouper : Grouper (List UInt8 × List UInt8 × π) (BMDev π) (List UInt8) where
  item := fun r => r.1.map toLower
  key := fun bm => bm.bootmode.map toLower
  start := fun r => ⟨r.1, [r.2]⟩
  add := fun bm r => { bm with portList := bm.portList ++ [r.2] }
  key_start := fun _ => rfl
  key_add := fun _ _ => rfl

lemma bmDevList_addPort (dev : CDev π) (bootmode : List UInt8) (port : List UInt8 × π) :
    (dev.addPort bootmode port).bmDevList = modeGrouper.insert (bootmode, port) dev.bmDevList := by
  unfold CDev.addPort
  induction dev.bmDevList with
  | nil => rfl
  | cons bm bms ih =>
    rw [List.findIdx?_cons, Grouper.insert]
    by_cases hbm : strcaseeq bm.bootmode bootmode
    · have hkey : (modeGrouper (π := π)).key bm = modeGrouper.item (bootmode, port) := hbm
      rw [decide_eq_true hbm, if_pos hkey]
      rfl
    · have hkey : ¬(modeGrouper (π := π)).key bm = modeGrouper.item (bootmode, port) := hbm
      rw [decide_eq_false hbm, if_neg hkey, ← ih]
      cases bms.findIdx? fun bm => strcaseeq bm.bootmode bootmode with
      | none => rfl
      | some i => rfl

lemma foldl_addPort (rs : List (List UInt8 × List UInt8 × π)) (dev : CDev π) :
    rs.foldl (fun dev r => dev.addPort r.1 r.2) dev =
      { dev with bmDevList := rs.foldl (fun bms r => modeGrouper.insert r bms) dev.bmDevList } := by
  induction rs generalizing dev with
  | nil => rfl
  | cons r rs ih =>
    have hframe : dev.addPort r.1 r.2 =
        { dev with bmDevList := (dev.addPort r.1 r.2).bmDevList } := by
      unfold CDev.addPort
      split <;> rfl
    rw [List.foldl_cons, ih, hframe, bmDevList_addPort]
    rfl

end Modes

/-- The row and its port. -/
def ParsedFile.entry (f : ParsedFile PortRow) (r : PortRow × Nat) :
    List UInt8 × List UInt8 × PortId :=
  (r.1.bootmode, r.1.portName, ⟨f.index, r.2⟩)

def ParsedFile.dev (f : ParsedFile PortRow) : CDev PortId :=
  ⟨f.name, [], modeGrouper.groups (f.rows.zipIdx.map f.entry)⟩

lemma loadDev_eq (f : ConfFile) (k : Nat) : f.loadDev k = (do
    let devName ← f.stem 32
    let rows ← loadFile buildPort f.text
    return ParsedFile.dev ⟨k, devName, rows⟩) := by
  rw [ConfFile.loadDev]
  cases f.stem 32 with
  | error e => rfl
  | ok devName =>
    cases loadFile buildPort f.text with
    | error e => rfl
    | ok rows =>
      have hfold := foldl_addPort
        (rows.zipIdx.map (ParsedFile.entry ⟨k, devName, rows⟩)) ⟨devName, [], []⟩
      rw [List.foldl_map] at hfold
      exact congrArg Except.ok hfold

lemma any_dev (f : ParsedFile PortRow) (bootmode : List UInt8) :
    (f.dev.bmDevList.any fun bm => strcaseeq bm.bootmode bootmode) =
      f.rows.any fun r => strcaseeq r.bootmode bootmode := by
  have hmem : bootmode.map toLower ∈ f.dev.bmDevList.map (fun bm => bm.bootmode.map toLower) ↔
      bootmode.map toLower ∈ (f.rows.zipIdx.map f.entry).map fun r => r.1.map toLower :=
    Grouper.mem_map_key_groups (G := modeGrouper)
  have hrows : (f.rows.zipIdx.map f.entry).map (fun r => r.1.map toLower) =
      f.rows.map fun r => r.bootmode.map toLower := by
    rw [List.map_map, ← List.zipIdx_map_fst 0 f.rows, List.map_map, List.zipIdx_map_fst]
    rfl
  rw [hrows] at hmem
  rw [List.mem_map, List.mem_map] at hmem
  rw [Bool.eq_iff_iff, List.any_eq_true, List.any_eq_true]
  simp only [decide_eq_true_eq]
  exact hmem

lemma entries_active (f : ParsedFile PortRow) (mode : List UInt8) :
    CDev.entries { f.dev with curMode := mode } =
      (f.rows.zipIdx.filter fun r => strcaseeq r.1.bootmode mode).map
        fun r => (r.1.portName, ⟨f.index, r.2⟩) := by
  have hcontent : ((modeGrouper.groups (f.rows.zipIdx.map f.entry)).filter
      fun bm => modeGrouper.key bm = mode.map toLower).flatMap BMDev.portList =
      ((f.rows.zipIdx.map f.entry).filter fun r => modeGrouper.item r = mode.map toLower).map
        Prod.snd := Grouper.flatMap_content (fun _ => rfl) (fun _ _ => rfl) _ _
  refine hcontent.trans ?_
  rw [List.filter_map, List.map_map]
  rfl

/-- The device with its mode. -/
def ParsedFile.active (f : ParsedFile PortRow) (bootmode : List UInt8) : CDev PortId :=
  { f.dev with curMode := f.mode bootmode }

lemma active_eq (f : ParsedFile PortRow) (bootmode : List UInt8) :
    ((f.dev.activeMode bootmode).or (f.dev.activeMode defBootMode)).getD f.dev =
      f.active bootmode := by
  unfold CDev.activeMode ParsedFile.active ParsedFile.mode
  rw [any_dev, any_dev]
  split_ifs <;> rfl

lemma find_active (f : ParsedFile PortRow) (bootmode name : List UInt8) :
    (f.active bootmode).find name = f.port bootmode name := by
  rw [CDev.find_eq, ParsedFile.active, entries_active, List.find?_map, List.find?_filter,
    Option.map_map, ParsedFile.port]
  simp only [Function.comp_def, Bool.decide_and, Bool.decide_eq_true]

section Loop

variable {n : Nat} {ρ δ : Type} {build : FieldVars n → Except LoadFault (Option ρ)} {size : Nat}

/-- A loop over a directory that parses a file and then adds what comes of it. -/
lemma fileLoop_eq (loop : Nat → List ConfFile → List δ → Except LoadFault (List δ))
    (add : List δ → ParsedFile ρ → List δ) (hnil : ∀ k ds, loop k [] ds = .ok ds)
    (hcons : ∀ k f fs ds, loop k (f :: fs) ds =
      if f.isConf = true then do
        let name ← f.stem size
        let rows ← loadFile build f.text
        loop (k + 1) fs (add ds ⟨k, name, rows⟩)
      else loop (k + 1) fs ds) (k : Nat) (fs : List ConfFile) (ds : List δ) :
    loop k fs ds = (parseFiles build size k fs).map fun files => files.foldl add ds := by
  induction fs generalizing k ds with
  | nil => exact hnil k ds
  | cons f fs ih =>
    rw [hcons, parseFiles]
    split_ifs
    · cases f.stem size with
      | error e => rfl
      | ok name =>
        cases loadFile build f.text with
        | error e => rfl
        | ok rows =>
          refine (ih (k + 1) _).trans ?_
          cases parseFiles build size (k + 1) fs <;> rfl
    · exact ih (k + 1) ds

end Loop

/-- A table that an element goes to unless one of its name is there, whatever the case. -/
lemma foldl_addNew {δ : Type} (name : δ → List UInt8) (add : List δ → δ → List δ)
    (hold : ∀ ds d d', ds.find? (fun d' => strcaseeq (name d') (name d)) = some d' → add ds d = ds)
    (hnew : ∀ ds d, ds.find? (fun d' => strcaseeq (name d') (name d)) = none →
      add ds d = ds ++ [d]) (ds : List δ) :
    ds.foldl add [] = firsts (fun d => (name d).map toLower) ds := by
  apply foldl_firsts
  · intro ds d hin
    obtain ⟨d', hd', heq⟩ := List.mem_map.mp hin
    cases hfind : ds.find? fun d' => strcaseeq (name d') (name d) with
    | none => exact absurd (decide_eq_true heq) (List.find?_eq_none.mp hfind d' hd')
    | some d'' => exact hold ds d d'' hfind
  · intro ds d hout
    apply hnew
    rw [List.find?_eq_none]
    intro d' hd' heq
    exact hout (List.mem_map.mpr ⟨d', hd', of_decide_eq_true heq⟩)

lemma load_devs (dir : List ConfFile) : CDevMgr.load dir = (parseFiles buildPort 32 0 dir).map
    fun files => firsts (fun dev => dev.devName.map toLower) (files.map ParsedFile.dev) := by
  have hcons : ∀ k f fs ds, devLoop k (f :: fs) ds =
      if f.isConf = true then do
        let name ← f.stem 32
        let rows ← loadFile buildPort f.text
        devLoop (k + 1) fs (CDevMgr.addDev ds (ParsedFile.dev ⟨k, name, rows⟩))
      else devLoop (k + 1) fs ds := by
    intro k f fs ds
    rw [devLoop, loadDev_eq]
    cases f.stem 32 with
    | error e => rfl
    | ok name => cases loadFile buildPort f.text <;> rfl
  rw [CDevMgr.load, fileLoop_eq devLoop (fun devs f => CDevMgr.addDev devs f.dev)
    (fun _ _ => by rw [devLoop]) hcons]
  congr 1
  funext files
  refine List.foldl_map.symm.trans (foldl_addNew CDev.devName CDevMgr.addDev ?_ ?_ _)
  · intro devs dev d h
    rw [CDevMgr.addDev, devFind, h]
  · intro devs dev h
    rw [CDevMgr.addDev, devFind, h]

lemma devFind_active (files : List (ParsedFile PortRow)) (bootmode name : List UInt8) :
    devFind (CDevMgr.activeMode (firsts (fun dev => dev.devName.map toLower)
      (files.map ParsedFile.dev)) bootmode) name =
        (fileNamed files name).map fun f => f.active bootmode := by
  have hfirsts : (firsts (fun dev => dev.devName.map toLower) (files.map ParsedFile.dev)).find?
      (fun dev => strcaseeq dev.devName name) = (files.map ParsedFile.dev).find?
        (fun dev => strcaseeq dev.devName name) := find?_firsts _ _
  have hname : ∀ dev : CDev PortId, (((dev.activeMode bootmode).or
      (dev.activeMode defBootMode)).getD dev).devName = dev.devName := by
    intro dev
    unfold CDev.activeMode
    split_ifs <;> rfl
  rw [devFind, CDevMgr.activeMode, List.find?_map]
  simp only [Function.comp_def, hname]
  rw [hfirsts, List.find?_map, Option.map_map, fileNamed]
  congr 1
  funext f
  exact active_eq f bootmode

def ParsedFile.chnl (f : ParsedFile ChnlRow) : BootChnl :=
  { bootMode := f.name, enable := true, chnlList := f.rows.map ChnlRow.toChnlProp }

lemma load_chnls (dir : List ConfFile) : CChnlMgr.load dir = (parseFiles buildChnl 64 0 dir).map
    fun files => firsts (fun chnl => chnl.bootMode.map toLower) (files.map ParsedFile.chnl) := by
  have hcons : ∀ (k : Nat) f fs ds, chnlLoop (f :: fs) ds =
      if f.isConf = true then do
        let name ← f.stem 64
        let rows ← loadFile buildChnl f.text
        chnlLoop fs (CChnlMgr.addChnl ds (ParsedFile.chnl ⟨k, name, rows⟩))
      else chnlLoop fs ds := by
    intro k f fs ds
    rw [chnlLoop, ConfFile.loadChnl]
    cases f.stem 64 with
    | error e => rfl
    | ok name => cases loadFile buildChnl f.text <;> rfl
  rw [CChnlMgr.load, fileLoop_eq (fun _ => chnlLoop) (fun chnls f => CChnlMgr.addChnl chnls f.chnl)
    (fun _ _ => by rw [chnlLoop]) hcons 0]
  congr 1
  funext files
  refine List.foldl_map.symm.trans (foldl_addNew BootChnl.bootMode CChnlMgr.addChnl ?_ ?_ _)
  · intro chnls chnl c h
    rw [CChnlMgr.addChnl, chnlFind, h]
  · intro chnls chnl h
    rw [CChnlMgr.addChnl, chnlFind, h]

lemma enable_eq {chnls : List BootChnl} (h : ∀ chnl ∈ chnls, chnl.enable = true)
    (bootmode : List UInt8) : CChnlMgr.enable chnls bootmode true = chnls := by
  have hmodify : ∀ (i : Nat) (cs : List BootChnl), (∀ chnl ∈ cs, chnl.enable = true) →
      cs.modify i (fun chnl => { chnl with enable := true }) = cs := by
    intro i cs hcs
    induction cs generalizing i with
    | nil => cases i <;> rfl
    | cons c cs ih =>
      rw [List.forall_mem_cons] at hcs
      cases i with
      | zero =>
        rw [List.modify_zero_cons, ← hcs.1]
      | succ i => rw [List.modify_succ_cons, ih i hcs.2]
  unfold CChnlMgr.enable
  cases chnls.findIdx? fun chnl => strcaseeq chnl.bootMode bootmode with
  | none => rfl
  | some i => exact hmodify i chnls h

lemma run_files (ports : List (ParsedFile PortRow)) (chnls : List (ParsedFile ChnlRow))
    (bootmode : List UInt8) :
    CChnlMgr.run
      (CDevMgr.activeMode (firsts (fun dev => dev.devName.map toLower)
        (ports.map ParsedFile.dev)) bootmode)
      (CChnlMgr.enable (firsts (fun chnl => chnl.bootMode.map toLower)
        (chnls.map ParsedFile.chnl)) bootmode true) bootmode =
      fitNames (fileThreads ports chnls bootmode) := by
  have hport : ∀ dev name, portNamed ports bootmode dev name =
      (devFind (CDevMgr.activeMode (firsts (fun dev => dev.devName.map toLower)
        (ports.map ParsedFile.dev)) bootmode) dev).bind fun d => d.find name := by
    intro dev name
    rw [devFind_active, Option.bind_map, portNamed]
    congr 1
    funext f
    exact (find_active f bootmode name).symm
  have henable : ∀ chnl ∈ firsts (fun chnl => chnl.bootMode.map toLower)
      (chnls.map ParsedFile.chnl), chnl.enable = true := by
    intro chnl hchnl
    obtain ⟨f, -, rfl⟩ := List.mem_map.mp (mem_of_mem_firsts hchnl)
    rfl
  have hfind : chnlFind (firsts (fun chnl => chnl.bootMode.map toLower)
      (chnls.map ParsedFile.chnl)) bootmode = (fileNamed chnls bootmode).map ParsedFile.chnl :=
    (find?_firsts _ _).trans List.find?_map
  rw [enable_eq henable, CChnlMgr.run, hfind, fileThreads]
  cases fileNamed chnls bootmode with
  | none => rfl
  | some f =>
    have hrun : f.chnl.toCChnl.run _ [] = _ := run_links hport rfl
    rw [Option.map_some]
    dsimp only
    rw [hrun, groups_links, ParsedFile.chnl, List.flatMap_map]

/-- The threads after the start are read off the rows of the files. -/
theorem start_up_threads (devDir chnlDir : List ConfFile) (bootmode : List UInt8) :
    (startUp (some devDir) (some chnlDir) bootmode).map (Option.map SetUp.threads) = do
      let ports ← parseFiles buildPort 32 0 devDir
      let chnls ← parseFiles buildChnl 64 0 chnlDir
      let threads ← fitNames (fileThreads ports chnls bootmode)
      return some threads := by
  simp only [startUp, load_devs, load_chnls]
  cases parseFiles buildPort 32 0 devDir with
  | error e => rfl
  | ok ports =>
    cases parseFiles buildChnl 64 0 chnlDir with
    | error e => rfl
    | ok chnls =>
      have hrun := run_files ports chnls bootmode
      dsimp only [Except.map, bind, Except.bind, pure, Except.pure]
      rw [hrun]
      cases fitNames (fileThreads ports chnls bootmode) <;> rfl

end EngPc
