import EngPc.Model.PQXml

/-!
# The gamma, bld and cms parsers

`parse_xml` and `update_xml` of GammaParsers.cpp, BldParsers.cpp and CmsParsers.cpp. The document is
the root element; `xmlReadFile` and `xmlSaveFormatFileEnc` read and write the whole of it.
-/

namespace EngPc
open CString ReadWrite XmlTree

/-! ### Gamma -/

/-- `gamma_common`. -/
inductive GammaSlot
  | version | enable
  | r (i : Fin 256) | g (i : Fin 256) | b (i : Fin 256)
  deriving DecidableEq

/-- `%d` takes the version, an `uint32_t`, as an `int`. -/
instance : PQFields GammaSlot where
  width
    | .version | .enable => 32
    | _ => 16
  signed
    | .version | .enable => true
    | _ => false
  width_le := by
    intro s
    split <;> decide

def gammaCascade (i : Nat) : Cascade GammaSlot :=
  [(ofString "r", (element 256 i).map .r), (ofString "g", (element 256 i).map .g),
    (ofString "b", (element 256 i).map .b)]

def parseGammaVersion : List Node → Except XmlFault (List (Store GammaSlot)) := parseVersion .version

def parseGammaRegsTable : List Node → Except XmlFault (List (Store GammaSlot)) :=
  collect (fun _ subNode =>
    if subNode.hasProp (ofString "mode") then parseItems gammaCascade subNode.children
    else .ok []) 0

def parseGamma (curNode : List Node) : Except XmlFault (List (Store GammaSlot)) := do
  let regs ← parseAt (ofString "reg_table") parseGammaRegsTable curNode
  let version ← parseAt (ofString "enhance") parseGammaVersion curNode
  return regs ++ version

def GammaParser.parseXml : Node → PQCtx GammaSlot → Except XmlFault (Int × PQCtx GammaSlot) :=
  parseRoot (ofString "gamma_config") parseGamma

section

variable (ctx : PQCtx GammaSlot)

def updateGammaVersion : List Node → Except XmlFault (List Node) := updateVersion ctx .version

def updateGammaRegsTable : List Node → Except XmlFault (List Node) :=
  updateEach (fun _ subNode =>
    if subNode.hasProp (ofString "mode") then do
      return subNode.withChildren (← updateItems ctx gammaCascade subNode.children)
    else .ok subNode) 0

def updateGamma (curNode : List Node) : Except XmlFault (List Node) := do
  let curNode ← updateAt (ofString "reg_table") (updateGammaRegsTable ctx) curNode
  updateAt (ofString "enhance") (updateGammaVersion ctx) curNode

def GammaParser.updateXml : Node → Except XmlFault (Int × Node) :=
  updateRoot (ofString "gamma_config") (updateGamma ctx)

end

/-! ### Hue, saturation and coefficients -/

/-- The fields of `cm_cfg`. -/
inductive Coef
  | coef00 | coef01 | coef02 | coef03 | coef10 | coef11 | coef12 | coef13
  | coef20 | coef21 | coef22 | coef23
  deriving DecidableEq

def coefNames : List (Text × Coef) :=
  [(ofString "coef00", .coef00), (ofString "coef01", .coef01), (ofString "coef02", .coef02),
    (ofString "coef03", .coef03), (ofString "coef10", .coef10), (ofString "coef11", .coef11),
    (ofString "coef12", .coef12), (ofString "coef13", .coef13), (ofString "coef20", .coef20),
    (ofString "coef21", .coef21), (ofString "coef22", .coef22), (ofString "coef23", .coef23)]

section Hsvcm

variable {σ : Type} [PQFields σ]

/-- The macros from `coef00` to `coef23`. -/
def coefChain (slot : Coef → Option σ) : Cascade σ := coefNames.map fun p => (p.1, slot p.2)

/-- `parse_hsvcm`, of a table's first child; `hsv` and `cm` are the fields of `hsvcm[i]`. -/
def parseHsvcm (hsv : Nat → Cascade σ) (cm : Cascade σ) :
    List Node → Except XmlFault (List (Store σ))
  | [] => .error .nullNode
  | subNode :: next => do
    let items ← parseItems hsv subNode.children
    match next with
    | [] => .error .nullNode
    | nextNode :: _ => do
      let r ← parseChain cm nextNode.children
      return items ++ r.1

def updateHsvcm (ctx : PQCtx σ) (hsv : Nat → Cascade σ) (cm : Cascade σ) :
    List Node → Except XmlFault (List Node)
  | [] => .error .nullNode
  | subNode :: next => do
    let items ← updateItems ctx hsv subNode.children
    match next with
    | [] => .error .nullNode
    | nextNode :: rest => do
      let r ← updateChain ctx cm nextNode.children
      return subNode.withChildren items :: nextNode.withChildren (r.1 ++ r.2) :: rest

end Hsvcm

/-! ### Bld -/

/-- `bld_common`. -/
inductive BldSlot
  | version | enable | mode
  | hue (i : Fin 3) (j : Fin 360) | sat (i : Fin 3) (j : Fin 360)
  | coef (i : Fin 3) (c : Coef)
  deriving DecidableEq

instance : PQFields BldSlot where
  width
    | .version | .enable | .mode => 32
    | _ => 16
  signed
    | .hue .. | .sat .. => false
    | _ => true
  width_le := by
    intro s
    split <;> decide

def bldHsv (i j : Nat) : Cascade BldSlot :=
  [(ofString "hue", do return .hue (← element 3 i) (← element 360 j)),
    (ofString "sat", do return .sat (← element 3 i) (← element 360 j))]

def bldCm (i : Nat) : Cascade BldSlot := coefChain fun c => (element 3 i).map (.coef · c)

def bldModes : List Text := [ofString "default", ofString "middle", ofString "high"]

def parseBldVersion : List Node → Except XmlFault (List (Store BldSlot)) := parseVersion .version

def parseBldHsvcm (curNode : Node) : Except XmlFault (List (Store BldSlot)) :=
  collect (fun i subNode =>
    match subNode.getProp (ofString "mode") with
    | none => .ok []
    | some mode =>
      if mode ∈ bldModes then parseHsvcm (bldHsv i) (bldCm i) subNode.children else .ok [])
    0 curNode.children

def parseBld (curNode : List Node) : Except XmlFault (List (Store BldSlot)) := do
  let hsvcm ← parseAt (ofString "hsv_cm") (onNode parseBldHsvcm) curNode
  let version ← parseAt (ofString "enhance") parseBldVersion curNode
  return hsvcm ++ version

def BldParser.parseXml : Node → PQCtx BldSlot → Except XmlFault (Int × PQCtx BldSlot) :=
  parseRoot (ofString "root") parseBld

section

variable (ctx : PQCtx BldSlot)

def updateBldVersion : List Node → Except XmlFault (List Node) := updateVersion ctx .version

def updateBldHsvcm (curNode : Node) : Except XmlFault Node := do
  let tables ← updateEach (fun i subNode =>
    match subNode.getProp (ofString "mode") with
    | none => .ok subNode
    | some mode =>
      if mode ∈ bldModes then do
        return subNode.withChildren (← updateHsvcm ctx (bldHsv i) (bldCm i) subNode.children)
      else .ok subNode) 0 curNode.children
  return curNode.withChildren tables

/-- The version is written first here. -/
def updateBld (curNode : List Node) : Except XmlFault (List Node) := do
  let curNode ← updateAt (ofString "enhance") (updateBldVersion ctx) curNode
  updateAt (ofString "hsv_cm") (updateNode (updateBldHsvcm ctx)) curNode

def BldParser.updateXml : Node → Except XmlFault (Int × Node) :=
  updateRoot (ofString "root") (updateBld ctx)

end

/-! ### Cms -/

/-- `cms_common`. -/
inductive CmsSlot
  | version | enable | mode
  | hue (i : Fin 3) (j : Fin 360) | sat (i : Fin 3) (j : Fin 360)
  | coef (i : Fin 3) (c : Coef)
  | rgb (i : Fin 10) | cmindex (i : Fin 10)
  | cmMode
  | cm (i : Fin 12) (c : Coef)
  deriving DecidableEq

instance : PQFields CmsSlot where
  width
    | .version | .enable | .mode => 32
    | .rgb _ | .cmindex _ => 8
    | _ => 16
  signed
    | .hue .. | .sat .. | .rgb _ | .cmindex _ | .cmMode => false
    | _ => true
  width_le := by
    intro s
    split <;> decide

def cmsHsv (i : Fin 3) (j : Nat) : Cascade CmsSlot :=
  [(ofString "hue", (element 360 j).map (.hue i)), (ofString "sat", (element 360 j).map (.sat i))]

def cmsCm (i : Fin 3) : Cascade CmsSlot := coefChain fun c => some (.coef i c)

/-- The modes of the tables, with their place in `hsvcm`. -/
def cmsModes : List (Text × Fin 3) :=
  [(ofString "auto", 0), (ofString "enhance", 1), (ofString "standard", 2)]

def rgbCascade (i : Nat) : Cascade CmsSlot :=
  [(ofString "rgb", (element 10 i).map .rgb), (ofString "index", (element 10 i).map .cmindex)]

/-- The fields of `cm[i]`. -/
def configChain (i : Nat) : Cascade CmsSlot := coefChain fun c => (element 12 i).map (.cm · c)

def configModes : List Text :=
  [ofString "cold", ofString "warm", ofString "0", ofString "1", ofString "2", ofString "3",
    ofString "4", ofString "5", ofString "6", ofString "7", ofString "8", ofString "9"]

def parseCmsVersion : List Node → Except XmlFault (List (Store CmsSlot)) := parseVersion .version

def parseCmsHsvcm (curNode : Node) : Except XmlFault (List (Store CmsSlot)) :=
  collect (fun _ subNode =>
    match (subNode.getProp (ofString "mode")).bind (cmsModes.lookup ·) with
    | none => .ok []
    | some i => parseHsvcm (cmsHsv i) (cmsCm i) subNode.children) 0 curNode.children

def parseCmsRgbmapTable (curNode : Node) : Except XmlFault (List (Store CmsSlot)) :=
  parseItems rgbCascade curNode.children

def parseCmsConfigTable (curNode : Node) : Except XmlFault (List (Store CmsSlot)) :=
  collect (fun i subNode =>
    match subNode.getProp (ofString "mode") with
    | none => .ok []
    | some mode =>
      if mode ∈ configModes then do
        let r ← parseChain (configChain i) subNode.children
        return r.1
      else .ok []) 0 curNode.children

def parseCms (curNode : List Node) : Except XmlFault (List (Store CmsSlot)) := do
  let hsvcm ← parseAt (ofString "hsv_cm") (onNode parseCmsHsvcm) curNode
  let rgb ← parseAt (ofString "rgb_mapping_table") (onNode parseCmsRgbmapTable) curNode
  let config ← parseAt (ofString "cm_cfg") (onNode parseCmsConfigTable) curNode
  let version ← parseAt (ofString "enhance") parseCmsVersion curNode
  return hsvcm ++ (rgb ++ (config ++ version))

def CmsParser.parseXml : Node → PQCtx CmsSlot → Except XmlFault (Int × PQCtx CmsSlot) :=
  parseRoot (ofString "root") parseCms

section

variable (ctx : PQCtx CmsSlot)

def updateCmsVersion : List Node → Except XmlFault (List Node) := updateVersion ctx .version

def updateCmsHsvcm (curNode : Node) : Except XmlFault Node := do
  let tables ← updateEach (fun _ subNode =>
    match (subNode.getProp (ofString "mode")).bind (cmsModes.lookup ·) with
    | none => .ok subNode
    | some i => do
      return subNode.withChildren (← updateHsvcm ctx (cmsHsv i) (cmsCm i) subNode.children))
    0 curNode.children
  return curNode.withChildren tables

def updateCmsRgbmapTable (curNode : Node) : Except XmlFault Node := do
  return curNode.withChildren (← updateItems ctx rgbCascade curNode.children)

def updateCmsConfigTable (curNode : Node) : Except XmlFault Node := do
  let tables ← updateEach (fun i subNode =>
    match subNode.getProp (ofString "mode") with
    | none => .ok subNode
    | some mode =>
      if mode ∈ configModes then do
        let r ← updateChain ctx (configChain i) subNode.children
        return subNode.withChildren (r.1 ++ r.2)
      else .ok subNode) 0 curNode.children
  return curNode.withChildren tables

def updateCms (curNode : List Node) : Except XmlFault (List Node) := do
  let curNode ← updateAt (ofString "hsv_cm") (updateNode (updateCmsHsvcm ctx)) curNode
  let curNode ← updateAt (ofString "rgb_mapping_table") (updateNode (updateCmsRgbmapTable ctx)) curNode
  let curNode ← updateAt (ofString "cm_cfg") (updateNode (updateCmsConfigTable ctx)) curNode
  updateAt (ofString "enhance") (updateCmsVersion ctx) curNode

def CmsParser.updateXml : Node → Except XmlFault (Int × Node) :=
  updateRoot (ofString "root") (updateCms ctx)

end

end EngPc
