import EngPc.Model.PQXml

/-!
# The abc parser

`parse_xml` and `update_xml` of AbcParsers.cpp. The writer first makes the lists of elements as long
as `ctx` says and then fills in the numbers.
-/

namespace EngPc
open CString ReadWrite XmlTree

inductive EpfFun
  | sunlightProtector | superResolution
  deriving DecidableEq

inductive EpfField
  | epsilon0 | epsilon1 | gain0 | gain1 | gain2 | gain3 | gain4 | gain5 | gain6 | gain7
  | maxDiff | minDiff
  deriving DecidableEq

inductive SlpField
  | brightness | conversionMatrix | brightnessStep | secondBrightFactor | firstPercentTh
  | firstMaxBrightTh
  deriving DecidableEq

/-- `abc_common`; `i` is the table, `j` the entry of `sceneTableItem` and `k` the item. -/
inductive AbcSlot
  | version | enable | mode | nMajorVersion | slpblMode
  | num (i : Fin 2) | index (i : Fin 2)
  | epf (fn : EpfFun) (i : Fin 2) (j : Fin 16) (f : EpfField)
  | slp (i : Fin 2) (j : Fin 16) (f : SlpField)
  | mapNum (i : Fin 2) (j : Fin 16)
  | ambient (i : Fin 2) (j : Fin 16) (k : Fin 128)
  | slpBrightnessFactor (i : Fin 2) (j : Fin 16) (k : Fin 128)
  | blMapNum (i : Fin 2)
  | blAmbient (i : Fin 2) (k : Fin 128)
  | backlight (i : Fin 2) (k : Fin 128)
  deriving DecidableEq

/-- `int08_t` is `char`, which has no sign on ARM. -/
instance : PQFields AbcSlot where
  width
    | .version | .enable | .mapNum .. | .blMapNum _ => 32
    | .mode | .nMajorVersion | .slp .. => 8
    | .epf _ _ _ f => if f = .epsilon0 ∨ f = .epsilon1 then 16 else 8
    | _ => 16
  signed
    | .version => true
    | _ => false
  width_le := by
    intro s
    split
    · exact le_rfl
    · exact le_rfl
    · exact le_rfl
    · exact le_rfl
    · decide
    · decide
    · decide
    · split_ifs <;> decide
    · decide

/-! ### Names -/

def epfNames : List (Text × EpfField) :=
  [(ofString "epsilon0", .epsilon0), (ofString "epsilon1", .epsilon1), (ofString "gain0", .gain0),
    (ofString "gain1", .gain1), (ofString "gain2", .gain2), (ofString "gain3", .gain3),
    (ofString "gain4", .gain4), (ofString "gain5", .gain5), (ofString "gain6", .gain6),
    (ofString "gain7", .gain7), (ofString "max_diff", .maxDiff), (ofString "min_diff", .minDiff)]

def slpNames : List (Text × SlpField) :=
  [(ofString "brightness", .brightness), (ofString "conversion_matrix", .conversionMatrix),
    (ofString "brightness_step", .brightnessStep),
    (ofString "second_bright_factor", .secondBrightFactor),
    (ofString "first_percent_th", .firstPercentTh),
    (ofString "first_max_bright_th", .firstMaxBrightTh)]

def epfChain (fn : EpfFun) (i : Fin 2) (j : Nat) : Cascade AbcSlot :=
  epfNames.map fun p => (p.1, (element 16 j).map (.epf fn i · p.2))

def slpChain (i : Fin 2) (j : Nat) : Cascade AbcSlot :=
  slpNames.map fun p => (p.1, (element 16 j).map (.slp i · p.2))

def slpCascade (i : Fin 2) (j k : Nat) : Cascade AbcSlot :=
  [(ofString "ambient", do return .ambient i (← element 16 j) (← element 128 k)),
    (ofString "brightness", do return .slpBrightnessFactor i (← element 16 j) (← element 128 k))]

def blCascade (i k : Nat) : Cascade AbcSlot :=
  [(ofString "ambient", do return .blAmbient (← element 2 i) (← element 128 k)),
    (ofString "brightness", do return .backlight (← element 2 i) (← element 128 k))]

/-- The modes of the tables, with their place in `sceneTable`. -/
def sceneModes : List (Text × Fin 2) := [(ofString "normal", 0), (ofString "low power", 1)]

def sceneMode (subNode : Node) : Option (Fin 2) :=
  (subNode.getProp (ofString "mode")).bind (sceneModes.lookup ·)

/-! ### Reading -/

/-- The loop over the params: a chain, and then one node further. Every round takes a node. -/
def parseParams (chain : Cascade AbcSlot) : Nat → List Node → Except XmlFault (List (Store AbcSlot))
  | 0, _ => .ok []
  | _ + 1, [] => .ok []
  | fuel + 1, propNode :: next => do
    let r ← parseChain chain (propNode :: next)
    let rest ← parseParams chain fuel r.2.tail
    return r.1 ++ rest

/-- A loop over the tables with their modes, as in `parse_epf_next_config`, `parse_slp_config` and
`parse_slp_mapping_table`. -/
def parseScenes (walk : Fin 2 → List Node → Except XmlFault (List (Store AbcSlot)))
    (curNode : Node) : Except XmlFault (List (Store AbcSlot)) :=
  collect (fun _ subNode =>
    match sceneMode subNode with
    | none => .ok []
    | some i => walk i subNode.children) 0 curNode.children

def parseEpfChildConfig (fn : EpfFun) (i : Fin 2) (numbers : List Node) :
    Except XmlFault (List (Store AbcSlot)) :=
  collect (fun j subNode => parseParams (epfChain fn i j) subNode.children.length subNode.children)
    0 numbers

def parseEpfNextConfig (fn : EpfFun) : Node → Except XmlFault (List (Store AbcSlot)) :=
  parseScenes (parseEpfChildConfig fn)

def parseEpfConfig (curNode : Node) : Except XmlFault (List (Store AbcSlot)) := do
  let sp ← parseAt (ofString "sunlight_protector") (onNode (parseEpfNextConfig .sunlightProtector))
    curNode.children
  let sr ← parseAt (ofString "super_resolution") (onNode (parseEpfNextConfig .superResolution))
    curNode.children
  return sp ++ sr

def parseSlpChildConfig (i : Fin 2) (numbers : List Node) : Except XmlFault (List (Store AbcSlot)) :=
  collect (fun j subNode => parseParams (slpChain i j) subNode.children.length subNode.children)
    0 numbers

def parseSlpConfig : Node → Except XmlFault (List (Store AbcSlot)) := parseScenes parseSlpChildConfig

/-- The assignment of a counter. -/
def storeCount (slot : Option AbcSlot) (n : Nat) : Except XmlFault (Store AbcSlot) :=
  match slot with
  | none => .error .outside
  | some s => .ok (s, n)

def parseSlpMappingChildTable (i : Fin 2) (numbers : List Node) :
    Except XmlFault (List (Store AbcSlot)) := do
  let tables ← collect (fun j subNode => do
    let items ← parseItems (slpCascade i j) subNode.children
    let mapNum ← storeCount ((element 16 j).map (.mapNum i)) subNode.children.length
    return items ++ [mapNum]) 0 numbers
  return tables ++ [(.num i, numbers.length)]

def parseSlpMappingTable : Node → Except XmlFault (List (Store AbcSlot)) :=
  parseScenes parseSlpMappingChildTable

/-- The tables are numbered by their position here. -/
def parseBlMappingTable (curNode : Node) : Except XmlFault (List (Store AbcSlot)) :=
  collect (fun i subNode =>
    if subNode.hasProp (ofString "mode") then do
      let items ← parseItems (blCascade i) subNode.children
      let mapNum ← storeCount ((element 2 i).map .blMapNum) subNode.children.length
      return items ++ [mapNum]
    else .ok []) 0 curNode.children

def parseAbcVersion : List Node → Except XmlFault (List (Store AbcSlot)) := parseVersion .version

def parseAbc (curNode : List Node) : Except XmlFault (List (Store AbcSlot)) := do
  let epf ← parseAt (ofString "epf_config") (onNode parseEpfConfig) curNode
  let slp ← parseAt (ofString "slp_config") (onNode parseSlpConfig) curNode
  let slpMapping ← parseAt (ofString "slp_mapping_table") (onNode parseSlpMappingTable) curNode
  let blMapping ← parseAt (ofString "bl_mapping_table") (onNode parseBlMappingTable) curNode
  let version ← parseAt (ofString "enhance") parseAbcVersion curNode
  return epf ++ (slp ++ (slpMapping ++ (blMapping ++ version)))

def AbcParser.parseXml : Node → PQCtx AbcSlot → Except XmlFault (Int × PQCtx AbcSlot) :=
  parseRoot (ofString "root") parseAbc

/-! ### The lists of elements -/

/-- The loops that go along the siblings while there is a next one and fewer than `wr` are counted,
and end with `last` at the node reached. -/
def goAlong (wr : Int) (last : Nat → List Node → List Node) : Nat → List Node → List Node
  | _, [] => []
  | n, node :: next =>
    if ¬next.isEmpty ∧ ((n + 1 : Nat) : Int) < wr then node :: goAlong wr last (n + 1) next
    else node :: last (n + 1) next

/-- `xmlNewNode (NULL, "item")` with its two attributes. -/
def newItem (ambient brightness : Text) : Node :=
  .mk (ofString "item") [(ofString "ambient", ambient), (ofString "brightness", brightness)] []

def newNumber (n : Nat) (children : List Node) : Node :=
  .mk (ofString "number") [(ofString "index", snprintfInt 10 n)] children

def newParam (name : Text) : Node := .mk (ofString "param") [(name, snprintfInt 10 1)] []

/-- `update_slp_mapping_items_child_xml` with no items, and the items that `update_slp_items_xml`
appends. -/
def newItems (count : Nat) : List Node :=
  List.replicate count (newItem (snprintfInt 10 1) (snprintfInt 10 1))

def updateSlpItemsXml (wrItemnums : Int) (itemnums : Nat) (next : List Node) : List Node :=
  if (itemnums : Int) < wrItemnums then next ++ newItems (wrItemnums - itemnums).toNat else []

/-- `update_epf_config_index_xml` and `update_slp_config_index_xml`, with the params of a new
element. -/
def updateConfigIndexXml (names : List Text) (wrIndexnums : Int) (indexnums : Nat)
    (next : List Node) : List Node :=
  if (indexnums : Int) < wrIndexnums then
    next ++ (List.range' indexnums (wrIndexnums - indexnums).toNat).map fun n =>
      newNumber n (names.map newParam)
  else []

/-- `conversion_matrix` comes twice. -/
def slpParams : List Text :=
  [ofString "brightness", ofString "conversion_matrix", ofString "conversion_matrix",
    ofString "brightness_step", ofString "second_bright_factor", ofString "first_percent_th",
    ofString "first_max_bright_th"]

/-! ### Writing -/

section Update

variable (ctx : PQCtx AbcSlot)

/-- `int wrIndexnums = abc->sceneTable[i].num`. -/
def wrIndexnums (i : Fin 2) : Int := (ctx (.num i)).toNat

/-- `int wrItemnums = abc->sceneTable[i].sceneTableItem[j].slpMappingTable.map_num`. -/
def wrItemnums (i : Fin 2) (j : Nat) : Except XmlFault Int :=
  match element 16 j with
  | none => .error .outside
  | some j => .ok (ctx (.mapNum i j)).toInt

/-- The loop over the params: a round that goes past no node is repeated for ever. -/
def updateParams (chain : Cascade AbcSlot) : Nat → List Node → Except XmlFault (List Node)
  | 0, _ => .ok []
  | _ + 1, [] => .ok []
  | fuel + 1, propNode :: next => do
    let r ← updateChain ctx chain (propNode :: next)
    if r.1.isEmpty then .error .endless
    else do
      let rest ← updateParams chain fuel r.2
      return r.1 ++ rest

def updateScenes (walk : Fin 2 → List Node → Except XmlFault (List Node)) (curNode : Node) :
    Except XmlFault Node := do
  let tables ← updateEach (fun _ subNode =>
    match sceneMode subNode with
    | none => .ok subNode
    | some i => do return subNode.withChildren (← walk i subNode.children)) 0 curNode.children
  return curNode.withChildren tables

def updateEpfConfigIndexsArrays (i : Fin 2) (numbers : List Node) : List Node :=
  goAlong (wrIndexnums ctx i) (updateConfigIndexXml (epfNames.map Prod.fst) (wrIndexnums ctx i))
    0 numbers

def updateEpfChildConfig (fn : EpfFun) (i : Fin 2) (numbers : List Node) :
    Except XmlFault (List Node) :=
  updateEach (fun j subNode => do
    return subNode.withChildren
      (← updateParams ctx (epfChain fn i j) subNode.children.length subNode.children)) 0 numbers

def updateEpfNextConfig (fn : EpfFun) : Node → Except XmlFault Node :=
  updateScenes fun i numbers => updateEpfChildConfig ctx fn i (updateEpfConfigIndexsArrays ctx i numbers)

def updateEpfConfig (curNode : Node) : Except XmlFault Node := do
  let subNode ← updateAt (ofString "sunlight_protector")
    (updateNode (updateEpfNextConfig ctx .sunlightProtector)) curNode.children
  let subNode ← updateAt (ofString "super_resolution")
    (updateNode (updateEpfNextConfig ctx .superResolution)) subNode
  return curNode.withChildren subNode

def updateSlpConfigIndexsArrays (i : Fin 2) (numbers : List Node) : List Node :=
  goAlong (wrIndexnums ctx i) (updateConfigIndexXml slpParams (wrIndexnums ctx i)) 0 numbers

def updateSlpChildConfig (i : Fin 2) (numbers : List Node) : Except XmlFault (List Node) :=
  updateEach (fun j subNode => do
    return subNode.withChildren
      (← updateParams ctx (slpChain i j) subNode.children.length subNode.children)) 0 numbers

def updateSlpConfig : Node → Except XmlFault Node :=
  updateScenes fun i numbers => updateSlpChildConfig ctx i (updateSlpConfigIndexsArrays ctx i numbers)

/-- The new elements, each with as many items as `ctx` says; or the elements behind the last. -/
def updateSlpIndexXml (i : Fin 2) (indexnums : Nat) (next : List Node) : Except XmlFault (List Node) :=
  if (indexnums : Int) < wrIndexnums ctx i then do
    let fresh ← (List.range' indexnums (wrIndexnums ctx i - indexnums).toNat).mapM fun n => do
      return newNumber n (newItems (← wrItemnums ctx i n).toNat)
    return next ++ fresh
  else .ok []

def updateSlpMappingIndexsArrays (i : Fin 2) : Nat → List Node → Except XmlFault (List Node)
  | _, [] => .ok []
  | n, subNode :: next => do
    let items ← wrItemnums ctx i n
    let subNode := subNode.withChildren (goAlong items (updateSlpItemsXml items) 0 subNode.children)
    let rest ←
      if ¬next.isEmpty ∧ ((n + 1 : Nat) : Int) < wrIndexnums ctx i then
        updateSlpMappingIndexsArrays i (n + 1) next
      else updateSlpIndexXml ctx i (n + 1) next
    return subNode :: rest

def updateSlpMappingChildTable (i : Fin 2) (numbers : List Node) : Except XmlFault (List Node) :=
  updateEach (fun j subNode => do
    return subNode.withChildren (← updateItems ctx (slpCascade i j) subNode.children)) 0 numbers

def updateSlpMappingTable : Node → Except XmlFault Node :=
  updateScenes fun i numbers => do
    updateSlpMappingChildTable ctx i (← updateSlpMappingIndexsArrays ctx i 0 numbers)

/-- The new items, or the items behind the last. -/
def updateBlRest (i : Fin 2) (j : Nat) (next : List Node) : Except XmlFault (List Node) :=
  let nums := (ctx (.blMapNum i)).toInt
  if (j : Int) < nums then do
    let fresh ← (List.range' j (nums - j).toNat).mapM fun k => do
      let ambient ← showField 10 ctx ((element 128 k).map (.blAmbient i))
      let brightness ← showField 10 ctx ((element 128 k).map (.backlight i))
      return newItem ambient brightness
    return next ++ fresh
  else .ok []

/-- `nums` is set in the loop: with no item it is not. -/
def updateBlChildTable (i : Fin 2) : Nat → List Node → Except XmlFault (List Node)
  | _, [] => .error .unset
  | j, propNode :: next => do
    let propNode ← updateAttrs ctx (blCascade i j) propNode
    let rest ←
      if ¬next.isEmpty ∧ ((j + 1 : Nat) : Int) < (ctx (.blMapNum i)).toInt then
        updateBlChildTable i (j + 1) next
      else updateBlRest ctx i (j + 1) next
    return propNode :: rest

def updateBlMappingTable : Node → Except XmlFault Node :=
  updateScenes fun i items => updateBlChildTable ctx i 0 items

def updateAbcVersion : List Node → Except XmlFault (List Node) := updateVersion ctx .version

def updateAbc (curNode : List Node) : Except XmlFault (List Node) := do
  let curNode ← updateAt (ofString "epf_config") (updateNode (updateEpfConfig ctx)) curNode
  let curNode ← updateAt (ofString "slp_config") (updateNode (updateSlpConfig ctx)) curNode
  let curNode ←
    if ctx .slpblMode = 1 then
      updateAt (ofString "slp_mapping_table") (updateNode (updateSlpMappingTable ctx)) curNode
    else .ok curNode
  let curNode ←
    if ctx .slpblMode = 2 then
      updateAt (ofString "bl_mapping_table") (updateNode (updateBlMappingTable ctx)) curNode
    else .ok curNode
  updateAt (ofString "enhance") (updateAbcVersion ctx) curNode

def AbcParser.updateXml : Node → Except XmlFault (Int × Node) :=
  updateRoot (ofString "root") (updateAbc ctx)

end Update

end EngPc
