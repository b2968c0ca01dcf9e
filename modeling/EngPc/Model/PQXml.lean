import EngPc.Lib.Decimal
import EngPc.Lib.ReadWrite
import EngPc.Lib.XmlTree
import EngPc.Model.Types
import Mathlib.Logic.Function.Basic

/-!
# The walks over PQ documents

What the parsers of PQTune/PQParsers have in common, over the tree that libxml hands them. Where a
parser goes does not depend on the numbers it stores, so its walk is the list of its stores; a walk
that follows a NULL pointer or leaves an array is a fault, and so is one that never ends.
-/

namespace EngPc
open CString ReadWrite XmlTree

inductive XmlFault
  | nullNode | outside | unset | endless
  deriving DecidableEq, Repr

/-- The fields of a parameter structure: their widths, and which of them `%d` shows with a sign. -/
class PQFields (σ : Type) where
  width : σ → Nat
  signed : σ → Bool
  width_le : ∀ s, width s ≤ 32

variable {σ : Type} [PQFields σ]

/-- The memory behind `ctx`, field by field. -/
abbrev PQCtx (σ : Type) [PQFields σ] := (s : σ) → BitVec (PQFields.width s)

/-- A field and the number that is assigned to it. -/
abbrev Store (σ : Type) := σ × Nat

def PQCtx.storeAll [DecidableEq σ] (ctx : PQCtx σ) (stores : List (Store σ)) : PQCtx σ :=
  stores.foldl (fun ctx st => Function.update ctx st.1 (BitVec.ofNat _ st.2)) ctx

def PQCtx.shown (ctx : PQCtx σ) (s : σ) : Int :=
  if PQFields.signed s then (ctx s).toInt else (ctx s).toNat

/-- Attribute names, each with its field; `none` is an element outside its array. -/
abbrev Cascade (σ : Type) := List (Text × Option σ)

/-- The element `i` of an array. -/
def element (n i : Nat) : Option (Fin n) := if h : i < n then some ⟨i, h⟩ else none

section Parse

omit [PQFields σ]

/-- The assignment of an attribute's number. -/
def parseProp (slot : Option σ) (text : Text) : Except XmlFault (Store σ) :=
  match slot with
  | none => .error .outside
  | some s => .ok (s, strtoul longBits text)

/-- The loop over `attrPtr`, with its cascade of names. -/
def parseAttrs (cascade : Cascade σ) (node : Node) : Except XmlFault (List (Store σ)) :=
  collect (fun _ attr =>
    match cascade.lookup attr.1 with
    | none => .ok []
    | some slot => do return [← parseProp slot ((node.getProp attr.1).getD [])]) 0 node.attrs

/-- The loop over `propNode`, with the counter of the items. -/
def parseItems (cascade : Nat → Cascade σ) (nodes : List Node) : Except XmlFault (List (Store σ)) :=
  collect (fun k propNode => parseAttrs (cascade k) propNode) 0 nodes

/-- A chain of macros: `propNode` goes on to the next sibling where a name is found. `xmlHasProp` of
NULL is NULL. -/
def parseChain : Cascade σ → List Node → Except XmlFault (List (Store σ) × List Node)
  | [], nodes => .ok ([], nodes)
  | _ :: _, [] => .ok ([], [])
  | (a, slot) :: chain, node :: next =>
    match node.getProp a with
    | none => parseChain chain (node :: next)
    | some text => do
      let store ← parseProp slot text
      let r ← parseChain chain next
      return (store :: r.1, r.2)

/-- The loop of the version functions, while the name is "enhance". -/
def parseVersion (slot : σ) : List Node → Except XmlFault (List (Store σ))
  | [] => .error .nullNode
  | subNode :: next =>
    if subNode.name = ofString "enhance" then do
      let store := (subNode.getProp (ofString "version")).map fun text => (slot, strtoul longBits text)
      let rest ← parseVersion slot next
      return store.toList ++ rest
    else .ok []

/-- `if (tmpNode = FindNode (curNode, name))` and what follows. -/
def parseAt (name : Text) (walk : List Node → Except XmlFault (List (Store σ)))
    (nodes : List Node) : Except XmlFault (List (Store σ)) :=
  match findNode nodes name with
  | [] => .ok []
  | tmpNode => walk tmpNode

/-- A function that uses the node, but not its siblings. -/
def onNode (walk : Node → Except XmlFault (List (Store σ))) :
    List Node → Except XmlFault (List (Store σ))
  | [] => .ok []
  | node :: _ => walk node

end Parse

/-- The frame of `parse_xml`: the returned number, and `ctx`. -/
def parseRoot [DecidableEq σ] (name : Text) (walk : List Node → Except XmlFault (List (Store σ)))
    (root : Node) (ctx : PQCtx σ) : Except XmlFault (Int × PQCtx σ) :=
  if root.name ≠ name then .ok (-1, ctx)
  else do
    let stores ← walk root.children
    return (0, ctx.storeAll stores)

/-- `snprintf (numStr, size, "%d", ..)` of a field. -/
def showField (size : Nat) (ctx : PQCtx σ) (slot : Option σ) : Except XmlFault Text :=
  match slot with
  | none => .error .outside
  | some s => .ok (snprintfInt size (ctx.shown s))

def updateAttrs (ctx : PQCtx σ) (cascade : Cascade σ) (node : Node) : Except XmlFault Node :=
  node.attrs.foldlM (fun node attr =>
    match cascade.lookup attr.1 with
    | none => .ok node
    | some slot => do return node.setProp attr.1 (← showField 10 ctx slot)) node

def updateItems (ctx : PQCtx σ) (cascade : Nat → Cascade σ) (nodes : List Node) :
    Except XmlFault (List Node) :=
  updateEach (fun k propNode => updateAttrs ctx (cascade k) propNode) 0 nodes

/-- The nodes that the chain has gone past, and `propNode` at its end. -/
def updateChain (ctx : PQCtx σ) : Cascade σ → List Node → Except XmlFault (List Node × List Node)
  | [], nodes => .ok ([], nodes)
  | _ :: _, [] => .ok ([], [])
  | (a, slot) :: chain, node :: next =>
    if node.hasProp a then do
      let text ← showField 10 ctx slot
      let r ← updateChain ctx chain next
      return (node.setProp a text :: r.1, r.2)
    else updateChain ctx chain (node :: next)

def updateVersion (ctx : PQCtx σ) (slot : σ) : List Node → Except XmlFault (List Node)
  | [] => .error .nullNode
  | subNode :: next =>
    if subNode.name = ofString "enhance" then do
      let subNode := if subNode.hasProp (ofString "version") then
        subNode.setProp (ofString "version") (snprintfInt 12 (ctx.shown slot)) else subNode
      let rest ← updateVersion ctx slot next
      return subNode :: rest
    else .ok (subNode :: next)

def updateAt (name : Text) (walk : List Node → Except XmlFault (List Node)) (nodes : List Node) :
    Except XmlFault (List Node) :=
  match findNode nodes name with
  | [] => .ok nodes
  | tmpNode => do
    let written ← walk tmpNode
    return nodes.takeWhile (·.name ≠ name) ++ written

def updateNode (walk : Node → Except XmlFault Node) : List Node → Except XmlFault (List Node)
  | [] => .ok []
  | node :: next => do
    let node ← walk node
    return node :: next

def updateRoot (name : Text) (walk : List Node → Except XmlFault (List Node)) (root : Node) :
    Except XmlFault (Int × Node) :=
  if root.name ≠ name then .ok (-1, root)
  else do
    let children ← walk root.children
    return (0, root.withChildren children)

end EngPc
