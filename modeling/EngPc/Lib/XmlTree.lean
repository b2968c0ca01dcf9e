import Mathlib.Data.List.Basic

/-!
# Element trees

The tree of elements and attributes that an XML document stands for, in the order of the document.
A pointer to a node, together with the chain of its next siblings, is the list of these nodes; NULL
is the empty list.
-/

namespace XmlTree

abbrev Text := List UInt8

inductive Node
  | mk (name : Text) (attrs : List (Text × Text)) (children : List Node)

namespace Node

def name : Node → Text
  | mk name _ _ => name

def attrs : Node → List (Text × Text)
  | mk _ attrs _ => attrs

def children : Node → List Node
  | mk _ _ children => children

def withChildren : Node → List Node → Node
  | mk name attrs _, children => mk name attrs children

/-- `xmlGetProp`. -/
def getProp (node : Node) (a : Text) : Option Text := node.attrs.lookup a

/-- `xmlHasProp (node, a) != NULL`. -/
def hasProp (node : Node) (a : Text) : Bool := (node.getProp a).isSome

end Node

def setAttr (a v : Text) : List (Text × Text) → List (Text × Text)
  | [] => [(a, v)]
  | (b, w) :: attrs => if b = a then (b, v) :: attrs else (b, w) :: setAttr a v attrs

/-- `xmlSetProp`. -/
def Node.setProp (node : Node) (a v : Text) : Node :=
  .mk node.name (setAttr a v node.attrs) node.children

/-- The tree without the values of its attributes. -/
def Node.shape : Node → Node
  | mk name attrs children => mk name (attrs.map fun p => (p.1, [])) (children.map shape)

/-- The first node of the name, with its siblings. -/
def findNode (nodes : List Node) (name : Text) : List Node := nodes.dropWhile (·.name ≠ name)

variable {node node' : Node} {a b v : Text} {children nodes : List Node}

@[simp] lemma name_withChildren : (node.withChildren children).name = node.name := by
  cases node; rfl

@[simp] lemma attrs_withChildren : (node.withChildren children).attrs = node.attrs := by
  cases node; rfl

@[simp] lemma children_withChildren : (node.withChildren children).children = children := by
  cases node; rfl

@[simp] lemma getProp_withChildren : (node.withChildren children).getProp a = node.getProp a := by
  cases node; rfl

@[simp] lemma hasProp_withChildren : (node.withChildren children).hasProp a = node.hasProp a := by
  cases node; rfl

@[simp] lemma name_setProp : (node.setProp a v).name = node.name := rfl

@[simp] lemma children_setProp : (node.setProp a v).children = node.children := rfl

lemma lookup_setAttr_self (attrs : List (Text × Text)) : (setAttr a v attrs).lookup a = some v := by
  induction attrs with
  | nil => simp [setAttr]
  | cons p attrs ih =>
    obtain ⟨b, w⟩ := p
    rw [setAttr]
    split_ifs with h
    · rw [h, List.lookup_cons_self]
    · rw [List.lookup_cons, beq_false_of_ne (Ne.symm h), ih]

lemma lookup_setAttr_ne (h : b ≠ a) (attrs : List (Text × Text)) :
    (setAttr a v attrs).lookup b = attrs.lookup b := by
  induction attrs with
  | nil =>
    rw [setAttr, List.lookup_cons, beq_false_of_ne h]
  | cons p attrs ih =>
    obtain ⟨c, w⟩ := p
    rw [setAttr]
    split_ifs with hc
    · rw [List.lookup_cons, List.lookup_cons, hc, beq_false_of_ne h]
    · rw [List.lookup_cons, List.lookup_cons, ih]

lemma map_fst_setAttr {attrs : List (Text × Text)} (h : (attrs.lookup a).isSome) :
    (setAttr a v attrs).map Prod.fst = attrs.map Prod.fst := by
  induction attrs with
  | nil => cases h
  | cons p attrs ih =>
    obtain ⟨b, w⟩ := p
    rw [setAttr]
    split_ifs with hb
    · rfl
    · rw [List.lookup_cons, beq_false_of_ne (Ne.symm hb)] at h
      rw [List.map_cons, List.map_cons, ih h]

@[simp] lemma getProp_setProp_self : (node.setProp a v).getProp a = some v :=
  lookup_setAttr_self node.attrs

lemma getProp_setProp_ne (h : b ≠ a) : (node.setProp a v).getProp b = node.getProp b :=
  lookup_setAttr_ne h node.attrs

lemma hasProp_setProp (h : node.hasProp a) : (node.setProp a v).hasProp b = node.hasProp b := by
  by_cases hb : b = a
  · rw [hb, h, Node.hasProp, getProp_setProp_self]
    rfl
  · rw [Node.hasProp, getProp_setProp_ne hb, Node.hasProp]

lemma hasProp_iff : node.hasProp a ↔ a ∈ node.attrs.map Prod.fst := by
  rw [Node.hasProp, Node.getProp]
  induction node.attrs with
  | nil => simp
  | cons p attrs ih =>
    rw [List.lookup_cons, List.map_cons, List.mem_cons, ← ih]
    by_cases h : a = p.1
    · simp [h]
    · simp [h, beq_false_of_ne h]

lemma shape_eq (node : Node) : node.shape =
    .mk node.name (node.attrs.map fun p => (p.1, [])) (node.children.map Node.shape) := by
  cases node
  rw [Node.shape]
  rfl

lemma attrs_shape (attrs attrs' : List (Text × Text)) :
    attrs.map (fun p => (p.1, ([] : Text))) = attrs'.map (fun p => (p.1, [])) ↔
      attrs.map Prod.fst = attrs'.map Prod.fst := by
  have hmap : ∀ l : List (Text × Text),
      l.map (fun p => (p.1, ([] : Text))) = (l.map Prod.fst).map fun a => (a, []) := by
    intro l
    rw [List.map_map]
    rfl
  rw [hmap, hmap]
  exact (List.map_injective_iff.mpr fun a b h => (Prod.mk.inj h).1).eq_iff

/-- Two trees of one shape have the same names, down to the leaves. -/
lemma shape_eq_iff : node.shape = node'.shape ↔ node.name = node'.name ∧
    node.attrs.map Prod.fst = node'.attrs.map Prod.fst ∧
    node.children.map Node.shape = node'.children.map Node.shape := by
  rw [shape_eq, shape_eq, Node.mk.injEq, attrs_shape]

lemma shape_withChildren (h : children.map Node.shape = node.children.map Node.shape) :
    (node.withChildren children).shape = node.shape := by
  rw [shape_eq_iff]
  simp [h]

lemma shape_setProp (h : node.hasProp a) : (node.setProp a v).shape = node.shape := by
  rw [shape_eq_iff]
  exact ⟨rfl, map_fst_setAttr h, rfl⟩

lemma hasProp_of_shape (h : node.shape = node'.shape) : node.hasProp a = node'.hasProp a := by
  rw [Bool.eq_iff_iff, hasProp_iff, hasProp_iff, (shape_eq_iff.mp h).2.1]

lemma findNode_cons (node : Node) (nodes : List Node) (a : Text) :
    findNode (node :: nodes) a = if node.name = a then node :: nodes else findNode nodes a := by
  rw [findNode, List.dropWhile_cons]
  by_cases h : node.name = a <;> simp [h, findNode]

lemma name_of_findNode {next : List Node} (h : findNode nodes a = node :: next) : node.name = a := by
  induction nodes with
  | nil => cases h
  | cons x nodes ih =>
    rw [findNode_cons] at h
    split_ifs at h with hx
    · cases h
      exact hx
    · exact ih h

lemma takeWhile_append_findNode (nodes : List Node) (a : Text) :
    nodes.takeWhile (·.name ≠ a) ++ findNode nodes a = nodes :=
  List.takeWhile_append_dropWhile

lemma findNode_append (nodes : List Node) {next : List Node} (h : node.name = a) :
    findNode (nodes.takeWhile (·.name ≠ a) ++ node :: next) a = node :: next := by
  induction nodes with
  | nil => rw [List.takeWhile_nil, List.nil_append, findNode_cons, if_pos h]
  | cons x nodes ih =>
    by_cases hx : x.name = a
    · rw [List.takeWhile_cons_of_neg (by simpa using hx), List.nil_append, findNode_cons, if_pos h]
    · rw [List.takeWhile_cons_of_pos (by simpa using hx), List.cons_append, findNode_cons, if_neg hx,
        ih]

lemma head?_findNode_skip (pre : List Node) {next : List Node} (h : node.name ≠ a) :
    (findNode (pre ++ node :: next) a).head? = (findNode (pre ++ next) a).head? := by
  induction pre with
  | nil => rw [List.nil_append, List.nil_append, findNode_cons, if_neg h]
  | cons x pre ih =>
    rw [List.cons_append, List.cons_append, findNode_cons, findNode_cons]
    split_ifs
    · rfl
    · exact ih

end XmlTree
