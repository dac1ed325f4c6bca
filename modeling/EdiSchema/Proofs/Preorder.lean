import EdiSchema.Proofs.Views

/-!
# Walks in source order

A walk in source order meets the class names of a tree one after the other, and a node *brings in* a
class when its name has not been met before. Below a group or segment whose name has been met the
walk does not go. `Node.introduced` lists the nodes that bring in classes, and knows of nothing but
names: neither of ids, nor of kinds, nor of what to do about conflicts.

`Node.nodes` lists all nodes of a tree. Where no two of them want one class name, each node that has
a class brings it in (`introduced_of_nodup`). `Node.signatures` lists the segments of a tree,
whether their names have been met or not.
-/

namespace EdiSchema

namespace Node

/-! ## Nodes that bring in classes -/

mutual

/-- The nodes at or below a node that bring in a class, where the names in `met` have been met. -/
def introduced : Node → List String → List Node
  | .group header children, met =>
    if EdiSchema.className header.tag ∈ met then []
    else .group header children ::
      introducedBy children (met ++ [EdiSchema.className header.tag])
  | .segment header signature children, met =>
    if EdiSchema.className header.tag ∈ met then []
    else .segment header signature children ::
      introducedBy children (met ++ [EdiSchema.className header.tag])
  | .field leaf, met =>
    if leaf.isComposite && leaf.className ∉ met then [.field leaf] else []

/-- The same for nodes one after the other. -/
def introducedBy : List Node → List String → List Node
  | [], _ => []
  | node :: rest, met =>
    node.introduced met ++ introducedBy rest (met ++ (node.introduced met).map className)

end

/-- The walk at a structural node. -/
theorem introduced_structural {n : Node} (h : n.isStructural) (met : List String) :
    n.introduced met =
      if n.className ∈ met then [] else n :: introducedBy n.children (met ++ [n.className]) := by
  cases n with
  | group => rw [introduced]; rfl
  | segment => rw [introduced]; rfl
  | field => cases h

end Node

/-- The nodes of a document that bring in a class, in the order in which a walk meets them. -/
def Document.introduced (doc : Document) : List Node :=
  match doc.root with
  | none => []
  | some group => (Node.ofGroup group).introduced []

namespace Document

/-- The walk starts at the group of the document. -/
theorem introduced_of_root {doc : Document} {g : Group} (h : doc.root = some g) :
    doc.introduced = Node.ofGroup g ::
      Node.introducedBy g.children [(Node.ofGroup g).className] := by
  rw [introduced, h]
  show (Node.ofGroup g).introduced [] = _
  rw [Node.introduced_structural rfl, if_neg List.not_mem_nil]
  rfl

end Document

/-! ## All nodes -/

namespace Node

mutual

/-- The node and all below it in source order. -/
def nodes : Node → List Node
  | .group header children => .group header children :: nodesOf children
  | .segment header signature children => .segment header signature children :: nodesOf children
  | .field leaf => [.field leaf]

def nodesOf : List Node → List Node
  | [] => []
  | node :: rest => node.nodes ++ nodesOf rest

end

theorem nodes_structural {n : Node} (h : n.isStructural) : n.nodes = n :: nodesOf n.children := by
  cases n with
  | group => rw [nodes]; rfl
  | segment => rw [nodes]; rfl
  | field => cases h

/-- Where names are distinct, and none has been met, the walk leaves no class out. -/
theorem introduced_of_nodup :
    (∀ (n : Node) met, (met ++ (n.nodes.filter hasClass).map className).Nodup →
      n.introduced met = n.nodes.filter hasClass) ∧
    ∀ ns met, (met ++ ((nodesOf ns).filter hasClass).map className).Nodup →
      introducedBy ns met = (nodesOf ns).filter hasClass := by
  refine forest_induction (fun n hn ih => ?_) (fun leaf => ?_) ?_ (fun n rest hn hrest => ?_)
  · intro met hnodup
    rw [nodes_structural hn, List.filter_cons_of_pos (hasClass_of_isStructural hn)] at hnodup ⊢
    have hnew : n.className ∉ met := fun hmem =>
      (List.nodup_append.mp hnodup).2.2 _ hmem _ List.mem_cons_self rfl
    rw [introduced_structural hn, if_neg hnew, ih]
    rwa [List.append_assoc]
  · intro met hnodup
    rw [introduced, nodes]
    cases hl : leaf.isComposite with
    | false => rw [List.filter_cons_of_neg (by simp [hasClass, hl])]; rfl
    | true =>
      have hclass : hasClass (.field leaf) := hl
      rw [nodes, List.filter_cons_of_pos hclass] at hnodup
      have hnew : leaf.className ∉ met := fun hmem =>
        (List.nodup_append.mp hnodup).2.2 _ hmem _ List.mem_cons_self rfl
      rw [List.filter_cons_of_pos hclass, if_pos (by simpa using hnew)]
      rfl
  · intro met _
    rw [introducedBy, nodesOf]
    rfl
  · intro met hnodup
    rw [nodesOf, List.filter_append, List.map_append, ← List.append_assoc] at hnodup
    rw [introducedBy, nodesOf, List.filter_append, hn met (List.nodup_append.mp hnodup).1,
      hrest _ hnodup]

end Node

/-! ## The code by which a group goes -/

namespace Node

mutual

/-- The segments at or below a node in source order. -/
def signatures : Node → List Signature
  | .group _ children => signaturesOf children
  | .segment _ signature children => signature :: signaturesOf children
  | .field _ => []

def signaturesOf : List Node → List Signature
  | [] => []
  | node :: rest => node.signatures ++ signaturesOf rest

end

/-- The leading code is the code of the first segment. -/
theorem leadingCode_eq_head :
    (∀ n : Node, n.leadingCode? = n.signatures.head?.map Signature.code) ∧
    ∀ ns, leadingCodeOf? ns = (signaturesOf ns).head?.map Signature.code := by
  refine forest_induction (fun n hn ih => ?_) (fun leaf => ?_) ?_ (fun n rest hn hrest => ?_)
  · cases n with
    | group header children => rw [leadingCode?, signatures]; exact ih
    | segment header signature children => rw [leadingCode?, signatures]; rfl
    | field leaf => cases hn
  · rw [leadingCode?, signatures]
    rfl
  · rw [leadingCodeOf?, signaturesOf]
    rfl
  · rw [leadingCodeOf?, signaturesOf, hn, hrest]
    cases n.signatures <;> rfl

/-- The reference to a group bears the code of the first segment below it, unless that is blank. -/
theorem groupReference_code (header : Header) (children : List Node) (id : ClassId) :
    (header.groupReference children id).annotations.mapping? Key.segmentCode =
      Annotations.effective ((signaturesOf children).head?.map Signature.code) := by
  have h₁ : Key.segmentCode ≠ Key.kind := by decide
  have h₂ : Key.segmentCode ≠ Key.maxOccurs := by decide
  have h₃ : Key.segmentCode ≠ Key.minOccurs := by decide
  simp only [Header.groupReference, Annotations.mapping?_annotate_self,
    Annotations.mapping?_annotate_of_ne _ h₁, Annotations.mapping?_annotate_of_ne _ h₂,
    Annotations.mapping?_annotate_of_ne _ h₃, Annotations.mapping?_bindElement,
    Annotations.mapping?_empty, Option.or_none, leadingCode_eq_head.2]

end Node

end EdiSchema
