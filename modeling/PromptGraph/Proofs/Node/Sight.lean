import PromptGraph.Proofs.Node.Steps
import PromptGraph.Proofs.Outcomes

/-!
# What a Node Sees

All that a node is compiled from, and nothing else.

A node has an id and a class, sockets with slots, and a buffer. Of a link it sees
whether there is one and what it brings: the id and the class of the node that it
starts at, and the first value of that node if it is primitive. The rest of the
workflow is out of its sight, and so are its own output sockets. The number of a
link is seen by one error only, which repeats it.

So two sites that see the same compile alike. They take each step from the same
state to the same state, or fail with the same error but for the number of a link.

## Main definitions

* `CompileError.SameButLink`: The same error, but for the number of a link.
* `GraphNode.supply`: What a link brings from the node that it starts at.
* `GraphNode.face`: What is seen of a node on its own.
* `Site.SeesAlike`: Two sites see the same.

## Theorems

* `Site.resolveSocket_seesAlike`: A socket does the same at both sites.
* `Site.compile_seesAlike`: The nodes compile alike.
-/

namespace PromptGraph

namespace CompileError

/-- The error without the number of a link. -/
def withoutLink : CompileError → CompileError
  | .linkDangling node classType input slot _ => .linkDangling node classType input slot none
  | error => error

/-- Two errors are the same, but for the number of a link. -/
def SameButLink (e e' : CompileError) : Prop := e.withoutLink = e'.withoutLink

theorem SameButLink.refl (e : CompileError) : SameButLink e e := rfl

end CompileError

/-- What a link brings from the node that it starts at: the id and the class of the node,
    and the first value of a primitive one. -/
def GraphNode.supply (node : GraphNode) : NodeId × String × Option Json :=
  (node.id, node.classType, if node.classType = primitiveClass then node.values.first? else none)

/-- What is seen of a socket. -/
structure SocketFace where
  slot : Slot
  name : String
  widget : Option String
  isLinkBound : Bool

/-- What is seen of a node on its own. -/
structure NodeFace where
  id : NodeId
  classType : String
  values : ValueBuffer
  sockets : List SocketFace

/-- What is seen of a socket on a slot: all but the number of its link. -/
def socketFace (s : Slot × InputSocket) : SocketFace := ⟨s.1, s.2.name, s.2.widget, s.2.isLinkBound⟩

namespace GraphNode

/-- What is seen of a node: all but its output sockets and the numbers of its links. -/
def face (node : GraphNode) : NodeFace :=
  ⟨node.id, node.classType, node.values, node.slots.map socketFace⟩

variable {node node' : GraphNode}

theorem id_eq_of_face (h : node.face = node'.face) : node.id = node'.id :=
  congrArg NodeFace.id h

theorem classType_eq_of_face (h : node.face = node'.face) : node.classType = node'.classType :=
  congrArg NodeFace.classType h

theorem values_eq_of_face (h : node.face = node'.face) : node.values = node'.values :=
  congrArg NodeFace.values h

theorem supply_eq_of_face (h : node.face = node'.face) : node.supply = node'.supply := by
  unfold supply
  rw [id_eq_of_face h, classType_eq_of_face h, values_eq_of_face h]

/-- The sockets of nodes that look the same look the same, one by one. -/
theorem forall₂_slots_of_face (h : node.face = node'.face) :
    List.Forall₂ (fun s s' => socketFace s = socketFace s') node.slots node'.slots :=
  forall₂_of_map_eq socketFace _ _ (congrArg NodeFace.sockets h)

end GraphNode

namespace Site

/-- What a link brings to a slot of the node, with the slot that it starts at. -/
def supply? (site : Site) (slot : Slot) : Option ((NodeId × String × Option Json) × Slot) :=
  (site.source? slot).map fun s => (s.1.supply, s.2)

/-- Two sites see the same: the same node, to which links bring the same, with the same
    schema. -/
structure SeesAlike (site site' : Site) : Prop where
  face : site.node.face = site'.node.face
  schema : site.schema = site'.schema
  strict : site.strict = site'.strict
  supply : ∀ s ∈ site.node.slots, s.2.isLinkBound = true → site.supply? s.1 = site'.supply? s.1

namespace SeesAlike

variable {site site' : Site} (h : site.SeesAlike site') (r : Resolution)
include h

theorem id_eq : site.node.id = site'.node.id := GraphNode.id_eq_of_face h.face

theorem classType_eq : site.node.classType = site'.node.classType :=
  GraphNode.classType_eq_of_face h.face

theorem accept_eq (name : String) (value : Json) :
    site.accept r name value = site'.accept r name value := by
  unfold accept
  rw [h.schema, h.strict, h.id_eq, h.classType_eq]

theorem fallback_eq (name : String) : site.fallback r name = site'.fallback r name := by
  unfold fallback
  rw [h.schema, h.strict, h.id_eq, h.classType_eq]

theorem dropStored_eq (name : String) : site.dropStored r name = site'.dropStored r name := by
  unfold dropStored
  rw [h.schema]

theorem backfill_eq (name : String) (decl : TypeDecl) :
    (site.backfill r name decl).result = (site'.backfill r name decl).result := by
  rw [result_backfill, result_backfill]
  simp only [h.accept_eq]

theorem fillDefault_eq (name : String) :
    (site.fillDefault r name).result = (site'.fillDefault r name).result := by
  rw [result_fillDefault, result_fillDefault, h.fallback_eq, h.schema]

theorem resolveBinding_eq (name binding : String) :
    (site.resolveBinding r name binding).result = (site'.resolveBinding r name binding).result := by
  rw [result_resolveBinding, result_resolveBinding]
  simp only [h.accept_eq, h.fallback_eq, h.schema]

/-- A link that brings the same to both sites makes the same input, or dangles at both. -/
theorem resolveLink_endAlike (slot : Slot) (socket socket' : InputSocket)
    (hname : socket.name = socket'.name) (hsupply : site.supply? slot = site'.supply? slot) :
    EndAlike CompileError.SameButLink Eq (site.resolveLink r slot socket).result
      (site'.resolveLink r slot socket').result := by
  rw [result_resolveLink, result_resolveLink, ← hname, ← h.dropStored_eq, ← h.schema,
    ← h.fallback_eq, ← h.id_eq, ← h.classType_eq]
  unfold supply? at hsupply
  cases hsource : site.source? slot with
  | none =>
      rw [hsource, Option.map_none, eq_comm, Option.map_eq_none_iff] at hsupply
      rw [hsupply]
      -- Only the numbers of the links may differ.
      exact .error rfl
  | some found =>
      rcases found with ⟨source, sourceSlot⟩
      rw [hsource, Option.map_some, eq_comm, Option.map_eq_some_iff] at hsupply
      rcases hsupply with ⟨⟨source', sourceSlot'⟩, hsource', hsame⟩
      simp only [GraphNode.supply, Prod.mk.injEq] at hsame
      rcases hsame with ⟨⟨hid, hclass, hfirst⟩, rfl⟩
      rw [hsource']
      simp only [hid, hclass]
      -- The values of the source are looked at only if it is primitive.
      by_cases hprimitive : source.classType = primitiveClass
      · rw [hclass, if_pos hprimitive, if_pos hprimitive] at hfirst
        rw [hfirst]
        exact .of_eq CompileError.SameButLink.refl _ _ rfl
      · rw [if_pos hprimitive, if_pos hprimitive]
        exact .ok rfl

end SeesAlike

variable {site site' : Site}

/-- A socket does the same at two sites that see the same. -/
theorem resolveSocket_seesAlike (h : site.SeesAlike site') (s s' : Slot × InputSocket)
    (hs : s ∈ site.node.slots) (hface : socketFace s = socketFace s') (r : Resolution) :
    EndAlike CompileError.SameButLink Eq (site.resolveSocket r s.1 s.2).result
      (site'.resolveSocket r s'.1 s'.2).result := by
  rcases SocketFace.mk.inj hface with ⟨hslot, hname, hwidget, hbound⟩
  rw [result_resolveSocket, result_resolveSocket, ← hbound, ← hslot, ← hwidget, ← hname]
  by_cases hlink : s.2.isLinkBound = true
  · rw [if_pos hlink, if_pos hlink]
    exact h.resolveLink_endAlike r s.1 s.2 s'.2 hname (h.supply s hs hlink)
  · rw [if_neg hlink, if_neg hlink]
    simp only [h.resolveBinding_eq]
    exact .of_eq CompileError.SameButLink.refl _ _ rfl

/-- Nodes of sites that see the same compile alike. -/
theorem compile_seesAlike (h : site.SeesAlike site') :
    EndAlike CompileError.SameButLink Eq site.compile.result site'.compile.result := by
  have hstart : site.start = site'.start := by
    unfold start
    rw [GraphNode.values_eq_of_face h.face]
  rw [result_compile, result_compile]
  simp only [result_resolveSockets, result_backfillAll, result_fillDefaults]
  refine EndAlike.bind (EndAlike.foldlM ((List.forall₂_and_left _ _).mpr
    ⟨fun _ hs => hs, GraphNode.forall₂_slots_of_face h.face⟩) (fun s s' a b hs hab => ?_) _ _
      hstart) fun r₁ q₁ h₁ => ?_
  · subst hab
    exact resolveSocket_seesAlike h s s' hs.1 hs.2 a
  · -- The later passes see no links, so they are the same functions of the state.
    subst h₁
    refine .of_eq CompileError.SameButLink.refl _ _ ?_
    simp only [h.backfill_eq, h.fillDefault_eq, h.schema, h.classType_eq]

end Site

end PromptGraph
