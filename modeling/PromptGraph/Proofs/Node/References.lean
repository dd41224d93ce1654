import PromptGraph.Proofs.Node.Inputs

/-!
# The References of a Node

The references of a compiled node are those that its sockets lead to. One half
is true of all steps of the three passes: a reference is set only at a socket
that refers to it. The other half follows the socket through the rest of the
run. It sets its reference whatever was set before; the sockets after it have
other names or are left alone, and the later passes do not touch what is set.

## Main definitions

* `GraphNode.boundSlots`: The sockets that the first pass does something about.
* `Site.FromSocket`: A reference is one that a socket of its name leads to.

## Theorems

* `GraphNode.map_name_slots`: Slots do not change the names of sockets.
* `Site.result_resolveSockets_bound`: The first pass goes by the bound sockets.
* `Site.compile_reference`: Every reference is that of a socket of the name.
* `Site.compile_refers`: If bound sockets have distinct names, every socket that
  refers has its reference in the compiled node.
-/

namespace PromptGraph

/-- Whether the socket is fed by a link or bound to a stored value. -/
def InputSocket.isBound (socket : InputSocket) : Bool := socket.isLinkBound || socket.widget.isSome

namespace GraphNode

/-- The sockets of a node that are fed by a link or bound to a stored value. -/
def boundSlots (node : GraphNode) : List (Slot × InputSocket) := node.slots.filter (·.2.isBound)

/-- The names of the bound sockets. -/
def boundNames (node : GraphNode) : List String := node.boundSlots.map fun s => s.2.name

theorem map_name_slotsFrom (position : Nat) (sockets : List InputSocket) :
    (slotsFrom position sockets).map (fun s => s.2.name) = sockets.map InputSocket.name := by
  induction sockets generalizing position with
  | nil => rfl
  | cons socket rest ih => simp only [slotsFrom, List.map_cons, ih]

theorem map_name_slots (node : GraphNode) :
    node.slots.map (fun s => s.2.name) = node.inputs.map InputSocket.name :=
  map_name_slotsFrom 0 node.inputs

theorem nodup_boundNames (node : GraphNode) (h : (node.inputs.map InputSocket.name).Nodup) :
    node.boundNames.Nodup := by
  rw [← map_name_slots] at h
  exact h.sublist (List.filter_sublist.map _)

end GraphNode

namespace Site

variable (site : Site)

/-- A reference is one that a socket of its name leads to; values are not looked at. -/
def FromSocket (name : String) (input : ResolvedInput) : Prop :=
  ∀ src slot, input = .reference src slot →
    ∃ s ∈ site.node.slots, s.2.name = name ∧ site.Refers s input

theorem fromSocket_of_isValue {name : String} {input : ResolvedInput} (h : input.IsValue) :
    site.FromSocket name input := by
  rintro src slot rfl
  exact absurd h (ResolvedInput.not_isValue_reference src slot)

/-- Every reference of a compiled node is one that a socket of that name leads
    to. -/
theorem compile_reference (compiled : CompiledNode) (h : site.compile.result = .ok compiled)
    (name : String) (src : NodeId) (slot : Slot)
    (hget : compiled.inputs.get? name = some (.reference src slot)) :
    ∃ s ∈ site.node.slots, s.2.name = name ∧ site.Refers s (.reference src slot) := by
  refine site.compile_inputs site.FromSocket (fun s hs r r' _ hstep => ?_)
    (fun e _ r r' _ hstep => ?_) (fun name r r' hstep => ?_) compiled h name _ hget src slot rfl
  · -- A socket sets a value or the reference that it leads to itself.
    refine (site.resolveSocket_sets s hstep).mono fun input hinput => ?_
    rcases hinput with hvalue | hrefers
    · exact site.fromSocket_of_isValue hvalue
    · exact fun _ _ _ => ⟨s, hs, rfl, hrefers⟩
  · -- The later passes set values only.
    exact (site.backfill_sets e.1 e.2 hstep).1.mono fun _ => site.fromSocket_of_isValue
  · exact (site.fillDefault_sets name hstep).1.mono fun _ => site.fromSocket_of_isValue

theorem resolveSocket_unbound (s : Slot × InputSocket) (h : s.2.isBound = false) (r : Resolution) :
    (site.resolveSocket r s.1 s.2).result = .ok r := by
  unfold InputSocket.isBound at h
  rw [Bool.or_eq_false_iff, Option.isSome_eq_false_iff, Option.isNone_iff_eq_none] at h
  rw [result_resolveSocket, h.1, h.2]
  rfl

/-- The first pass goes by the bound sockets alone. -/
theorem result_resolveSockets_bound (r : Resolution) :
    (site.resolveSockets r site.node.slots).result =
      site.node.boundSlots.foldlM (fun r s => (site.resolveSocket r s.1 s.2).result) r := by
  unfold GraphNode.boundSlots
  rw [result_resolveSockets, List.foldlM_filter]
  congr 1
  funext r s
  cases hbound : s.2.isBound with
  | true => rfl
  | false => rw [site.resolveSocket_unbound s hbound r]; rfl

theorem mem_boundSlots_of_refers (s : Slot × InputSocket) (hs : s ∈ site.node.slots)
    (input : ResolvedInput) (hrefers : site.Refers s input) : s ∈ site.node.boundSlots := by
  refine List.mem_filter.mpr ⟨hs, ?_⟩
  unfold InputSocket.isBound
  rw [hrefers.1, Bool.true_or]

/-- If bound sockets have distinct names, a socket that refers to an output has that
    reference in the compiled node. -/
theorem compile_refers (compiled : CompiledNode) (h : site.compile.result = .ok compiled)
    (hdistinct : site.node.boundNames.Nodup) (s : Slot × InputSocket) (hs : s ∈ site.node.slots)
    (input : ResolvedInput) (hrefers : site.Refers s input) :
    compiled.inputs.get? s.2.name = some input := by
  rcases (site.compile_ok compiled).mp h with ⟨r₁, r₂, r₃, h₁, h₂, h₃, rfl⟩
  rcases List.append_of_mem (site.mem_boundSlots_of_refers s hs input hrefers) with
    ⟨front, back, hsplit⟩
  -- The bound sockets after this one have other names.
  have hback : ∀ t ∈ back, t.2.name ≠ s.2.name := by
    unfold GraphNode.boundNames at hdistinct
    rw [hsplit, List.map_append, List.map_cons, List.nodup_append] at hdistinct
    intro t ht heq
    have hnotin := (List.nodup_cons.mp hdistinct.2.1).1
    exact hnotin (heq ▸ List.mem_map_of_mem ht)
  -- The first pass reaches the socket in some state and goes on from what it sets.
  rw [result_resolveSockets_bound, hsplit, foldlM_split_ok] at h₁
  rcases h₁ with ⟨m, n, -, hstep, hrest⟩
  rw [site.resolveSocket_refers s input hrefers, Except.ok.injEq] at hstep
  -- So what this socket sets is there at the end of the first pass.
  have hset : r₁.inputs.get? s.2.name = some input := by
    have hkept := foldlM_invariant (fun r => r.inputs.get? s.2.name = n.inputs.get? s.2.name) back
      (fun t ht a b ha hb =>
        ((site.resolveSocket_sets t hb).get?_other s.2.name (hback t ht).symm).trans ha)
      n r₁ rfl hrest
    rw [hkept, ← hstep, Resolution.inputs_set, OrderedMap.get?_insert, if_pos rfl]
  exact site.fillDefaults_keeps _ _ _ h₃ (site.backfillAll_keeps _ _ _ h₂ hset)

end Site

end PromptGraph
