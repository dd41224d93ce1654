import PromptGraph.Proofs.Node.Parallel

/-!
# A Socket That Is Given a Link

What becomes of a node if a socket that took a stored value is fed by a link
instead.

For a declared scalar the value stays in the buffer, and the linked socket reads
and drops what the bound socket would have taken. So both leave the cursor at the
same place. The linked socket has its input set, and the bound one too, unless it
found nothing, but then nothing is left in the buffer for it either. `OneMore` is
this relation of the two states. It is kept by every step that follows: steps for
other inputs do the same in both, and steps for this one can only set it.

## Main definitions

* `Resolution.OneMore`: A state has what another has, and one input besides.
* `CompiledNode.AgreeExcept`: Two compiled nodes agree but for one input.
* `Site.withInputs`, `Site.withNodes`: The site with other sockets of its node, or
  among other nodes.
* `GraphNode.offer`, `Site.feed?`: What matters of the node that feeds a slot.

## Theorems

* `Resolution.OneMore.sameStep`, `Resolution.OneMore.sets`: Steps for other inputs
  and for the input itself.
* `Site.oneMore_of_converted`: The two sockets leave such states.
* `Site.resolveSocket_oneMore`, `Site.backfill_oneMore`, `Site.fillDefault_oneMore`:
  The steps after it keep them.
* `Site.compile_converted`: The compiled nodes agree but for the input.
* `Site.compile_withNodes`: A node among other nodes that feed it the same.
* `CompiledNode.AgreeExcept.get?`: Other inputs are the same.
-/

namespace PromptGraph

/-- Only an empty buffer has no first value. -/
theorem ValueBuffer.first?_eq_none_iff (values : ValueBuffer) :
    values.first? = none ↔ values.size = 0 := by
  cases values with
  | sequence values => cases values <;> simp [first?, size]
  | keyed values =>
      simp only [first?, size, OrderedMap.size, Option.or_eq_none_iff, Option.map_eq_none_iff,
        List.head?_eq_none_iff, List.length_eq_zero_iff]
      refine ⟨fun h => h.2, fun h => ⟨?_, h⟩⟩
      unfold OrderedMap.get?
      rw [h]
      rfl

/-- What a link may bring that starts at a node: its id, its class and its first value. -/
def GraphNode.offer (node : GraphNode) : NodeId × String × Option Json :=
  (node.id, node.classType, node.values.first?)

/-- The socket fed by a link. -/
def InputSocket.fedBy (socket : InputSocket) (link : LinkId) : InputSocket :=
  { socket with link := some link }

theorem GraphNode.slotsFrom_append (position : Nat) (front back : List InputSocket) :
    slotsFrom position (front ++ back) =
      slotsFrom position front ++ slotsFrom (position + front.length) back := by
  induction front generalizing position with
  | nil => rfl
  | cons socket rest ih =>
      rw [List.cons_append, slotsFrom, slotsFrom, ih, List.cons_append, List.length_cons,
        Nat.add_assoc, Nat.add_comm 1]

/-- The slot of a socket between others. -/
theorem GraphNode.slotsFrom_middle (front back : List InputSocket) (socket : InputSocket) :
    slotsFrom 0 (front ++ socket :: back) =
      slotsFrom 0 front ++ (socket.slotIndex.getD (UInt32.ofNat front.length), socket) ::
        slotsFrom (front.length + 1) back := by
  rw [slotsFrom_append, Nat.zero_add, slotsFrom]

namespace Resolution

/-- The second state has what the first has, and one input besides. The first has that input
    too, or nothing is left in its buffer. -/
structure OneMore (name : String) (r q : Resolution) : Prop where
  cursor : r.cursor = q.cursor
  others : Entries.without name r.inputs.entries = Entries.without name q.inputs.entries
  isSet : q.isSet name = true
  done : r.isSet name = true ∨ r.cursor.unread = []

variable {name : String} {r r' q q' : Resolution}

theorem OneMore.isSet_eq (h : OneMore name r q) (other : String) (hne : other ≠ name) :
    q.isSet other = r.isSet other := by
  have hq := Entries.lookup_without name other hne q.inputs.entries
  have hr := Entries.lookup_without name other hne r.inputs.entries
  rw [← h.others, hr] at hq
  unfold Resolution.isSet OrderedMap.contains OrderedMap.get?
  rw [hq]

/-- A step that does the same in both states keeps them so related. -/
theorem OneMore.sameStep (h : OneMore name r q) {key : String} (hstep : r.SameStep Eq r' q q' key)
    (hend : r.cursor.unread = [] → r'.cursor = r.cursor) : OneMore name r' q' := by
  -- An input that is set stays set, and at its end the buffer is not read further.
  have hdone : r'.isSet name = true ∨ r'.cursor.unread = [] := by
    rcases h.done with hset | hunread
    · refine Or.inl ?_
      rcases hstep.2 with ⟨hr, -⟩ | ⟨input, hr, -⟩
      · rw [isSet_congr r r' name hr, hset]
      · rw [isSet_insert r r' name key input hr, hset, Bool.or_true]
    · exact Or.inr (by rw [hend hunread]; exact hunread)
  rcases hstep with ⟨hcursor, ⟨hr, hq⟩ | ⟨input, hr, hq⟩⟩
  · refine ⟨hcursor, ?_, ?_, hdone⟩
    · rw [hr, hq]
      exact h.others
    · rw [isSet_congr q q' name hq, h.isSet]
  · refine ⟨hcursor, ?_, ?_, hdone⟩
    · rw [hr, hq, OrderedMap.entries_insert, OrderedMap.entries_insert]
      -- Setting the input itself does not show among the others.
      by_cases hkey : key = name
      · subst hkey
        rw [Entries.without_insert_self, Entries.without_insert_self, h.others]
      · rw [Entries.without_insert_of_ne name key hkey, Entries.without_insert_of_ne name key hkey,
          h.others]
    · rw [isSet_insert q q' name key input hq, h.isSet, Bool.or_true]

theorem Sets.without {allowed : ResolvedInput → Prop} (h : r.Sets r' name allowed) :
    Entries.without name r'.inputs.entries = Entries.without name r.inputs.entries := by
  rcases h with hsame | ⟨input, -, hset⟩
  · rw [hsame]
  · rw [hset, OrderedMap.entries_insert, Entries.without_insert_self]

theorem Sets.isSet {allowed : ResolvedInput → Prop} (h : r.Sets r' name allowed)
    (hset : r.isSet name = true) : r'.isSet name = true := by
  rcases h with hsame | ⟨input, -, hinsert⟩
  · rw [isSet_congr r r' name hsame, hset]
  · rw [isSet_insert r r' name name input hinsert, hset, Bool.or_true]

/-- The first state may set the input while the second stays as it is. -/
theorem OneMore.sets (h : OneMore name r q) {allowed : ResolvedInput → Prop}
    (hsets : r.Sets r' name allowed) (hcursor : r'.cursor = r.cursor) : OneMore name r' q := by
  refine ⟨hcursor.trans h.cursor, hsets.without.trans h.others, h.isSet, ?_⟩
  rcases h.done with hset | hunread
  · exact Or.inl (hsets.isSet hset)
  · exact Or.inr (by rw [hcursor]; exact hunread)

end Resolution

namespace Site

variable (site : Site) {name : String} {r r' q : Resolution}

theorem resolveSocket_oneMore (h : r.OneMore name q) (s : Slot × InputSocket)
    (hstep : (site.resolveSocket r s.1 s.2).result = .ok r') :
    ∃ q', (site.resolveSocket q s.1 s.2).result = .ok q' ∧ r'.OneMore name q' := by
  rcases site.resolveSocket_parallel Cursor.readAlike_eq h.cursor s hstep with ⟨q', hq', hsame⟩
  exact ⟨q', hq', h.sameStep hsame fun hend => site.resolveSocket_exhausted hend s hstep⟩

theorem backfill_oneMore (h : r.OneMore name q) (key : String) (decl : TypeDecl)
    (hstep : (site.backfill r key decl).result = .ok r') :
    ∃ q', (site.backfill q key decl).result = .ok q' ∧ r'.OneMore name q' := by
  by_cases hkey : key = name
  · subst hkey
    -- The second state has the input, so it is passed over there.
    refine ⟨q, ?_, ?_⟩
    · rw [result_backfill, h.isSet]
      rfl
    · rcases site.backfill_sets key decl hstep with ⟨hsets, hkeeps⟩
      refine h.sets hsets ?_
      -- In the first it is passed over too, or the read for it finds nothing.
      rcases h.done with hset | hunread
      · rw [hkeeps hset]
      · exact site.backfill_exhausted hunread key decl hstep
  · rcases site.backfill_parallel Cursor.readAlike_eq h.cursor key (h.isSet_eq key hkey) decl hstep
      with ⟨q', hq', hsame⟩
    exact ⟨q', hq', h.sameStep hsame fun hend => site.backfill_exhausted hend key decl hstep⟩

theorem fillDefault_oneMore (h : r.OneMore name q) (key : String)
    (hstep : (site.fillDefault r key).result = .ok r') :
    ∃ q', (site.fillDefault q key).result = .ok q' ∧ r'.OneMore name q' := by
  rcases site.fillDefault_origin key hstep with ⟨hcursor, hsets, -⟩
  by_cases hkey : key = name
  · subst hkey
    refine ⟨q, ?_, h.sets hsets hcursor⟩
    rw [result_fillDefault, h.isSet]
    rfl
  · rcases site.fillDefault_parallel h.cursor key (h.isSet_eq key hkey) hstep with
      ⟨q', hq', hsame⟩
    exact ⟨q', hq', h.sameStep hsame fun _ => hcursor⟩

/-- A socket that is fed by a link drops the value stored for it and sets its input, unless
    the link starts at a primitive node without a value. -/
theorem resolveSocket_fedBy (r : Resolution) (slot : Slot) (socket : InputSocket) (link : LinkId)
    (source : GraphNode) (sourceSlot : Slot)
    (hsource : site.source? slot = some (source, sourceSlot))
    (hvalue : source.classType = primitiveClass → 0 < source.values.size) :
    ∃ input, (site.resolveSocket r slot (socket.fedBy link)).result =
      .ok ((site.dropStored r socket.name).set socket.name input) := by
  have hlink : (socket.fedBy link).isLinkBound = true := rfl
  rw [result_resolveSocket, if_pos hlink]
  by_cases hclass : source.classType = primitiveClass
  · cases hfirst : source.values.first? with
    | none =>
        -- A buffer that is not empty has a first value.
        have hempty := (ValueBuffer.first?_eq_none_iff source.values).mp hfirst
        have hsize := hvalue hclass
        omega
    | some value =>
        refine ⟨.value (inlineValue (site.schema.kind? socket.name) value), ?_⟩
        rw [resolveLink_ok]
        exact ⟨source, sourceSlot, hsource, Or.inr ⟨hclass, Or.inl ⟨value, hfirst, rfl⟩⟩⟩
  · refine ⟨.reference source.id sourceSlot, ?_⟩
    rw [resolveLink_ok]
    exact ⟨source, sourceSlot, hsource, Or.inl ⟨hclass, rfl⟩⟩

/-- A bound socket reads the buffer for its input. -/
theorem resolveSocket_reads (slot : Slot) (socket : InputSocket)
    (hbound : socket.isValueBound = true)
    (hstep : (site.resolveSocket r slot socket).result = .ok r') :
    ∃ binding, site.Reads r r' socket.name
      (r.cursor.take binding (site.schema.kind? socket.name)) := by
  unfold InputSocket.isValueBound at hbound
  rw [Bool.and_eq_true, Bool.not_eq_true'] at hbound
  rcases site.resolveSocket_origin (slot, socket) hstep with
    ⟨hlink, -⟩ | ⟨-, ⟨binding, -, hreads⟩ | ⟨hwidget, -⟩⟩
  · rw [hbound.1] at hlink
    cases hlink
  · exact ⟨binding, hreads⟩
  · rw [hwidget] at hbound
    cases hbound.2

/-- Where a bound socket takes a value, a linked one drops it and sets its input. -/
theorem oneMore_of_converted (slot : Slot) (socket : InputSocket) (link : LinkId)
    (hbound : socket.isValueBound = true) (hscalar : site.schema.isScalar socket.name = true)
    (source : GraphNode) (sourceSlot : Slot)
    (hsource : site.source? slot = some (source, sourceSlot))
    (hvalue : source.classType = primitiveClass → 0 < source.values.size)
    (hstep : (site.resolveSocket r slot socket).result = .ok r') :
    ∃ q', (site.resolveSocket r slot (socket.fedBy link)).result = .ok q' ∧
      r'.OneMore socket.name q' := by
  rcases site.resolveSocket_fedBy r slot socket link source sourceSlot hsource hvalue with
    ⟨input, hq'⟩
  rcases site.resolveSocket_reads slot socket hbound hstep with ⟨binding, hreads⟩
  have hdropped : (site.dropStored r socket.name).cursor =
      (r.cursor.pop (site.schema.kind? socket.name)).cursor := by
    unfold dropStored
    rw [if_pos hscalar]
    rfl
  have hset := Resolution.isSet_insert (site.dropStored r socket.name) _ socket.name socket.name
    input (Resolution.inputs_set _ socket.name input)
  refine ⟨_, hq', ?_, ?_, ?_, ?_⟩
  · -- Both have read for the same kind.
    exact hreads.1.trans ((r.cursor.cursor_take _ binding).trans hdropped.symm)
  · rw [hreads.sets_value.without, Resolution.inputs_set, OrderedMap.entries_insert,
      Entries.without_insert_self, inputs_dropStored]
  · rw [hset, decide_eq_true rfl, Bool.true_or]
  · -- If the bound socket has found nothing, it has read to the end.
    rcases hreads with ⟨hcursor, ⟨value, -, -, hinsert⟩ | ⟨hnone, -⟩⟩
    · refine Or.inl ?_
      rw [Resolution.isSet_insert r r' socket.name socket.name _ hinsert, decide_eq_true rfl,
        Bool.true_or]
    · rw [hcursor]
      exact Or.inr (r.cursor.unread_of_take_none _ binding hnone)

/-- The site with other sockets of its node. -/
def withInputs (inputs : List InputSocket) : Site :=
  { site with node := { site.node with inputs } }

/-- The site among other nodes. -/
def withNodes (nodes : NodeIndex) : Site := { site with nodes }

/-- What feeds a slot, as far as it matters. -/
def feed? (slot : Slot) : Option ((NodeId × String × Option Json) × Slot) :=
  (site.source? slot).map fun s => (s.1.offer, s.2)

theorem resolveLink_withNodes (nodes : NodeIndex) (r : Resolution) (slot : Slot)
    (socket : InputSocket) (h : (site.withNodes nodes).feed? slot = site.feed? slot) :
    ((site.withNodes nodes).resolveLink r slot socket).result =
      (site.resolveLink r slot socket).result := by
  rw [result_resolveLink, result_resolveLink]
  unfold feed? at h
  -- The step looks at nothing of the source that is not in the offer.
  cases hsource : site.source? slot with
  | none =>
      rw [hsource, Option.map_none, Option.map_eq_none_iff] at h
      rw [h]
      rfl
  | some found =>
      rcases found with ⟨source, sourceSlot⟩
      rw [hsource, Option.map_some, Option.map_eq_some_iff] at h
      rcases h with ⟨⟨source', sourceSlot'⟩, hsource', hsame⟩
      simp only [GraphNode.offer, Prod.mk.injEq] at hsame
      rcases hsame with ⟨⟨hid, hclass, hfirst⟩, rfl⟩
      rw [hsource']
      simp only [hid, hclass, hfirst]
      rfl

/-- Among other nodes a node compiles to the same if its slots are fed the same. -/
theorem compile_withNodes (nodes : NodeIndex)
    (h : ∀ slot, (site.withNodes nodes).feed? slot = site.feed? slot) :
    (site.withNodes nodes).compile.result = site.compile.result := by
  have hsocket : ∀ r (s : Slot × InputSocket),
      ((site.withNodes nodes).resolveSocket r s.1 s.2).result =
        (site.resolveSocket r s.1 s.2).result := by
    intro r s
    rw [result_resolveSocket, result_resolveSocket,
      site.resolveLink_withNodes nodes r s.1 s.2 (h s.1)]
    rfl
  rw [result_compile, result_compile]
  simp only [result_resolveSockets, result_backfillAll, result_fillDefaults, hsocket]
  rfl

end Site

namespace CompiledNode

/-- Two compiled nodes are of the same class and have the same inputs in the same order, but
    for one input. -/
def AgreeExcept (name : String) (node other : CompiledNode) : Prop :=
  node.classType = other.classType ∧
    Entries.without name node.inputs.entries = Entries.without name other.inputs.entries

theorem AgreeExcept.get? {name : String} {node other : CompiledNode}
    (h : node.AgreeExcept name other) (key : String) (hne : key ≠ name) :
    node.inputs.get? key = other.inputs.get? key := by
  have hnode := Entries.lookup_without name key hne node.inputs.entries
  rw [h.2, Entries.lookup_without name key hne] at hnode
  exact hnode.symm

end CompiledNode

namespace Site

variable (site : Site)

/-- The node with the linked socket compiles too, and to the same but for that input. -/
theorem compile_converted (front back : List InputSocket) (socket : InputSocket) (link : LinkId)
    (hinputs : site.node.inputs = front ++ socket :: back)
    (hbound : socket.isValueBound = true) (hscalar : site.schema.isScalar socket.name = true)
    (source : GraphNode) (sourceSlot : Slot)
    (hsource : site.source? (socket.slotIndex.getD (UInt32.ofNat front.length)) =
      some (source, sourceSlot))
    (hvalue : source.classType = primitiveClass → 0 < source.values.size)
    (compiled : CompiledNode) (h : site.compile.result = .ok compiled) :
    ∃ compiled', (site.withInputs
        (front ++ socket.fedBy link :: back)).compile.result = .ok compiled' ∧
      compiled.AgreeExcept socket.name compiled' := by
  rcases (site.compile_ok compiled).mp h with ⟨r₁, r₂, r₃, h₁, h₂, h₃, rfl⟩
  rw [result_resolveSockets, GraphNode.slots, hinputs, GraphNode.slotsFrom_middle,
    foldlM_split_ok] at h₁
  -- Up to the socket the runs are the same, and from there on one input apart.
  rcases h₁ with ⟨m, n, hfront, hsocket, hback⟩
  rcases site.oneMore_of_converted _ socket link hbound hscalar source sourceSlot hsource hvalue
    hsocket with ⟨n', hsocket', hmore⟩
  rcases foldlM_related (Resolution.OneMore socket.name) _
    (fun s _ a b a' hab hstep => site.resolveSocket_oneMore hab s hstep) n r₁ n' hmore hback with
    ⟨q₁, hback', hmore₁⟩
  rcases site.laterPasses_related (Resolution.OneMore socket.name)
    (fun key decl _ _ _ hab hstep => site.backfill_oneMore hab key decl hstep)
    (fun key _ _ _ hab hstep => site.fillDefault_oneMore hab key hstep) hmore₁ h₂ h₃ with
    ⟨q₂, q₃, hq₂, hq₃, hmore₃⟩
  refine ⟨⟨site.node.classType, q₃.inputs⟩, ?_, rfl, hmore₃.others⟩
  -- The steps of the node with the linked socket are the same functions.
  rw [compile_ok]
  refine ⟨q₁, q₂, q₃, ?_, ?_, ?_, rfl⟩
  · have hslots : (site.withInputs (front ++ socket.fedBy link :: back)).node.slots = _ :=
      GraphNode.slotsFrom_middle front back (socket.fedBy link)
    rw [result_resolveSockets, hslots, foldlM_split_ok]
    exact ⟨m, n', hfront, hsocket', hback'⟩
  · rw [result_backfillAll] at hq₂ ⊢
    exact hq₂
  · rw [result_fillDefaults] at hq₃ ⊢
    exact hq₃

end Site

end PromptGraph
