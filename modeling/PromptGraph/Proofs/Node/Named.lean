import PromptGraph.Proofs.Named
import PromptGraph.Proofs.Node.Alignment
import PromptGraph.Proofs.Node.Conversion
import PromptGraph.Proofs.Node.Dangling

/-!
# Values by Position and by Name

A node whose values are stored by name, beside the same node with a sequence.

If the bound sockets go through the first scalars in the order declared, it makes no
difference how the values are stored. Sockets and second pass together ask for the
scalars one after the other, each once, and so the value ahead in the sequence is always
the one that is stored under the name asked for.

A value that is dropped for a linked socket is gone from a sequence only. What keeps it
from being looked up by its name later is that the input of the socket is set then, for
which the source must not be a primitive node without a value. And a scalar that found
nothing may be asked for again in the second pass, but then the sequence is at its end
and nothing is stored under the name.

## Main definitions

* `Site.BindsInOrder`: The bound sockets go through the first scalars.
* `Resolution.InStep`: What is read next is the same in two states.
* `Site.Reached`, `Site.OnCourse`: The sockets have been resolved up to some scalar, and
  those to come go on with it.

## Theorems

* `Site.Reached.next`, `Site.Reached.other`: A step for the next scalar, and for an input
  that is none.
* `Site.resolveSocket_onCourse`, `Site.backfill_inStep`: A step does the same in both.
* `Site.compile_named`: The node compiles to the same.
-/

namespace PromptGraph

/-- Two states have the same inputs, the one with a sequence to read from and the other with
    named values, and what is ahead in the sequence follows the names that are left. -/
structure Resolution.InStep (named : OrderedMap Json) (left : Entries TypeDecl) (r q : Resolution) :
    Prop where
  inputs : r.inputs = q.inputs
  sequence : r.cursor.buffer.isSequence = true
  keyed : q.cursor.buffer = .keyed named
  follows : Follows named left r.cursor.unread

namespace Site

variable (site : Site) {r q : Resolution}

/-- The bound sockets of a node that are scalars of its class go through the first scalars in
    the order declared. Each is bound to the value of its own name, or fed by a link which, if
    it starts at a primitive node, brings a value. Other bound sockets are fed by links. No
    input of the class is both required and optional. -/
structure BindsInOrder (site : Site) : Prop where
  disjoint : site.schema.required.keys.Disjoint site.schema.optional.keys
  ordered : (site.node.boundNames.filter site.schema.isScalar) <+:
    Entries.keys site.schema.scalars
  own : ∀ s ∈ site.node.boundSlots, s.2.isLinkBound = false →
    site.schema.isScalar s.2.name = true ∧ s.2.widget = some s.2.name
  supplied : ∀ s ∈ site.node.boundSlots, s.2.isLinkBound = true →
    site.schema.isScalar s.2.name = true → ∀ source sourceSlot,
      site.source? s.1 = some (source, sourceSlot) → source.classType = primitiveClass →
        0 < source.values.size

/-- The site with another buffer of its node. -/
def withBuffer (buffer : ValueBuffer) : Site :=
  { site with node := { site.node with values := buffer } }

/-- Sockets have been resolved up to the scalars that are left. As long as there are values
    ahead, just the scalars left are unset. Others may be unset once there are none, for which
    no value is stored. -/
structure Reached (site : Site) (named : OrderedMap Json) (left : Entries TypeDecl)
    (r q : Resolution) : Prop extends Resolution.InStep named left r q where
  suffix : left <:+ site.schema.scalars
  pending : r.cursor.unread ≠ [] → site.schema.inputs.filter r.pending = left
  absent : r.cursor.unread = [] → ∀ e ∈ site.schema.inputs.filter r.pending,
    named.get? e.1 = none

namespace Reached

variable {site} {named : OrderedMap Json} {left : Entries TypeDecl}

/-- The unset scalars follow what is ahead. -/
theorem inStep_pending (h : site.Reached named left r q) :
    Resolution.InStep named (site.schema.inputs.filter r.pending) r q := by
  refine ⟨h.inputs, h.sequence, h.keyed, ?_⟩
  by_cases hend : r.cursor.unread = []
  · rw [hend]
    exact .ended _ (h.absent hend)
  · rw [h.pending hend]
    exact h.follows

/-- A step for the first scalar that is left reaches the others: it reads for it, and sets it
    unless there is nothing ahead. -/
theorem next (hdisjoint : site.schema.required.keys.Disjoint site.schema.optional.keys)
    {e : String × TypeDecl} (h : site.Reached named (e :: left) r q) (name : String)
    (r' q' : Resolution)
    (hcursor : r'.cursor = (r.cursor.take name (classify e.2.typeName).kind?).cursor)
    (hkeyed : q'.cursor.buffer = .keyed named) (hinputs : r'.inputs = q'.inputs)
    (hset : (∃ input, r'.inputs = r.inputs.insert e.1 input) ∨
      r'.inputs = r.inputs ∧ r.cursor.unread = []) : site.Reached named left r' q' := by
  rcases h.follows.take r.cursor h.sequence name with ⟨-, hfollows⟩
  rw [← hcursor] at hfollows
  have hdistinct : (Entries.keys (e :: left)).Nodup :=
    (site.schema.nodup_keys_scalars hdisjoint).sublist (h.suffix.sublist.map Prod.fst)
  have hout : e.1 ∉ Entries.keys left := (List.nodup_cons.mp hdistinct).1
  have hstays : r.cursor.unread = [] → r'.cursor.unread = [] := by
    intro hend
    rw [hcursor, Cursor.cursor_take_of_unread _ _ name hend, hend]
  -- With values ahead the scalar was the first that is unset, and now it is set.
  have hpending : r.cursor.unread ≠ [] → site.schema.inputs.filter r'.pending = left := by
    intro hahead
    rcases hset with ⟨input, hinsert⟩ | ⟨-, hend⟩
    · rw [r.filter_pending_of_insert r' _ e.1 input hinsert, h.pending hahead,
        Entries.without_cons_self, Entries.without_of_not_mem e.1 left hout]
    · exact absurd hend hahead
  refine ⟨⟨hinputs, ?_, hkeyed, hfollows⟩, (List.suffix_cons e left).trans h.suffix, ?_, ?_⟩
  · rw [hcursor, Cursor.buffer_take]
    exact h.sequence
  · exact fun hahead => hpending fun hend => hahead (hstays hend)
  · intro hend' other hother
    by_cases hend : r.cursor.unread = []
    · -- What is unset now was so before.
      refine h.absent hend other ?_
      rcases hset with ⟨input, hinsert⟩ | ⟨hsame, -⟩
      · rw [r.filter_pending_of_insert r' _ e.1 input hinsert] at hother
        exact List.mem_of_mem_filter hother
      · rwa [r.filter_pending_congr r' _ hsame] at hother
    · rw [hpending hend] at hother
      rw [hend'] at hfollows
      exact hfollows.absent other hother

/-- Setting an input that is not a scalar changes nothing about the scalars. -/
theorem other (hdisjoint : site.schema.required.keys.Disjoint site.schema.optional.keys)
    (h : site.Reached named left r q) (name : String) (hname : site.schema.isScalar name = false)
    (input : ResolvedInput) : site.Reached named left (r.set name input) (q.set name input) := by
  have hpending : site.schema.inputs.filter (r.set name input).pending =
      site.schema.inputs.filter r.pending := by
    rw [r.filter_pending_of_insert _ _ name input rfl]
    refine Entries.without_of_not_mem name _ fun hmem => ?_
    rcases List.mem_map.mp hmem with ⟨e, he, rfl⟩
    rw [site.filter_pending] at he
    rw [site.schema.isScalar_of_mem hdisjoint e (List.mem_of_mem_filter he)] at hname
    cases hname
  refine ⟨⟨?_, h.sequence, h.keyed, h.follows⟩, h.suffix, ?_, ?_⟩
  · exact Resolution.inputs_set_congr r q h.inputs name input
  · rw [hpending]
    exact h.pending
  · rw [hpending]
    exact h.absent

end Reached

/-- The sockets to come go on with the scalars that are left. -/
def OnCourse (named : OrderedMap Json) (rest : List (Slot × InputSocket)) (r q : Resolution) :
    Prop :=
  rest ⊆ site.node.boundSlots ∧ ∃ left,
    (rest.map fun s => s.2.name).filter site.schema.isScalar <+: Entries.keys left ∧
      site.Reached named left r q

section Socket

variable {site} (h : site.BindsInOrder) {named : OrderedMap Json} {s : Slot × InputSocket}
  {rest : List (Slot × InputSocket)}
include h

/-- The next socket that is a scalar is the first scalar that is left. -/
theorem OnCourse.scalar (hcourse : site.OnCourse named (s :: rest) r q)
    (hscalar : site.schema.isScalar s.2.name = true) :
    ∃ e left, e.1 = s.2.name ∧ site.schema.kind? s.2.name = (classify e.2.typeName).kind? ∧
      (rest.map fun s => s.2.name).filter site.schema.isScalar <+: Entries.keys left ∧
      site.Reached named (e :: left) r q := by
  rcases hcourse with ⟨-, left, hnames, hreached⟩
  rw [List.map_cons, List.filter_cons_of_pos hscalar] at hnames
  cases left with
  | nil =>
      -- A scalar that goes on with the names that are left is one of them.
      exact absurd (List.prefix_nil.mp hnames) (List.cons_ne_nil _ _)
  | cons e left =>
      rcases List.cons_prefix_cons.mp hnames with ⟨hname, hlater⟩
      have hmem : e ∈ site.schema.inputs :=
        List.mem_of_mem_filter (hreached.suffix.mem (List.mem_cons_self ..))
      refine ⟨e, left, hname.symm, ?_, hlater, hreached⟩
      rw [hname]
      exact site.schema.kind?_of_mem h.disjoint e hmem

/-- A scalar that is bound to its value takes the same from the sequence and by its name. -/
theorem resolveBinding_onCourse (hcourse : site.OnCourse named (s :: rest) r q)
    (hscalar : site.schema.isScalar s.2.name = true) :
    EndAlike Eq (site.OnCourse named rest) (site.resolveBinding r s.2.name s.2.name).result
      (site.resolveBinding q s.2.name s.2.name).result := by
  rcases OnCourse.scalar h hcourse hscalar with ⟨e, left, hname, hkind, hnames, hreached⟩
  rcases hreached.follows.take r.cursor hreached.sequence s.2.name with ⟨hvalue, -⟩
  have hnext := fun r' q' => hreached.next h.disjoint s.2.name r' q'
  have hsub := (List.cons_subset.mp hcourse.1).2
  -- Both states take what is stored under the name.
  rw [result_resolveBinding, result_resolveBinding, hkind,
    Cursor.take_of_keyed _ q.cursor named hreached.keyed]
  simp only [hvalue, hname]
  cases hstored : named.get? s.2.name with
  | some value =>
      refine site.accept_endAlike _ s.2.name value ⟨hsub, left, hnames, ?_⟩
      exact hnext _ _ rfl hreached.keyed
        (Resolution.inputs_set_congr _ _ hreached.inputs s.2.name (.value value))
        (Or.inl ⟨.value value, hname ▸ rfl⟩)
  | none =>
      -- Nothing is stored, so the sequence is at its end, and the scalar may stay unset.
      have hend := hreached.follows.ahead_of_absent (hname ▸ hstored)
      refine site.fallback_endAlike _ s.2.name (fun input => ⟨hsub, left, hnames, ?_⟩)
        ⟨hsub, left, hnames, ?_⟩
      · exact hnext _ _ rfl hreached.keyed
          (Resolution.inputs_set_congr _ _ hreached.inputs s.2.name input)
          (Or.inl ⟨input, hname ▸ rfl⟩)
      · exact hnext _ _ rfl hreached.keyed hreached.inputs (Or.inr ⟨rfl, hend⟩)

/-- A scalar that is fed by a link drops the value that is ahead, and its input is set. -/
theorem resolveLink_onCourse_scalar (hcourse : site.OnCourse named (s :: rest) r q)
    (hlink : s.2.isLinkBound = true) (hscalar : site.schema.isScalar s.2.name = true) :
    EndAlike Eq (site.OnCourse named rest) (site.resolveLink r s.1 s.2).result
      (site.resolveLink q s.1 s.2).result := by
  rcases OnCourse.scalar h hcourse hscalar with ⟨e, left, hname, hkind, hnames, hreached⟩
  rcases List.cons_subset.mp hcourse.1 with ⟨hs, hsub⟩
  refine site.resolveLink_endAlike _ s.1 s.2 (fun input => ⟨hsub, left, hnames, ?_⟩)
    fun source sourceSlot hsource hclass hfirst => ?_
  · -- The value ahead is dropped from the sequence, and the named values stay.
    refine hreached.next h.disjoint s.2.name _ _ ?_ ?_ ?_ (Or.inl ⟨input, ?_⟩)
    · rw [dropStored, if_pos hscalar, hkind, Cursor.cursor_take]
      rfl
    · rw [dropStored, if_pos hscalar]
      exact hreached.keyed
    · refine Resolution.inputs_set_congr _ _ ?_ s.2.name input
      rw [inputs_dropStored, inputs_dropStored, hreached.inputs]
    · rw [Resolution.inputs_set, inputs_dropStored, hname]
  · -- The source is not a primitive node without a value.
    have hsize := h.supplied s hs hlink hscalar source sourceSlot hsource hclass
    rw [ValueBuffer.first?_eq_none_iff] at hfirst
    omega

/-- An input that is not a scalar has no value stored for it. -/
theorem resolveLink_onCourse_other (hcourse : site.OnCourse named (s :: rest) r q)
    (hscalar : site.schema.isScalar s.2.name = false) :
    EndAlike Eq (site.OnCourse named rest) (site.resolveLink r s.1 s.2).result
      (site.resolveLink q s.1 s.2).result := by
  rcases hcourse with ⟨hsub, left, hnames, hreached⟩
  rw [List.map_cons, List.filter_cons_of_neg (Bool.eq_false_iff.mp hscalar)] at hnames
  have hdropped : ∀ r : Resolution, site.dropStored r s.2.name = r := by
    intro r
    rw [dropStored, hscalar, if_neg Bool.false_ne_true]
  have hrest := (List.cons_subset.mp hsub).2
  refine site.resolveLink_endAlike _ s.1 s.2 (fun input => ?_) fun _ _ _ _ _ => ?_
  · rw [hdropped, hdropped]
    exact ⟨hrest, left, hnames, hreached.other h.disjoint s.2.name hscalar input⟩
  · rw [hdropped, hdropped]
    exact ⟨hrest, left, hnames, hreached⟩

/-- A socket does the same with the sequence and with the named values. -/
theorem resolveSocket_onCourse (hcourse : site.OnCourse named (s :: rest) r q) :
    EndAlike Eq (site.OnCourse named rest) (site.resolveSocket r s.1 s.2).result
      (site.resolveSocket q s.1 s.2).result := by
  have hs := (List.cons_subset.mp hcourse.1).1
  rw [result_resolveSocket, result_resolveSocket]
  by_cases hlink : s.2.isLinkBound = true
  · rw [if_pos hlink, if_pos hlink]
    cases hscalar : site.schema.isScalar s.2.name with
    | true => exact resolveLink_onCourse_scalar h hcourse hlink hscalar
    | false => exact resolveLink_onCourse_other h hcourse hscalar
  · rcases h.own s hs (Bool.eq_false_iff.mpr hlink) with ⟨hscalar, hwidget⟩
    rw [if_neg hlink, if_neg hlink, hwidget]
    exact resolveBinding_onCourse h hcourse hscalar

/-- So does the first pass. -/
theorem resolveSockets_onCourse (hcourse : site.OnCourse named site.node.boundSlots r q) :
    EndAlike Eq (site.OnCourse named []) (site.resolveSockets r site.node.slots).result
      (site.resolveSockets q site.node.slots).result := by
  rw [result_resolveSockets_bound, result_resolveSockets_bound]
  exact EndAlike.foldlM_left (site.OnCourse named)
    (fun s _ r q hnext => resolveSocket_onCourse (s := s) (r := r) (q := q) h hnext)
    site.node.boundSlots r q hcourse

end Socket

/-- The second pass reads the same for a scalar that is still unset. -/
theorem backfill_inStep (named : OrderedMap Json) (e : String × TypeDecl)
    (rest : Entries TypeDecl) (hdistinct : (Entries.keys (e :: rest)).Nodup)
    (h : Resolution.InStep named ((e :: rest).filter r.pending) r q) :
    EndAlike Eq (fun r q => Resolution.InStep named (rest.filter r.pending) r q)
      (site.backfill r e.1 e.2).result (site.backfill q e.1 e.2).result := by
  have hsame : q.pending e = r.pending e := Resolution.pending_congr r q e h.inputs.symm
  cases hpending : r.pending e with
  | false =>
      -- The step does nothing in both.
      rw [site.backfill_of_not_pending r e hpending,
        site.backfill_of_not_pending q e (hsame.trans hpending)]
      rw [List.filter_cons_of_neg (Bool.eq_false_iff.mp hpending)] at h
      exact .ok h
  | true =>
      rw [List.filter_cons_of_pos hpending] at h
      rcases h.follows.take r.cursor h.sequence e.1 with ⟨hvalue, hfollows⟩
      rw [site.result_backfill_of_pending r e hpending,
        site.result_backfill_of_pending q e (hsame.trans hpending),
        Cursor.take_of_keyed _ q.cursor named h.keyed]
      simp only [hvalue]
      have hsequence : (r.cursor.take e.1 (classify e.2.typeName).kind?).cursor.buffer.isSequence =
          true := by
        rw [Cursor.buffer_take]
        exact h.sequence
      cases hstored : named.get? e.1 with
      | none => exact .ok ⟨h.inputs, hsequence, h.keyed, hfollows⟩
      | some value =>
          refine site.accept_endAlike _ e.1 value ⟨?_, hsequence, h.keyed, ?_⟩
          · exact Resolution.inputs_set_congr _ _ h.inputs e.1 (.value value)
          · -- The inputs after this one have other names, so they are pending as before.
            have hout := (List.nodup_cons.mp hdistinct).1
            rw [r.filter_pending_of_not_mem _ rest e.1 (.value value) rfl hout]
            exact hfollows

/-- So does the second pass. -/
theorem backfillAll_inStep (named : OrderedMap Json) (decls : Entries TypeDecl)
    (hdistinct : (Entries.keys decls).Nodup)
    (h : Resolution.InStep named (decls.filter r.pending) r q) :
    EndAlike Eq (fun r q => r.inputs = q.inputs) (site.backfillAll r decls).result
      (site.backfillAll q decls).result := by
  rw [result_backfillAll, result_backfillAll]
  have hpass := EndAlike.foldlM_left
    (f := fun r (e : String × TypeDecl) => (site.backfill r e.1 e.2).result)
    (g := fun r (e : String × TypeDecl) => (site.backfill r e.1 e.2).result)
    (fun rest r q => (Entries.keys rest).Nodup ∧
      Resolution.InStep named (rest.filter r.pending) r q)
    (fun e rest _ _ hstep => (site.backfill_inStep named e rest hstep.1 hstep.2).mono
      fun _ _ hnext => ⟨(List.nodup_cons.mp hstep.1).2, hnext⟩) decls r q ⟨hdistinct, h⟩
  exact hpass.mono fun _ _ hend => hend.2.inputs

/-- The third pass goes by the inputs alone. -/
theorem fillDefault_endAlike (h : r.inputs = q.inputs) (name : String) :
    EndAlike Eq (fun r q => r.inputs = q.inputs) (site.fillDefault r name).result
      (site.fillDefault q name).result := by
  rw [result_fillDefault, result_fillDefault, Resolution.isSet_congr r q name h.symm]
  by_cases hskip : (r.isSet name || site.schema.isLinkTyped name) = true
  · rw [if_pos hskip, if_pos hskip]
    exact .ok h
  · rw [if_neg hskip, if_neg hskip]
    exact site.fallback_endAlike _ name
      (fun input => Resolution.inputs_set_congr r q h name input) h

theorem fillDefaults_endAlike (h : r.inputs = q.inputs) (names : List String) :
    EndAlike Eq (fun r q => r.inputs = q.inputs) (site.fillDefaults r names).result
      (site.fillDefaults q names).result := by
  rw [result_fillDefaults, result_fillDefaults]
  exact EndAlike.foldlM (List.forall₂_same.mpr fun _ _ => rfl)
    (fun name name' r q hname hinputs => hname ▸ site.fillDefault_endAlike hinputs name) r q h

/-- With another buffer a node goes through the same passes, from another start. -/
theorem result_compile_withBuffer (buffer : ValueBuffer) :
    (site.withBuffer buffer).compile.result =
      (site.resolveSockets { cursor := ⟨buffer, 0⟩ } site.node.slots).result >>= fun r₁ =>
        (site.backfillAll r₁ site.schema.inputs).result >>= fun r₂ =>
          (site.fillDefaults r₂ site.schema.required.keys).result >>= fun r₃ =>
            .ok ⟨site.node.classType, r₃.inputs⟩ := by
  rw [result_compile]
  simp only [result_resolveSockets, result_backfillAll, result_fillDefaults]
  rfl

/-- At the start all scalars are left. -/
theorem reached_start (h : site.BindsInOrder) (values : List Json)
    (hvalues : site.schema.AuthoredInPart values) :
    site.Reached (site.schema.named values) site.schema.scalars
      { cursor := ⟨.sequence values, 0⟩ } { cursor := ⟨.keyed (site.schema.named values), 0⟩ } := by
  have hfollows : Follows (site.schema.named values) site.schema.scalars values :=
    ClassSchema.follows_named h.disjoint hvalues
  have hpending : site.schema.inputs.filter
      (Resolution.pending { cursor := ⟨.sequence values, 0⟩ }) = site.schema.scalars := by
    rw [filter_pending]
    exact List.filter_eq_self.mpr fun _ _ => rfl
  refine ⟨⟨rfl, rfl, rfl, hfollows⟩, List.suffix_refl _, fun _ => hpending, fun hend e he => ?_⟩
  have hnone : values = [] := hend
  rw [hpending] at he
  rw [hnone] at hfollows ⊢
  exact hfollows.absent e he

/-- If the bound sockets of a node go through the first scalars in the order declared, the node
    compiles to the same, or fails with the same error, whether the values of the first scalars
    are stored as a sequence or by name. -/
theorem compile_named (h : site.BindsInOrder) (values : List Json)
    (hvalues : site.schema.AuthoredInPart values) :
    (site.withBuffer (.keyed (site.schema.named values))).compile.result =
      (site.withBuffer (.sequence values)).compile.result := by
  have hstart : site.OnCourse (site.schema.named values) site.node.boundSlots
      { cursor := ⟨.sequence values, 0⟩ } { cursor := ⟨.keyed (site.schema.named values), 0⟩ } :=
    ⟨List.Subset.refl _, site.schema.scalars, h.ordered, site.reached_start h values hvalues⟩
  rw [result_compile_withBuffer, result_compile_withBuffer]
  refine (EndAlike.eq ((resolveSockets_onCourse h hstart).bind fun r₁ q₁ h₁ => ?_)).symm
  -- What the sockets leave unset still follows what is ahead.
  rcases h₁ with ⟨-, left, -, hreached⟩
  refine (site.backfillAll_inStep _ _ (site.schema.nodup_keys_inputs h.disjoint)
    hreached.inStep_pending).bind fun r₂ q₂ h₂ => ?_
  refine (site.fillDefaults_endAlike h₂ _).bind fun r₃ q₃ h₃ => .ok ?_
  rw [h₃]

/-- A sampler with a seed, a number of steps that a primitive node brings, and a model from a
    loader. -/
def steered : Site :=
  { node := ⟨"4", "KSampler", [.bound "seed", .linked "steps" 1, .linked "model" 2], [], .empty⟩
    schema := ((ClassSchema.empty.withRequired "model" (.ofName "MODEL")).withRequired "seed"
      (.ofName "INT")).withRequired "steps" (.ofName "INT")
    links := .ofLinks [⟨some 1, "2", 0, "4", 1⟩, ⟨some 2, "3", 0, "4", 2⟩]
    nodes := .ofNodes [⟨"2", primitiveClass, [], [], .sequence [jsonOfUInt64 20]⟩,
      ⟨"3", "Loader", [], [], .empty⟩]
    strict := false }

theorem steered_bindsInOrder : steered.BindsInOrder where
  disjoint := fun name hname hoptional => (by cases hoptional)
  ordered := by decide
  own := by decide
  supplied := by
    intro s hs hlink hscalar source sourceSlot hsource hclass
    rcases Option.bind_eq_some_iff.mp hsource with ⟨target, -, hfound⟩
    rcases Option.bind_eq_some_iff.mp hfound with ⟨node, hnode, hpair⟩
    cases hpair
    -- The source is one of the two nodes, and the primitive one has a value.
    have hmem := List.mem_of_find?_eq_some ((NodeIndex.node?_ofNodes _ _).symm.trans hnode)
    simp only [List.reverse_cons, List.reverse_nil, List.nil_append, List.cons_append,
      List.mem_cons, List.not_mem_nil, or_false] at hmem
    rcases hmem with rfl | rfl
    · exact absurd hclass (by decide)
    · decide

/-- It compiles to the same with both values by name. -/
theorem steered_named :
    ∃ compiled,
      (steered.withBuffer (.sequence [jsonOfUInt64 5, jsonOfUInt64 30])).compile.result =
        .ok compiled ∧
      (steered.withBuffer (.keyed (steered.schema.named
        [jsonOfUInt64 5, jsonOfUInt64 30]))).compile.result = .ok compiled := by
  have hsame := steered.compile_named steered_bindsInOrder [jsonOfUInt64 5, jsonOfUInt64 30]
    (.cons rfl (.cons rfl .nil))
  have hresolves : ∀ s ∈ steered.node.slots, steered.Resolves s := by
    have hlinks : ∀ target, steered.links.source? target =
        sourceByScan? [⟨some 1, "2", 0, "4", 1⟩, ⟨some 2, "3", 0, "4", 2⟩] target :=
      LinkIndex.source?_ofLinks _
    have hnodes : ∀ id, steered.nodes.node? id =
        [⟨"3", "Loader", [], [], .empty⟩,
          ⟨"2", primitiveClass, [], [], .sequence [jsonOfUInt64 20]⟩].find?
            fun node : GraphNode => node.id = id :=
      NodeIndex.node?_ofNodes _
    unfold Resolves source?
    simp only [hlinks, hnodes]
    decide
  rcases Site.compile_lenient (steered.withBuffer (.sequence [jsonOfUInt64 5, jsonOfUInt64 30]))
    rfl hresolves with ⟨compiled, hcompiled⟩
  exact ⟨compiled, hcompiled, hsame.trans hcompiled⟩

end Site

end PromptGraph
