import PromptGraph.Proofs.Declarations
import PromptGraph.Proofs.Node.Ahead
import PromptGraph.Proofs.Node.References

/-!
# Values in Step with Inputs

An editor stores a value for each scalar of a node, in the order declared, and
keeps it when the scalar is fed by a link. So for each linked scalar a value is
read and dropped, to keep the values after it in step.

The values are dropped while the sockets are resolved, before any other scalar
takes its value, and so they come off the front of the buffer. This is right if
the linked scalars are the first ones. Then the values dropped are theirs, and
each read of the second pass finds the value of the scalar that it is for.

Otherwise some scalar that is not linked stands before a linked one, and its
value is among those dropped. No later read sees it, so the node would compile
to the same with another value there, and it cannot have the right one both
times. There always is another: a value that fits the same kinds moves no read.

## Main definitions

* `Site.LinksScalars`: The bound sockets of a node are linked scalars.
* `Site.Aligned`: A compiled node has the right reference or value for each
  scalar.
* `Site.droppedKinds`: The kinds that values are dropped for.

## Theorems

* `prefix_or_gap`: A part of a list is an initial segment or leaves a gap.
* `Site.compile_linked_ok`: The state in which the second pass begins.
* `Site.backfillAll_authored`: The second pass gives each scalar its own value.
* `Site.aligned_of_prefix`: Values stay in step if the first scalars are linked.
* `Site.exists_same_compiled`: A value that is dropped has no effect.
* `Site.exists_not_aligned`: Values do not stay in step otherwise.
* `Site.compile_aligned_iff`: When values stay in step.
* `Site.sampler_steps_not_aligned`: A seed that is taken from another input.
-/

namespace PromptGraph

/-- A part of a list without repetitions is an initial segment, or some element before
    its end is left out. -/
theorem prefix_or_gap {α : Type} (part all : List α) (h : part.Sublist all) (hall : all.Nodup) :
    part <+: all ∨ ∃ front x back, all = front ++ x :: back ∧ x ∉ part ∧
      front.length < part.length := by
  induction h with
  | slnil => exact Or.inl (List.prefix_refl [])
  | @cons part rest a h ih =>
      -- The element is left out, which is a gap unless nothing is left to take.
      cases part with
      | nil => exact Or.inl List.nil_prefix
      | cons b part =>
          have hout : a ∉ b :: part := fun hmem => (List.nodup_cons.mp hall).1 (h.subset hmem)
          exact Or.inr ⟨[], a, rest, rfl, hout, Nat.succ_pos _⟩
  | @cons_cons part rest a h ih =>
      rcases List.nodup_cons.mp hall with ⟨ha, hrest⟩
      rcases ih hrest with hinitial | ⟨front, x, back, hsplit, hout, hlength⟩
      · exact Or.inl (List.cons_prefix_cons.mpr ⟨rfl, hinitial⟩)
      · refine Or.inr ⟨a :: front, x, back, by rw [hsplit]; rfl, ?_, Nat.succ_lt_succ hlength⟩
        have hne : x ≠ a := by
          rintro rfl
          exact ha (hsplit ▸ List.mem_append_right front (List.mem_cons_self ..))
        exact fun hmem => (List.mem_cons.mp hmem).elim hne hout

theorem forall₂_append_left {α β : Type} {R : α → β → Prop} (front back : List α)
    (values : List β) (h : List.Forall₂ R (front ++ back) values) :
    ∃ vs ws, values = vs ++ ws ∧ List.Forall₂ R front vs ∧ List.Forall₂ R back ws := by
  refine ⟨values.take front.length, values.drop front.length,
    (List.take_append_drop _ values).symm, ?_, ?_⟩
  · have hfront := List.forall₂_take front.length h
    rwa [List.take_left] at hfront
  · have hback := List.forall₂_drop front.length h
    rwa [List.drop_left] at hback

namespace Site

/-- The bound sockets of a node are scalars of its class, in the order declared, each
    fed by a link from a node that is not primitive. No input of the class is both
    required and optional. -/
structure LinksScalars (site : Site) : Prop where
  disjoint : site.schema.required.keys.Disjoint site.schema.optional.keys
  ordered : site.node.boundNames.Sublist (Entries.keys site.schema.scalars)
  refers : ∀ s ∈ site.node.boundSlots, ∃ input, site.Refers s input

/-- A compiled node has for each linked scalar its reference, and for every other
    scalar the value that is stored for it. -/
def Aligned (site : Site) (values : List Json) (compiled : CompiledNode) : Prop :=
  (∀ s ∈ site.node.boundSlots, ∀ input, site.Refers s input →
    compiled.inputs.get? s.2.name = some input) ∧
  List.Forall₂ (fun e v => e.1 ∉ site.node.boundNames →
    compiled.inputs.get? e.1 = some (.value v)) site.schema.scalars values

variable (site : Site)

namespace LinksScalars

variable {site} (h : site.LinksScalars)
include h

theorem nodup_boundNames : site.node.boundNames.Nodup :=
  (site.schema.nodup_keys_scalars h.disjoint).sublist h.ordered

theorem isScalar_of_mem (s : Slot × InputSocket) (hs : s ∈ site.node.boundSlots) :
    site.schema.isScalar s.2.name = true := by
  have hname : s.2.name ∈ site.node.boundNames := List.mem_map_of_mem hs
  rcases List.mem_map.mp (h.ordered.subset hname) with ⟨e, he, hkey⟩
  rw [← hkey]
  exact site.schema.isScalar_of_mem h.disjoint e he

end LinksScalars

/-- Sockets that are scalars and refer to outputs set the same inputs whatever is in
    the buffer, and read one value each. -/
theorem foldlM_resolveSocket_refers (slots : List (Slot × InputSocket))
    (hslots : ∀ s ∈ slots, (∃ input, site.Refers s input) ∧
      site.schema.isScalar s.2.name = true) (inputs : OrderedMap ResolvedInput) :
    ∃ inputs' : OrderedMap ResolvedInput,
      (∀ name, inputs'.contains name = true ↔
        name ∈ slots.map (fun s => s.2.name) ∨ inputs.contains name = true) ∧
      ∀ cursor : Cursor,
        slots.foldlM (fun r s => (site.resolveSocket r s.1 s.2).result) ⟨inputs, cursor⟩ =
          .ok ⟨inputs', cursor.dropAll (slots.map fun s => site.schema.kind? s.2.name)⟩ := by
  induction slots generalizing inputs with
  | nil => exact ⟨inputs, fun name => by simp, fun cursor => rfl⟩
  | cons s rest ih =>
      rcases hslots s (List.mem_cons_self ..) with ⟨⟨input, hrefers⟩, hscalar⟩
      rcases ih (fun t ht => hslots t (List.mem_cons_of_mem s ht))
        (inputs.insert s.2.name input) with ⟨inputs', hcontains, hrun⟩
      refine ⟨inputs', fun name => ?_, fun cursor => ?_⟩
      · -- Set in the end is what this socket sets and what the others do.
        rw [hcontains, OrderedMap.contains_insert, Bool.or_eq_true, decide_eq_true_eq,
          List.map_cons, List.mem_cons]
        exact or_left_comm.trans or_assoc.symm
      · have hstep : (site.resolveSocket ⟨inputs, cursor⟩ s.1 s.2).result =
            .ok ⟨inputs.insert s.2.name input,
              (cursor.pop (site.schema.kind? s.2.name)).cursor⟩ := by
          rw [site.resolveSocket_refers s input hrefers, dropStored, if_pos hscalar]
          rfl
        rw [List.foldlM_cons, hstep]
        exact hrun (cursor.pop (site.schema.kind? s.2.name)).cursor

/-- The kinds of the values that are read and dropped for linked sockets. -/
def droppedKinds : List (Option Kind) :=
  site.node.boundSlots.map fun s => site.schema.kind? s.2.name

theorem droppedKinds_eq : site.droppedKinds = site.node.boundNames.map site.schema.kind? := by
  unfold droppedKinds GraphNode.boundNames
  rw [List.map_map]
  rfl

/-- A node with linked scalars compiles in two later passes from a state that is known:
    the linked inputs are set, whatever the values are, and for each of them one value
    is dropped. -/
theorem compile_linked_ok (h : site.LinksScalars) :
    ∃ inputs : OrderedMap ResolvedInput,
      (∀ name, inputs.contains name = true ↔ name ∈ site.node.boundNames) ∧
      ∀ values compiled, (site.withValues values).compile.result = .ok compiled ↔
        ∃ r₂ r₃,
          (site.backfillAll ⟨inputs, Cursor.dropAll ⟨.sequence values, 0⟩ site.droppedKinds⟩
            site.schema.inputs).result = .ok r₂ ∧
          (site.fillDefaults r₂ site.schema.required.keys).result = .ok r₃ ∧
          compiled = ⟨site.node.classType, r₃.inputs⟩ := by
  rcases site.foldlM_resolveSocket_refers site.node.boundSlots
    (fun s hs => ⟨h.refers s hs, h.isScalar_of_mem s hs⟩) .empty with ⟨inputs, hcontains, hrun⟩
  refine ⟨inputs, fun name => ?_, fun values compiled => ?_⟩
  · rw [hcontains, OrderedMap.contains_eq_isSome, OrderedMap.get?_empty]
    simp only [Option.isSome_none, Bool.false_eq_true, or_false]
    rfl
  · rw [compile_withValues_ok, result_resolveSockets_bound, hrun]
    simp only [Except.ok.injEq]
    constructor
    · rintro ⟨r₁, r₂, r₃, rfl, h₂, h₃, hcompiled⟩
      exact ⟨r₂, r₃, h₂, h₃, hcompiled⟩
    · rintro ⟨r₂, r₃, h₂, h₃, hcompiled⟩
      exact ⟨_, r₂, r₃, rfl, h₂, h₃, hcompiled⟩

theorem backfill_of_pending (r r' : Resolution) (e : String × TypeDecl)
    (hpending : r.pending e = true) (hsequence : r.cursor.buffer.isSequence = true)
    (v : Json) (rest : List Json) (hahead : r.cursor.unread = v :: rest)
    (hfits : coerce (classify e.2.typeName).kind? v = some v)
    (h : (site.backfill r e.1 e.2).result = .ok r') :
    r'.inputs = r.inputs.insert e.1 (.value v) ∧ r'.cursor.buffer.isSequence = true ∧
      r'.cursor.unread = rest := by
  rw [site.result_backfill_of_pending r e hpending, Cursor.take_eq_pop _ _ hsequence] at h
  rcases Cursor.pop_of_fits (classify e.2.typeName).kind? r.cursor v v rest hahead hfits with
    ⟨hvalue, hunread⟩
  simp only [hvalue] at h
  rcases (site.accept_ok _ _ e.1 v).mp h with ⟨-, rfl⟩
  exact ⟨rfl, hsequence, hunread⟩

/-- If the values ahead are those of the scalars that are still unset, the second pass
    gives each of these its own. -/
theorem backfillAll_authored (decls : Entries TypeDecl) (hdistinct : (Entries.keys decls).Nodup)
    (r r' : Resolution) (ahead : List Json) (hsequence : r.cursor.buffer.isSequence = true)
    (hahead : r.cursor.unread = ahead)
    (hauthored : List.Forall₂ (fun e v => coerce (classify e.2.typeName).kind? v = some v)
      (decls.filter r.pending) ahead)
    (h : (site.backfillAll r decls).result = .ok r') :
    List.Forall₂ (fun e v => r'.inputs.get? e.1 = some (.value v)) (decls.filter r.pending)
      ahead := by
  induction decls generalizing r ahead with
  | nil =>
      cases hauthored
      exact .nil
  | cons e rest ih =>
      rcases List.nodup_cons.mp hdistinct with ⟨hfirst, hrest⟩
      rw [result_backfillAll, List.foldlM_cons, bind_eq_ok] at h
      rcases h with ⟨m, hstep, hlater⟩
      rw [← result_backfillAll] at hlater
      cases hpending : r.pending e with
      | false =>
          -- The step does nothing, and the values ahead are those of the others.
          rw [site.backfill_of_not_pending r e hpending, Except.ok.injEq] at hstep
          rw [List.filter_cons_of_neg (Bool.eq_false_iff.mp hpending)] at hauthored ⊢
          subst hstep
          exact ih hrest r ahead hsequence hahead hauthored hlater
      | true =>
          rw [List.filter_cons_of_pos hpending] at hauthored ⊢
          cases hauthored with
          | @cons _ v _ others hv hothers =>
              rcases site.backfill_of_pending r m e hpending hsequence v others hahead hv hstep with
                ⟨hinputs, hsequence', hahead'⟩
              -- The inputs after this one have other names, so they are pending as before.
              have hsame : rest.filter m.pending = rest.filter r.pending :=
                r.filter_pending_of_not_mem m rest e.1 (.value v) hinputs hfirst
              rw [← hsame] at hothers ⊢
              -- What is set stays set for the rest of the pass.
              refine .cons ?_ (ih hrest m others hsequence' hahead' hothers hlater)
              refine site.backfillAll_keeps rest e.1 _ hlater ?_
              rw [hinputs, OrderedMap.get?_insert, if_pos rfl]

theorem compile_linked_refers (h : site.LinksScalars) (values : List Json) (compiled : CompiledNode)
    (hcompiled : (site.withValues values).compile.result = .ok compiled) (s : Slot × InputSocket)
    (hs : s ∈ site.node.boundSlots) (input : ResolvedInput) (hrefers : site.Refers s input) :
    compiled.inputs.get? s.2.name = some input :=
  (site.withValues values).compile_refers compiled hcompiled h.nodup_boundNames s
    (List.mem_of_mem_filter hs) input hrefers

theorem filter_pending (r : Resolution) :
    site.schema.inputs.filter r.pending =
      site.schema.scalars.filter fun e => !r.inputs.contains e.1 := by
  unfold ClassSchema.scalars
  rw [List.filter_filter]
  refine List.filter_congr fun e _ => ?_
  unfold Resolution.pending Resolution.isSet
  rw [Bool.not_or, Bool.not_not]

theorem filter_unset (front back : Entries TypeDecl)
    (hdistinct : (Entries.keys (front ++ back)).Nodup) (inputs : OrderedMap ResolvedInput)
    (hset : ∀ name, inputs.contains name = true ↔ name ∈ Entries.keys front) :
    (front ++ back).filter (fun e => !inputs.contains e.1) = back := by
  unfold Entries.keys at hdistinct
  rw [List.map_append, List.nodup_append] at hdistinct
  have hfront : front.filter (fun e => !inputs.contains e.1) = [] := by
    refine List.filter_eq_nil_iff.mpr fun e he => ?_
    rw [(hset e.1).mpr (List.mem_map_of_mem he)]
    exact Bool.false_ne_true
  have hback : back.filter (fun e => !inputs.contains e.1) = back := by
    refine List.filter_eq_self.mpr fun e he => ?_
    rw [Bool.not_eq_true', Bool.eq_false_iff]
    intro hcontains
    exact hdistinct.2.2 e.1 ((hset e.1).mp hcontains) e.1 (List.mem_map_of_mem he) rfl
  rw [List.filter_append, hfront, hback, List.nil_append]

/-- The values of linked scalars fit the kinds that are read for them. -/
theorem forall₂_droppedKinds (h : site.LinksScalars) (front back : Entries TypeDecl)
    (hsplit : site.schema.scalars = front ++ back)
    (hfront : Entries.keys front = site.node.boundNames) (vs : List Json) (hvs : List.Forall₂
      (fun e v => coerce (classify e.2.typeName).kind? v = some v) front vs) :
    List.Forall₂ (fun expected v => fits expected v = true) site.droppedKinds vs := by
  have hmem : ∀ e ∈ front, e ∈ site.schema.inputs := fun e he =>
    List.mem_of_mem_filter (hsplit ▸ List.mem_append_left back he)
  unfold Entries.keys at hfront
  rw [droppedKinds_eq, ← hfront, List.map_map, List.forall₂_map_left_iff]
  refine ((List.forall₂_and_left front vs).mpr ⟨hmem, hvs⟩).imp fun e v hev => ?_
  have hkind := site.schema.kind?_of_mem h.disjoint e hev.1
  unfold fits
  simp only [Function.comp_apply, hkind, hev.2, Option.isSome_some]

/-- If the linked scalars are the first ones, the values stay in step. -/
theorem aligned_of_prefix (h : site.LinksScalars)
    (hinitial : site.node.boundNames <+: Entries.keys site.schema.scalars) (values : List Json)
    (hauthored : site.schema.Authored values) (compiled : CompiledNode)
    (hcompiled : (site.withValues values).compile.result = .ok compiled) :
    site.Aligned values compiled := by
  refine ⟨site.compile_linked_refers h values compiled hcompiled, ?_⟩
  rcases hinitial with ⟨others, hothers⟩
  rcases List.map_eq_append_iff.mp hothers.symm with ⟨front, back, hsplit, hfront, hback⟩
  have hdistinct := site.schema.nodup_keys_scalars h.disjoint
  unfold ClassSchema.Authored at hauthored
  rw [hsplit] at hauthored hdistinct
  rcases forall₂_append_left front back values hauthored with ⟨vs, ws, rfl, hvs, hws⟩
  rcases site.compile_linked_ok h with ⟨inputs, hcontains, hpasses⟩
  rcases (hpasses _ compiled).mp hcompiled with ⟨r₂, r₃, h₂, h₃, rfl⟩
  -- The values of the linked scalars are at the front, and just these are dropped.
  have hahead : (Cursor.dropAll ⟨.sequence (vs ++ ws), 0⟩ site.droppedKinds).unread = ws :=
    Cursor.dropAll_of_fits _ _ vs ws rfl
      (site.forall₂_droppedKinds h front back hsplit hfront vs hvs)
  -- So the scalars that are left for the second pass are those of the values ahead.
  have hpending : site.schema.inputs.filter (Resolution.pending ⟨inputs,
      Cursor.dropAll ⟨.sequence (vs ++ ws), 0⟩ site.droppedKinds⟩) = back := by
    rw [filter_pending, hsplit]
    refine filter_unset front back hdistinct inputs fun name => ?_
    rw [hcontains, ← hfront]
    rfl
  have hown := site.backfillAll_authored site.schema.inputs
    (site.schema.nodup_keys_inputs h.disjoint) _ r₂ ws
    (by rw [Cursor.buffer_dropAll]; rfl) hahead (hpending ▸ hws) h₂
  rw [hpending] at hown
  rw [hsplit]
  refine List.rel_append ?_ ?_
  · -- The first scalars are linked, so nothing is said of their values.
    refine ((List.forall₂_and_left front vs).mpr ⟨fun e he => ?_, hvs⟩).imp
      fun e v hev hout => absurd hev.1 hout
    exact hfront ▸ List.mem_map_of_mem he
  · -- The third pass keeps what the second has set.
    exact hown.imp fun e v hget _ => site.fillDefaults_keeps _ e.1 _ h₃ hget

theorem Aligned.get? {values vs ws : List Json} {compiled : CompiledNode}
    (haligned : site.Aligned values compiled) (front back : Entries TypeDecl)
    (e : String × TypeDecl) (v : Json) (hsplit : site.schema.scalars = front ++ e :: back)
    (hvalues : values = vs ++ v :: ws) (hlength : front.length = vs.length)
    (hout : e.1 ∉ site.node.boundNames) : compiled.inputs.get? e.1 = some (.value v) := by
  have hall := haligned.2
  rw [hsplit, hvalues] at hall
  have hrest := List.forall₂_drop front.length hall
  rw [List.drop_left, hlength, List.drop_left] at hrest
  exact (List.forall₂_cons.mp hrest).1 hout

/-- If a scalar that is not linked stands before the last of the linked ones, its value
    is dropped: the node compiles to the same with another value in its place. -/
theorem exists_same_compiled (h : site.LinksScalars) (front back : Entries TypeDecl)
    (e : String × TypeDecl) (hsplit : site.schema.scalars = front ++ e :: back)
    (hgap : front.length < site.node.boundNames.length) (values : List Json)
    (hauthored : site.schema.Authored values) (compiled : CompiledNode)
    (hcompiled : (site.withValues values).compile.result = .ok compiled) :
    ∃ vs v w ws, values = vs ++ v :: ws ∧ front.length = vs.length ∧ w ≠ v ∧
      site.schema.Authored (vs ++ w :: ws) ∧
      (site.withValues (vs ++ w :: ws)).compile.result = .ok compiled := by
  unfold ClassSchema.Authored at hauthored ⊢
  rw [hsplit] at hauthored ⊢
  rcases forall₂_append_left front (e :: back) values hauthored with ⟨vs, rest, rfl, hvs, hrest⟩
  rcases List.forall₂_cons_left_iff.mp hrest with ⟨v, ws, hv, hws, rfl⟩
  have hscalar : isScalarType e.2.typeName = true := by
    have hmem : e ∈ site.schema.scalars :=
      hsplit ▸ List.mem_append_right front (List.mem_cons_self ..)
    exact (List.mem_filter.mp hmem).2
  rcases kind?_of_isScalarType e.2.typeName hscalar with ⟨kind, hkind⟩
  rw [hkind] at hv
  -- Exchange the value for another of its kind that fits alike.
  rcases exists_ne_sameFits kind v hv with ⟨w, hne, hw, hsame⟩
  have hlength := hvs.length_eq
  refine ⟨vs, v, w, ws, rfl, hlength, hne,
    List.rel_append hvs (.cons (by rw [hkind]; exact hw) hws), ?_⟩
  -- Both are past the value that was exchanged when the second pass begins.
  have hread : vs.length < site.droppedKinds.length := by
    rw [droppedKinds_eq, List.length_map, ← hlength]
    exact hgap
  rcases site.compile_linked_ok h with ⟨inputs, -, hpasses⟩
  rcases (hpasses _ compiled).mp hcompiled with ⟨r₂, r₃, h₂, h₃, rfl⟩
  have hahead : Resolution.Ahead
      ⟨inputs, Cursor.dropAll ⟨.sequence (vs ++ v :: ws), 0⟩ site.droppedKinds⟩
      ⟨inputs, Cursor.dropAll ⟨.sequence (vs ++ w :: ws), 0⟩ site.droppedKinds⟩ :=
    ⟨rfl, Cursor.dropAll_ahead vs ws v w site.droppedKinds hsame hread⟩
  rcases site.laterPasses_ahead hahead h₂ h₃ with ⟨q₂, q₃, hq₂, hq₃, hend⟩
  exact (hpasses _ _).mpr ⟨q₂, q₃, hq₂, hq₃, by rw [hend.1]⟩

/-- Then not every node with such values is aligned. -/
theorem exists_not_aligned (h : site.LinksScalars)
    (hnot : ¬site.node.boundNames <+: Entries.keys site.schema.scalars) (values : List Json)
    (hauthored : site.schema.Authored values) (compiled : CompiledNode)
    (hcompiled : (site.withValues values).compile.result = .ok compiled) :
    ∃ values', site.schema.Authored values' ∧
      (site.withValues values').compile.result = .ok compiled ∧ ¬site.Aligned values' compiled := by
  rcases prefix_or_gap _ _ h.ordered (site.schema.nodup_keys_scalars h.disjoint) with
    hinitial | ⟨names, name, others, hkeys, hout, hgap⟩
  · exact absurd hinitial hnot
  · -- The scalar in the gap is not linked, but its value is dropped.
    rcases List.map_eq_append_iff.mp hkeys with ⟨front, tail, hsplit, hfront, htail⟩
    rcases List.map_eq_cons_iff.mp htail with ⟨e, back, rfl, rfl, -⟩
    have hlength : front.length = names.length := by rw [← hfront, List.length_map]
    rcases site.exists_same_compiled h front back e hsplit (hlength ▸ hgap) values hauthored
      compiled hcompiled with ⟨vs, v, w, ws, hvalues, hvs, hne, hauthored', hcompiled'⟩
    by_cases haligned : site.Aligned values compiled
    · -- The compiled node cannot have both values.
      refine ⟨vs ++ w :: ws, hauthored', hcompiled', fun haligned' => hne ?_⟩
      have hgetv := Aligned.get? site haligned front back e v hsplit hvalues hvs hout
      have hgetw := Aligned.get? site haligned' front back e w hsplit rfl hvs hout
      rw [hgetv] at hgetw
      injection hgetw with hinput
      injection hinput with hvalue
      exact hvalue.symm
    · exact ⟨values, hauthored, hcompiled, haligned⟩

/-- Values stay in step with the inputs for every buffer exactly when the linked scalars
    are the first ones, unless no node with such values compiles at all. The linked
    scalars have their references in any case. -/
theorem compile_aligned_iff (h : site.LinksScalars) :
    ((∀ values, site.schema.Authored values → ∀ compiled,
        (site.withValues values).compile.result = .ok compiled → site.Aligned values compiled) ↔
      site.node.boundNames <+: Entries.keys site.schema.scalars ∨
        ∀ values, site.schema.Authored values → ∀ compiled,
          (site.withValues values).compile.result ≠ .ok compiled) ∧
    ∀ values compiled, (site.withValues values).compile.result = .ok compiled →
      ∀ s ∈ site.node.boundSlots, ∀ input, site.Refers s input →
        compiled.inputs.get? s.2.name = some input := by
  refine ⟨⟨fun hall => ?_, ?_⟩, site.compile_linked_refers h⟩
  · by_cases hinitial : site.node.boundNames <+: Entries.keys site.schema.scalars
    · exact Or.inl hinitial
    · refine Or.inr fun values hauthored compiled hcompiled => ?_
      rcases site.exists_not_aligned h hinitial values hauthored compiled hcompiled with
        ⟨values', hauthored', hcompiled', hnot⟩
      exact hnot (hall values' hauthored' compiled hcompiled')
  · rintro (hinitial | hnone) values hauthored compiled hcompiled
    · exact site.aligned_of_prefix h hinitial values hauthored compiled hcompiled
    · exact absurd hcompiled (hnone values hauthored compiled)

/-- A sampler with a seed and a number of steps, of which one is fed by a link. -/
def sampler (linked : String) : Site :=
  { node := ⟨"4", "KSampler", [.linked linked 1], [], .empty⟩
    schema := (ClassSchema.empty.withRequired "seed" (.ofName "INT")).withRequired "steps"
      (.ofName "INT")
    links := .ofLinks [⟨some 1, "2", 0, "4", 0⟩]
    nodes := .ofNodes [⟨"2", "Counter", [], [], .empty⟩]
    strict := true }

theorem sampler_refers (linked : String) :
    (sampler linked).Refers (0, .linked linked 1) (.reference "2" 0) := by
  have hlink : (LinkIndex.ofLinks [⟨some 1, "2", 0, "4", 0⟩]).source? ⟨"4", 0⟩ = some ⟨"2", 0⟩ := by
    rw [LinkIndex.source?_ofLinks]
    rfl
  have hnode : (NodeIndex.ofNodes [⟨"2", "Counter", [], [], .empty⟩]).node? "2" =
      some ⟨"2", "Counter", [], [], .empty⟩ := by
    rw [NodeIndex.node?_ofNodes]
    rfl
  refine ⟨rfl, ⟨"2", "Counter", [], [], .empty⟩, 0, ?_, by decide, rfl⟩
  unfold source? sampler
  simp only [hlink, hnode, Option.bind_eq_bind, Option.bind_some]

theorem sampler_linksScalars (linked : String)
    (h : linked ∈ Entries.keys (sampler linked).schema.scalars) :
    (sampler linked).LinksScalars where
  disjoint := fun name hname hoptional => (by cases hoptional)
  ordered := List.singleton_sublist.mpr h
  refers := by
    intro s hs
    cases List.mem_singleton.mp hs
    exact ⟨_, sampler_refers linked⟩

/-- With the seed fed by the link, the number of steps is always the one stored for it. -/
theorem sampler_seed_aligned :
    (sampler "seed").LinksScalars ∧
    ∀ values, (sampler "seed").schema.Authored values → ∀ compiled,
      ((sampler "seed").withValues values).compile.result = .ok compiled →
        (sampler "seed").Aligned values compiled := by
  have hlinks := sampler_linksScalars "seed" (by decide)
  exact ⟨hlinks, ((sampler "seed").compile_aligned_iff hlinks).1.mpr (Or.inl (by decide))⟩

/-- With the number of steps fed by the link, the seed takes the value that is stored
    for the steps. -/
theorem sampler_steps_not_aligned :
    (sampler "steps").LinksScalars ∧
    (sampler "steps").schema.Authored [jsonOfUInt64 5, jsonOfUInt64 30] ∧
    ∃ compiled,
      ((sampler "steps").withValues [jsonOfUInt64 5, jsonOfUInt64 30]).compile.result =
        .ok compiled ∧
      compiled.inputs.get? "seed" = some (.value (jsonOfUInt64 30)) ∧
      ¬(sampler "steps").Aligned [jsonOfUInt64 5, jsonOfUInt64 30] compiled := by
  refine ⟨sampler_linksScalars "steps" (by decide), .cons rfl (.cons rfl .nil), ?_⟩
  -- The link makes the reference, and the seed is dropped for it.
  have hsockets : ((sampler "steps").resolveSockets
      { cursor := ⟨.sequence [jsonOfUInt64 5, jsonOfUInt64 30], 0⟩ }
      (sampler "steps").node.slots).result =
        .ok ⟨OrderedMap.empty.insert "steps" (.reference "2" 0),
          ⟨.sequence [jsonOfUInt64 5, jsonOfUInt64 30], 1⟩⟩ := by
    rw [result_resolveSockets]
    exact congrArg (fun result => result >>= pure)
      ((sampler "steps").resolveSocket_refers _ _ (sampler_refers "steps") _)
  refine ⟨_, ((sampler "steps").compile_withValues_ok _ _).mpr
    ⟨_, _, _, hsockets, rfl, rfl, rfl⟩, rfl, fun haligned => ?_⟩
  -- Aligned, the seed would be both values.
  have hseed := (List.forall₂_cons.mp haligned.2).1 (by decide)
  injection hseed with hinput
  injection hinput with hvalue
  injection hvalue with hnumber
  exact absurd hnumber (by decide)

end Site

end PromptGraph
