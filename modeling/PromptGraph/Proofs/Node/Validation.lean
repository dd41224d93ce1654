import PromptGraph.Proofs.Declarations
import PromptGraph.Proofs.Node.Faults
import PromptGraph.Proofs.Node.Parallel
import PromptGraph.Proofs.Takes
import PromptGraph.Proofs.Wire.Maps

/-!
# Checking What Was Read

Which checks the values of a sequence can fail.

A read from a sequence brings its value to the kind that it asks for, and a value that was
brought to a kind fits it. So a check can fail only if it is made for another kind than the
read. A socket asks for the kind that its name is looked up with, which is the kind of the
check. The second pass asks for the kind of the declaration that it has come to, and there
the two may differ: a name that is both required and optional is met twice, and looked up as
required both times.

Mostly this does no harm. If the required input is a scalar, the pass has read for it when it
comes to the optional one, so it is set, or nothing is left to read. If it has a link type,
nothing is checked. What is left is a required input of an unknown type. It is no scalar, so
nothing was read for it, but it is taken for text when the value of the optional input is
checked. Numbers and text pass that check, and truth values do not.

## Main definitions

* `ClassSchema.Clashes`: A name is required with an unknown type and an optional boolean.
* `Resolution.Served`: An input is set, or nothing is left to read for it.
* `Site.FedByEmpty`: A socket is fed by a primitive node without a value.
* `Site.SequenceFault`: The errors of a node whose buffer is a sequence.

## Theorems

* `Cursor.coerceTo_of_take`: What is read from a sequence is as its kind has it.
* `eq_boolean_of_not_text`: Only truth values are no text.
* `Site.backfillAll_served`: After the second pass the scalars are served.
* `Site.rejected_of_optional`: The check that can fail.
* `Site.compile_sequenceFault`: A node with a sequence ends in one of its faults.
-/

namespace PromptGraph

theorem fits_of_coerceTo (kind : Kind) (value : Json) (h : coerceTo kind value = some value) :
    fits (some kind) value = true := by
  unfold fits coerce
  simp only [h, Option.isSome_some]

/-- A value that is as some kind has it is text to the check, unless it is a truth value. -/
theorem eq_boolean_of_not_text (kind : Kind) (value : Json) (h : coerceTo kind value = some value)
    (htext : fits (some .string) value = false) :
    kind = .boolean ∧ ∃ b, value = .bool b := by
  cases value with
  | num n => cases htext
  | str s => cases htext
  | bool b =>
      cases kind with
      | boolean => exact ⟨rfl, b, rfl⟩
      | int | float | string | combo | file | enum => cases h
  | null => cases kind <;> cases h
  | arr items => cases kind <;> cases h
  | obj members => cases kind <;> cases h

namespace Cursor

variable (cursor : Cursor) (hsequence : cursor.buffer.isSequence = true) (name : String)
include hsequence

/-- What a read from a sequence gives is as the kind has it that was asked for. -/
theorem coerceTo_of_take (kind : Kind) (value : Json)
    (h : (cursor.take name (some kind)).value = some value) : coerceTo kind value = some value := by
  rw [take_eq_pop _ _ hsequence] at h
  rcases firstFit_found (some kind) cursor.unread value h with ⟨⟨v, -, hv⟩, -⟩
  exact coerceTo_idem kind v value hv

theorem take_none_of_unread (expected : Option Kind) (h : cursor.unread = []) :
    (cursor.take name expected).value = none := by
  rw [take_eq_pop _ _ hsequence]
  unfold pop
  rw [h]
  rfl

end Cursor

namespace ClassSchema

variable (schema : ClassSchema)

/-- A name is declared twice: as a required input of an unknown type, and as an optional
    boolean. -/
def Clashes (name : String) : Prop :=
  ∃ required optional, schema.required.get? name = some required ∧
    schema.optional.get? name = some optional ∧ classify required.typeName = .unknown ∧
      classify optional.typeName = .scalar .boolean

variable {schema}

theorem Clashes.kind? {name : String} (h : schema.Clashes name) :
    schema.kind? name = some .string := by
  rcases h with ⟨required, -, hrequired, -, hunknown, -⟩
  rw [schema.kind?_of_decl? name required (schema.decl?_of_required name required hrequired),
    hunknown]
  rfl

/-- Where required and optional inputs have different names, there is no clash. -/
theorem not_clashes_of_disjoint (h : schema.required.keys.Disjoint schema.optional.keys)
    (name : String) : ¬schema.Clashes name := by
  rintro ⟨required, optional, hrequired, hoptional, -⟩
  refine h ((OrderedMap.mem_keys_iff _ name).mpr ?_) ((OrderedMap.mem_keys_iff _ name).mpr ?_)
  · rw [OrderedMap.contains_eq_isSome, hrequired]
    rfl
  · rw [OrderedMap.contains_eq_isSome, hoptional]
    rfl

theorem kind?_of_optional {name : String} {decl : TypeDecl}
    (hrequired : schema.required.get? name = none)
    (hoptional : schema.optional.get? name = some decl) :
    schema.kind? name = (classify decl.typeName).kind? := by
  refine schema.kind?_of_decl? name decl ?_
  unfold decl?
  rw [hrequired, hoptional]
  rfl

end ClassSchema

namespace Resolution

/-- An input is served: it is set, or nothing is left to read for it. -/
def Served (r : Resolution) (name : String) : Prop :=
  r.isSet name = true ∨ r.cursor.unread = []

end Resolution

namespace Site

variable (site : Site) {r r' : Resolution} {e : CompileError}

theorem resolveSockets_isSequence (slots : List (Slot × InputSocket))
    (hsequence : r.cursor.buffer.isSequence = true)
    (h : slots.foldlM (fun r s => (site.resolveSocket r s.1 s.2).result) r = .ok r') :
    r'.cursor.buffer.isSequence = true := by
  refine foldlM_invariant (fun r => r.cursor.buffer.isSequence = true) slots
    (fun s _ a b ha hb => ?_) r r' hsequence h
  rw [site.buffer_resolveSocket s hb]
  exact ha

theorem backfillAll_isSequence (decls : Entries TypeDecl)
    (hsequence : r.cursor.buffer.isSequence = true)
    (h : decls.foldlM (fun r e => (site.backfill r e.1 e.2).result) r = .ok r') :
    r'.cursor.buffer.isSequence = true := by
  refine foldlM_invariant (fun r => r.cursor.buffer.isSequence = true) decls
    (fun e _ a b ha hb => ?_) r r' hsequence h
  rw [site.buffer_backfill e.1 e.2 hb]
  exact ha

/-- Nothing takes away what an input is served with. -/
theorem backfill_keeps_served (name : String) (decl : TypeDecl) (other : String)
    (hserved : r.Served other) (h : (site.backfill r name decl).result = .ok r') :
    r'.Served other := by
  rcases hserved with hset | hend
  · refine Or.inl ?_
    rw [Resolution.isSet_eq_isSome, Option.isSome_iff_exists] at hset ⊢
    rcases hset with ⟨input, hinput⟩
    exact ⟨input, sets_keeps (site.backfill_sets name decl h) hinput⟩
  · refine Or.inr ?_
    rw [site.backfill_exhausted hend name decl h, hend]

/-- The step for a scalar serves it. -/
theorem backfill_serves (name : String) (decl : TypeDecl)
    (hscalar : isScalarType decl.typeName = true)
    (h : (site.backfill r name decl).result = .ok r') : r'.Served name := by
  rcases site.backfill_origin name decl h with
    ⟨hidle, rfl⟩ | ⟨-, hcursor, ⟨value, -, -, hinputs⟩ | ⟨hmissed, -⟩⟩
  · -- A scalar that is passed over is set.
    refine Or.inl (eq_true_of_ne_false fun hunset => ?_)
    rw [(Resolution.pending_iff _ (name, decl)).mpr ⟨hunset, hscalar⟩] at hidle
    cases hidle
  · refine Or.inl ?_
    rw [Resolution.isSet_insert r r' name name _ hinputs, decide_eq_true rfl, Bool.true_or]
  · refine Or.inr ?_
    rw [hcursor]
    exact r.cursor.unread_of_take_none _ name hmissed

theorem backfillAll_served (decls : Entries TypeDecl) (entry : String × TypeDecl)
    (hentry : entry ∈ decls) (hscalar : isScalarType entry.2.typeName = true)
    (h : (site.backfillAll r decls).result = .ok r') : r'.Served entry.1 := by
  rcases List.append_of_mem hentry with ⟨front, back, rfl⟩
  rw [result_backfillAll, foldlM_split_ok] at h
  rcases h with ⟨m, n, -, hstep, hback⟩
  exact foldlM_invariant (fun r => r.Served entry.1) back
    (fun e _ a b ha hb => site.backfill_keeps_served e.1 e.2 entry.1 ha hb) n r'
    (site.backfill_serves entry.1 entry.2 hscalar hstep) hback

/-- A socket is fed by a primitive node that has no value. -/
def FedByEmpty (s : Slot × InputSocket) : Prop :=
  s.2.isLinkBound = true ∧ ∃ source sourceSlot, site.source? s.1 = some (source, sourceSlot) ∧
    source.classType = primitiveClass ∧ source.values.first? = none

/-- An input that has to be there has no default, and the error says so. -/
structure Lacks (name : String) (e : CompileError) : Prop where
  strict : site.strict = true
  required : site.schema.isRequired name = true
  default : site.schema.default? name = none
  error : e = .missingRequiredInput site.node.id site.node.classType name

/-- The errors that a node can end in whose buffer is a sequence, with their causes. -/
inductive SequenceFault (site : Site) : CompileError → Prop where
  /-- A socket is fed by a link that has no source. -/
  | dangling (s : Slot × InputSocket) (hs : s ∈ site.node.slots) (hsource : ¬site.Resolves s) :
      SequenceFault site (site.dangling s)
  /-- A socket looks in vain for a value and then for a default. -/
  | unfilled (e : CompileError) (s : Slot × InputSocket) (hs : s ∈ site.node.slots)
      (hsocket : s.2.isValueBound = true ∨ site.FedByEmpty s) (hlacks : site.Lacks s.2.name e) :
      SequenceFault site e
  /-- An input that is not left to a link is unset in the end. -/
  | unset (e : CompileError) (name : String) (hlink : site.schema.isLinkTyped name = false)
      (hlacks : site.Lacks name e) : SequenceFault site e
  /-- A truth value is checked to be text. -/
  | rejected (name : String) (b : Bool) (hstrict : site.strict = true)
      (hclash : site.schema.Clashes name) :
      SequenceFault site (.typeMismatch site.node.id site.node.classType name .string (.bool b))

theorem lacks_of_fallback (name : String) (h : site.fallback r name = .error e) :
    site.Lacks name e := by
  rcases (site.fallback_error r name e).mp h with ⟨hstrict, hrequired, hdefault, herror⟩
  exact ⟨hstrict, hrequired, hdefault, herror⟩

/-- A value that was read for the kind that is checked is accepted. -/
theorem accept_of_take (hsequence : r.cursor.buffer.isSequence = true) (name binding : String)
    (value : Json) (h : (r.cursor.take binding (site.schema.kind? name)).value = some value)
    (q : Resolution) : ∃ r', site.accept q name value = .ok r' := by
  refine ⟨_, (site.accept_ok q _ name value).mpr ⟨fun _ kind hkind => ?_, rfl⟩⟩
  rw [hkind] at h
  exact fits_of_coerceTo kind value (r.cursor.coerceTo_of_take hsequence binding kind value h)

theorem resolveLink_sequenceFault (s : Slot × InputSocket) (hs : s ∈ site.node.slots)
    (hlink : s.2.isLinkBound = true) (hresolves : site.Resolves s)
    (h : (site.resolveLink r s.1 s.2).result = .error e) : site.SequenceFault e := by
  rw [result_resolveLink] at h
  rcases Option.isSome_iff_exists.mp (hresolves hlink) with ⟨⟨source, sourceSlot⟩, hsource⟩
  rw [hsource] at h
  simp only [] at h
  -- Only a primitive node without a value makes the socket look for a default.
  by_cases hclass : source.classType ≠ primitiveClass
  · rw [if_pos hclass] at h
    cases h
  · rw [if_neg hclass] at h
    cases hfirst : source.values.first? with
    | some value =>
        rw [hfirst] at h
        cases h
    | none =>
        rw [hfirst] at h
        have hempty : site.FedByEmpty s :=
          ⟨hlink, source, sourceSlot, hsource, Decidable.not_not.mp hclass, hfirst⟩
        exact .unfilled e s hs (Or.inr hempty) (site.lacks_of_fallback s.2.name h)

theorem resolveBinding_lacks (hsequence : r.cursor.buffer.isSequence = true)
    (name binding : String) (h : (site.resolveBinding r name binding).result = .error e) :
    site.Lacks name e := by
  simp only [result_resolveBinding] at h
  cases hread : (r.cursor.take binding (site.schema.kind? name)).value with
  | some value =>
      -- The value was read for the kind of the check.
      rw [hread] at h
      rcases site.accept_of_take hsequence name binding value hread
        (r.moveTo (r.cursor.take binding (site.schema.kind? name)).cursor) with ⟨r', haccept⟩
      cases haccept.symm.trans h
  | none =>
      rw [hread] at h
      exact site.lacks_of_fallback name h

theorem resolveSocket_sequenceFault (hsequence : r.cursor.buffer.isSequence = true)
    (s : Slot × InputSocket) (hs : s ∈ site.node.slots)
    (h : (site.resolveSocket r s.1 s.2).result = .error e) : site.SequenceFault e := by
  by_cases hresolves : site.Resolves s
  · rw [result_resolveSocket] at h
    by_cases hlink : s.2.isLinkBound = true
    · rw [if_pos hlink] at h
      exact site.resolveLink_sequenceFault s hs hlink hresolves h
    · rw [if_neg hlink] at h
      cases hwidget : s.2.widget with
      | none =>
          rw [hwidget] at h
          cases h
      | some binding =>
          rw [hwidget] at h
          have hbound : s.2.isValueBound = true := by
            unfold InputSocket.isValueBound
            rw [eq_false_of_ne_true hlink, hwidget]
            rfl
          exact .unfilled e s hs (Or.inl hbound)
            (site.resolveBinding_lacks hsequence s.2.name binding h)
  · rw [site.resolveSocket_dangling s hresolves, Except.error.injEq] at h
    exact h ▸ .dangling s hs hresolves

theorem fillDefault_sequenceFault (name : String)
    (h : (site.fillDefault r name).result = .error e) : site.SequenceFault e := by
  rw [result_fillDefault] at h
  by_cases hskip : (r.isSet name || site.schema.isLinkTyped name) = true
  · rw [if_pos hskip] at h
    cases h
  · rw [if_neg hskip] at h
    have hlink := (Bool.or_eq_false_iff.mp (eq_false_of_ne_true hskip)).2
    exact .unset e name hlink (site.lacks_of_fallback name h)

/-- A step of the second pass fails at an input that it has read a value for. -/
theorem backfill_error (name : String) (decl : TypeDecl)
    (h : (site.backfill r name decl).result = .error e) :
    r.pending (name, decl) = true ∧ ∃ value,
      (r.cursor.take name (classify decl.typeName).kind?).value = some value ∧
        ∃ q, site.accept q name value = .error e := by
  cases hpending : r.pending (name, decl) with
  | false =>
      rw [site.backfill_of_not_pending r (name, decl) hpending] at h
      cases h
  | true =>
      rw [site.result_backfill_of_pending r (name, decl) hpending] at h
      simp only [] at h
      cases hread : (r.cursor.take name (classify decl.typeName).kind?).value with
      | none =>
          rw [hread] at h
          cases h
      | some value =>
          rw [hread] at h
          exact ⟨rfl, value, rfl, _, h⟩

/-- Where the kind of a declaration is the kind that its name is looked up with, the second
    pass goes through. -/
theorem backfill_of_kind (hsequence : r.cursor.buffer.isSequence = true) (name : String)
    (decl : TypeDecl) (hkind : site.schema.kind? name = (classify decl.typeName).kind?)
    (h : (site.backfill r name decl).result = .error e) : False := by
  rcases site.backfill_error name decl h with ⟨-, value, hread, q, herror⟩
  rw [← hkind] at hread
  rcases site.accept_of_take hsequence name name value hread q with ⟨r', haccept⟩
  cases haccept.symm.trans herror

/-- Once the required scalars are served, a value fails the check only for an optional
    boolean whose name is also that of a required input of an unknown type. -/
theorem rejected_of_optional (hsequence : r.cursor.buffer.isSequence = true)
    (hserved : ∀ entry ∈ site.schema.required.entries, isScalarType entry.2.typeName = true →
      r.Served entry.1) (name : String) (decl : TypeDecl)
    (hdecl : site.schema.optional.get? name = some decl)
    (h : (site.backfill r name decl).result = .error e) : site.SequenceFault e := by
  cases hrequired : site.schema.required.get? name with
  | none =>
      exact (site.backfill_of_kind hsequence name decl
        (ClassSchema.kind?_of_optional hrequired hdecl) h).elim
  | some required =>
      rcases site.backfill_error name decl h with ⟨hpending, value, hread, q, herror⟩
      rcases (site.accept_error q name value e).mp herror with ⟨hstrict, kind, hkind, hfits, rfl⟩
      -- The check is for the kind of the required input.
      rw [site.schema.kind?_of_decl? name required
        (site.schema.decl?_of_required name required hrequired)] at hkind
      rcases (r.pending_iff (name, decl)).mp hpending with ⟨hunset, hscalar⟩
      cases hclass : classify required.typeName with
      | link =>
          rw [hclass] at hkind
          cases hkind
      | scalar kind' =>
          -- The required input has been served.
          rcases hserved (name, required) (OrderedMap.mem_of_get? _ name required hrequired)
            ((isScalarType_iff _).mpr ⟨kind', hclass⟩) with hset | hend
          · rw [hunset] at hset
            cases hset
          · rw [r.cursor.take_none_of_unread hsequence name _ hend] at hread
            cases hread
      | unknown =>
          rw [hclass] at hkind
          cases hkind
          -- The value was read for the scalar that the optional input is.
          rcases (isScalarType_iff _).mp hscalar with ⟨kind', hoptional⟩
          rw [hoptional] at hread
          have hvalue := r.cursor.coerceTo_of_take hsequence name kind' value hread
          rcases eq_boolean_of_not_text kind' value hvalue hfits with ⟨rfl, b, rfl⟩
          exact .rejected name b hstrict ⟨required, decl, hrequired, hdecl, hclass, hoptional⟩

theorem backfillAll_sequenceFault (hsequence : r.cursor.buffer.isSequence = true)
    (h : (site.backfillAll r site.schema.inputs).result = .error e) : site.SequenceFault e := by
  unfold ClassSchema.inputs at h
  rw [result_backfillAll, foldlM_append_error] at h
  rcases h with hfail | ⟨m, hrequired, hfail⟩
  · -- The look-up finds a required input as it is declared.
    rcases foldlM_error_split _ _ e hfail with ⟨front, entry, back, n, hsplit, hfront, hstep⟩
    have hmem : entry ∈ site.schema.required.entries :=
      hsplit ▸ List.mem_append_right front (List.mem_cons_self ..)
    have hkind := site.schema.kind?_of_decl? entry.1 entry.2 (site.schema.decl?_of_required entry.1
      entry.2 (OrderedMap.get?_of_mem _ entry hmem))
    exact (site.backfill_of_kind (site.backfillAll_isSequence front hsequence hfront) entry.1
      entry.2 hkind hstep).elim
  · rcases foldlM_error_split _ _ e hfail with ⟨front, entry, back, n, hsplit, hfront, hstep⟩
    have hmem : entry ∈ site.schema.optional.entries :=
      hsplit ▸ List.mem_append_right front (List.mem_cons_self ..)
    have hsequence' := site.backfillAll_isSequence front
      (site.backfillAll_isSequence _ hsequence hrequired) hfront
    rw [← result_backfillAll] at hrequired
    -- The required scalars have been served, and stay so.
    refine site.rejected_of_optional hsequence' (fun required hmem' hscalar => ?_) entry.1 entry.2
      (OrderedMap.get?_of_mem _ entry hmem) hstep
    exact foldlM_invariant (fun r => r.Served required.1) front
      (fun e _ a b ha hb => site.backfill_keeps_served e.1 e.2 required.1 ha hb) m n
      (site.backfillAll_served _ required hmem' hscalar hrequired) hfront

/-- A node whose buffer is a sequence ends in one of its faults if it does not compile. -/
theorem compile_sequenceFault (hsequence : site.node.values.isSequence = true)
    (h : site.compile.result = .error e) : site.SequenceFault e := by
  rcases (site.compile_error e).mp h with hsockets | ⟨r₁, h₁, hbackfill | ⟨r₂, -, hdefaults⟩⟩
  · rw [result_resolveSockets] at hsockets
    rcases foldlM_error_split _ _ e hsockets with ⟨front, s, back, m, hsplit, hfront, hstep⟩
    have hs : s ∈ site.node.slots := hsplit ▸ List.mem_append_right front (List.mem_cons_self ..)
    exact site.resolveSocket_sequenceFault
      (site.resolveSockets_isSequence front hsequence hfront) s hs hstep
  · rw [result_resolveSockets] at h₁
    exact site.backfillAll_sequenceFault (site.resolveSockets_isSequence _ hsequence h₁) hbackfill
  · rw [result_fillDefaults] at hdefaults
    rcases foldlM_error_split _ _ e hdefaults with ⟨-, name, -, m, -, -, hstep⟩
    exact site.fillDefault_sequenceFault name hstep

end Site

end PromptGraph
