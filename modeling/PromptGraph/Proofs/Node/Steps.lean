import PromptGraph.Compile.Node
import PromptGraph.Proofs.Loops
import PromptGraph.Proofs.Tables

/-!
# The Steps of a Node

What one step of compiling a node can do, said once for each step. Reports are
left out: the statements are about results, and nothing after this module opens
a step again.

The lemmas called `result_` give the result of a step as a case distinction
without reports, errors included. Those that end in `_ok` say in which states a
step can end, and those that end in `_error` with which errors. They are
equivalences, so they carry the guards of every branch.

## Main definitions

* `Resolution.pending`: An input is left for the second pass.
* `Site.dropStored`: The resolution after the value stored for a linked input
  has been read and dropped.

## Theorems

* `Resolution.filter_pending_of_insert`, `Resolution.filter_pending_of_not_mem`: What is
  pending once an input is set.
* `Site.accept_ok`, `Site.fallback_ok`: Recording a value, falling back on the
  default.
* `Site.accept_error`, `Site.fallback_error`: How these fail.
* `Site.result_resolveLink`, `Site.resolveLink_ok`: A socket fed by a link.
* `Site.result_resolveBinding`: A socket bound to a stored value.
* `Site.result_resolveSocket`: Any socket.
* `Site.result_backfill`, `Site.result_fillDefault`: The steps of the later
  passes.
* `Site.result_resolveSockets`, `Site.result_backfillAll`,
  `Site.result_fillDefaults`: The passes are folds of their steps.
* `Site.result_compile`: A node goes through the three passes.
* `Site.resolve_ok`, `Site.compile_ok`: A compiled node is what the last of them
  leaves.
* `Site.compile_error`: A node fails in the first pass that does.
-/

namespace PromptGraph

namespace Resolution

@[simp] theorem inputs_set (r : Resolution) (name : String) (input : ResolvedInput) :
    (r.set name input).inputs = r.inputs.insert name input := rfl

theorem inputs_set_congr (r q : Resolution) (h : r.inputs = q.inputs) (name : String)
    (input : ResolvedInput) : (r.set name input).inputs = (q.set name input).inputs := by
  rw [inputs_set, inputs_set, h]

theorem isSet_eq_isSome (r : Resolution) (name : String) :
    r.isSet name = (r.inputs.get? name).isSome := rfl

theorem isSet_insert (r r' : Resolution) (name key : String) (input : ResolvedInput)
    (h : r'.inputs = r.inputs.insert key input) :
    r'.isSet name = (name = key || r.isSet name) := by
  unfold isSet
  rw [h, OrderedMap.contains_insert]

theorem isSet_congr (r r' : Resolution) (name : String) (h : r'.inputs = r.inputs) :
    r'.isSet name = r.isSet name := by
  unfold isSet
  rw [h]

/-- The second pass has to do something about an input: it is carried by value and
    still unset. -/
def pending (r : Resolution) (e : String × TypeDecl) : Bool :=
  !(r.isSet e.1 || !isScalarType e.2.typeName)

theorem pending_iff (r : Resolution) (e : String × TypeDecl) :
    r.pending e = true ↔ r.isSet e.1 = false ∧ isScalarType e.2.typeName = true := by
  unfold pending
  rw [Bool.not_eq_true', Bool.or_eq_false_iff, Bool.not_eq_false']

theorem pending_congr (r r' : Resolution) (e : String × TypeDecl) (h : r'.inputs = r.inputs) :
    r'.pending e = r.pending e := by
  unfold pending
  rw [isSet_congr r r' e.1 h]

section Pending

variable (r r' : Resolution) (decls : Entries TypeDecl)

/-- Once an input is set, all others are pending as before. -/
theorem filter_pending_of_insert (name : String) (input : ResolvedInput)
    (h : r'.inputs = r.inputs.insert name input) :
    decls.filter r'.pending = Entries.without name (decls.filter r.pending) := by
  unfold Entries.without
  rw [List.filter_filter]
  refine List.filter_congr fun e _ => ?_
  unfold pending
  rw [isSet_insert r r' e.1 name input h, Bool.or_assoc, Bool.not_or, decide_not]

theorem filter_pending_congr (h : r'.inputs = r.inputs) :
    decls.filter r'.pending = decls.filter r.pending :=
  List.filter_congr fun e _ => pending_congr r r' e h

theorem filter_pending_of_not_mem (name : String) (input : ResolvedInput)
    (h : r'.inputs = r.inputs.insert name input) (hout : name ∉ Entries.keys decls) :
    decls.filter r'.pending = decls.filter r.pending := by
  have hpending : name ∉ Entries.keys (decls.filter r.pending) := fun hmem =>
    hout ((List.filter_sublist.map Prod.fst).subset hmem)
  rw [filter_pending_of_insert r r' decls name input h, Entries.without_of_not_mem name _ hpending]

end Pending

end Resolution

namespace Site

variable (site : Site) (r r' : Resolution)

theorem accept_ok (name : String) (value : Json) :
    site.accept r name value = .ok r' ↔
      (site.strict = true → ∀ kind, site.schema.kind? name = some kind →
        fits (some kind) value = true) ∧ r' = r.set name (.value value) := by
  unfold accept
  cases hkind : site.schema.kind? name with
  | none =>
      rw [Except.ok.injEq]
      exact ⟨fun h => ⟨fun _ kind hnone => (by cases hnone), h.symm⟩, fun h => h.2.symm⟩
  | some kind =>
      simp only []
      by_cases hbad : (site.strict && !fits (some kind) value) = true
      · -- The step fails, and the guard on the right fails with it.
        rw [if_pos hbad]
        simp only [Bool.and_eq_true, Bool.not_eq_true'] at hbad
        refine ⟨fun h => (by cases h), fun h => ?_⟩
        have hfit := h.1 hbad.1 kind rfl
        rw [hbad.2] at hfit
        cases hfit
      · rw [if_neg hbad, Except.ok.injEq]
        refine ⟨fun h => ⟨fun hstrict kind' hkind' => ?_, h.symm⟩, fun h => h.2.symm⟩
        cases hkind'
        simpa only [hstrict, Bool.true_and, Bool.not_eq_true', Bool.not_eq_false] using hbad

theorem fallback_ok (name : String) :
    site.fallback r name = .ok r' ↔
      (∃ value, site.schema.default? name = some value ∧ r' = r.set name (.value value)) ∨
        site.schema.default? name = none ∧
          (site.strict && site.schema.isRequired name) = false ∧ r' = r := by
  unfold fallback
  cases hdefault : site.schema.default? name with
  | some value =>
      simp only [Except.ok.injEq, Option.some.injEq, exists_eq_left', reduceCtorEq, false_and,
        or_false]
      exact eq_comm
  | none =>
      simp only [reduceCtorEq, false_and, exists_false, false_or, true_and]
      -- Without a default the step goes through unless the input may not be unset.
      by_cases hmissing : (site.strict && site.schema.isRequired name) = true
      · rw [if_pos hmissing, hmissing]
        simp only [reduceCtorEq, Bool.true_eq_false, false_and]
      · rw [if_neg hmissing, Except.ok.injEq]
        exact ⟨fun h => ⟨eq_false_of_ne_true hmissing, h.symm⟩, fun h => h.2.symm⟩

theorem accept_error (name : String) (value : Json) (e : CompileError) :
    site.accept r name value = .error e ↔
      site.strict = true ∧ ∃ kind, site.schema.kind? name = some kind ∧
        fits (some kind) value = false ∧
        e = .typeMismatch site.node.id site.node.classType name kind value := by
  unfold accept
  cases hkind : site.schema.kind? name with
  | none => simp only [reduceCtorEq, false_and, exists_false, and_false]
  | some kind =>
      simp only [Option.some.injEq, exists_eq_left']
      by_cases hbad : (site.strict && !fits (some kind) value) = true
      · rw [if_pos hbad, Except.error.injEq]
        simp only [Bool.and_eq_true, Bool.not_eq_true'] at hbad
        exact ⟨fun h => ⟨hbad.1, hbad.2, h.symm⟩, fun h => h.2.2.symm⟩
      · rw [if_neg hbad]
        refine ⟨fun h => (by cases h), fun h => absurd ?_ hbad⟩
        rw [h.1, h.2.1]
        rfl

theorem fallback_error (name : String) (e : CompileError) :
    site.fallback r name = .error e ↔
      site.strict = true ∧ site.schema.isRequired name = true ∧
        site.schema.default? name = none ∧
        e = .missingRequiredInput site.node.id site.node.classType name := by
  unfold fallback
  cases hdefault : site.schema.default? name with
  | some value => simp only [reduceCtorEq, false_and, and_false]
  | none =>
      simp only [true_and]
      by_cases hmissing : (site.strict && site.schema.isRequired name) = true
      · rw [if_pos hmissing, Except.error.injEq]
        rw [Bool.and_eq_true] at hmissing
        exact ⟨fun h => ⟨hmissing.1, hmissing.2, h.symm⟩, fun h => h.2.2.symm⟩
      · rw [if_neg hmissing]
        refine ⟨fun h => (by cases h), fun h => absurd ?_ hmissing⟩
        rw [h.1, h.2.1]
        rfl

/-- The resolution after the value stored for a linked input has been read and
    dropped. Only a declared scalar has a value stored for it. -/
def dropStored (name : String) : Resolution :=
  if site.schema.isScalar name then r.moveTo (r.cursor.pop (site.schema.kind? name)).cursor
  else r

@[simp] theorem inputs_dropStored (name : String) :
    (site.dropStored r name).inputs = r.inputs := by
  unfold dropStored
  split <;> rfl

/-- What resolving a linked socket gives: its source, once the stored value is
    dropped, makes the input a reference, a value or its default. -/
theorem result_resolveLink (slot : Slot) (socket : InputSocket) :
    (site.resolveLink r slot socket).result =
      match site.source? slot with
      | none => .error
          (.linkDangling site.node.id site.node.classType socket.name slot socket.link)
      | some (source, sourceSlot) =>
        if source.classType ≠ primitiveClass then
          .ok ((site.dropStored r socket.name).set socket.name
            (.reference source.id sourceSlot))
        else match source.values.first? with
          | some value => .ok ((site.dropStored r socket.name).set socket.name
              (.value (inlineValue (site.schema.kind? socket.name) value)))
          | none => site.fallback (site.dropStored r socket.name) socket.name := by
  unfold resolveLink
  cases hsource : site.source? slot with
  | none => rfl
  | some found =>
      simp only [Traced.result_emitAll_bind]
      by_cases hclass : found.1.classType ≠ primitiveClass
      · rw [if_pos hclass, if_pos hclass]
        rfl
      · rw [if_neg hclass, if_neg hclass]
        cases hfirst : found.1.values.first? <;> rfl

theorem resolveLink_ok (slot : Slot) (socket : InputSocket) :
    (site.resolveLink r slot socket).result = .ok r' ↔
      ∃ source sourceSlot, site.source? slot = some (source, sourceSlot) ∧
        (source.classType ≠ primitiveClass ∧
            r' = (site.dropStored r socket.name).set socket.name
              (.reference source.id sourceSlot) ∨
          source.classType = primitiveClass ∧
            ((∃ value, source.values.first? = some value ∧
              r' = (site.dropStored r socket.name).set socket.name
                (.value (inlineValue (site.schema.kind? socket.name) value))) ∨
              source.values.first? = none ∧
                site.fallback (site.dropStored r socket.name) socket.name = .ok r')) := by
  rw [result_resolveLink]
  cases hsource : site.source? slot with
  | none => simp only [reduceCtorEq, false_and, exists_false]
  | some found =>
      rcases found with ⟨source, sourceSlot⟩
      simp only [Option.some.injEq, Prod.mk.injEq, exists_and_left, and_assoc, exists_eq_left']
      -- Exactly one of the two alternatives is about a source of this class.
      by_cases hclass : source.classType ≠ primitiveClass
      · simp only [hclass, ne_eq, not_false_eq_true, if_true, true_and, false_and, or_false,
          Except.ok.injEq]
        exact eq_comm
      · have hprimitive : source.classType = primitiveClass := Decidable.not_not.mp hclass
        simp only [hprimitive, ne_eq, not_true_eq_false, if_false, false_and, true_and, false_or]
        cases hfirst : source.values.first? with
        | none => simp only [reduceCtorEq, false_and, exists_false, false_or, true_and]
        | some value =>
            simp only [Except.ok.injEq, Option.some.injEq, exists_eq_left', reduceCtorEq,
              false_and, or_false]
            exact eq_comm

theorem result_resolveBinding (name binding : String) :
    (site.resolveBinding r name binding).result =
      let read := r.cursor.take binding (site.schema.kind? name)
      match read.value with
      | some value => site.accept (r.moveTo read.cursor) name value
      | none => site.fallback (r.moveTo read.cursor) name := by
  unfold resolveBinding
  simp only [Traced.result_emitAll_bind]
  cases (r.cursor.take binding (site.schema.kind? name)).value <;> rfl

theorem result_resolveSocket (slot : Slot) (socket : InputSocket) :
    (site.resolveSocket r slot socket).result =
      if socket.isLinkBound then (site.resolveLink r slot socket).result
      else match socket.widget with
        | some binding => (site.resolveBinding r socket.name binding).result
        | none => .ok r := by
  unfold resolveSocket
  by_cases hlink : socket.isLinkBound = true
  · rw [if_pos hlink, if_pos hlink]
  · rw [if_neg hlink, if_neg hlink]
    cases socket.widget <;> rfl

theorem result_backfill (name : String) (decl : TypeDecl) :
    (site.backfill r name decl).result =
      if r.isSet name || !isScalarType decl.typeName then .ok r
      else
        let read := r.cursor.take name (classify decl.typeName).kind?
        match read.value with
        | some value => site.accept (r.moveTo read.cursor) name value
        | none => .ok (r.moveTo read.cursor) := by
  unfold backfill
  by_cases hskip : (r.isSet name || !isScalarType decl.typeName) = true
  · rw [if_pos hskip, if_pos hskip]
    rfl
  · rw [if_neg hskip, if_neg hskip]
    simp only [Traced.result_emitAll_bind]
    cases (r.cursor.take name (classify decl.typeName).kind?).value <;> rfl

theorem backfill_of_not_pending (e : String × TypeDecl) (h : r.pending e = false) :
    (site.backfill r e.1 e.2).result = .ok r := by
  rw [result_backfill]
  exact if_pos (Bool.not_eq_false' .. ▸ h)

theorem result_backfill_of_pending (e : String × TypeDecl) (h : r.pending e = true) :
    (site.backfill r e.1 e.2).result =
      let read := r.cursor.take e.1 (classify e.2.typeName).kind?
      match read.value with
      | some value => site.accept (r.moveTo read.cursor) e.1 value
      | none => .ok (r.moveTo read.cursor) := by
  rw [result_backfill]
  exact if_neg (Bool.eq_false_iff.mp (Bool.not_eq_true' .. ▸ h))

theorem result_fillDefault (name : String) :
    (site.fillDefault r name).result =
      if r.isSet name || site.schema.isLinkTyped name then .ok r else site.fallback r name := by
  unfold fillDefault
  split <;> rfl

/-- The first pass is a fold of its steps. -/
theorem result_resolveSockets (slots : List (Slot × InputSocket)) :
    (site.resolveSockets r slots).result =
      slots.foldlM (fun r s => (site.resolveSocket r s.1 s.2).result) r := by
  induction slots generalizing r with
  | nil => rfl
  | cons s rest ih =>
      unfold resolveSockets
      rw [Traced.result_bind, List.foldlM_cons]
      simp only [ih]

theorem result_backfillAll (decls : Entries TypeDecl) :
    (site.backfillAll r decls).result =
      decls.foldlM (fun r e => (site.backfill r e.1 e.2).result) r := by
  induction decls generalizing r with
  | nil => rfl
  | cons e rest ih =>
      unfold backfillAll
      rw [Traced.result_bind, List.foldlM_cons]
      simp only [ih]

theorem result_fillDefaults (names : List String) :
    (site.fillDefaults r names).result =
      names.foldlM (fun r name => (site.fillDefault r name).result) r := by
  induction names generalizing r with
  | nil => rfl
  | cons name rest ih =>
      unfold fillDefaults
      rw [Traced.result_bind, List.foldlM_cons]
      simp only [ih]

theorem result_compile :
    site.compile.result =
      (site.resolveSockets site.start site.node.slots).result >>= fun r₁ =>
        (site.backfillAll r₁ site.schema.inputs).result >>= fun r₂ =>
          (site.fillDefaults r₂ site.schema.required.keys).result >>= fun r₃ =>
            .ok ⟨site.node.classType, r₃.inputs⟩ := by
  unfold compile resolve
  simp only [Traced.result_bind, bind_assoc]
  rfl

theorem resolve_ok :
    site.resolve.result = .ok r ↔
      ∃ r₁ r₂, (site.resolveSockets site.start site.node.slots).result = .ok r₁ ∧
        (site.backfillAll r₁ site.schema.inputs).result = .ok r₂ ∧
        (site.fillDefaults r₂ site.schema.required.keys).result = .ok r := by
  unfold resolve
  simp only [Traced.result_bind_eq_ok, exists_and_left]

/-- A node is compiled when the three passes go through, one after the other, and
    the inputs that the last of them leaves are those of the compiled node. -/
theorem compile_ok (compiled : CompiledNode) :
    site.compile.result = .ok compiled ↔
      ∃ r₁ r₂ r₃, (site.resolveSockets site.start site.node.slots).result = .ok r₁ ∧
        (site.backfillAll r₁ site.schema.inputs).result = .ok r₂ ∧
        (site.fillDefaults r₂ site.schema.required.keys).result = .ok r₃ ∧
        compiled = ⟨site.node.classType, r₃.inputs⟩ := by
  unfold compile resolve
  simp only [Traced.result_bind_eq_ok, Traced.result_emit_bind, Traced.result_pure,
    Except.ok.injEq]
  constructor
  · rintro ⟨r₃, ⟨r₁, h₁, r₂, h₂, h₃⟩, hcompiled⟩
    exact ⟨r₁, r₂, r₃, h₁, h₂, h₃, hcompiled.symm⟩
  · rintro ⟨r₁, r₂, r₃, h₁, h₂, h₃, hcompiled⟩
    exact ⟨r₃, ⟨r₁, h₁, r₂, h₂, h₃⟩, hcompiled.symm⟩

theorem classType_of_compile (compiled : CompiledNode) (h : site.compile.result = .ok compiled) :
    compiled.classType = site.node.classType := by
  rcases (site.compile_ok compiled).mp h with ⟨-, -, -, -, -, -, rfl⟩
  rfl

/-- A node fails when one of the passes does, those before it having gone through. -/
theorem compile_error (e : CompileError) :
    site.compile.result = .error e ↔
      (site.resolveSockets site.start site.node.slots).result = .error e ∨
        ∃ r₁, (site.resolveSockets site.start site.node.slots).result = .ok r₁ ∧
          ((site.backfillAll r₁ site.schema.inputs).result = .error e ∨
            ∃ r₂, (site.backfillAll r₁ site.schema.inputs).result = .ok r₂ ∧
              (site.fillDefaults r₂ site.schema.required.keys).result = .error e) := by
  unfold compile resolve
  simp only [Traced.result_bind_eq_error, Traced.result_emit_bind, Traced.result_pure,
    reduceCtorEq, and_false, exists_false, or_false]

end Site

end PromptGraph
