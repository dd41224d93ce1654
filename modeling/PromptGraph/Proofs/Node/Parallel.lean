import PromptGraph.Proofs.Cursor
import PromptGraph.Proofs.Node.Inputs
import PromptGraph.Proofs.Outcomes

/-!
# Steps in Parallel

The same step taken from two states.

A step looks at what it reads from the buffer, and the later passes also look at
whether their input is set. A step looks at nothing else of a state. So from two
states whose cursors read alike, and that agree about the input if it matters, a
step does the same to the input, whatever the other inputs are, and leaves cursors
that read alike.

Once nothing is left to read in the buffer, no step moves the cursor any more.

## Main definitions

* `Resolution.SameStep`: From two states the same is done.

## Theorems

* `Site.accept_endAlike`, `Site.fallback_endAlike`, `Site.resolveLink_endAlike`: What is
  done with an input ends alike in two states.
* `Site.resolveSocket_parallel`, `Site.backfill_parallel`,
  `Site.fillDefault_parallel`: The steps do the same from two states.
* `Site.laterPasses_related`: What the later steps keep, the later passes keep.
* `Site.resolveSocket_exhausted`, `Site.backfill_exhausted`: Steps at the end of the
  buffer.
-/

namespace PromptGraph

/-- From two states the same is done: they end with related cursors, and an input is set to
    the same in both, or nothing is set. -/
def Resolution.SameStep (R : Cursor → Cursor → Prop) (r r' q q' : Resolution) (name : String) :
    Prop :=
  R r'.cursor q'.cursor ∧
    (r'.inputs = r.inputs ∧ q'.inputs = q.inputs ∨
      ∃ input, r'.inputs = r.inputs.insert name input ∧ q'.inputs = q.inputs.insert name input)

namespace Site

variable (site : Site) {r r' q : Resolution}

section Ends

variable (R : Resolution → Resolution → Prop)

/-- Recording a value ends alike in two states. -/
theorem accept_endAlike (name : String) (value : Json)
    (hset : R (r.set name (.value value)) (q.set name (.value value))) :
    EndAlike Eq R (site.accept r name value) (site.accept q name value) := by
  unfold accept
  cases hkind : site.schema.kind? name with
  | none => exact .ok hset
  | some kind =>
      by_cases hbad : (site.strict && !fits (some kind) value) = true
      · simp only [hbad, if_true]
        exact .error rfl
      · simp only [hbad]
        exact .ok hset

/-- So does falling back on the default. -/
theorem fallback_endAlike (name : String)
    (hset : ∀ input, R (r.set name input) (q.set name input)) (hkeep : R r q) :
    EndAlike Eq R (site.fallback r name) (site.fallback q name) := by
  unfold fallback
  cases hdefault : site.schema.default? name with
  | some value => exact .ok (hset _)
  | none =>
      by_cases hmissing : (site.strict && site.schema.isRequired name) = true
      · simp only [hmissing, if_true]
        exact .error rfl
      · simp only [hmissing]
        exact .ok hkeep

/-- So does resolving a socket that is fed by a link. -/
theorem resolveLink_endAlike (slot : Slot) (socket : InputSocket)
    (hset : ∀ input, R ((site.dropStored r socket.name).set socket.name input)
      ((site.dropStored q socket.name).set socket.name input))
    (hkeep : ∀ source sourceSlot, site.source? slot = some (source, sourceSlot) →
      source.classType = primitiveClass → source.values.first? = none →
        R (site.dropStored r socket.name) (site.dropStored q socket.name)) :
    EndAlike Eq R (site.resolveLink r slot socket).result
      (site.resolveLink q slot socket).result := by
  rw [result_resolveLink, result_resolveLink]
  cases hsource : site.source? slot with
  | none => exact .error rfl
  | some found =>
      rcases found with ⟨source, sourceSlot⟩
      by_cases hclass : source.classType = primitiveClass
      · cases hfirst : source.values.first? with
        | some value =>
            simp only [hclass, ne_eq, not_true_eq_false, if_false, hfirst]
            exact .ok (hset _)
        | none =>
            simp only [hclass, ne_eq, not_true_eq_false, if_false, hfirst]
            exact site.fallback_endAlike R socket.name hset
              (hkeep source sourceSlot hsource hclass hfirst)
      · simp only [hclass, ne_eq, not_false_eq_true, if_true]
        exact .ok (hset _)

end Ends

variable {R : Cursor → Cursor → Prop}

theorem accept_parallel (hcursor : R r.cursor q.cursor) (name : String) (value : Json)
    (h : site.accept r name value = .ok r') :
    ∃ q', site.accept q name value = .ok q' ∧ r.SameStep R r' q q' name :=
  (site.accept_endAlike (fun r' q' => r.SameStep R r' q q' name) name value
    ⟨hcursor, Or.inr ⟨.value value, rfl, rfl⟩⟩).exists_ok r' h

theorem fallback_parallel (hcursor : R r.cursor q.cursor) (name : String)
    (h : site.fallback r name = .ok r') :
    ∃ q', site.fallback q name = .ok q' ∧ r.SameStep R r' q q' name :=
  (site.fallback_endAlike (fun r' q' => r.SameStep R r' q q' name) name
    (fun input => ⟨hcursor, Or.inr ⟨input, rfl, rfl⟩⟩)
    ⟨hcursor, Or.inl ⟨rfl, rfl⟩⟩).exists_ok r' h

section Sockets

variable (hR : Cursor.ReadAlike R)
include hR

theorem dropStored_parallel (hcursor : R r.cursor q.cursor) (name : String) :
    R (site.dropStored r name).cursor (site.dropStored q name).cursor := by
  unfold dropStored
  by_cases hscalar : site.schema.isScalar name = true
  · have htake := hR.cursor _ _ hcursor name (site.schema.kind? name)
    rw [Cursor.cursor_take, Cursor.cursor_take] at htake
    rw [if_pos hscalar, if_pos hscalar]
    exact htake
  · rw [if_neg hscalar, if_neg hscalar]
    exact hcursor

theorem resolveLink_parallel (hcursor : R r.cursor q.cursor) (slot : Slot) (socket : InputSocket)
    (h : (site.resolveLink r slot socket).result = .ok r') :
    ∃ q', (site.resolveLink q slot socket).result = .ok q' ∧
      r.SameStep R r' q q' socket.name := by
  have hdropped := site.dropStored_parallel hR hcursor socket.name
  have hr := site.inputs_dropStored r socket.name
  have hq := site.inputs_dropStored q socket.name
  have hset : ∀ input, r.SameStep R ((site.dropStored r socket.name).set socket.name input) q
      ((site.dropStored q socket.name).set socket.name input) socket.name := by
    intro input
    refine ⟨hdropped, Or.inr ⟨input, ?_, ?_⟩⟩
    · rw [Resolution.inputs_set, hr]
    · rw [Resolution.inputs_set, hq]
  -- A primitive node without a value may leave the input as it is.
  exact (site.resolveLink_endAlike (fun r' q' => r.SameStep R r' q q' socket.name) slot socket hset
    fun _ _ _ _ _ => ⟨hdropped, Or.inl ⟨hr, hq⟩⟩).exists_ok r' h

theorem resolveBinding_parallel (hcursor : R r.cursor q.cursor) (name binding : String)
    (h : (site.resolveBinding r name binding).result = .ok r') :
    ∃ q', (site.resolveBinding q name binding).result = .ok q' ∧ r.SameStep R r' q q' name := by
  rw [result_resolveBinding] at h ⊢
  simp only [] at h ⊢
  -- Both states read the same.
  have hvalue := hR.value _ _ hcursor binding (site.schema.kind? name)
  have hmoved : R (r.moveTo (r.cursor.take binding (site.schema.kind? name)).cursor).cursor
      (q.moveTo (q.cursor.take binding (site.schema.kind? name)).cursor).cursor :=
    hR.cursor _ _ hcursor binding (site.schema.kind? name)
  cases hread : (q.cursor.take binding (site.schema.kind? name)).value with
  | some value =>
      rw [hvalue, hread] at h
      exact site.accept_parallel hmoved name value h
  | none =>
      rw [hvalue, hread] at h
      exact site.fallback_parallel hmoved name h

/-- A socket does the same from two states whose cursors read alike. -/
theorem resolveSocket_parallel (hcursor : R r.cursor q.cursor) (s : Slot × InputSocket)
    (h : (site.resolveSocket r s.1 s.2).result = .ok r') :
    ∃ q', (site.resolveSocket q s.1 s.2).result = .ok q' ∧ r.SameStep R r' q q' s.2.name := by
  rw [result_resolveSocket] at h ⊢
  by_cases hlink : s.2.isLinkBound = true
  · rw [if_pos hlink] at h ⊢
    exact site.resolveLink_parallel hR hcursor s.1 s.2 h
  · rw [if_neg hlink] at h ⊢
    cases hwidget : s.2.widget with
    | some binding =>
        rw [hwidget] at h
        exact site.resolveBinding_parallel hR hcursor s.2.name binding h
    | none =>
        rw [hwidget] at h
        cases h
        exact ⟨q, rfl, hcursor, Or.inl ⟨rfl, rfl⟩⟩

/-- A declared input does the same in the second pass from two states whose cursors read alike
    and that agree about whether it is set. -/
theorem backfill_parallel (hcursor : R r.cursor q.cursor) (name : String)
    (hset : q.isSet name = r.isSet name) (decl : TypeDecl)
    (h : (site.backfill r name decl).result = .ok r') :
    ∃ q', (site.backfill q name decl).result = .ok q' ∧ r.SameStep R r' q q' name := by
  rw [result_backfill] at h ⊢
  rw [hset]
  by_cases hskip : (r.isSet name || !isScalarType decl.typeName) = true
  · rw [if_pos hskip] at h ⊢
    cases h
    exact ⟨q, rfl, hcursor, Or.inl ⟨rfl, rfl⟩⟩
  · rw [if_neg hskip] at h ⊢
    simp only [] at h ⊢
    have hvalue := hR.value _ _ hcursor name (classify decl.typeName).kind?
    have hmoved : R (r.moveTo (r.cursor.take name (classify decl.typeName).kind?).cursor).cursor
        (q.moveTo (q.cursor.take name (classify decl.typeName).kind?).cursor).cursor :=
      hR.cursor _ _ hcursor name (classify decl.typeName).kind?
    cases hread : (q.cursor.take name (classify decl.typeName).kind?).value with
    | some value =>
        rw [hvalue, hread] at h
        exact site.accept_parallel hmoved name value h
    | none =>
        rw [hvalue, hread] at h
        cases h
        exact ⟨_, rfl, hmoved, Or.inl ⟨rfl, rfl⟩⟩

end Sockets

theorem fillDefault_parallel (hcursor : R r.cursor q.cursor) (name : String)
    (hset : q.isSet name = r.isSet name) (h : (site.fillDefault r name).result = .ok r') :
    ∃ q', (site.fillDefault q name).result = .ok q' ∧ r.SameStep R r' q q' name := by
  rw [result_fillDefault] at h ⊢
  rw [hset]
  by_cases hskip : (r.isSet name || site.schema.isLinkTyped name) = true
  · rw [if_pos hskip] at h ⊢
    cases h
    exact ⟨q, rfl, hcursor, Or.inl ⟨rfl, rfl⟩⟩
  · rw [if_neg hskip] at h ⊢
    exact site.fallback_parallel hcursor name h

/-- States that are related in a way that the steps of the later passes keep are still related
    after both passes. -/
theorem laterPasses_related (Q : Resolution → Resolution → Prop)
    (hbackfill : ∀ name decl a b a', Q a b → (site.backfill a name decl).result = .ok a' →
      ∃ b', (site.backfill b name decl).result = .ok b' ∧ Q a' b')
    (hdefault : ∀ name a b a', Q a b → (site.fillDefault a name).result = .ok a' →
      ∃ b', (site.fillDefault b name).result = .ok b' ∧ Q a' b')
    (h : Q r q) {r₂ r₃ : Resolution}
    (h₂ : (site.backfillAll r site.schema.inputs).result = .ok r₂)
    (h₃ : (site.fillDefaults r₂ site.schema.required.keys).result = .ok r₃) :
    ∃ q₂ q₃, (site.backfillAll q site.schema.inputs).result = .ok q₂ ∧
      (site.fillDefaults q₂ site.schema.required.keys).result = .ok q₃ ∧ Q r₃ q₃ := by
  rw [result_backfillAll] at h₂
  rw [result_fillDefaults] at h₃
  rcases foldlM_related Q site.schema.inputs (fun e _ => hbackfill e.1 e.2) r r₂ q h h₂ with
    ⟨q₂, hq₂, hrelated⟩
  rcases foldlM_related Q site.schema.required.keys (fun name _ => hdefault name) r₂ r₃ q₂
    hrelated h₃ with ⟨q₃, hq₃, hend⟩
  exact ⟨q₂, q₃, by rw [result_backfillAll, hq₂], by rw [result_fillDefaults, hq₃], hend⟩

/-- At the end of the buffer a socket does not move the cursor. -/
theorem resolveSocket_exhausted (hend : r.cursor.unread = []) (s : Slot × InputSocket)
    (h : (site.resolveSocket r s.1 s.2).result = .ok r') : r'.cursor = r.cursor := by
  rcases site.resolveSocket_origin s h with
    ⟨-, hcursor, -⟩ | ⟨-, ⟨binding, -, hcursor, -⟩ | ⟨-, rfl⟩⟩
  · rw [hcursor]
    unfold dropStored
    split
    · have hpop := r.cursor.cursor_take (site.schema.kind? s.2.name) s.2.name
      exact hpop.symm.trans (r.cursor.cursor_take_of_unread _ _ hend)
    · rfl
  · exact hcursor.trans (r.cursor.cursor_take_of_unread _ _ hend)
  · rfl

theorem backfill_exhausted (hend : r.cursor.unread = []) (name : String) (decl : TypeDecl)
    (h : (site.backfill r name decl).result = .ok r') : r'.cursor = r.cursor := by
  rcases site.backfill_origin name decl h with ⟨-, rfl⟩ | ⟨-, hcursor, -⟩
  · rfl
  · exact hcursor.trans (r.cursor.cursor_take_of_unread _ _ hend)

end Site

end PromptGraph
