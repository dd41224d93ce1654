import PromptGraph.Proofs.Node.Faults

/-!
# Strict and Lenient Nodes

What being strict changes for a node: it may fail where a lenient one goes on,
and nothing else.

Two places look at whether the site is strict. A value that was read is recorded
either way if it fits, and a default is taken either way if there is one. What
is left is for the strict site an error and for the lenient one the very state
that it would have been in otherwise. So the two runs keep the same inputs and
the same place in the buffer until the strict one ends, and as the steps are
folded in the same order, the whole runs are related as the steps are.

## Main definitions

* `CompileError.OfStrictness`: The errors that only a strict compile ends in.
* `Site.lenient`: A site of which nothing is asked.

## Theorems

* `Site.compile_sameUnless`: A strict node gives what a lenient one gives, or an
  error of strictness.
* `Site.not_ofStrictness_of_lenient`: A lenient node has no such error.
-/

namespace PromptGraph

/-- The errors that only a strict compile ends in. -/
def CompileError.OfStrictness : CompileError → Prop
  | .missingRequiredInput _ _ _ | .typeMismatch _ _ _ _ _ => True
  | _ => False

namespace Site

/-- The site with nothing asked of its values and required inputs. -/
def lenient (site : Site) : Site := { site with strict := false }

variable (site : Site) (r : Resolution)

theorem accept_sameUnless (name : String) (value : Json) :
    SameUnless CompileError.OfStrictness (site.accept r name value)
      (site.lenient.accept r name value) := by
  cases hresult : site.accept r name value with
  | error e =>
      rcases (site.accept_error r name value e).mp hresult with ⟨-, kind, -, -, rfl⟩
      exact Or.inr ⟨_, rfl, trivial⟩
  | ok r' =>
      -- A value that has been accepted is what a lenient site records too.
      rcases (site.accept_ok r r' name value).mp hresult with ⟨-, hset⟩
      have hlenient : site.lenient.accept r name value = .ok r' :=
        (site.lenient.accept_ok r r' name value).mpr
          ⟨fun hstrict => absurd hstrict Bool.false_ne_true, hset⟩
      exact Or.inl hlenient.symm

theorem fallback_sameUnless (name : String) :
    SameUnless CompileError.OfStrictness (site.fallback r name)
      (site.lenient.fallback r name) := by
  cases hresult : site.fallback r name with
  | error e =>
      rcases (site.fallback_error r name e).mp hresult with ⟨-, -, -, rfl⟩
      exact Or.inr ⟨_, rfl, trivial⟩
  | ok r' =>
      -- With a default both take it, and without one both leave the input alone.
      have hlenient : site.lenient.fallback r name = .ok r' := by
        refine (site.lenient.fallback_ok r r' name).mpr ?_
        rcases (site.fallback_ok r r' name).mp hresult with hdefault | ⟨hnone, -, hsame⟩
        · exact Or.inl hdefault
        · exact Or.inr ⟨hnone, Bool.false_and _, hsame⟩
      exact Or.inl hlenient.symm

theorem resolveLink_sameUnless (slot : Slot) (socket : InputSocket) :
    SameUnless CompileError.OfStrictness (site.resolveLink r slot socket).result
      (site.lenient.resolveLink r slot socket).result := by
  rw [result_resolveLink, result_resolveLink]
  have hsource : site.lenient.source? slot = site.source? slot := rfl
  rw [hsource]
  cases site.source? slot with
  | none => exact Or.inl rfl
  | some found =>
      rcases found with ⟨source, sourceSlot⟩
      simp only []
      -- Only a primitive node without a value leads to the default.
      by_cases hclass : source.classType ≠ primitiveClass
      · rw [if_pos hclass, if_pos hclass]
        exact Or.inl rfl
      · rw [if_neg hclass, if_neg hclass]
        cases source.values.first? with
        | some value => exact Or.inl rfl
        | none => exact site.fallback_sameUnless (site.dropStored r socket.name) socket.name

theorem resolveBinding_sameUnless (name binding : String) :
    SameUnless CompileError.OfStrictness (site.resolveBinding r name binding).result
      (site.lenient.resolveBinding r name binding).result := by
  rw [result_resolveBinding, result_resolveBinding]
  have hkind : site.lenient.schema.kind? name = site.schema.kind? name := rfl
  simp only [hkind]
  -- Both read the same value, so they move to the same place.
  cases (r.cursor.take binding (site.schema.kind? name)).value with
  | some value => exact site.accept_sameUnless _ name value
  | none => exact site.fallback_sameUnless _ name

theorem resolveSocket_sameUnless (s : Slot × InputSocket) :
    SameUnless CompileError.OfStrictness (site.resolveSocket r s.1 s.2).result
      (site.lenient.resolveSocket r s.1 s.2).result := by
  rw [result_resolveSocket, result_resolveSocket]
  by_cases hlink : s.2.isLinkBound = true
  · rw [if_pos hlink, if_pos hlink]
    exact site.resolveLink_sameUnless r s.1 s.2
  · rw [if_neg hlink, if_neg hlink]
    cases s.2.widget with
    | some binding => exact site.resolveBinding_sameUnless r s.2.name binding
    | none => exact Or.inl rfl

theorem backfill_sameUnless (name : String) (decl : TypeDecl) :
    SameUnless CompileError.OfStrictness (site.backfill r name decl).result
      (site.lenient.backfill r name decl).result := by
  rw [result_backfill, result_backfill]
  by_cases hskip : (r.isSet name || !isScalarType decl.typeName) = true
  · rw [if_pos hskip, if_pos hskip]
    exact Or.inl rfl
  · rw [if_neg hskip, if_neg hskip]
    simp only []
    cases (r.cursor.take name (classify decl.typeName).kind?).value with
    | some value => exact site.accept_sameUnless _ name value
    | none => exact Or.inl rfl

theorem fillDefault_sameUnless (name : String) :
    SameUnless CompileError.OfStrictness (site.fillDefault r name).result
      (site.lenient.fillDefault r name).result := by
  rw [result_fillDefault, result_fillDefault]
  have hlink : site.lenient.schema.isLinkTyped name = site.schema.isLinkTyped name := rfl
  rw [hlink]
  by_cases hskip : (r.isSet name || site.schema.isLinkTyped name) = true
  · rw [if_pos hskip, if_pos hskip]
    exact Or.inl rfl
  · rw [if_neg hskip, if_neg hskip]
    exact site.fallback_sameUnless r name

/-- A strict node gives what a lenient one gives, the same compiled node or the same
    error, unless it ends in an error of strictness. -/
theorem compile_sameUnless :
    SameUnless CompileError.OfStrictness site.compile.result site.lenient.compile.result := by
  rw [result_compile, result_compile]
  simp only [result_resolveSockets, result_backfillAll, result_fillDefaults]
  -- Each pass starts from one state for both, for the pass before has gone through.
  refine SameUnless.bind (SameUnless.foldlM _ (fun r s => site.resolveSocket_sameUnless r s) _)
    fun r₁ => ?_
  refine SameUnless.bind (SameUnless.foldlM _
    (fun r (e : String × TypeDecl) => site.backfill_sameUnless r e.1 e.2) _) fun r₂ => ?_
  refine SameUnless.bind (SameUnless.foldlM _ (fun r name => site.fillDefault_sameUnless r name) _)
    fun r₃ => ?_
  exact Or.inl rfl

/-- The errors of a lenient node are not among those of strictness. -/
theorem not_ofStrictness_of_lenient (hlenient : site.strict = false) (e : CompileError)
    (h : site.compile.result = .error e) : ¬e.OfStrictness := by
  cases site.compile_fault e h with
  | dangling s hs hsource => exact id
  | missing name hstrict => exact absurd (hlenient.symm.trans hstrict) Bool.false_ne_true
  | mismatch name kind value hstrict =>
      exact absurd (hlenient.symm.trans hstrict) Bool.false_ne_true

end Site

end PromptGraph
