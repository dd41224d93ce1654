import PromptGraph.Proofs.Node.Parallel

/-!
# What the Later Passes See

After the sockets are done, what becomes of a node depends on the inputs that
are set and on the values ahead in its buffer. The values that were read before
are out of sight.

Two states with the same inputs and the same values ahead are therefore carried
along by the later passes together, step by step, and end with the same inputs.
The first pass does not look at the buffer of the node either but only at the
cursor that it is started with, so the same node with other values goes through
the same steps from another start.

## Main definitions

* `Resolution.Ahead`: The same inputs, and the same values ahead.
* `Site.withValues`: The site with other values stored with its node.

## Theorems

* `Site.laterPasses_ahead`: The later passes end with the same inputs.
* `Site.compile_withValues_ok`: A node with other values goes through the same
  steps.
-/

namespace PromptGraph

/-- Two states have the same inputs and the same values ahead. -/
def Resolution.Ahead (r q : Resolution) : Prop :=
  r.inputs = q.inputs ∧ r.cursor.Ahead q.cursor

namespace Site

variable (site : Site) {r q r' : Resolution}

/-- A step that does the same in two such states keeps them so. -/
theorem ahead_of_sameStep {q' : Resolution} (h : r.Ahead q) {name : String}
    (hstep : r.SameStep Cursor.Ahead r' q q' name) : r'.Ahead q' := by
  refine ⟨?_, hstep.1⟩
  rcases hstep.2 with ⟨hr, hq⟩ | ⟨input, hr, hq⟩
  · rw [hr, hq, h.1]
  · rw [hr, hq, h.1]

theorem isSet_ahead (h : r.Ahead q) (name : String) : q.isSet name = r.isSet name := by
  unfold Resolution.isSet
  rw [h.1]

theorem backfill_ahead (h : r.Ahead q) (name : String) (decl : TypeDecl)
    (hstep : (site.backfill r name decl).result = .ok r') :
    ∃ q', (site.backfill q name decl).result = .ok q' ∧ r'.Ahead q' := by
  rcases site.backfill_parallel Cursor.readAlike_ahead h.2 name (isSet_ahead h name) decl hstep
    with ⟨q', hq', hsame⟩
  exact ⟨q', hq', ahead_of_sameStep h hsame⟩

theorem fillDefault_ahead (h : r.Ahead q) (name : String)
    (hstep : (site.fillDefault r name).result = .ok r') :
    ∃ q', (site.fillDefault q name).result = .ok q' ∧ r'.Ahead q' := by
  rcases site.fillDefault_parallel h.2 name (isSet_ahead h name) hstep with ⟨q', hq', hsame⟩
  exact ⟨q', hq', ahead_of_sameStep h hsame⟩

/-- The later passes carry two states with the same inputs and the same values ahead
    along together. -/
theorem laterPasses_ahead {r₂ r₃ : Resolution} (h : r.Ahead q)
    (h₂ : (site.backfillAll r site.schema.inputs).result = .ok r₂)
    (h₃ : (site.fillDefaults r₂ site.schema.required.keys).result = .ok r₃) :
    ∃ q₂ q₃, (site.backfillAll q site.schema.inputs).result = .ok q₂ ∧
      (site.fillDefaults q₂ site.schema.required.keys).result = .ok q₃ ∧ r₃.Ahead q₃ :=
  site.laterPasses_related Resolution.Ahead
    (fun name decl _ _ _ hab hstep => site.backfill_ahead hab name decl hstep)
    (fun name _ _ _ hab hstep => site.fillDefault_ahead hab name hstep) h h₂ h₃

/-- The site with other values stored with its node. -/
def withValues (values : List Json) : Site :=
  { site with node := { site.node with values := .sequence values } }

/-- A node with other values goes through the same steps, from another start. -/
theorem compile_withValues_ok (values : List Json) (compiled : CompiledNode) :
    (site.withValues values).compile.result = .ok compiled ↔
      ∃ r₁ r₂ r₃,
        (site.resolveSockets { cursor := ⟨.sequence values, 0⟩ } site.node.slots).result = .ok r₁ ∧
        (site.backfillAll r₁ site.schema.inputs).result = .ok r₂ ∧
        (site.fillDefaults r₂ site.schema.required.keys).result = .ok r₃ ∧
        compiled = ⟨site.node.classType, r₃.inputs⟩ := by
  rw [compile_ok]
  simp only [result_resolveSockets, result_backfillAll, result_fillDefaults]
  rfl

end Site

end PromptGraph
