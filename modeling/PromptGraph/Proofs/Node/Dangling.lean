import PromptGraph.Proofs.Node.Steps

/-!
# Dangling Links of a Node

A socket that is fed by a link needs a source. Without one its step fails,
whatever has been read or set before, and the error names the socket.

In a lenient compile this is the only way to fail. A value that does not fit is
recorded as it is, a required input without a value or a default stays unset,
and the two later passes do nothing else. So a node fails exactly when one of its
sockets has no source, and the first such socket is the one reported.

## Main definitions

* `Site.Resolves`: A socket that is fed by a link has a source.
* `Site.dangling`: The error of a socket without one.

## Theorems

* `Site.resolveSocket_dangling`: A socket without a source fails.
* `Site.resolves_of_compile`: The sockets of a node that compiles have sources.
* `Site.compile_lenient`: A node whose sockets have sources compiles leniently.
* `Site.compile_lenient_error`: The error of a node that does not.
-/

namespace PromptGraph

namespace Site

variable (site : Site)

/-- A socket that is fed by a link has a source. -/
def Resolves (s : Slot × InputSocket) : Prop :=
  s.2.isLinkBound = true → (site.source? s.1).isSome = true

/-- The error of a socket that is fed by a link without a source. -/
def dangling (s : Slot × InputSocket) : CompileError :=
  .linkDangling site.node.id site.node.classType s.2.name s.1 s.2.link

theorem resolveSocket_dangling (s : Slot × InputSocket) (h : ¬site.Resolves s) (r : Resolution) :
    (site.resolveSocket r s.1 s.2).result = .error (site.dangling s) := by
  unfold Resolves at h
  rw [Classical.not_imp] at h
  rw [result_resolveSocket, if_pos h.1, result_resolveLink]
  cases hsource : site.source? s.1 with
  | none => rfl
  | some found =>
      rw [hsource] at h
      exact absurd rfl h.2

theorem resolves_of_step (s : Slot × InputSocket) (r r' : Resolution)
    (h : (site.resolveSocket r s.1 s.2).result = .ok r') : site.Resolves s := by
  refine Classical.byContradiction fun hnot => ?_
  rw [site.resolveSocket_dangling s hnot] at h
  cases h

/-- A node that compiles has a source for each of its linked sockets. -/
theorem resolves_of_compile (compiled : CompiledNode) (h : site.compile.result = .ok compiled) :
    ∀ s ∈ site.node.slots, site.Resolves s := by
  intro s hs
  rcases (site.compile_ok compiled).mp h with ⟨r₁, -, -, h₁, -⟩
  rw [result_resolveSockets] at h₁
  rcases foldlM_ok_at _ site.node.slots s hs site.start r₁ h₁ with ⟨m, n, hstep⟩
  exact site.resolves_of_step s m n hstep

section Lenient

variable (hlenient : site.strict = false)
include hlenient

theorem accept_lenient (r : Resolution) (name : String) (value : Json) :
    ∃ r', site.accept r name value = .ok r' :=
  ⟨_, (site.accept_ok r _ name value).mpr
    ⟨fun hstrict => absurd (hlenient.symm.trans hstrict) Bool.false_ne_true, rfl⟩⟩

theorem fallback_lenient (r : Resolution) (name : String) :
    ∃ r', site.fallback r name = .ok r' := by
  cases hdefault : site.schema.default? name with
  | some value => exact ⟨_, (site.fallback_ok r _ name).mpr (Or.inl ⟨value, hdefault, rfl⟩)⟩
  | none =>
      have hoptional : (site.strict && site.schema.isRequired name) = false := by
        rw [hlenient, Bool.false_and]
      exact ⟨r, (site.fallback_ok r r name).mpr (Or.inr ⟨hdefault, hoptional, rfl⟩)⟩

theorem resolveSocket_lenient (s : Slot × InputSocket) (h : site.Resolves s) (r : Resolution) :
    ∃ r', (site.resolveSocket r s.1 s.2).result = .ok r' := by
  rw [result_resolveSocket]
  by_cases hlink : s.2.isLinkBound = true
  · rw [if_pos hlink, result_resolveLink]
    rcases Option.isSome_iff_exists.mp (h hlink) with ⟨⟨source, sourceSlot⟩, hsource⟩
    rw [hsource]
    simp only []
    -- A reference is always set; a primitive node gives its value or the default.
    by_cases hclass : source.classType ≠ primitiveClass
    · exact ⟨_, if_pos hclass⟩
    · rw [if_neg hclass]
      cases source.values.first? with
      | some value => exact ⟨_, rfl⟩
      | none => exact site.fallback_lenient hlenient _ _
  · -- A bound value is recorded whether it fits or not.
    rw [if_neg hlink]
    cases s.2.widget with
    | none => exact ⟨r, rfl⟩
    | some binding =>
        simp only [result_resolveBinding]
        cases (r.cursor.take binding (site.schema.kind? s.2.name)).value with
        | some value => exact site.accept_lenient hlenient _ _ _
        | none => exact site.fallback_lenient hlenient _ _

theorem backfill_lenient (r : Resolution) (name : String) (decl : TypeDecl) :
    ∃ r', (site.backfill r name decl).result = .ok r' := by
  rw [result_backfill]
  by_cases hskip : (r.isSet name || !isScalarType decl.typeName) = true
  · exact ⟨r, if_pos hskip⟩
  · rw [if_neg hskip]
    simp only []
    cases (r.cursor.take name (classify decl.typeName).kind?).value with
    | some value => exact site.accept_lenient hlenient _ _ _
    | none => exact ⟨_, rfl⟩

theorem fillDefault_lenient (r : Resolution) (name : String) :
    ∃ r', (site.fillDefault r name).result = .ok r' := by
  rw [result_fillDefault]
  by_cases hskip : (r.isSet name || site.schema.isLinkTyped name) = true
  · exact ⟨r, if_pos hskip⟩
  · rw [if_neg hskip]
    exact site.fallback_lenient hlenient _ _

theorem laterPasses_lenient (r : Resolution) :
    ∃ r₂ r₃, (site.backfillAll r site.schema.inputs).result = .ok r₂ ∧
      (site.fillDefaults r₂ site.schema.required.keys).result = .ok r₃ := by
  rcases foldlM_total site.schema.inputs
    (fun e _ r => site.backfill_lenient hlenient r e.1 e.2) r with ⟨r₂, h₂⟩
  rcases foldlM_total site.schema.required.keys
    (fun name _ r => site.fillDefault_lenient hlenient r name) r₂ with ⟨r₃, h₃⟩
  exact ⟨r₂, r₃, by rw [result_backfillAll, h₂], by rw [result_fillDefaults, h₃]⟩

theorem compile_lenient (h : ∀ s ∈ site.node.slots, site.Resolves s) :
    ∃ compiled, site.compile.result = .ok compiled := by
  rcases foldlM_total site.node.slots
    (fun s hs r => site.resolveSocket_lenient hlenient s (h s hs) r) site.start with ⟨r₁, h₁⟩
  rcases site.laterPasses_lenient hlenient r₁ with ⟨r₂, r₃, h₂, h₃⟩
  exact ⟨_, (site.compile_ok _).mpr
    ⟨r₁, r₂, r₃, by rw [result_resolveSockets, h₁], h₂, h₃, rfl⟩⟩

/-- A node that does not compile has a first linked socket without a source, and
    the error is about that socket. -/
theorem compile_lenient_error (error : CompileError) (h : site.compile.result = .error error) :
    ∃ front s back, site.node.slots = front ++ s :: back ∧ (∀ t ∈ front, site.Resolves t) ∧
      ¬site.Resolves s ∧ error = site.dangling s := by
  cases hsockets : (site.resolveSockets site.start site.node.slots).result with
  | ok r₁ =>
      -- The later passes cannot have failed.
      rcases site.laterPasses_lenient hlenient r₁ with ⟨r₂, r₃, h₂, h₃⟩
      rw [(site.compile_ok _).mpr ⟨r₁, r₂, r₃, hsockets, h₂, h₃, rfl⟩] at h
      cases h
  | error e =>
      have he : e = error := by
        unfold compile resolve at h
        simp only [Traced.result_bind, hsockets] at h
        exact Except.error.inj h
      rw [result_resolveSockets] at hsockets
      rcases foldlM_error_split site.node.slots site.start e hsockets with
        ⟨front, s, back, m, hsplit, hfront, hfail⟩
      -- A socket with a source goes through, so this one has none.
      have hnot : ¬site.Resolves s := by
        intro hs
        rcases site.resolveSocket_lenient hlenient s hs m with ⟨m', hm'⟩
        rw [hm'] at hfail
        cases hfail
      refine ⟨front, s, back, hsplit, fun t ht => ?_, hnot, ?_⟩
      · -- The steps before the failing one have succeeded.
        rcases foldlM_ok_at _ front t ht site.start m hfront with ⟨a, b, hstep⟩
        exact site.resolves_of_step t a b hstep
      · rw [site.resolveSocket_dangling s hnot] at hfail
        exact he.symm.trans (Except.error.inj hfail).symm

end Lenient

end Site

end PromptGraph
