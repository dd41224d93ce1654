import PromptGraph.Proofs.Node.Dangling

/-!
# Faults of a Node

The errors that a node can end in, each with what has to be the case for it.

Only three things can go wrong. A socket that is fed by a link may have no
source; a value that was read may not fit the kind of its input; and an input
may be left without a value. The last two are faults only if the site is strict.

The first pass can end in each of these ways, the second only in a value that
does not fit, and the third only in an input without a value. As an input is
left without a value only when its default is looked for in vain, there is no
default for it, and it is declared as required.

## Main definitions

* `Site.Fault`: The errors of a node and their causes.

## Theorems

* `Site.resolveSocket_fault`, `Site.backfill_fault`, `Site.fillDefault_fault`:
  The steps of the passes fail in these ways.
* `Site.compile_fault`: And so does a node.
-/

namespace PromptGraph

namespace Site

/-- The errors that a node can end in, with their causes. -/
inductive Fault (site : Site) : CompileError → Prop where
  /-- A socket is fed by a link that has no source. -/
  | dangling (s : Slot × InputSocket) (hs : s ∈ site.node.slots) (hsource : ¬site.Resolves s) :
      Fault site (site.dangling s)
  /-- A required input has neither a value nor a default. -/
  | missing (name : String) (hstrict : site.strict = true)
      (hrequired : site.schema.isRequired name = true)
      (hdefault : site.schema.default? name = none) :
      Fault site (.missingRequiredInput site.node.id site.node.classType name)
  /-- A value that was read does not fit the kind of its input. -/
  | mismatch (name : String) (kind : Kind) (value : Json) (hstrict : site.strict = true)
      (hkind : site.schema.kind? name = some kind) (hfits : fits (some kind) value = false) :
      Fault site (.typeMismatch site.node.id site.node.classType name kind value)

variable (site : Site) (r : Resolution) (e : CompileError)

theorem accept_fault (name : String) (value : Json) (h : site.accept r name value = .error e) :
    site.Fault e := by
  rcases (site.accept_error r name value e).mp h with ⟨hstrict, kind, hkind, hfits, rfl⟩
  exact .mismatch name kind value hstrict hkind hfits

theorem fallback_fault (name : String) (h : site.fallback r name = .error e) : site.Fault e := by
  rcases (site.fallback_error r name e).mp h with ⟨hstrict, hrequired, hdefault, rfl⟩
  exact .missing name hstrict hrequired hdefault

theorem resolveLink_fault (s : Slot × InputSocket) (hs : s ∈ site.node.slots)
    (hlink : s.2.isLinkBound = true) (h : (site.resolveLink r s.1 s.2).result = .error e) :
    site.Fault e := by
  rw [result_resolveLink] at h
  cases hsource : site.source? s.1 with
  | none =>
      -- The link leads from nowhere, and the error says just that.
      have hnot : ¬site.Resolves s := by
        intro hresolves
        have hsome := hresolves hlink
        rw [hsource] at hsome
        cases hsome
      rw [hsource] at h
      cases h
      exact .dangling s hs hnot
  | some found =>
      rcases found with ⟨source, sourceSlot⟩
      rw [hsource] at h
      simp only [] at h
      -- References and values of primitive nodes are set without a check.
      by_cases hclass : source.classType ≠ primitiveClass
      · rw [if_pos hclass] at h
        cases h
      · rw [if_neg hclass] at h
        cases hfirst : source.values.first? with
        | some value =>
            rw [hfirst] at h
            cases h
        | none =>
            rw [hfirst] at h
            exact site.fallback_fault _ e s.2.name h

theorem resolveBinding_fault (name binding : String)
    (h : (site.resolveBinding r name binding).result = .error e) : site.Fault e := by
  rw [result_resolveBinding] at h
  simp only [] at h
  cases hread : (r.cursor.take binding (site.schema.kind? name)).value with
  | some value =>
      rw [hread] at h
      exact site.accept_fault _ e name value h
  | none =>
      rw [hread] at h
      exact site.fallback_fault _ e name h

theorem resolveSocket_fault (s : Slot × InputSocket) (hs : s ∈ site.node.slots)
    (h : (site.resolveSocket r s.1 s.2).result = .error e) : site.Fault e := by
  rw [result_resolveSocket] at h
  by_cases hlink : s.2.isLinkBound = true
  · rw [if_pos hlink] at h
    exact site.resolveLink_fault r e s hs hlink h
  · rw [if_neg hlink] at h
    cases hwidget : s.2.widget with
    | some binding =>
        rw [hwidget] at h
        exact site.resolveBinding_fault r e s.2.name binding h
    | none =>
        rw [hwidget] at h
        cases h

theorem backfill_fault (name : String) (decl : TypeDecl)
    (h : (site.backfill r name decl).result = .error e) : site.Fault e := by
  rw [result_backfill] at h
  by_cases hskip : (r.isSet name || !isScalarType decl.typeName) = true
  · rw [if_pos hskip] at h
    cases h
  · rw [if_neg hskip] at h
    simp only [] at h
    cases hread : (r.cursor.take name (classify decl.typeName).kind?).value with
    | some value =>
        rw [hread] at h
        exact site.accept_fault _ e name value h
    | none =>
        rw [hread] at h
        cases h

theorem fillDefault_fault (name : String) (h : (site.fillDefault r name).result = .error e) :
    site.Fault e := by
  rw [result_fillDefault] at h
  by_cases hskip : (r.isSet name || site.schema.isLinkTyped name) = true
  · rw [if_pos hskip] at h
    cases h
  · rw [if_neg hskip] at h
    exact site.fallback_fault r e name h

/-- A node that does not compile ends in one of its faults. -/
theorem compile_fault (h : site.compile.result = .error e) : site.Fault e := by
  -- Some pass fails, and it fails at some step.
  rcases (site.compile_error e).mp h with hsockets | ⟨r₁, -, hbackfill | ⟨r₂, -, hdefaults⟩⟩
  · rw [result_resolveSockets] at hsockets
    rcases foldlM_error_split _ _ e hsockets with ⟨front, s, back, m, hsplit, -, hstep⟩
    have hs : s ∈ site.node.slots := hsplit ▸ List.mem_append_right front (List.mem_cons_self ..)
    exact site.resolveSocket_fault m e s hs hstep
  · rw [result_backfillAll] at hbackfill
    rcases foldlM_error_split _ _ e hbackfill with ⟨-, entry, -, m, -, -, hstep⟩
    exact site.backfill_fault m e entry.1 entry.2 hstep
  · rw [result_fillDefaults] at hdefaults
    rcases foldlM_error_split _ _ e hdefaults with ⟨-, name, -, m, -, -, hstep⟩
    exact site.fillDefault_fault m e name hstep

end Site

end PromptGraph
