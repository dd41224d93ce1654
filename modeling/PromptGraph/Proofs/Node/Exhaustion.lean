import PromptGraph.Proofs.Node.References
import PromptGraph.Proofs.Node.Required
import PromptGraph.Proofs.Node.Takes
import PromptGraph.Proofs.Node.Validation

/-!
# Buffers That Run Out

A strict node compiles with whatever is in its buffer, down to nothing, if its required inputs
are secured: they have defaults, or they are left to links that bring something.

The buffer is a sequence. So a value that is read is not rejected, for the names of required
and optional inputs are distinct. What may happen is that a read finds nothing. Then the
default steps in, at the socket or in the third pass; and an input that has a link type is not
missed there. Such an input is missed at a socket only if the socket is bound to a stored value,
or fed by a primitive node that has none.

What a required input is set to was brought by a link, or read, or is the default. So if neither
a link nor a read supplied it, it is the default.

## Main definitions

* `Site.Secured`: A required input cannot be missed.
* `Site.Supplied`: A link or a read gave an input its value.

## Theorems

* `Site.exists_compiled_of_secured`: A node whose required inputs are secured compiles.
* `Site.default_of_not_supplied`: A required input that was not supplied has its default.
* `Site.compile_secured`: Both together.
-/

namespace PromptGraph

namespace Site

variable (site : Site)

/-- A required input cannot be missed. It has a default, or it has a link type and none of its
    sockets may look for a default: none is bound to a stored value or fed by a primitive node
    without a value. -/
def Secured (name : String) (decl : TypeDecl) : Prop :=
  decl.default?.isSome = true ∨
    decl.typeName ∈ linkTypes ∧ ∀ s ∈ site.node.slots, s.2.name = name →
      s.2.isValueBound = false ∧ ¬site.FedByEmpty s

/-- An input was supplied: a link brought its reference or value, or a read took a value for
    it. -/
def Supplied (name : String) : Prop :=
  (∃ s ∈ site.node.slots, s.2.name = name ∧
      ((∃ input, site.Refers s input) ∨ ∃ value, site.Inlines s value)) ∨
    ∃ t ∈ site.takes, t.request.dropped = false ∧ t.request.input = name

variable {site}

/-- The input that is missed is not secured by a default. -/
theorem Secured.link_of_lacks {name : String} {e : CompileError}
    (hsecured : ∀ name decl, site.schema.required.get? name = some decl → site.Secured name decl)
    (h : site.Lacks name e) : site.schema.isLinkTyped name = true ∧
      ∀ s ∈ site.node.slots, s.2.name = name → s.2.isValueBound = false ∧ ¬site.FedByEmpty s := by
  rcases site.schema.decl_of_missing name h.required h.default with ⟨decl, hdecl, hdefault⟩
  rcases hsecured name decl hdecl with hsome | ⟨hlink, hsockets⟩
  · rw [hdefault] at hsome
    cases hsome
  · exact ⟨(site.schema.isLinkTyped_iff_of_required name decl hdecl).mpr hlink, hsockets⟩

/-- A node whose required inputs are secured compiles, whatever is in its buffer. -/
theorem exists_compiled_of_secured (hsequence : site.node.values.isSequence = true)
    (hdisjoint : site.schema.required.keys.Disjoint site.schema.optional.keys)
    (hresolves : ∀ s ∈ site.node.slots, site.Resolves s)
    (hsecured : ∀ name decl, site.schema.required.get? name = some decl →
      site.Secured name decl) : ∃ compiled, site.compile.result = .ok compiled := by
  cases hresult : site.compile.result with
  | ok compiled => exact ⟨compiled, rfl⟩
  | error e =>
      -- Each fault is excluded by one of the conditions.
      cases site.compile_sequenceFault hsequence hresult with
      | dangling s hs hsource => exact absurd (hresolves s hs) hsource
      | unfilled _ s hs hsocket hlacks =>
          rcases (Secured.link_of_lacks hsecured hlacks).2 s hs rfl with ⟨hunbound, hfed⟩
          rcases hsocket with hbound | hempty
          · rw [hunbound] at hbound
            cases hbound
          · exact absurd hempty hfed
      | unset _ name hlink hlacks =>
          rw [(Secured.link_of_lacks hsecured hlacks).1] at hlink
          cases hlink
      | rejected name b _ hclash =>
          exact absurd hclash (ClassSchema.not_clashes_of_disjoint hdisjoint name)

/-- A required input that no link brought and no read took has its default, unless it is left
    to links. -/
theorem default_of_not_supplied (hstrict : site.strict = true)
    (hsequence : site.node.values.isSequence = true) (compiled : CompiledNode)
    (h : site.compile.result = .ok compiled) (name : String) (decl : TypeDecl)
    (hdecl : site.schema.required.get? name = some decl) (hlink : decl.typeName ∉ linkTypes)
    (hsupplied : ¬site.Supplied name) :
    ∃ value, decl.default? = some value ∧ compiled.inputs.get? name = some (.value value) := by
  have hset := site.compile_required hstrict compiled h name decl hdecl hlink
  rcases Option.isSome_iff_exists.mp hset with ⟨input, hinput⟩
  cases input with
  | reference src slot =>
      rcases site.compile_reference compiled h name src slot hinput with ⟨s, hs, hname, hrefers⟩
      exact absurd (Or.inl ⟨s, hs, hname, Or.inl ⟨_, hrefers⟩⟩) hsupplied
  | value value =>
      refine ⟨value, ?_, hinput⟩
      cases hvalues : site.node.values with
      | keyed named =>
          rw [hvalues] at hsequence
          cases hsequence
      | sequence values =>
          rcases (site.compile_ok compiled).mp h with ⟨r₁, r₂, r, h₁, h₂, h₃, rfl⟩
          have haccount := site.account_of_resolve hvalues
            ((site.resolve_ok r).mpr ⟨r₁, r₂, h₁, h₂, h₃⟩)
          -- The value has a source, and the default is the only one that is left.
          rcases haccount.sourced name _ hinput value rfl with
            (⟨s, hs, hname, hinlines⟩ | hdefault) | ⟨t, hlast, -⟩
          · exact absurd (Or.inl ⟨s, hs, hname, Or.inr ⟨value, hinlines⟩⟩) hsupplied
          · rwa [site.schema.default?_of_decl? name decl
              (site.schema.decl?_of_required name decl hdecl)] at hdefault
          · rcases lastTake?_eq_some _ name t hlast with ⟨ht, hkept, hrequest⟩
            exact absurd (Or.inr ⟨t, ht, hkept, hrequest⟩) hsupplied

/-- A strict node compiles with any sequence as its buffer, if its linked sockets have sources,
    no input is both required and optional, and the required inputs are secured. Each required
    input that is not left to links and was not supplied has its default. -/
theorem compile_secured (site : Site) (hstrict : site.strict = true)
    (hsequence : site.node.values.isSequence = true)
    (hdisjoint : site.schema.required.keys.Disjoint site.schema.optional.keys)
    (hresolves : ∀ s ∈ site.node.slots, site.Resolves s)
    (hsecured : ∀ name decl, site.schema.required.get? name = some decl →
      site.Secured name decl) :
    ∃ compiled, site.compile.result = .ok compiled ∧
      ∀ name decl, site.schema.required.get? name = some decl → decl.typeName ∉ linkTypes →
        ¬site.Supplied name →
          ∃ value, decl.default? = some value ∧
            compiled.inputs.get? name = some (.value value) := by
  rcases exists_compiled_of_secured hsequence hdisjoint hresolves hsecured with ⟨compiled, h⟩
  exact ⟨compiled, h, default_of_not_supplied hstrict hsequence compiled h⟩

/-- A sampler with a single value in its buffer. Its model is fed by a link, the seed and the
    number of steps are bound to stored values, and the scale has no socket. -/
def starved : Site :=
  { node := ⟨"4", "KSampler", [.linked "model" 1, .bound "seed", .bound "steps"], [],
      .sequence [jsonOfUInt64 42]⟩
    schema := (((ClassSchema.empty.withRequired "model" (.ofName "MODEL")).withRequired "seed"
      ((TypeDecl.ofName "INT").withDefault (jsonOfUInt64 0))).withRequired "steps"
        ((TypeDecl.ofName "INT").withDefault (jsonOfUInt64 20))).withRequired "cfg"
          ((TypeDecl.ofName "FLOAT").withDefault (jsonOfUInt64 8))
    links := .ofLinks [⟨some 1, "3", 0, "4", 0⟩]
    nodes := .ofNodes [⟨"3", "Loader", [], [], .empty⟩]
    strict := true }

theorem source?_starved : starved.source? 0 = some (⟨"3", "Loader", [], [], .empty⟩, 0) := by
  unfold source? starved
  simp only [LinkIndex.source?_ofLinks, NodeIndex.node?_ofNodes]
  rfl

/-- The only value goes to the seed. -/
theorem takes_starved :
    starved.takes = [⟨⟨"seed", some .int, false⟩, 0, jsonOfUInt64 42⟩] := by
  have hmodel : (starved.resolveSocket starved.start 0 (.linked "model" 1)).result =
      .ok (starved.start.set "model" (.reference "3" 0)) := by
    refine (starved.result_resolveLink _ 0 (.linked "model" 1)).trans ?_
    rw [source?_starved]
    rfl
  have hslots : starved.node.slots =
      [(0, .linked "model" 1), (1, .bound "seed"), (2, .bound "steps")] := rfl
  unfold takes
  rw [result_resolveSockets, hslots, List.foldlM_cons, takesAlong, hmodel]
  rfl

/-- No required input of the sampler can be missed. -/
theorem secured_starved (name : String) (decl : TypeDecl)
    (hdecl : starved.schema.required.get? name = some decl) : starved.Secured name decl := by
  have hall : ∀ e ∈ starved.schema.required.entries, starved.Secured e.1 e.2 := by
    refine List.forall_mem_cons.mpr
      ⟨Or.inr ⟨by decide, fun s hs hname => ?_⟩, fun e he => Or.inl ?_⟩
    · -- The model has one socket, which is fed by the loader.
      have hsocket : ∀ s ∈ starved.node.slots, s.2.name = "model" →
          s.1 = 0 ∧ s.2.isValueBound = false := by decide
      rcases hsocket s hs hname with ⟨hslot, hbound⟩
      refine ⟨hbound, ?_⟩
      rintro ⟨-, source, sourceSlot, hsource, hclass, -⟩
      rw [hslot, source?_starved] at hsource
      cases hsource
      exact absurd hclass (by decide)
    · -- The others have defaults.
      have hdefaults : ∀ e ∈ starved.schema.required.entries.tail,
          e.2.default?.isSome = true := by decide
      exact hdefaults e he
  exact hall (name, decl) (OrderedMap.mem_of_get? _ name decl hdecl)

/-- The sampler compiles, with the default for the number of steps. -/
theorem starved_steps_default :
    ∃ compiled, starved.compile.result = .ok compiled ∧
      compiled.inputs.get? "steps" = some (.value (jsonOfUInt64 20)) := by
  have hresolves : ∀ s ∈ starved.node.slots, starved.Resolves s := by
    have hlinked : ∀ s ∈ starved.node.slots, s.2.isLinkBound = true → s.1 = 0 := by decide
    intro s hs hlink
    rw [hlinked s hs hlink, source?_starved]
    rfl
  have hsupplied : ¬starved.Supplied "steps" := by
    have hunlinked : ∀ s ∈ starved.node.slots, s.2.name = "steps" →
        s.2.isLinkBound = false := by decide
    rintro (⟨s, hs, hname, ⟨input, hlink, -⟩ | ⟨value, hlink, -⟩⟩ | ⟨t, ht, -, hname⟩)
    · rw [hunlinked s hs hname] at hlink
      cases hlink
    · rw [hunlinked s hs hname] at hlink
      cases hlink
    · rw [takes_starved] at ht
      rw [List.mem_singleton.mp ht] at hname
      exact absurd hname (by decide)
  rcases starved.compile_secured rfl rfl (List.disjoint_nil_right _) hresolves secured_starved with
    ⟨compiled, hcompiled, hdefaults⟩
  rcases hdefaults "steps" _ rfl (by decide) hsupplied with ⟨value, hvalue, hinput⟩
  cases hvalue
  exact ⟨compiled, hcompiled, hinput⟩

end Site

end PromptGraph
