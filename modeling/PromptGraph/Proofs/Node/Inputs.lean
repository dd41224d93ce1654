import PromptGraph.Proofs.Cursor
import PromptGraph.Proofs.Node.Steps

/-!
# What a Step Does to the Inputs

A step of any pass is about one input. It sets that input or leaves all of them
alone, and what it may set depends on the pass. A linked socket sets what its
link brings: a reference, or the value of a primitive node. A bound socket and
the second pass read the buffer and set what they find. Where there is nothing
to set, the default steps in.

The lemmas that end in `_origin` say of each step what it sets and where it
leaves the cursor. Those that end in `_sets` forget the buffer, the primitive
nodes and the defaults, which are all alike as far as references go. What holds
of the inputs of a compiled node is an induction over the passes that looks at a
step through one of these two.

## Main definitions

* `Resolution.Sets`: One input is set to something allowed, or none.
* `Resolution.All`: All inputs that are set are allowed.
* `ResolvedInput.IsValue`: The input is a literal value.
* `Site.Refers`: A socket leads to an output of a node that is not primitive.
* `Site.Inlines`: A socket takes over the value of a primitive node.
* `Site.Brings`: What a link may bring to a socket.
* `Site.Admits`: A value fits an input, or need not.
* `Site.Reads`: A step makes a read for an input.

## Theorems

* `Resolution.Sets.get?_other`: Other inputs are as before.
* `Resolution.Sets.get?_eq_some`: An input was set before or by the step.
* `Site.resolveSocket_origin`, `Site.backfill_origin`, `Site.fillDefault_origin`:
  What the steps read and set.
* `Site.buffer_resolveSocket`, `Site.buffer_backfill`: The buffer stays as it is.
* `Site.resolveSocket_sets`, `Site.backfill_sets`, `Site.fillDefault_sets`: What
  the steps set, values being all alike.
* `Site.resolveSocket_refers`: A socket that refers sets its reference.
* `Site.backfillAll_keeps`, `Site.fillDefaults_keeps`: The later passes do not
  touch what is set.
* `Site.compile_inputs`: What holds of all that the steps set holds of the inputs
  of a compiled node.
-/

namespace PromptGraph

namespace ResolvedInput

/-- The input is a literal value. -/
def IsValue (input : ResolvedInput) : Prop := ∃ value, input = .value value

theorem isValue_value (value : Json) : (ResolvedInput.value value).IsValue := ⟨value, rfl⟩

theorem not_isValue_reference (node : NodeId) (slot : Slot) :
    ¬(ResolvedInput.reference node slot).IsValue := by
  rintro ⟨value, h⟩
  cases h

end ResolvedInput

namespace Resolution

/-- From one state to another, one input is set to something allowed, or none. -/
def Sets (r r' : Resolution) (name : String) (allowed : ResolvedInput → Prop) : Prop :=
  r'.inputs = r.inputs ∨ ∃ input, allowed input ∧ r'.inputs = r.inputs.insert name input

/-- All inputs that are set are allowed under their names. -/
def All (allowed : String → ResolvedInput → Prop) (r : Resolution) : Prop :=
  ∀ name input, r.inputs.get? name = some input → allowed name input

namespace Sets

variable {r r' : Resolution} {name : String} {allowed : ResolvedInput → Prop}

theorem get?_other (h : Sets r r' name allowed) (other : String) (hne : other ≠ name) :
    r'.inputs.get? other = r.inputs.get? other := by
  rcases h with h | ⟨input, -, h⟩
  · rw [h]
  · rw [h, OrderedMap.get?_insert, if_neg hne]

theorem get?_eq_some (h : Sets r r' name allowed) (other : String) (input : ResolvedInput)
    (hget : r'.inputs.get? other = some input) :
    r.inputs.get? other = some input ∨ other = name ∧ allowed input := by
  rcases h with h | ⟨set, hset, h⟩
  · rw [h] at hget
    exact Or.inl hget
  · rw [h, OrderedMap.get?_insert] at hget
    by_cases hname : other = name
    · rw [if_pos hname, Option.some.injEq] at hget
      exact Or.inr ⟨hname, hget ▸ hset⟩
    · rw [if_neg hname] at hget
      exact Or.inl hget

theorem mono {wider : ResolvedInput → Prop} (h : Sets r r' name allowed)
    (hwider : ∀ input, allowed input → wider input) : Sets r r' name wider := by
  rcases h with h | ⟨input, hinput, h⟩
  · exact Or.inl h
  · exact Or.inr ⟨input, hwider input hinput, h⟩

/-- If what is set is allowed, all inputs are as they were before. -/
theorem all {allowed : String → ResolvedInput → Prop} (h : Sets r r' name (allowed name))
    (hall : r.All allowed) : r'.All allowed := by
  intro other input hget
  rcases h.get?_eq_some other input hget with hbefore | ⟨rfl, hset⟩
  · exact hall other input hbefore
  · exact hset

end Sets

end Resolution

namespace Site

variable (site : Site) {r r' : Resolution}

/-- A socket refers to an output: it is fed by a link from a node that is not
    primitive, and the input is the reference to where the link starts. -/
def Refers (s : Slot × InputSocket) (input : ResolvedInput) : Prop :=
  s.2.isLinkBound = true ∧ ∃ source sourceSlot, site.source? s.1 = some (source, sourceSlot) ∧
    source.classType ≠ primitiveClass ∧ input = .reference source.id sourceSlot

/-- A socket takes over a value: it is fed by a link from a primitive node that has
    one. -/
def Inlines (s : Slot × InputSocket) (value : Json) : Prop :=
  s.2.isLinkBound = true ∧ ∃ source sourceSlot first,
    site.source? s.1 = some (source, sourceSlot) ∧ source.classType = primitiveClass ∧
      source.values.first? = some first ∧
        value = inlineValue (site.schema.kind? s.2.name) first

/-- An input is the default that is declared for its name. -/
def IsDefault (name : String) (input : ResolvedInput) : Prop :=
  ∃ value, site.schema.default? name = some value ∧ input = .value value

/-- What a link may bring to a socket: a reference, the value of a primitive node, or
    the default if that node has no value. -/
def Brings (s : Slot × InputSocket) (input : ResolvedInput) : Prop :=
  site.Refers s input ∨ (∃ value, site.Inlines s value ∧ input = .value value) ∨
    site.IsDefault s.2.name input

/-- A value fits the kind that its input is declared with, if the site is strict. -/
def Admits (name : String) (value : Json) : Prop :=
  site.strict = true → ∀ kind, site.schema.kind? name = some kind → fits (some kind) value = true

/-- A step makes a read for an input. It sets the input to the value that was found, and
    if none was found, to its default or not at all. -/
def Reads (r r' : Resolution) (name : String) (read : Read) : Prop :=
  r'.cursor = read.cursor ∧
    ((∃ value, read.value = some value ∧ site.Admits name value ∧
        r'.inputs = r.inputs.insert name (.value value)) ∨
      read.value = none ∧ r.Sets r' name (site.IsDefault name))

theorem IsDefault.isValue {name : String} {input : ResolvedInput} (h : site.IsDefault name input) :
    input.IsValue := by
  rcases h with ⟨value, -, hvalue⟩
  exact ⟨value, hvalue⟩

theorem Brings.isValue_or_refers {s : Slot × InputSocket} {input : ResolvedInput}
    (h : site.Brings s input) : input.IsValue ∨ site.Refers s input := by
  rcases h with hrefers | ⟨value, -, hvalue⟩ | hdefault
  · exact Or.inr hrefers
  · exact Or.inl ⟨value, hvalue⟩
  · exact Or.inl hdefault.isValue

theorem Reads.sets_value {name : String} {read : Read} (h : site.Reads r r' name read) :
    r.Sets r' name ResolvedInput.IsValue := by
  rcases h with ⟨-, ⟨value, -, -, hinputs⟩ | ⟨-, hsets⟩⟩
  · exact Or.inr ⟨_, ResolvedInput.isValue_value value, hinputs⟩
  · exact hsets.mono fun _ hdefault => hdefault.isValue

theorem accept_reads (name : String) (value : Json) (read : Read)
    (hread : read.value = some value) (h : site.accept (r.moveTo read.cursor) name value = .ok r') :
    site.Reads r r' name read := by
  rcases (site.accept_ok _ r' name value).mp h with ⟨hadmits, rfl⟩
  exact ⟨rfl, Or.inl ⟨value, hread, hadmits, rfl⟩⟩

theorem fallback_origin (name : String) (h : site.fallback r name = .ok r') :
    r'.cursor = r.cursor ∧ r.Sets r' name (site.IsDefault name) := by
  rcases (site.fallback_ok r r' name).mp h with ⟨value, hdefault, rfl⟩ | ⟨-, -, rfl⟩
  · exact ⟨rfl, Or.inr ⟨_, ⟨value, hdefault, rfl⟩, rfl⟩⟩
  · exact ⟨rfl, Or.inl rfl⟩

theorem resolveBinding_reads (name binding : String)
    (h : (site.resolveBinding r name binding).result = .ok r') :
    site.Reads r r' name (r.cursor.take binding (site.schema.kind? name)) := by
  rw [result_resolveBinding] at h
  simp only [] at h
  cases hread : (r.cursor.take binding (site.schema.kind? name)).value with
  | some value =>
      rw [hread] at h
      exact site.accept_reads name value _ hread h
  | none =>
      rw [hread] at h
      rcases site.fallback_origin name h with ⟨hcursor, hsets⟩
      exact ⟨hcursor, Or.inr ⟨hread, hsets⟩⟩

/-- A linked socket drops the value that is stored for it and sets what its link
    brings. -/
theorem resolveLink_origin (s : Slot × InputSocket) (hlink : s.2.isLinkBound = true)
    (h : (site.resolveLink r s.1 s.2).result = .ok r') :
    r'.cursor = (site.dropStored r s.2.name).cursor ∧ r.Sets r' s.2.name (site.Brings s) := by
  have hinputs := site.inputs_dropStored r s.2.name
  rcases (site.resolveLink_ok r r' s.1 s.2).mp h with
    ⟨source, sourceSlot, hsource, ⟨hclass, rfl⟩ | ⟨hclass, ⟨value, hfirst, rfl⟩ | ⟨-, hdefault⟩⟩⟩
  · -- A node that is not primitive: its reference.
    have hrefers : site.Refers s (.reference source.id sourceSlot) :=
      ⟨hlink, source, sourceSlot, hsource, hclass, rfl⟩
    refine ⟨rfl, Or.inr ⟨_, Or.inl hrefers, ?_⟩⟩
    rw [Resolution.inputs_set, hinputs]
  · -- A primitive node with a value: that value.
    have hinlines : site.Inlines s (inlineValue (site.schema.kind? s.2.name) value) :=
      ⟨hlink, source, sourceSlot, value, hsource, hclass, hfirst, rfl⟩
    refine ⟨rfl, Or.inr ⟨_, Or.inr (Or.inl ⟨_, hinlines, rfl⟩), ?_⟩⟩
    rw [Resolution.inputs_set, hinputs]
  · -- A primitive node without one: the default.
    rcases site.fallback_origin s.2.name hdefault with ⟨hcursor, hsets⟩
    unfold Resolution.Sets at hsets
    rw [hinputs] at hsets
    exact ⟨hcursor, Resolution.Sets.mono hsets fun _ h => Or.inr (Or.inr h)⟩

/-- What a socket reads and sets. One that is linked drops a value, one that is bound
    takes one, and any other does nothing. -/
theorem resolveSocket_origin (s : Slot × InputSocket)
    (h : (site.resolveSocket r s.1 s.2).result = .ok r') :
    (s.2.isLinkBound = true ∧ r'.cursor = (site.dropStored r s.2.name).cursor ∧
        r.Sets r' s.2.name (site.Brings s)) ∨
      s.2.isLinkBound = false ∧
        ((∃ binding, s.2.widget = some binding ∧
            site.Reads r r' s.2.name (r.cursor.take binding (site.schema.kind? s.2.name))) ∨
          s.2.widget = none ∧ r' = r) := by
  rw [result_resolveSocket] at h
  by_cases hlink : s.2.isLinkBound = true
  · rw [if_pos hlink] at h
    exact Or.inl ⟨hlink, site.resolveLink_origin s hlink h⟩
  · rw [if_neg hlink] at h
    refine Or.inr ⟨eq_false_of_ne_true hlink, ?_⟩
    cases hwidget : s.2.widget with
    | some binding =>
        rw [hwidget] at h
        exact Or.inl ⟨binding, rfl, site.resolveBinding_reads s.2.name binding h⟩
    | none =>
        rw [hwidget] at h
        cases h
        exact Or.inr ⟨rfl, rfl⟩

/-- The second pass reads a value for an input that is pending and leaves the others
    alone. -/
theorem backfill_origin (name : String) (decl : TypeDecl)
    (h : (site.backfill r name decl).result = .ok r') :
    (r.pending (name, decl) = false ∧ r' = r) ∨
      r.pending (name, decl) = true ∧
        site.Reads r r' name (r.cursor.take name (classify decl.typeName).kind?) := by
  cases hpending : r.pending (name, decl) with
  | false =>
      rw [site.backfill_of_not_pending r (name, decl) hpending, Except.ok.injEq] at h
      exact Or.inl ⟨rfl, h.symm⟩
  | true =>
      refine Or.inr ⟨rfl, ?_⟩
      rw [site.result_backfill_of_pending r (name, decl) hpending] at h
      simp only [] at h
      cases hread : (r.cursor.take name (classify decl.typeName).kind?).value with
      | some value =>
          rw [hread] at h
          exact site.accept_reads name value _ hread h
      | none =>
          rw [hread] at h
          cases h
          exact ⟨rfl, Or.inr ⟨hread, Or.inl rfl⟩⟩

/-- The third pass reads nothing, and leaves inputs alone that are set. -/
theorem fillDefault_origin (name : String) (h : (site.fillDefault r name).result = .ok r') :
    r'.cursor = r.cursor ∧ r.Sets r' name (site.IsDefault name) ∧
      (r.isSet name = true → r' = r) := by
  rw [result_fillDefault] at h
  by_cases hskip : (r.isSet name || site.schema.isLinkTyped name) = true
  · rw [if_pos hskip] at h
    cases h
    exact ⟨rfl, Or.inl rfl, fun _ => rfl⟩
  · rw [if_neg hskip] at h
    rcases site.fallback_origin name h with ⟨hcursor, hsets⟩
    exact ⟨hcursor, hsets, fun hset => absurd (by rw [hset]; rfl) hskip⟩

/-- A socket moves the cursor at most. -/
theorem buffer_resolveSocket (s : Slot × InputSocket)
    (h : (site.resolveSocket r s.1 s.2).result = .ok r') : r'.cursor.buffer = r.cursor.buffer := by
  rcases site.resolveSocket_origin s h with
    ⟨-, hcursor, -⟩ | ⟨-, ⟨binding, -, hcursor, -⟩ | ⟨-, rfl⟩⟩
  · rw [hcursor]
    unfold dropStored
    split <;> rfl
  · rw [hcursor, Cursor.buffer_take]
  · rfl

theorem buffer_backfill (name : String) (decl : TypeDecl)
    (h : (site.backfill r name decl).result = .ok r') : r'.cursor.buffer = r.cursor.buffer := by
  rcases site.backfill_origin name decl h with ⟨-, rfl⟩ | ⟨-, hcursor, -⟩
  · rfl
  · rw [hcursor, Cursor.buffer_take]

/-- A socket sets a value, or the reference that it leads to. -/
theorem resolveSocket_sets (s : Slot × InputSocket)
    (h : (site.resolveSocket r s.1 s.2).result = .ok r') :
    r.Sets r' s.2.name fun input => input.IsValue ∨ site.Refers s input := by
  rcases site.resolveSocket_origin s h with ⟨-, -, hsets⟩ | ⟨-, ⟨binding, -, hreads⟩ | ⟨-, rfl⟩⟩
  · exact hsets.mono fun _ hbrings => hbrings.isValue_or_refers
  · exact hreads.sets_value.mono fun _ => Or.inl
  · exact Or.inl rfl

/-- A socket that refers to an output always goes through and sets that reference,
    whatever is set already. -/
theorem resolveSocket_refers (s : Slot × InputSocket) (input : ResolvedInput)
    (hrefers : site.Refers s input) (r : Resolution) :
    (site.resolveSocket r s.1 s.2).result = .ok ((site.dropStored r s.2.name).set s.2.name input)
      := by
  rcases hrefers with ⟨hlink, source, sourceSlot, hsource, hclass, rfl⟩
  rw [result_resolveSocket, if_pos hlink, result_resolveLink, hsource]
  exact if_pos hclass

/-- The second pass sets values, and only where nothing is set. -/
theorem backfill_sets (name : String) (decl : TypeDecl)
    (h : (site.backfill r name decl).result = .ok r') :
    r.Sets r' name ResolvedInput.IsValue ∧ (r.isSet name = true → r' = r) := by
  rcases site.backfill_origin name decl h with ⟨-, rfl⟩ | ⟨hpending, hreads⟩
  · exact ⟨Or.inl rfl, fun _ => rfl⟩
  · refine ⟨hreads.sets_value, fun hset => ?_⟩
    unfold Resolution.pending at hpending
    rw [hset] at hpending
    cases hpending

theorem fillDefault_sets (name : String) (h : (site.fillDefault r name).result = .ok r') :
    r.Sets r' name ResolvedInput.IsValue ∧ (r.isSet name = true → r' = r) := by
  rcases site.fillDefault_origin name h with ⟨-, hsets, hkeeps⟩
  exact ⟨hsets.mono fun _ hdefault => hdefault.isValue, hkeeps⟩

theorem sets_keeps {name other : String} {allowed : ResolvedInput → Prop} {input : ResolvedInput}
    (h : r.Sets r' name allowed ∧ (r.isSet name = true → r' = r))
    (hget : r.inputs.get? other = some input) : r'.inputs.get? other = some input := by
  by_cases hname : other = name
  · -- The step is about this input, which is set, so the step does nothing.
    have hset : r.isSet name = true := by
      rw [Resolution.isSet_eq_isSome, ← hname, hget]
      rfl
    rw [h.2 hset]
    exact hget
  · rw [h.1.get?_other other hname]
    exact hget

theorem backfillAll_keeps (decls : Entries TypeDecl) (name : String) (input : ResolvedInput)
    (h : (site.backfillAll r decls).result = .ok r')
    (hget : r.inputs.get? name = some input) : r'.inputs.get? name = some input := by
  rw [result_backfillAll] at h
  exact foldlM_invariant (fun r => r.inputs.get? name = some input) decls
    (fun e _ a b ha hb => sets_keeps (site.backfill_sets e.1 e.2 hb) ha) r r' hget h

theorem fillDefaults_keeps (names : List String) (name : String) (input : ResolvedInput)
    (h : (site.fillDefaults r names).result = .ok r')
    (hget : r.inputs.get? name = some input) : r'.inputs.get? name = some input := by
  rw [result_fillDefaults] at h
  exact foldlM_invariant (fun r => r.inputs.get? name = some input) names
    (fun n _ a b ha hb => sets_keeps (site.fillDefault_sets n hb) ha) r r' hget h

/-- Every input of a compiled node was set by some step, with the buffer of the node, so what is
    true of whatever a step sets is true of it. -/
theorem compile_inputs (allowed : String → ResolvedInput → Prop)
    (hsocket : ∀ s ∈ site.node.slots, ∀ r r', r.cursor.buffer = site.node.values →
      (site.resolveSocket r s.1 s.2).result = .ok r' → r.Sets r' s.2.name (allowed s.2.name))
    (hbackfill : ∀ e ∈ site.schema.inputs, ∀ r r', r.cursor.buffer = site.node.values →
      (site.backfill r e.1 e.2).result = .ok r' → r.Sets r' e.1 (allowed e.1))
    (hdefault : ∀ name r r', (site.fillDefault r name).result = .ok r' →
      r.Sets r' name (allowed name))
    (compiled : CompiledNode) (h : site.compile.result = .ok compiled) (name : String)
    (input : ResolvedInput) (hget : compiled.inputs.get? name = some input) :
    allowed name input := by
  rcases (site.compile_ok compiled).mp h with ⟨r₁, r₂, r₃, h₁, h₂, h₃, rfl⟩
  rw [result_resolveSockets] at h₁
  rw [result_backfillAll] at h₂
  rw [result_fillDefaults] at h₃
  -- The invariant is that the buffer is that of the node and all that is set is allowed.
  have hstart : site.start.cursor.buffer = site.node.values ∧ site.start.All allowed :=
    ⟨rfl, fun name input hnone => (by cases hnone)⟩
  have hsockets := foldlM_invariant
    (fun r => r.cursor.buffer = site.node.values ∧ r.All allowed) site.node.slots
    (fun s hs r r' hr hstep => ⟨(site.buffer_resolveSocket s hstep).trans hr.1,
      (hsocket s hs r r' hr.1 hstep).all hr.2⟩) site.start r₁ hstart h₁
  have hbackfilled := foldlM_invariant
    (fun r => r.cursor.buffer = site.node.values ∧ r.All allowed) site.schema.inputs
    (fun e he r r' hr hstep => ⟨(site.buffer_backfill e.1 e.2 hstep).trans hr.1,
      (hbackfill e he r r' hr.1 hstep).all hr.2⟩) r₁ r₂ hsockets h₂
  have hfilled := foldlM_invariant (Resolution.All allowed) site.schema.required.keys
    (fun n _ r r' hr hstep => (hdefault n r r' hstep).all hr) r₂ r₃ hbackfilled.2 h₃
  exact hfilled name input hget

end Site

end PromptGraph
