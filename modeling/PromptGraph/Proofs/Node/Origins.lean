import PromptGraph.Proofs.Node.Inputs
import PromptGraph.Proofs.Takes

/-!
# Where Values Come From

A literal is a value that was read from the buffer of its node, or it comes from
elsewhere: it is the default that the class declares for its input, or the value
of a primitive node that a socket of its name is linked to.

The two are treated differently. A value that was read is checked, so it fits if
the site is strict. A default is copied as it is declared, and the value of a
primitive node is taken over as it is, unless the input is numeric and the value
is brought to its kind. Nobody looks at these again.

There are two reads that a value may be from. A socket that is bound to a stored
value reads under the name of the binding and for the kind that its input is
looked up with. The second pass reads for a declared scalar, under its name and
for the kind of that declaration. In a sequence the names do not matter, and what
is found is brought to the kind.

## Main definitions

* `ValueBuffer.Gives`: A buffer gives a value under a name and for a kind.
* `GraphNode.Stores`: The buffer of a node gives a value to a read for an input.
* `Site.FromElsewhere`: Where a value comes from that was not read.
* `Site.Elsewhere`, `Site.Sound`: What is said of an input in terms of this.

## Theorems

* `inlineValue_fits_or_eq`: The value of a primitive node fits or is taken over
  as it is.
* `Cursor.gives_of_take`: A read finds what the buffer gives.
* `Site.compile_literal`: Every literal is stored and admitted, or it comes from
  elsewhere.
-/

namespace PromptGraph

/-- A buffer gives a value: it has it under a name, or it is a sequence with a value that is
    brought to it for a kind. -/
def ValueBuffer.Gives (buffer : ValueBuffer) (name : String) (expected : Option Kind)
    (value : Json) : Prop :=
  match buffer with
  | .sequence values => ∃ stored ∈ values, coerce expected stored = some value
  | .keyed values => values.get? name = some value

/-- What a read finds is given by the buffer, wherever the cursor is. -/
theorem Cursor.gives_of_take (cursor : Cursor) (name : String) (expected : Option Kind)
    (value : Json) (h : (cursor.take name expected).value = some value) :
    cursor.buffer.Gives name expected value := by
  rcases cursor with ⟨buffer, position⟩
  cases buffer with
  | sequence values =>
      rcases (firstFit_found expected (values.drop position) value h).1 with
        ⟨stored, hget, hfits⟩
      exact ⟨stored, List.mem_of_mem_drop (List.mem_of_getElem? hget), hfits⟩
  | keyed values => exact h

/-- A node stores a value for an input: a socket of the input is bound to the value, or it is
    that of a declared scalar. -/
def GraphNode.Stores (node : GraphNode) (schema : ClassSchema) (name : String) (value : Json) :
    Prop :=
  (∃ s ∈ node.slots, s.2.name = name ∧ s.2.isLinkBound = false ∧ ∃ binding,
      s.2.widget = some binding ∧ node.values.Gives binding (schema.kind? name) value) ∨
    ∃ decl, (name, decl) ∈ schema.inputs ∧ isScalarType decl.typeName = true ∧
      node.values.Gives name (classify decl.typeName).kind? value

/-- The value of a primitive node fits the kind that it is taken over for, unless it is
    taken over as it is. -/
theorem inlineValue_fits_or_eq (expected : Option Kind) (value : Json) :
    fits expected (inlineValue expected value) = true ∨ inlineValue expected value = value := by
  cases expected with
  | none => exact Or.inr rfl
  | some kind =>
      unfold inlineValue
      by_cases hnumeric : kind.isNumeric = true
      · simp only [hnumeric, if_true]
        cases hcoerce : coerceTo kind value with
        | none => exact Or.inr rfl
        | some number =>
            -- The value was brought to the kind, so it fits.
            have hagain : coerceTo kind number = some number :=
              coerceTo_idem kind value number hcoerce
            refine Or.inl ?_
            unfold fits coerce
            simp only [Option.getD_some, hagain, Option.isSome_some]
      · exact Or.inr (if_neg hnumeric)

namespace Site

variable (site : Site) {r r' : Resolution}

/-- A value is one that a socket of a name takes over, or the default of that name. -/
def FromElsewhere (name : String) (value : Json) : Prop :=
  (∃ s ∈ site.node.slots, s.2.name = name ∧ site.Inlines s value) ∨
    site.schema.default? name = some value

/-- An input is a reference or a value from elsewhere. -/
def Elsewhere (name : String) (input : ResolvedInput) : Prop :=
  ∀ value, input = .value value → site.FromElsewhere name value

/-- An input is a reference, a stored value that is admitted, or a value from elsewhere. -/
def Sound (name : String) (input : ResolvedInput) : Prop :=
  ∀ value, input = .value value →
    site.node.Stores site.schema name value ∧ site.Admits name value ∨
      site.FromElsewhere name value

/-- What a strict site admits fits. -/
theorem Admits.fits {name : String} {value : Json} (h : site.Admits name value)
    (hstrict : site.strict = true) : fits (site.schema.kind? name) value = true := by
  cases hkind : site.schema.kind? name with
  | none => rfl
  | some kind => exact h hstrict kind hkind

theorem IsDefault.elsewhere {name : String} {input : ResolvedInput}
    (h : site.IsDefault name input) : site.Elsewhere name input := by
  rintro value rfl
  rcases h with ⟨value', hdefault, hvalue⟩
  cases hvalue
  exact Or.inr hdefault

theorem Brings.elsewhere {s : Slot × InputSocket} {input : ResolvedInput}
    (h : site.Brings s input) (hs : s ∈ site.node.slots) : site.Elsewhere s.2.name input := by
  rintro value rfl
  rcases h with ⟨-, source, sourceSlot, -, -, hvalue⟩ | ⟨value', hinlines, hvalue⟩ | hdefault
  · cases hvalue
  · cases hvalue
    exact Or.inl ⟨s, hs, rfl, hinlines⟩
  · exact hdefault.elsewhere site value rfl

theorem Elsewhere.sound {name : String} {input : ResolvedInput} (h : site.Elsewhere name input) :
    site.Sound name input := fun value hvalue => Or.inr (h value hvalue)

/-- A read for an input sets something sound if the node stores whatever it finds. -/
theorem Reads.sound {name : String} {read : Read} (h : site.Reads r r' name read)
    (hstored : ∀ value, read.value = some value → site.node.Stores site.schema name value) :
    r.Sets r' name (site.Sound name) := by
  rcases h with ⟨-, ⟨value, hfound, hadmits, hinputs⟩ | ⟨-, hsets⟩⟩
  · refine Or.inr ⟨_, fun value' hvalue => ?_, hinputs⟩
    cases hvalue
    exact Or.inl ⟨hstored value hfound, hadmits⟩
  · exact hsets.mono fun _ hdefault => (hdefault.elsewhere site).sound

/-- Every literal of a compiled node is stored and admitted, or it comes from elsewhere. -/
theorem compile_literal (compiled : CompiledNode) (h : site.compile.result = .ok compiled)
    (name : String) (value : Json) (hget : compiled.inputs.get? name = some (.value value)) :
    site.node.Stores site.schema name value ∧ site.Admits name value ∨
      site.FromElsewhere name value := by
  refine site.compile_inputs site.Sound (fun s hs r r' hbuffer hstep => ?_)
    (fun e he r r' hbuffer hstep => ?_) (fun name r r' hstep => ?_) compiled h name (.value value)
    hget value rfl
  · rcases site.resolveSocket_origin s hstep with
      ⟨-, -, hsets⟩ | ⟨hlink, ⟨binding, hwidget, hreads⟩ | ⟨-, rfl⟩⟩
    · exact hsets.mono fun _ hbrings => (hbrings.elsewhere site hs).sound
    · refine hreads.sound site fun value hfound => ?_
      have hgives := r.cursor.gives_of_take binding _ value hfound
      rw [hbuffer] at hgives
      exact Or.inl ⟨s, hs, rfl, hlink, binding, hwidget, hgives⟩
    · exact Or.inl rfl
  · rcases site.backfill_origin e.1 e.2 hstep with ⟨-, rfl⟩ | ⟨hpending, hreads⟩
    · exact Or.inl rfl
    · refine hreads.sound site fun value hfound => ?_
      have hgives := r.cursor.gives_of_take e.1 _ value hfound
      rw [hbuffer] at hgives
      exact Or.inr ⟨e.2, he, ((r.pending_iff e).mp hpending).2, hgives⟩
  · rcases site.fillDefault_origin name hstep with ⟨-, hsets, -⟩
    exact hsets.mono fun _ hdefault => (hdefault.elsewhere site).sound

end Site

end PromptGraph
