import PromptGraph.Proofs.Declarations
import PromptGraph.Proofs.Node.Faults
import PromptGraph.Proofs.Node.Inputs

/-!
# Required Inputs

What becomes of the inputs that a class requires.

The third pass goes through all of them. One that is set by then stays as it is,
and one with a link type is left to its link. Any other takes its default, and
without a default a strict site stops there. So a strict run that gets through
the pass has set each required input of another type, whichever pass it was that
set it, since nothing unsets an input.

On the other hand a strict run stops for want of a value only at an input that
is required and has no default. How the input is declared besides, as optional
or as hidden, does not matter, for a look-up finds it as required.

## Theorems

* `ClassSchema.decl_of_missing`: How an input is declared that may be missed.
* `Site.fillDefault_isSet`: The step for an input leaves it set.
* `Site.fillDefaults_isSet`: So does the pass.
* `Site.compile_required`: A strict node has its required inputs.
* `Site.required_of_missing`: The input that an error reports as missing.
-/

namespace PromptGraph

namespace ClassSchema

variable (schema : ClassSchema) (name : String)

/-- An input that has to be there and has no default is declared so. -/
theorem decl_of_missing (hrequired : schema.isRequired name = true)
    (hdefault : schema.default? name = none) :
    ∃ decl, schema.required.get? name = some decl ∧ decl.default? = none := by
  have hsome : (schema.required.get? name).isSome = true := hrequired
  rcases Option.isSome_iff_exists.mp hsome with ⟨decl, hdecl⟩
  have hlookup := schema.decl?_of_required name decl hdecl
  rw [schema.default?_of_decl? name decl hlookup] at hdefault
  exact ⟨decl, hdecl, hdefault⟩

variable (decl : TypeDecl) (hdecl : schema.required.get? name = some decl)
include hdecl

theorem isLinkTyped_iff_of_required :
    schema.isLinkTyped name = true ↔ decl.typeName ∈ linkTypes := by
  unfold isLinkTyped typeName?
  rw [schema.decl?_of_required name decl hdecl, Option.map_some, Option.any_some]
  exact isLink_classify_iff decl.typeName

theorem isLinkTyped_of_required (hlink : decl.typeName ∉ linkTypes) :
    schema.isLinkTyped name = false := by
  rw [Bool.eq_false_iff]
  exact fun h => hlink ((schema.isLinkTyped_iff_of_required name decl hdecl).mp h)

theorem isRequired_of_get? : schema.isRequired name = true := by
  unfold isRequired
  rw [OrderedMap.contains_eq_isSome, hdecl]
  rfl

end ClassSchema

namespace Site

variable (site : Site) {r r' : Resolution}

theorem fillDefault_isSet (hstrict : site.strict = true) (name : String)
    (hrequired : site.schema.isRequired name = true)
    (hlink : site.schema.isLinkTyped name = false)
    (h : (site.fillDefault r name).result = .ok r') : r'.isSet name = true := by
  rw [result_fillDefault, hlink, Bool.or_false] at h
  by_cases hset : r.isSet name = true
  · rw [if_pos hset] at h
    cases h
    exact hset
  · rw [if_neg hset] at h
    rcases (site.fallback_ok r r' name).mp h with ⟨value, -, rfl⟩ | ⟨-, hfree, -⟩
    · rw [Resolution.isSet_eq_isSome, Resolution.inputs_set, OrderedMap.get?_insert, if_pos rfl]
      rfl
    · -- A strict site does not leave a required input alone.
      rw [hstrict, hrequired] at hfree
      cases hfree

/-- The third pass of a strict site leaves each required input set that is not left
    to a link. -/
theorem fillDefaults_isSet (hstrict : site.strict = true) (names : List String) (name : String)
    (hname : name ∈ names) (hrequired : site.schema.isRequired name = true)
    (hlink : site.schema.isLinkTyped name = false)
    (h : (site.fillDefaults r names).result = .ok r') : r'.isSet name = true := by
  rcases List.append_of_mem hname with ⟨front, back, rfl⟩
  rw [result_fillDefaults, foldlM_split_ok] at h
  rcases h with ⟨m, n, -, hstep, hback⟩
  -- Its own step sets the input, and the steps after that keep what is set.
  have hset := site.fillDefault_isSet hstrict name hrequired hlink hstep
  rw [Resolution.isSet_eq_isSome, Option.isSome_iff_exists] at hset
  rcases hset with ⟨input, hinput⟩
  rw [← result_fillDefaults] at hback
  rw [Resolution.isSet_eq_isSome, site.fillDefaults_keeps back name input hback hinput]
  rfl

/-- A strict node that compiles has every required input whose type is not passed by
    reference. -/
theorem compile_required (hstrict : site.strict = true) (compiled : CompiledNode)
    (h : site.compile.result = .ok compiled) (name : String) (decl : TypeDecl)
    (hdecl : site.schema.required.get? name = some decl) (hlink : decl.typeName ∉ linkTypes) :
    (compiled.inputs.get? name).isSome = true := by
  rcases (site.compile_ok compiled).mp h with ⟨r₁, r₂, r₃, -, -, h₃, rfl⟩
  have hrequired := site.schema.isRequired_of_get? name decl hdecl
  have hname : name ∈ site.schema.required.keys :=
    (OrderedMap.mem_keys_iff _ name).mpr hrequired
  exact site.fillDefaults_isSet hstrict _ name hname hrequired
    (site.schema.isLinkTyped_of_required name decl hdecl hlink) h₃

/-- An input that is reported as missing belongs to the node, which is strict, and is
    required without a default. -/
theorem required_of_missing (id : NodeId) (classType input : String)
    (h : site.compile.result = .error (.missingRequiredInput id classType input)) :
    site.strict = true ∧ id = site.node.id ∧ classType = site.node.classType ∧
      ∃ decl, site.schema.required.get? input = some decl ∧ decl.default? = none := by
  cases site.compile_fault _ h with
  | missing name hstrict hrequired hdefault =>
      exact ⟨hstrict, rfl, rfl, site.schema.decl_of_missing input hrequired hdefault⟩

end Site

end PromptGraph
