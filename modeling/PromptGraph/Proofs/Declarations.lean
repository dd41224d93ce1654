import Mathlib.Data.List.Basic
import PromptGraph.Compile.Coercion
import PromptGraph.Schema.ClassSchema

/-!
# Declared Inputs

How the inputs of a class are looked up. A look-up goes through the required
inputs, the optional ones and the hidden ones, in this order. The passes over a
node go through the required and the optional inputs as one list. If no name is
both required and optional, the names of that list are distinct, and looking up
a name of it gives the declaration that stands there.

The scalars are the inputs of that list that are carried by value. These are the
inputs for which an editor stores a value with a node.

## Main definitions

* `ClassSchema.scalars`: The inputs that are carried by value, as declared.
* `ClassSchema.Authored`: Values as an editor stores them, one for each scalar.

## Theorems

* `Entries.lookup_of_mem`: Looking up one of distinct names.
* `ClassSchema.nodup_keys_inputs`: The names of inputs are distinct.
* `ClassSchema.decl?_of_mem`: Looking up a declared input.
* `ClassSchema.isScalar_of_mem`, `ClassSchema.kind?_of_mem`: What is found for a
  scalar.
* `ClassSchema.decl?_of_required`: A required input is looked up as required.
* `ClassSchema.kind?_of_decl?`, `ClassSchema.default?_of_decl?`: The kind and the
  default of an input are those of its declaration.
* `isLink_classify_iff`: The types passed by reference are the link types.
-/

namespace PromptGraph

namespace Entries

variable {α : Type u}

theorem lookup_of_mem (entries : Entries α) (h : (keys entries).Nodup) (e : String × α)
    (he : e ∈ entries) : entries.lookup e.1 = some e.2 := by
  induction entries with
  | nil => cases he
  | cons first rest ih =>
      rcases List.nodup_cons.mp h with ⟨hfirst, hrest⟩
      rcases List.mem_cons.mp he with rfl | hmem
      · exact List.lookup_cons_self
      · -- The first name is not met again, so the search goes on.
        have hne : e.1 ≠ first.1 := by
          intro heq
          exact hfirst (heq ▸ List.mem_map_of_mem hmem)
        rw [List.lookup_cons, beq_false_of_ne hne]
        exact ih hrest hmem

end Entries

namespace ClassSchema

variable (schema : ClassSchema)

/-- The inputs that are carried by value, in the order declared. -/
def scalars : Entries TypeDecl := schema.inputs.filter fun e => isScalarType e.2.typeName

/-- Values as an editor stores them: one for each scalar, in the order declared, each
    as its kind has it. -/
def Authored (values : List Json) : Prop :=
  List.Forall₂ (fun e v => coerce (classify e.2.typeName).kind? v = some v) schema.scalars values

theorem decl?_eq (name : String) :
    schema.decl? name = (schema.inputs.lookup name).or (schema.hidden.get? name) := by
  unfold decl? inputs OrderedMap.get?
  rw [List.lookup_append, Option.or_assoc]

/-- However else a required input is declared, what counts is how it is required. -/
theorem decl?_of_required (name : String) (decl : TypeDecl)
    (h : schema.required.get? name = some decl) : schema.decl? name = some decl := by
  unfold decl?
  rw [h]
  rfl

theorem kind?_of_decl? (name : String) (decl : TypeDecl) (h : schema.decl? name = some decl) :
    schema.kind? name = (classify decl.typeName).kind? := by
  unfold kind? typeName?
  rw [h]
  rfl

theorem default?_of_decl? (name : String) (decl : TypeDecl) (h : schema.decl? name = some decl) :
    schema.default? name = decl.default? := by
  unfold default?
  rw [h]
  rfl

variable (hdisjoint : schema.required.keys.Disjoint schema.optional.keys)
include hdisjoint

theorem nodup_keys_inputs : (Entries.keys schema.inputs).Nodup := by
  unfold inputs Entries.keys
  rw [List.map_append, List.nodup_append]
  refine ⟨schema.required.distinct, schema.optional.distinct, fun name hname other hother => ?_⟩
  rintro rfl
  exact hdisjoint hname hother

theorem nodup_keys_scalars : (Entries.keys schema.scalars).Nodup :=
  (schema.nodup_keys_inputs hdisjoint).sublist (List.filter_sublist.map Prod.fst)

theorem decl?_of_mem (e : String × TypeDecl) (he : e ∈ schema.inputs) :
    schema.decl? e.1 = some e.2 := by
  rw [decl?_eq, Entries.lookup_of_mem _ (schema.nodup_keys_inputs hdisjoint) e he]
  rfl

theorem isScalar_of_mem (e : String × TypeDecl) (he : e ∈ schema.scalars) :
    schema.isScalar e.1 = true := by
  rcases List.mem_filter.mp he with ⟨hmem, hscalar⟩
  unfold isScalar typeName?
  rw [schema.decl?_of_mem hdisjoint e hmem]
  exact hscalar

theorem kind?_of_mem (e : String × TypeDecl) (he : e ∈ schema.inputs) :
    schema.kind? e.1 = (classify e.2.typeName).kind? :=
  schema.kind?_of_decl? e.1 e.2 (schema.decl?_of_mem hdisjoint e he)

end ClassSchema

theorem isLink_classify_iff (type : String) :
    (classify type).isLink = true ↔ type ∈ linkTypes := by
  unfold classify
  constructor
  · intro h
    cases htag : Kind.ofTag? type with
    | some kind =>
        rw [htag] at h
        cases h
    | none =>
        simp only [htag] at h
        by_cases hcomma : ',' ∈ type.toList
        · rw [if_pos hcomma] at h
          cases h
        · rw [if_neg hcomma] at h
          by_cases hlink : type ∈ linkTypes
          · exact hlink
          · rw [if_neg hlink] at h
            cases h
  · -- No link type is a scalar tag or an enumeration, so the tests before do not apply.
    intro hlink
    have hplain : ∀ name ∈ linkTypes, Kind.ofTag? name = none ∧ ',' ∉ name.toList := by decide
    rcases hplain type hlink with ⟨htag, hcomma⟩
    simp only [htag, if_neg hcomma, if_pos hlink]
    rfl

/-- The types that are carried by value are the scalar ones. -/
theorem isScalarType_iff (type : String) :
    isScalarType type = true ↔ ∃ kind, classify type = .scalar kind := by
  unfold isScalarType
  constructor
  · intro h
    cases hclass : classify type with
    | scalar kind => exact ⟨kind, rfl⟩
    | link | unknown =>
        rw [hclass] at h
        cases h
  · rintro ⟨kind, hclass⟩
    rw [hclass]
    rfl

/-- A type that is carried by value has a kind. -/
theorem kind?_of_isScalarType (type : String) (h : isScalarType type = true) :
    ∃ kind, (classify type).kind? = some kind := by
  rcases (isScalarType_iff type).mp h with ⟨kind, hclass⟩
  rw [hclass]
  exact ⟨kind, rfl⟩

end PromptGraph
