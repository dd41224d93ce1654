import PromptGraph.Proofs.Wire.Codecs
import PromptGraph.Proofs.Wire.Schemas

/-!
# Schemas That Were Written

Declarations and schemas are read back as they were written.

A declaration is written as a list of its type, which is a name or the choices, and of its metadata
if it has any. Choices take the place of the type name, and what is read from them is a combo. No
name is lost by this, for a declaration carries the proof that with choices it is a combo. Metadata
is left out if it is empty and read as empty if it is left out. The same holds of the sections of a
schema.

There are other forms that are read as declarations and as schemas. What was read from one of them
is written in the usual form, and this form is kept from then on.

## Main definitions

* `TypeDecl.Built`: Declarations that are built step by step.
* `TypeDecl.bare`: A declaration without its metadata.
* `ClassSchema.section?`: A section as it is written, if it is.
* `Decoder.Settles`: Reading and writing a second time changes nothing.

## Theorems

* `TypeDecl.bare_cases`: What there is to a declaration beside its metadata.
* `TypeDecl.built`: Every declaration can be built.
* `TypeDecl.undoes_decoder`, `ClassSchema.undoes_decoder`: What is written is read back.
* `ClassSchema.written_read_back`: The two, for whatever was built or read.
-/

namespace PromptGraph

theorem Entries.named_append {α : Type u} (name : String) (front back : Entries α) :
    named name (front ++ back) = named name front ++ named name back := by
  unfold named
  rw [List.filter_append, List.map_append]

namespace Decoder

variable {α : Type} {decoder : Decoder α} {write : α → Json}

/-- What was read and written is written in the same way when it has been read again. -/
def Settles (decoder : Decoder α) (write : α → Json) : Prop :=
  ∀ j k, (decoder.ofJson j).map write = .ok k → (decoder.ofJson k).map write = .ok k

theorem Undoes.settles (h : decoder.Undoes write) : decoder.Settles write := by
  intro j k hk
  rcases (map_eq_ok _ _ _).mp hk with ⟨a, -, rfl⟩
  rw [h a]
  rfl

end Decoder

/-- A map is read back if its values are. -/
theorem Doc.undoes_map {α : Type} {item : Decoder α} {write : α → Json} (h : item.Undoes write) :
    (map item).Undoes fun m => .obj (m.map write).entries := by
  intro m
  have hsame : m.map id = m := OrderedMap.ext (List.map_id m.entries)
  exact (Doc.map_ofJson item write id m fun e _ => h e.2).trans (congrArg _ hsame)

namespace TypeDecl

/-- A declaration is built from a type name or a list of choices by setting metadata. -/
inductive Built : TypeDecl → Prop where
  | ofName (name : String) : Built (.ofName name)
  | combo (choices : List Json) : Built (.combo choices)
  | withDefault (decl : TypeDecl) (value : Json) (h : Built decl) : Built (decl.withDefault value)
  | withMetadata (decl : TypeDecl) (key : String) (value : Json) (h : Built decl) :
    Built (decl.withMetadata key value)

/-- The declaration without its metadata. -/
def bare (decl : TypeDecl) : TypeDecl := { decl with metadata := .empty }

/-- Without its metadata a declaration is made of its type name or of its choices. In the latter
    case there is no name to keep, for it is that of combos. -/
theorem bare_cases (decl : TypeDecl) :
    decl.choices? = none ∧ decl.bare = ofName decl.typeName ∨
      ∃ choices, decl.choices? = some choices ∧ decl.bare = combo choices := by
  rcases decl with ⟨typeName, _ | choices, metadata, hcombo⟩
  · exact Or.inl ⟨rfl, rfl⟩
  · obtain rfl : typeName = Kind.combo.tag := hcombo rfl
    exact Or.inr ⟨choices, rfl, rfl⟩

/-- Every declaration can be built: its metadata is set member by member. -/
theorem built (decl : TypeDecl) : Built decl := by
  have hset : ∀ (es : Entries Json) (decl : TypeDecl), Built decl →
      Built { decl with metadata := es.foldl (fun m e => m.insert e.1 e.2) decl.metadata } := by
    intro es
    induction es with
    | nil => exact fun decl h => h
    | cons e rest ih => exact fun decl h => ih _ (h.withMetadata decl e.1 e.2)
  have hbare : Built decl.bare := by
    rcases decl.bare_cases with ⟨-, hname⟩ | ⟨choices, -, hcombo⟩
    · exact hname ▸ .ofName decl.typeName
    · exact hcombo ▸ .combo choices
  have hdecl : Built { decl with metadata := .ofList decl.metadata.entries } :=
    hset decl.metadata.entries _ hbare
  rw [OrderedMap.ext (OrderedMap.entries_ofList _ decl.metadata.distinct)] at hdecl
  exact hdecl

/-- A declaration with choices is a combo. -/
theorem typeName_of_choices? (decl : TypeDecl) (choices : List Json)
    (h : decl.choices? = some choices) : decl.typeName = "COMBO" :=
  decl.combo_of_choices (by rw [h]; rfl)

theorem writesType_typeJson (decl : TypeDecl) : WritesType decl.typeJson decl.bare := by
  unfold typeJson
  rcases decl.bare_cases with ⟨hnone, hname⟩ | ⟨choices, hsome, hcombo⟩
  · rw [hnone, hname]
    exact .named decl.typeName
  · rw [hsome, hcombo]
    exact .choices choices

theorem writes_toJson (decl : TypeDecl) : Writes decl.toJson decl := by
  unfold toJson
  by_cases hempty : decl.metadata.isEmpty = true
  · rw [if_pos hempty]
    have hblank : decl.metadata = .empty := OrderedMap.ext (List.isEmpty_iff.mp hempty)
    have hmetadata : WritesMetadata [] decl.metadata := hblank ▸ .absent
    exact .list decl.typeJson [] decl.bare decl.metadata decl.writesType_typeJson hmetadata
  · rw [if_neg hempty]
    have hgiven := WritesMetadata.given decl.metadata.entries []
    rw [OrderedMap.ext (OrderedMap.entries_ofList _ decl.metadata.distinct)] at hgiven
    exact .list decl.typeJson _ decl.bare decl.metadata decl.writesType_typeJson hgiven

theorem undoes_decoder : decoder.Undoes toJson :=
  fun decl => (decoder_ofJson_iff _ decl).mpr decl.writes_toJson

end TypeDecl

namespace ClassSchema

/-- A section as it is written: not at all if it is empty. -/
def section? (inputs : OrderedMap TypeDecl) : Option (OrderedMap TypeDecl) :=
  if inputs.isEmpty then none else some inputs

theorem getD_section? (inputs : OrderedMap TypeDecl) :
    (section? inputs).getD .empty = inputs := by
  unfold section?
  by_cases hempty : inputs.isEmpty = true
  · rw [if_pos hempty]
    exact (OrderedMap.ext (List.isEmpty_iff.mp hempty)).symm
  · rw [if_neg hempty]
    rfl

theorem ofSections_section? (schema : ClassSchema) :
    ofSections (section? schema.required) (section? schema.optional) (section? schema.hidden) =
      schema := by
  unfold ofSections
  rw [getD_section?, getD_section?, getD_section?]

/-- The member of a section writes the section. -/
theorem given_sectionJson (name : String) (inputs : OrderedMap TypeDecl) :
    GivenSection (Entries.named name (sectionJson name inputs)) (section? inputs) := by
  unfold sectionJson section?
  by_cases hempty : inputs.isEmpty = true
  · rw [if_pos hempty, if_pos hempty]
    exact .absent
  · rw [if_neg hempty, if_neg hempty]
    have hnamed : Entries.named name [(name, Json.obj (inputs.map TypeDecl.toJson).entries)] =
        [.obj (inputs.map TypeDecl.toJson).entries] := by
      simp [Entries.named]
    rw [hnamed]
    exact .once _ inputs ((Doc.map_ofJson_iff TypeDecl.decoder_ofJson_iff _ inputs).mp
      (Doc.undoes_map TypeDecl.undoes_decoder inputs))

/-- It writes no other section. -/
theorem named_sectionJson (name other : String) (h : name ≠ other)
    (inputs : OrderedMap TypeDecl) : Entries.named other (sectionJson name inputs) = [] := by
  unfold sectionJson
  split
  · rfl
  · simp [Entries.named, h]

theorem writes_toJson (schema : ClassSchema) : Writes schema.toJson schema := by
  have hwrites := Writes.members (sectionJson "required" schema.required
      ++ sectionJson "optional" schema.optional ++ sectionJson "hidden" schema.hidden)
    (section? schema.required) (section? schema.optional) (section? schema.hidden)
  simp only [Entries.named_append, named_sectionJson "required" "optional" (by decide),
    named_sectionJson "required" "hidden" (by decide),
    named_sectionJson "optional" "required" (by decide),
    named_sectionJson "optional" "hidden" (by decide),
    named_sectionJson "hidden" "required" (by decide),
    named_sectionJson "hidden" "optional" (by decide), List.append_nil, List.nil_append,
    ofSections_section?] at hwrites
  exact hwrites (given_sectionJson _ _) (given_sectionJson _ _) (given_sectionJson _ _)

theorem undoes_decoder : decoder.Undoes toJson :=
  fun schema => (decoder_ofJson_iff _ schema).mpr schema.writes_toJson

/-- Whatever declarations were built, and whatever schemas of them, are read back as they were
    written, and those with choices are combos. What was read from any other form is written in one
    form for good. -/
theorem written_read_back :
    (∀ decl : TypeDecl, decl.Built ∧ TypeDecl.decoder.ofJson decl.toJson = .ok decl ∧
        ∀ choices, decl.choices? = some choices → decl.typeName = "COMBO") ∧
      (∀ schema : ClassSchema, decoder.ofJson schema.toJson = .ok schema) ∧
      (∀ j decl, TypeDecl.decoder.ofJson j = .ok decl ↔ TypeDecl.Writes j decl) ∧
      TypeDecl.decoder.Settles TypeDecl.toJson ∧ decoder.Settles toJson := by
  refine ⟨fun decl => ⟨decl.built, TypeDecl.undoes_decoder decl, ?_⟩, undoes_decoder,
    TypeDecl.decoder_ofJson_iff, TypeDecl.undoes_decoder.settles, undoes_decoder.settles⟩
  exact decl.typeName_of_choices?

/-- A schema with declarations of all forms: a bare name, a name with null, choices, and a name with
    metadata and one item more. -/
def offhand : Json :=
  .obj [("optional", .obj [("steps", .arr [.str "INT",
      .obj [("max", .bool true), ("default", .null)], .str "more"])]),
    ("required", .obj [("name", .str "STRING"), ("model", .arr [.str "MODEL", .null]),
      ("mode", .arr [.arr [.str "fast", .str "slow"]])])]

/-- The form in which it is written. -/
def offhandWritten : Json :=
  .obj [("required", .obj [("name", .arr [.str "STRING"]), ("model", .arr [.str "MODEL"]),
      ("mode", .arr [.arr [.str "fast", .str "slow"]])]),
    ("optional", .obj [("steps", .arr [.str "INT",
      .obj [("max", .bool true), ("default", .null)]])])]

theorem offhand_settles :
    (decoder.ofJson offhand).map toJson = .ok offhandWritten ∧
      (decoder.ofJson offhandWritten).map toJson = .ok offhandWritten :=
  ⟨rfl, written_read_back.2.2.2.2 offhand offhandWritten rfl⟩

end ClassSchema

end PromptGraph
