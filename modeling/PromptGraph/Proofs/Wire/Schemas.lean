import PromptGraph.Proofs.Wire.Fields
import PromptGraph.Schema.Catalog

/-!
# Values That Are Class Records

Which values of a registry's payload are class records, and of which schema.

What is read is described by the form of the values, from the inside to the outside. A declaration
is a type name, or a list that begins with a type name or with choices, and goes on with metadata
or with null, if it goes on; later items do not matter. A section is an object with a declaration
for each of its members. A schema is an object with at most one member for each section, or a list
of at most three sections, and a class record is an object with at most one `input`, or a list of
at most one schema. Other members of these objects do not matter, and what is absent is empty.

A value of any other form is no class record, however small its fault is and wherever it is.

## Main definitions

* `TypeDecl.WritesType`, `TypeDecl.WritesMetadata`, `TypeDecl.Writes`: The forms of a declaration.
* `ClassSchema.Writes`: The forms of a schema.
* `ClassRecord.Writes`: The forms of a class record.

## Theorems

* `TypeDecl.decoder_ofJson_iff`: What is read as a declaration.
* `ClassSchema.decoder_ofJson_iff`: What is read as a schema.
* `Catalog.schemaOfEntry_iff`: What is read as a class record.
-/

namespace PromptGraph

namespace TypeDecl

/-- A value writes the type of a declaration without metadata: a type name, or a list of
    choices. -/
inductive WritesType : Json → TypeDecl → Prop where
  | named (name : String) : WritesType (.str name) (.ofName name)
  | choices (values : List Json) : WritesType (.arr values) (.combo values)

/-- The items after the type write metadata: nothing or null for none, or an object. -/
inductive WritesMetadata : List Json → OrderedMap Json → Prop where
  | absent : WritesMetadata [] .empty
  | null (rest : List Json) : WritesMetadata (.null :: rest) .empty
  | given (members : List (String × Json)) (rest : List Json) :
      WritesMetadata (.obj members :: rest) (.ofList members)

/-- A value writes a declaration: a bare type name, or a list of a type and metadata. -/
inductive Writes : Json → TypeDecl → Prop where
  | bare (name : String) : Writes (.str name) (.ofName name)
  | list (first : Json) (rest : List Json) (decl : TypeDecl) (metadata : OrderedMap Json)
      (htype : WritesType first decl) (hmetadata : WritesMetadata rest metadata) :
      Writes (.arr (first :: rest)) { decl with metadata }

theorem ofTypeValue_iff (j : Json) (decl : TypeDecl) :
    ofTypeValue j = .ok decl ↔ WritesType j decl := by
  constructor
  · intro h
    cases j with
    | str name =>
        cases h
        exact .named name
    | arr values =>
        cases h
        exact .choices values
    | null | bool _ | num _ | obj _ => cases h
  · intro h
    cases h <;> rfl

theorem metadataOfValues_iff (values : List Json) (metadata : OrderedMap Json) :
    metadataOfValues values = .ok metadata ↔ WritesMetadata values metadata := by
  constructor
  · intro h
    cases values with
    | nil =>
        cases h
        exact .absent
    | cons j rest =>
        cases j with
        | null =>
            cases h
            exact .null rest
        | obj members =>
            cases h
            exact .given members rest
        | bool _ | num _ | str _ | arr _ => cases h
  · intro h
    cases h <;> rfl

theorem ofValue_iff (j : Json) (decl : TypeDecl) : ofValue j = .ok decl ↔ Writes j decl := by
  constructor
  · intro h
    cases j with
    | str name =>
        cases h
        exact .bare name
    | arr items =>
        cases items with
        | nil => cases h
        | cons first rest =>
            rw [ofValue, bind_eq_ok] at h
            rcases h with ⟨decl, htype, h⟩
            rcases (bind_eq_ok _ _ _).mp h with ⟨metadata, hmetadata, hdecl⟩
            cases hdecl
            exact .list first rest decl metadata ((ofTypeValue_iff first decl).mp htype)
              ((metadataOfValues_iff rest metadata).mp hmetadata)
    | null | bool _ | num _ | obj _ => cases h
  · intro h
    cases h with
    | bare name => rfl
    | list first rest decl metadata htype hmetadata =>
        rw [ofValue, (ofTypeValue_iff first decl).mpr htype,
          (metadataOfValues_iff rest metadata).mpr hmetadata]
        rfl

theorem decoder_ofJson_iff (j : Json) (decl : TypeDecl) :
    decoder.ofJson j = .ok decl ↔ Writes j decl := by
  rw [← ofValue_iff, Decoder.ofJson, decoder, Doc.value_ofJson]
  change (ofValue j).mapError DecodeError.data = _ ↔ _
  cases ofValue j with
  | ok decl' => exact ⟨fun h => congrArg _ (Except.ok.inj h), fun h => congrArg _ (Except.ok.inj h)⟩
  | error e => exact ⟨fun h => (by cases h), fun h => (by cases h)⟩

end TypeDecl

namespace ClassSchema

/-- What a section is given by values of which there may be one. -/
abbrev GivenSection : List Json → Option (OrderedMap TypeDecl) → Prop :=
  Given (OrderedMap.Writes TypeDecl.Writes)

theorem given_iff (values : List Json) (o : Option (OrderedMap TypeDecl)) :
    Given (fun j m => (Doc.map TypeDecl.decoder).ofJson j = .ok m) values o ↔
      GivenSection values o :=
  Given.congr (Doc.map_ofJson_iff TypeDecl.decoder_ofJson_iff) values o

/-- The schema of the sections that are given. -/
def ofSections (required optional hidden : Option (OrderedMap TypeDecl)) : ClassSchema :=
  ⟨required.getD .empty, optional.getD .empty, hidden.getD .empty⟩

/-- A value writes a schema: an object with the sections as members, or a list of sections in
    their order. -/
inductive Writes : Json → ClassSchema → Prop where
  | members (members : List (String × Json)) (required optional hidden)
      (hrequired : GivenSection (Entries.named "required" members) required)
      (hoptional : GivenSection (Entries.named "optional" members) optional)
      (hhidden : GivenSection (Entries.named "hidden" members) hidden) :
      Writes (.obj members) (ofSections required optional hidden)
  | items (items : List Json) (hlength : items.length ≤ 3) (required optional hidden)
      (hrequired : GivenSection items[0]?.toList required)
      (hoptional : GivenSection items[1]?.toList optional)
      (hhidden : GivenSection items[2]?.toList hidden) :
      Writes (.arr items) (ofSections required optional hidden)

theorem independent_record : record.Independent where
  fills := by
    simp only [record, List.forall_mem_cons, Field.defaulted]
    exact ⟨Field.make_fills fun _ _ => rfl, Field.make_fills fun _ _ => rfl,
      Field.make_fills fun _ _ => rfl, nofun⟩
  apart := by
    simp only [record, Field.defaulted, List.pairwise_cons, List.forall_mem_cons]
    refine ⟨⟨?_, ?_, nofun⟩, ⟨?_, nofun⟩, nofun, .nil⟩ <;>
      exact Field.make_apart (fun _ _ => rfl) (fun _ _ => rfl) fun _ _ _ => rfl

/-- Reading a section takes a draft without it to one with it. -/
theorem puts_required : record.fields[0].Puts (Doc.map TypeDecl.decoder) fun o => ⟨o, none, none⟩ :=
  ⟨rfl, fun _ => rfl⟩

theorem puts_optional (required : Option (OrderedMap TypeDecl)) :
    record.fields[1].Puts (Doc.map TypeDecl.decoder) fun o => ⟨required, o, none⟩ :=
  ⟨rfl, fun _ => rfl⟩

theorem puts_hidden (required optional : Option (OrderedMap TypeDecl)) :
    record.fields[2].Puts (Doc.map TypeDecl.decoder) fun o => ⟨required, optional, o⟩ :=
  ⟨rfl, fun _ => rfl⟩

/-- A draft is read from members if each section is read from those of its name. -/
theorem readMembers_iff (members : List (String × Json)) (s : Draft) :
    record.readMembers record.blank (Doc.ofMembers members) = .ok s ↔
      GivenSection (Entries.named "required" members) s.required ∧
        GivenSection (Entries.named "optional" members) s.optional ∧
          GivenSection (Entries.named "hidden" members) s.hidden := by
  have hrequired := record.readMembers_field puts_required s independent_record "required"
    rfl
  have hoptional := fun required => record.readMembers_field (puts_optional required) s
    independent_record "optional" rfl
  have hhidden := fun required optional => record.readMembers_field (puts_hidden required optional)
    s independent_record "hidden" rfl
  -- What is left once the sections have been read is skipped.
  have hskip : ∀ m, record.readMembers m (Doc.ofMembers (Entries.without "hidden"
      (Entries.without "optional" (Entries.without "required" members)))) = .ok m :=
    record.readMembers_withoutAll members
  have hblank : record.blank = ⟨none, none, none⟩ := rfl
  rw [hblank, hrequired]
  simp only [hoptional, hhidden, hskip, given_iff, Except.ok.injEq]
  simp only [Entries.named_without _ _ (by decide : "optional" ≠ "required"),
    Entries.named_without _ _ (by decide : "hidden" ≠ "optional"),
    Entries.named_without _ _ (by decide : "hidden" ≠ "required")]
  constructor
  · rintro ⟨_, h₁, _, h₂, _, h₃, rfl⟩
    exact ⟨h₁, h₂, h₃⟩
  · rintro ⟨h₁, h₂, h₃⟩
    exact ⟨_, h₁, _, h₂, _, h₃, rfl⟩

/-- A draft is read from items if each section is read from the item at its place. -/
theorem readItems_iff (items : List Json) (total : Nat) (s : Draft) :
    record.readItems total .counted 0 record.blank record.fields (Doc.ofItems items) = .ok s ↔
      items.length ≤ 3 ∧ GivenSection items[0]?.toList s.required ∧
        GivenSection items[1]?.toList s.optional ∧ GivenSection items[2]?.toList s.hidden := by
  have hrequired := record.readItems_field puts_required s total 0 items rfl
  have hoptional := fun required => record.readItems_field (puts_optional required) s total 1
    items rfl
  have hhidden := fun required optional => record.readItems_field (puts_hidden required optional) s
    total 2 items rfl
  have hblank : record.blank = ⟨none, none, none⟩ := rfl
  have hfields : record.fields = [record.fields[0], record.fields[1], record.fields[2]] := rfl
  rw [hblank, hfields, ← List.drop_zero (l := items), hrequired]
  simp only [hoptional, hhidden, given_iff, record.readItems_end, List.drop_zero]
  constructor
  · rintro ⟨_, h₁, _, h₂, _, h₃, hlength, rfl⟩
    exact ⟨hlength, h₁, h₂, h₃⟩
  · rintro ⟨hlength, h₁, h₂, h₃⟩
    exact ⟨_, h₁, _, h₂, _, h₃, hlength, rfl⟩

theorem decoder_ofJson_iff (j : Json) (schema : ClassSchema) :
    decoder.ofJson j = .ok schema ↔ Writes j schema := by
  cases j with
  | obj members =>
      rw [decoder, Record.ofJson_obj, bind_eq_ok]
      simp only [readMembers_iff]
      constructor
      · rintro ⟨s, ⟨hrequired, hoptional, hhidden⟩, ⟨⟩⟩
        exact .members members _ _ _ hrequired hoptional hhidden
      · intro h
        cases h with
        | members _ required optional hidden hrequired hoptional hhidden =>
            exact ⟨⟨required, optional, hidden⟩, ⟨hrequired, hoptional, hhidden⟩, rfl⟩
  | arr items =>
      rw [decoder, Record.ofJson_arr, bind_eq_ok]
      simp only [readItems_iff]
      constructor
      · rintro ⟨s, ⟨hlength, hrequired, hoptional, hhidden⟩, ⟨⟩⟩
        exact .items items hlength _ _ _ hrequired hoptional hhidden
      · intro h
        cases h with
        | items _ hlength required optional hidden hrequired hoptional hhidden =>
            exact ⟨⟨required, optional, hidden⟩, ⟨hlength, hrequired, hoptional, hhidden⟩, rfl⟩
  | null | bool _ | num _ | str _ => exact ⟨fun h => (by cases h), fun h => (by cases h)⟩

end ClassSchema

namespace ClassRecord

/-- A value writes a class record with a schema: an object with the schema as its `input`, or a list
    of the schema alone. -/
inductive Writes : Json → ClassSchema → Prop where
  | members (members : List (String × Json)) (input : Option ClassSchema)
      (hinput : Given ClassSchema.Writes (Entries.named "input" members) input) :
      Writes (.obj members) (input.getD .empty)
  | items (items : List Json) (hlength : items.length ≤ 1) (input : Option ClassSchema)
      (hinput : Given ClassSchema.Writes items[0]?.toList input) :
      Writes (.arr items) (input.getD .empty)

theorem independent_record : record.Independent where
  fills := by
    simp only [record, List.forall_mem_cons, Field.defaulted]
    exact ⟨Field.make_fills fun _ _ => rfl, nofun⟩
  apart := List.pairwise_singleton _ _

theorem puts_input : record.fields[0].Puts ClassSchema.decoder fun o => ⟨o⟩ :=
  ⟨rfl, fun _ => rfl⟩

theorem readMembers_iff (members : List (String × Json)) (s : Draft) :
    record.readMembers record.blank (Doc.ofMembers members) = .ok s ↔
      Given ClassSchema.Writes (Entries.named "input" members) s.input := by
  have hskip : ∀ m, record.readMembers m (Doc.ofMembers (Entries.without "input" members)) =
      .ok m := record.readMembers_withoutAll members
  have hblank : record.blank = ⟨none⟩ := rfl
  rw [hblank, record.readMembers_field puts_input s independent_record "input" rfl]
  simp only [hskip, Given.congr ClassSchema.decoder_ofJson_iff, Except.ok.injEq]
  constructor
  · rintro ⟨_, h, rfl⟩
    exact h
  · exact fun h => ⟨_, h, rfl⟩

theorem readItems_iff (items : List Json) (total : Nat) (s : Draft) :
    record.readItems total .counted 0 record.blank record.fields (Doc.ofItems items) = .ok s ↔
      items.length ≤ 1 ∧ Given ClassSchema.Writes items[0]?.toList s.input := by
  have hblank : record.blank = ⟨none⟩ := rfl
  have hfields : record.fields = [record.fields[0]] := rfl
  rw [hblank, hfields, ← List.drop_zero (l := items),
    record.readItems_field puts_input s total 0 items rfl]
  simp only [Given.congr ClassSchema.decoder_ofJson_iff, record.readItems_end, List.drop_zero]
  constructor
  · rintro ⟨_, h, hlength, rfl⟩
    exact ⟨hlength, h⟩
  · rintro ⟨hlength, h⟩
    exact ⟨_, h, hlength, rfl⟩

theorem decoder_ofJson_iff (j : Json) (schema : ClassSchema) :
    (∃ record, decoder.ofJson j = .ok record ∧ schema = record.input) ↔ Writes j schema := by
  cases j with
  | obj members =>
      rw [decoder, Record.ofJson_obj]
      simp only [bind_eq_ok, readMembers_iff]
      constructor
      · rintro ⟨_, ⟨s, hinput, ⟨⟩⟩, rfl⟩
        exact .members members _ hinput
      · intro h
        cases h with
        | members _ input hinput => exact ⟨_, ⟨⟨input⟩, hinput, rfl⟩, rfl⟩
  | arr items =>
      rw [decoder, Record.ofJson_arr]
      simp only [bind_eq_ok, readItems_iff]
      constructor
      · rintro ⟨_, ⟨s, ⟨hlength, hinput⟩, ⟨⟩⟩, rfl⟩
        exact .items items hlength _ hinput
      · intro h
        cases h with
        | items _ hlength input hinput => exact ⟨_, ⟨⟨input⟩, ⟨hlength, hinput⟩, rfl⟩, rfl⟩
  | null | bool _ | num _ | str _ =>
      refine ⟨?_, fun h => (by cases h)⟩
      rintro ⟨record, h, -⟩
      cases h

end ClassRecord

/-- The schema of an entry is read if the entry writes a class record. -/
theorem Catalog.schemaOfEntry_iff (j : Json) (schema : ClassSchema) :
    schemaOfEntry j = .ok schema ↔ ClassRecord.Writes j schema := by
  unfold schemaOfEntry
  rw [map_eq_ok, ClassRecord.decoder_ofJson_iff]

end PromptGraph
