import PromptGraph.Proofs.Wire.Fields
import PromptGraph.Proofs.Wire.Prompts

/-!
# Prompts That Were Read

Which values are read as prompts, and what becomes of them when they are written.

There are many ways to write a prompt: ids may be numbers, a node may be a list of its class and
its inputs, members may come in any order, and members of other names do not matter. When what was
read is written, one of these ways is taken, and reading that gives the same prompt.

This is not so for every prompt, for a literal that has the form of a reference is read back as
one. But no such literal was ever read: whatever has the form of a reference is read as one. What
only comes close to the form, a list of another length or with a number that is no slot, is read as
a literal, is written as it stands and is read as a literal again.

## Main definitions

* `ResolvedInput.Writes`, `CompiledNode.Writes`: How inputs and nodes may be written.
* `CompiledNode.HasInputs`: The part of a node that its inputs are read from.

## Theorems

* `OrderedMap.Writes.exists_members`: A map has the names of the members, in their order.
* `ResolvedInput.decoder_ofJson_iff`, `CompiledNode.decoder_ofJson_iff`,
  `CompiledPrompt.ofJson_iff`: What is read as an input, a node, a prompt.
* `CompiledPrompt.ofJson_canonical`: A prompt that was read is read back as it is.
-/

namespace PromptGraph

namespace OrderedMap

variable {α : Type u} {β : Type v} {R : α → β → Prop}

theorem Related.insert {m : OrderedMap α} {n : OrderedMap β} (h : m.Related R n) (name : String)
    (a : α) (b : β) (hab : R a b) : (m.insert name a).Related R (n.insert name b) := by
  unfold Related at h ⊢
  rw [entries_insert, entries_insert]
  generalize m.entries = es at h
  generalize n.entries = fs at h
  induction h with
  | nil => exact .cons ⟨rfl, hab⟩ .nil
  | @cons e f es fs hef hes ih =>
      rw [Entries.insert, Entries.insert, hef.1]
      by_cases hname : f.1 = name
      · rw [if_pos hname, if_pos hname]
        exact .cons ⟨rfl, hab⟩ hes
      · rw [if_neg hname, if_neg hname]
        exact .cons ⟨rfl, hef.2⟩ ih

theorem related_ofList {es : Entries α} {fs : Entries β}
    (h : List.Forall₂ (fun e f => e.1 = f.1 ∧ R e.2 f.2) es fs) :
    (ofList es).Related R (ofList fs) := by
  have hinsert : ∀ (m : OrderedMap α) (n : OrderedMap β), m.Related R n →
      (es.foldl (fun m e => m.insert e.1 e.2) m).Related R
        (fs.foldl (fun m e => m.insert e.1 e.2) n) := by
    induction h with
    | nil => exact fun m n hmn => hmn
    | @cons e f es fs hef _ ih =>
        intro m n hmn
        rw [List.foldl_cons, List.foldl_cons, hef.1]
        exact ih _ _ (hmn.insert f.1 e.2 f.2 hef.2)
  exact hinsert .empty .empty .nil

theorem Related.imp {S : α → β → Prop} {m : OrderedMap α} {n : OrderedMap β} (h : m.Related R n)
    (himp : ∀ a b, R a b → S a b) : m.Related S n :=
  List.Forall₂.imp (fun _ _ hef => ⟨hef.1, himp _ _ hef.2⟩) h

theorem Related.exists_left {m : OrderedMap α} {n : OrderedMap β} (h : m.Related R n)
    (f : String × β) (hf : f ∈ n.entries) : ∃ a, R a f.2 := by
  unfold Related at h
  generalize m.entries = es at h
  generalize n.entries = fs at h hf
  induction h with
  | nil => cases hf
  | @cons e _ es fs hef _ ih =>
      rcases List.mem_cons.mp hf with rfl | hmem
      · exact ⟨e.2, hef.2⟩
      · exact ih hmem

/-- A map that is read has the names of the members, in the order in which they first appear, and
    each value is read from the last member of its name. -/
theorem Writes.exists_members {α : Type} {item : Json → α → Prop} {j : Json} {m : OrderedMap α}
    (h : Writes item j m) : ∃ members, j = .obj members ∧ (ofList members).Related item m := by
  cases h with
  | intro members es hes => exact ⟨members, rfl, related_ofList hes⟩

end OrderedMap

namespace ResolvedInput

/-- How an input may be written: a reference as a list of an id and a slot, and any other value as
    it is. -/
inductive Writes (j : Json) : ResolvedInput → Prop where
  | reference (src : NodeId) (slot : Slot) (h : j.WritesReference src slot) :
    Writes j (.reference src slot)
  | value (plain : ∀ src slot, ¬j.WritesReference src slot) : Writes j (.value j)

theorem ofValue_iff (j : Json) (input : ResolvedInput) : ofValue j = input ↔ Writes j input := by
  constructor
  · rintro rfl
    cases hread : ofValue j with
    | reference src slot =>
        exact .reference src slot ((ofValue_eq_reference_iff j src slot).mp hread)
    | value k =>
        -- What has the form of a reference is not read as a value.
        have hplain : ∀ src slot, ¬j.WritesReference src slot := by
          intro src slot hwrites
          rw [(ofValue_eq_reference_iff j src slot).mpr hwrites] at hread
          cases hread
        rw [ofValue_of_not_writesReference j hplain] at hread
        cases hread
        exact .value hplain
  · rintro (⟨src, slot, hwrites⟩ | hplain)
    · exact (ofValue_eq_reference_iff j src slot).mpr hwrites
    · exact ofValue_of_not_writesReference j hplain

theorem decoder_ofJson_iff (j : Json) (input : ResolvedInput) :
    decoder.ofJson j = .ok input ↔ Writes j input := by
  have hread : decoder.ofJson j = .ok (ofValue j) := by
    unfold Decoder.ofJson decoder
    rw [Doc.value_ofJson]
    rfl
  rw [hread, Except.ok.injEq, ofValue_iff]

/-- An input that was read is no literal of the form of a reference. -/
theorem Writes.readsAs_self {j : Json} {input : ResolvedInput} (h : Writes j input) :
    input.ReadsAs input := by
  cases h with
  | reference src slot _ => exact .reference src slot
  | value hplain => exact .value j hplain

end ResolvedInput

theorem Doc.string_ofJson_iff (j : Json) (text : String) :
    string.ofJson j = .ok text ↔ j = .str text := by
  cases j with
  | str other => exact ⟨fun h => (by cases h; rfl), fun h => (by cases h; rfl)⟩
  | null | bool _ | num _ | arr _ | obj _ => exact ⟨fun h => (by cases h), fun h => (by cases h)⟩

namespace CompiledNode

/-- How a node may be written: as an object with one class and one map of inputs, or as a list of
    the two. -/
inductive Writes : Json → CompiledNode → Prop where
  | members (members : List (String × Json)) (classType : String) (j : Json)
      (inputs : OrderedMap ResolvedInput)
      (hclass : Entries.named "class_type" members = [.str classType])
      (hmember : Entries.named "inputs" members = [j])
      (hinputs : OrderedMap.Writes ResolvedInput.Writes j inputs) :
      Writes (.obj members) ⟨classType, inputs⟩
  | items (classType : String) (j : Json) (inputs : OrderedMap ResolvedInput)
      (hinputs : OrderedMap.Writes ResolvedInput.Writes j inputs) :
      Writes (.arr [.str classType, j]) ⟨classType, inputs⟩

/-- The members that the inputs of a node are read from. -/
inductive HasInputs : Json → List (String × Json) → Prop where
  | member (members inputs : List (String × Json))
      (h : Entries.named "inputs" members = [.obj inputs]) : HasInputs (.obj members) inputs
  | item (first : Json) (inputs : List (String × Json)) :
      HasInputs (.arr [first, .obj inputs]) inputs

theorem Writes.exists_hasInputs {j : Json} {node : CompiledNode} (h : Writes j node) :
    ∃ inputs, HasInputs j inputs ∧
      (OrderedMap.ofList inputs).Related ResolvedInput.Writes node.inputs := by
  cases h with
  | members members _ _ _ _ hmember hinputs =>
      rcases hinputs.exists_members with ⟨inputs, rfl, hrelated⟩
      exact ⟨inputs, .member members inputs hmember, hrelated⟩
  | items classType _ _ hinputs =>
      rcases hinputs.exists_members with ⟨inputs, rfl, hrelated⟩
      exact ⟨inputs, .item (.str classType) inputs, hrelated⟩

theorem Writes.readsAs_self {j : Json} {node : CompiledNode} (h : Writes j node) :
    node.ReadsAs node := by
  rcases h.exists_hasInputs with ⟨inputs, -, hrelated⟩
  refine ⟨rfl, (OrderedMap.related_self_iff _ _).mpr fun e he => ?_⟩
  rcases hrelated.exists_left e he with ⟨k, hk⟩
  exact hk.readsAs_self

theorem independent_record : record.Independent where
  fills := by
    simp only [record, List.forall_mem_cons, Field.required]
    exact ⟨Field.make_fills fun _ _ => rfl, Field.make_fills fun _ _ => rfl, nofun⟩
  apart := by
    simp only [record, Field.required, List.pairwise_cons, List.forall_mem_cons]
    refine ⟨⟨?_, nofun⟩, nofun, .nil⟩
    exact Field.make_apart (fun _ _ => rfl) (fun _ _ => rfl) fun _ _ _ => rfl

theorem puts_classType : record.fields[0].Puts Doc.string fun o => ⟨o, none⟩ :=
  ⟨rfl, fun _ => rfl⟩

theorem puts_inputs (classType : Option String) :
    record.fields[1].Puts (Doc.map ResolvedInput.decoder) fun o => ⟨classType, o⟩ :=
  ⟨rfl, fun _ => rfl⟩

theorem inputs_ofJson_iff (j : Json) (inputs : OrderedMap ResolvedInput) :
    (Doc.map ResolvedInput.decoder).ofJson j = .ok inputs ↔
      OrderedMap.Writes ResolvedInput.Writes j inputs :=
  Doc.map_ofJson_iff ResolvedInput.decoder_ofJson_iff j inputs

/-- A draft is read from members if its class and its inputs are read from those of their name. -/
theorem readMembers_iff (members : List (String × Json)) (s : Draft) :
    record.readMembers record.blank (Doc.ofMembers members) = .ok s ↔
      Given (fun j text => j = .str text) (Entries.named "class_type" members) s.classType ∧
        Given (OrderedMap.Writes ResolvedInput.Writes) (Entries.named "inputs" members)
          s.inputs := by
  -- What is left once both fields have been read is skipped.
  have hskip : ∀ m, record.readMembers m (Doc.ofMembers (Entries.without "inputs"
      (Entries.without "class_type" members))) = .ok m := record.readMembers_withoutAll members
  have hfield := fun classType => record.readMembers_field (puts_inputs classType) s
    independent_record "inputs" rfl
  have hblank : record.blank = ⟨none, none⟩ := rfl
  rw [hblank, record.readMembers_field puts_classType s independent_record "class_type" rfl]
  simp only [hfield, hskip, Given.congr Doc.string_ofJson_iff, Given.congr inputs_ofJson_iff,
    Entries.named_without _ _ (by decide : "inputs" ≠ "class_type"), Except.ok.injEq]
  constructor
  · rintro ⟨_, hclass, _, hinputs, rfl⟩
    exact ⟨hclass, hinputs⟩
  · rintro ⟨hclass, hinputs⟩
    exact ⟨_, hclass, _, hinputs, rfl⟩

/-- A draft is complete if it has both fields. -/
theorem complete_iff (s : Draft) (node : CompiledNode) :
    record.complete s = .ok node ↔ s = ⟨some node.classType, some node.inputs⟩ := by
  rcases s with ⟨_ | classType, _ | inputs⟩
  · exact ⟨fun h => (by cases h), fun h => (by cases h)⟩
  · exact ⟨fun h => (by cases h), fun h => (by cases h)⟩
  · exact ⟨fun h => (by cases h), fun h => (by cases h)⟩
  · exact ⟨fun h => (by cases h; rfl), fun h => (by cases h; rfl)⟩

/-- The first item is the class. -/
theorem readItems_cons (total : Nat) (first : Json) (rest : List Json) (s : Draft) :
    record.readItems total .counted 0 record.blank record.fields (Doc.ofItems (first :: rest)) =
        .ok s ↔
      ∃ classType, first = .str classType ∧
        record.readItems total .counted 1 ⟨some classType, none⟩ [record.fields[1]]
          (Doc.ofItems rest) = .ok s := by
  have hrun : record.readItems total .counted 0 record.blank record.fields
      (Doc.ofItems (first :: rest)) =
        (Doc.string.ofJson first).map (fun text => (⟨some text, none⟩ : Draft)) >>= fun s =>
          record.readItems total .counted 1 s [record.fields[1]] (Doc.ofItems rest) := rfl
  rw [hrun, bind_eq_ok]
  simp only [map_eq_ok, Doc.string_ofJson_iff]
  constructor
  · rintro ⟨_, ⟨classType, hfirst, rfl⟩, hrest⟩
    exact ⟨classType, hfirst, hrest⟩
  · rintro ⟨classType, hfirst, hrest⟩
    exact ⟨_, ⟨classType, hfirst, rfl⟩, hrest⟩

/-- The second item has the inputs, and it is the last. -/
theorem readItems_last (total : Nat) (classType : String) (items : List Json) (s : Draft) :
    record.readItems total .counted 1 ⟨some classType, none⟩ [record.fields[1]]
        (Doc.ofItems items) = .ok s ↔
      ∃ j inputs, items = [j] ∧ OrderedMap.Writes ResolvedInput.Writes j inputs ∧
        s = ⟨some classType, some inputs⟩ := by
  rcases items with _ | ⟨j, rest⟩
  · refine ⟨fun h => (by cases h), ?_⟩
    rintro ⟨-, -, ⟨⟩, -⟩
  · have hrun : record.readItems total .counted 1 ⟨some classType, none⟩ [record.fields[1]]
        (Doc.ofItems (j :: rest)) =
          ((Doc.map ResolvedInput.decoder).ofJson j).map
            (fun inputs => (⟨some classType, some inputs⟩ : Draft)) >>= fun s =>
              record.readItems total .counted 2 s [] (Doc.ofItems rest) := rfl
    rw [hrun, bind_eq_ok]
    simp only [map_eq_ok, inputs_ofJson_iff]
    constructor
    · rintro ⟨_, ⟨inputs, hinputs, rfl⟩, hrest⟩
      cases rest with
      | nil =>
          cases hrest
          exact ⟨j, inputs, rfl, hinputs, rfl⟩
      | cons _ _ => cases hrest
    · rintro ⟨_, inputs, ⟨⟩, hinputs, rfl⟩
      exact ⟨_, ⟨inputs, hinputs, rfl⟩, rfl⟩

theorem decoder_ofJson_iff (j : Json) (node : CompiledNode) :
    decoder.ofJson j = .ok node ↔ Writes j node := by
  cases j with
  | obj members =>
      rw [decoder, Record.ofJson_obj, bind_eq_ok]
      simp only [readMembers_iff, complete_iff]
      constructor
      · rintro ⟨_, ⟨hclass, hinputs⟩, rfl⟩
        rcases (given_some_iff _ _ _).mp hclass with ⟨_, hclass, rfl⟩
        rcases (given_some_iff _ _ _).mp hinputs with ⟨j, hmember, hinputs⟩
        exact .members members node.classType j node.inputs hclass hmember hinputs
      · intro h
        cases h with
        | members _ classType j inputs hclass hmember hinputs =>
            refine ⟨⟨some classType, some inputs⟩, ⟨?_, ?_⟩, rfl⟩
            · exact (given_some_iff _ _ classType).mpr ⟨_, hclass, rfl⟩
            · exact (given_some_iff _ _ inputs).mpr ⟨j, hmember, hinputs⟩
  | arr items =>
      rw [decoder, Record.ofJson_arr, bind_eq_ok]
      simp only [complete_iff]
      constructor
      · rintro ⟨_, hread, rfl⟩
        rcases items with _ | ⟨first, rest⟩
        · cases hread
        · rcases (readItems_cons _ first rest _).mp hread with ⟨classType, rfl, hrest⟩
          rcases (readItems_last _ classType rest _).mp hrest with ⟨j, inputs, rfl, hinputs, hs⟩
          cases hs
          exact .items node.classType j node.inputs hinputs
      · intro h
        cases h with
        | items classType j inputs hinputs =>
            have hlast := (readItems_last 2 classType [j] _).mpr ⟨j, inputs, rfl, hinputs, rfl⟩
            exact ⟨_, (readItems_cons 2 _ [j] _).mpr ⟨classType, rfl, hlast⟩, rfl⟩
  | null | bool _ | num _ | str _ => exact ⟨fun h => (by cases h), fun h => (by cases h)⟩

end CompiledNode

namespace CompiledPrompt

/-- What is read as a prompt: an object whose members write nodes. -/
theorem ofJson_iff (j : Json) (prompt : CompiledPrompt) :
    ofJson j = .ok prompt ↔ OrderedMap.Writes CompiledNode.Writes j prompt.nodes := by
  have hread : ofJson j = ((Doc.map CompiledNode.decoder).ofJson j).map .mk := rfl
  rw [hread, map_eq_ok]
  simp only [Doc.map_ofJson_iff CompiledNode.decoder_ofJson_iff]
  constructor
  · rintro ⟨nodes, hnodes, rfl⟩
    exact hnodes
  · exact fun hnodes => ⟨prompt.nodes, hnodes, rfl⟩

/-- A prompt that was read is written and read back as it is: no value in it has the form of a
    reference. -/
theorem ofJson_toJson_of_read (j : Json) (prompt : CompiledPrompt) (h : ofJson j = .ok prompt) :
    ofJson prompt.toJson = .ok prompt := by
  rcases ((ofJson_iff j prompt).mp h).exists_members with ⟨members, -, hrelated⟩
  have hself : prompt.ReadsAs prompt := by
    refine (OrderedMap.related_self_iff _ _).mpr fun e he => ?_
    rcases hrelated.exists_left e he with ⟨k, hk⟩
    exact hk.readsAs_self
  rcases prompt.ofJson_toJson with ⟨read, hread, hreadsAs⟩
  rw [hread, hreadsAs.eq_iff.mpr (hself.eq_iff.mp rfl)]

/-- A prompt that was read has the nodes of what it was read from, in their order, and each node
    has the inputs that it was read from, in their order. When the prompt is written and read, it is
    the same again, and it is written in the same way again. -/
theorem ofJson_canonical (j : Json) (prompt : CompiledPrompt) (h : ofJson j = .ok prompt) :
    ofJson prompt.toJson = .ok prompt ∧
      (ofJson prompt.toJson).map toJson = .ok prompt.toJson ∧
      ∃ members, j = .obj members ∧
        (OrderedMap.ofList members).Related (fun k node => CompiledNode.Writes k node ∧
          ∃ inputs, CompiledNode.HasInputs k inputs ∧
            (OrderedMap.ofList inputs).Related ResolvedInput.Writes node.inputs) prompt.nodes := by
  have hback := ofJson_toJson_of_read j prompt h
  rcases ((ofJson_iff j prompt).mp h).exists_members with ⟨members, hmembers, hrelated⟩
  refine ⟨hback, by rw [hback]; rfl, members, hmembers, ?_⟩
  exact hrelated.imp fun k node hnode => ⟨hnode, hnode.exists_hasInputs⟩

/-- An integer as a value. -/
abbrev handwrittenInt (i : Int) (fits : FitsWord i) : Json := .num (.int i fits)

/-- The value of an input that refers to a node by its number, and four that come close to a
    reference: with a negative slot, with one that is too large, with a fraction for a slot, and
    with one item too many. -/
def handwrittenInputs : List (String × Json) :=
  [("model", .arr [handwrittenInt 3 (by decide), handwrittenInt 0 (by decide)]),
    ("size", .arr [.str "3", handwrittenInt (-1) (by decide)]),
    ("large", .arr [.str "3", handwrittenInt 0x100000000 (by decide)]),
    ("range", .arr [.str "3", .num (.double ⟨false, 0x3FE0000000000000, by decide⟩)]),
    ("triple", .arr [.str "3", handwrittenInt 0 (by decide), handwrittenInt 0 (by decide)])]

/-- A prompt with a node whose inputs come before its class and with one that is a list. -/
def handwritten : Json :=
  .obj [("10", .obj [("inputs", .obj handwrittenInputs), ("class_type", .str "Sampler")]),
    ("3", .arr [.str "Loader", .obj []])]

/-- The prompt that is read: the reference has the id as text, the other values are as they were. -/
def handwrittenPrompt : CompiledPrompt :=
  ⟨.ofList [("10", ⟨"Sampler", .ofList (("model", .reference "3" 0) ::
      (handwrittenInputs.drop 1).map fun e => (e.1, .value e.2))⟩), ("3", ⟨"Loader", .empty⟩)]⟩

theorem handwritten_read_back :
    ofJson handwritten = .ok handwrittenPrompt ∧
      ofJson handwrittenPrompt.toJson = .ok handwrittenPrompt ∧
      handwrittenPrompt.nodes.keys = ["10", "3"] :=
  ⟨rfl, (ofJson_canonical handwritten handwrittenPrompt rfl).1, rfl⟩

end CompiledPrompt

end PromptGraph
