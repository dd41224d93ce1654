import Mathlib.Data.List.Basic
import Mathlib.Logic.Relation
import PromptGraph.Compile.Graph
import PromptGraph.Proofs.Wire.Records

/-!
# Dialects of Workflows

Ways of writing a workflow that make no difference.

Editors write the same workflow in several ways. A link is a list or a record.
The id of a node is text or a number. The class of a node is called `type` or
`class_type`. A node without values has an empty buffer, or null, or no buffer at
all. Each of these is stated here as a rewriting of one place in a value, and
values that such rewritings lead from one to the other, in either direction and
in any number, are the same workflow in different dialects.

A rewriting of one place does not change as what that place is read, and then
the parts around it do not change either. So if one dialect of a workflow can be
read, all of them can, and as the same graph.

## Main definitions

* `Json.ItemStep`, `Json.FieldStep`: Rewriting one item of a list or one field of
  a record.
* `NodeId.Rewrites`, `Link.Rewrites`, `GraphNode.Rewrites`,
  `WorkflowGraph.Rewrites`: The rewritings of one place.
* `WorkflowGraph.SameWorkflow`: Values that rewritings lead to each other.

## Theorems

* `Record.alike_of_fieldStep`: A field may be rewritten to a value that is read
  alike.
* `Link.toOption_ofItems`, `Link.toOption_record`: Both ways to write a link are
  read part by part.
* `Link.alike_of_rewrites`, `GraphNode.alike_of_rewrites`,
  `WorkflowGraph.alike_of_rewrites`: One rewriting makes no difference.
* `WorkflowGraph.ofJson_of_sameWorkflow`: Dialects are read as the same graph, or
  not at all, and compile alike.
-/

namespace PromptGraph

namespace Json

/-- Two lists that differ in an item, which is rewritten. -/
inductive ItemStep (step : Json → Json → Prop) : Json → Json → Prop
  | item (front back : List Json) (j k : Json) (rewrites : step j k) :
    ItemStep step (.arr (front ++ j :: back)) (.arr (front ++ k :: back))

/-- Two records that differ in a field, which is rewritten. The field is found by its name,
    or by its place if the record is written as a list. -/
inductive FieldStep (name : String) (place : Nat) (step : Json → Json → Prop) :
    Json → Json → Prop
  | member (front back : List (String × Json)) (j k : Json) (rewrites : step j k) :
    FieldStep name place step (.obj (front ++ (name, j) :: back))
      (.obj (front ++ (name, k) :: back))
  | item (front back : List Json) (j k : Json) (rewrites : step j k)
    (here : front.length = place) :
    FieldStep name place step (.arr (front ++ j :: back)) (.arr (front ++ k :: back))

end Json

namespace Doc

theorem list_alike_of_itemStep {α : Type} (item : Decoder α) {step : Json → Json → Prop}
    (hstep : ∀ j k, step j k → item.Alike j k) (j k : Json) (h : Json.ItemStep step j k) :
    (list item).Alike j k := by
  rcases h with ⟨front, back, j, k, hjk⟩
  exact list_alike item front back j k (hstep j k hjk)

end Doc

namespace Record

variable {σ α β : Type} (r : Record σ α)

/-- A field may be rewritten to a value that its decoder reads alike. -/
theorem alike_of_fieldStep {name : String} {aliases : List String} {optional : Bool}
    {decoder : Decoder β} {get : σ → Option β} {set : σ → β → σ} {place : Nat}
    (hname : r.fields.find? (·.isNamed name) =
      some (.make name aliases optional decoder get set))
    (hplace : r.fields[place]? = some (.make name aliases optional decoder get set))
    {step : Json → Json → Prop} (hstep : ∀ j k, step j k → decoder.Alike j k) (j k : Json)
    (h : Json.FieldStep name place step j k) : r.decode.Alike j k := by
  rcases h with ⟨front, back, j, k, hjk⟩ | ⟨front, back, j, k, hjk, rfl⟩
  · exact r.alike_of_field front back (name, j) (name, k) hname hname (hstep j k hjk)
  · refine r.alike_of_item front back j k fun f hf s => ?_
    rw [hplace] at hf
    cases hf
    have halike : (decoder (Doc.ofJson j)).toOption = (decoder (Doc.ofJson k)).toOption :=
      hstep j k hjk
    simp only [Field.make, toOption_map, halike]

end Record

namespace NodeId

/-- An id that is an integer of 64 bits with a sign is rewritten to its decimal text. -/
inductive Rewrites : Json → Json → Prop
  | decimal (i : Int) (fits : FitsWord i) (signed : i < 0x8000000000000000) :
    Rewrites (.num (.int i fits)) (.str (integerText i))

theorem toOption_ofJson (j : Json) : (decoder.ofJson j).toOption = ofValue? j := by
  unfold Decoder.ofJson decoder
  rw [Doc.value_ofJson]
  simp only [bind, Except.bind]
  cases ofValue? j <;> rfl

theorem alike_of_rewrites (j k : Json) (h : Rewrites j k) : decoder.Alike j k := by
  rcases h with ⟨i, fits, hsigned⟩
  have hid : ofValue? (.num (.int i fits)) = some (integerText i) := if_pos hsigned
  unfold Decoder.Alike
  rw [toOption_ofJson, toOption_ofJson, hid]
  rfl

end NodeId

namespace Link

/-- A link is rewritten: from a list to a record that has the same parts in any order and
    may have others, or by rewriting the id of its source or of its destination. -/
inductive Rewrites : Json → Json → Prop
  | record (id src srcSlot dst dstSlot : Json) (rest : List Json)
    (extra members : List (String × Json)) (numbered : id ≠ .null)
    (unnamed : ∀ m ∈ extra,
      m.1 ∉ ["id", "origin_id", "origin_slot", "target_id", "target_slot"])
    (order : members.Perm ([("id", id), ("origin_id", src), ("origin_slot", srcSlot),
      ("target_id", dst), ("target_slot", dstSlot)] ++ extra)) :
    Rewrites (.arr (id :: src :: srcSlot :: dst :: dstSlot :: rest)) (.obj members)
  | source (j k : Json) (rewrites : Json.FieldStep "origin_id" 1 NodeId.Rewrites j k) :
    Rewrites j k
  | destination (j k : Json) (rewrites : Json.FieldStep "target_id" 3 NodeId.Rewrites j k) :
    Rewrites j k

theorem independent_record : record.Independent where
  fills := by
    simp only [record, List.forall_mem_cons, Field.required, Field.defaulted]
    exact ⟨Field.make_fills fun _ _ => rfl, Field.make_fills fun _ _ => rfl,
      Field.make_fills fun _ _ => rfl, Field.make_fills fun _ _ => rfl,
      Field.make_fills fun _ _ => rfl, nofun⟩
  apart := by
    simp only [record, Field.required, Field.defaulted, List.pairwise_cons,
      List.forall_mem_cons]
    refine ⟨⟨?_, ?_, ?_, ?_, nofun⟩, ⟨?_, ?_, ?_, nofun⟩, ⟨?_, ?_, nofun⟩, ⟨?_, nofun⟩, nofun,
      .nil⟩ <;> exact Field.make_apart (fun _ _ => rfl) (fun _ _ => rfl) fun _ _ _ => rfl

theorem toOption_part {α : Type} (name : String) (decoder : Decoder α) (j : Json) :
    (part name decoder j).toOption = (decoder.ofJson j).toOption := by
  unfold part
  cases decoder.ofJson j with
  | ok a => rfl
  | error e => cases e <;> rfl

/-- A link that is made of the values of its parts. -/
def ofParts (id : Option LinkId) (src srcSlot dst dstSlot : Json) : Option Link :=
  (NodeId.decoder.ofJson src).toOption.bind fun src =>
    (Doc.u32.ofJson srcSlot).toOption.bind fun srcSlot =>
      (NodeId.decoder.ofJson dst).toOption.bind fun dst =>
        (Doc.u32.ofJson dstSlot).toOption.bind fun dstSlot =>
          some ⟨id, src, srcSlot, dst, dstSlot⟩

/-- A list is read part by part. -/
theorem toOption_ofItems (id src srcSlot dst dstSlot : Json) (rest : List Json) :
    (ofItems (id :: src :: srcSlot :: dst :: dstSlot :: rest)).toOption =
      (Doc.u64.ofJson id).toOption.bind fun id =>
        ofParts (some id) src srcSlot dst dstSlot := by
  unfold ofParts
  simp only [ofItems, toOption_bind, toOption_part, toOption_ok]

/-- So is a record. -/
theorem toOption_record (id src srcSlot dst dstSlot : Json) (extra : List (String × Json))
    (hextra : ∀ m ∈ extra,
      m.1 ∉ ["id", "origin_id", "origin_slot", "target_id", "target_slot"]) :
    (record.decode.ofJson (.obj ([("id", id), ("origin_id", src), ("origin_slot", srcSlot),
      ("target_id", dst), ("target_slot", dstSlot)] ++ extra))).toOption =
      ((Doc.nullable Doc.u64).ofJson id).toOption.bind fun id =>
        ofParts id src srcSlot dst dstSlot := by
  have hskip : ∀ s, record.readMembers s (Doc.ofMembers extra) = .ok s := by
    exact fun s => record.readMembers_skipped extra s hextra
  -- The members fill the draft one after the other.
  have hid := record.toOption_readMember_of_free "id" rfl
  have hsrc := record.toOption_readMember_of_free "origin_id" rfl
  have hsrcSlot := record.toOption_readMember_of_free "origin_slot" rfl
  have hdst := record.toOption_readMember_of_free "target_id" rfl
  have hdstSlot := record.toOption_readMember_of_free "target_slot" rfl
  have hend : ∀ s, record.readMembers s (Doc.ofMembers []) = .ok s := fun _ => rfl
  have hblank : record.blank = {} := rfl
  rw [Record.ofJson_obj, Record.readMembers_append]
  simp only [hskip, hend, Record.readMembers_cons, toOption_bind, toOption_ok, hblank, hid, hsrc,
    hsrcSlot, hdst, hdstSlot, Option.bind_map, Function.comp_def, Option.bind_assoc,
    Option.bind_some]
  rfl

theorem toOption_ofJson_arr (items : List Json) :
    (decoder.ofJson (.arr items)).toOption = (ofItems items).toOption := by
  unfold Decoder.ofJson decoder LinkRecord.decoder
  rw [Doc.value_ofJson]
  change (((ofItems items).map LinkRecord.legacy).map LinkRecord.link).toOption = _
  cases ofItems items <;> rfl

theorem toOption_ofJson_obj (members : List (String × Json)) :
    (decoder.ofJson (.obj members)).toOption =
      (record.decode.ofJson (.obj members)).toOption := by
  unfold Decoder.ofJson decoder LinkRecord.decoder
  rw [Doc.value_ofJson]
  change (((record.decode.ofJson (.obj members)).map LinkRecord.current).map
    LinkRecord.link).toOption = (record.decode.ofJson (.obj members)).toOption
  cases record.decode.ofJson (.obj members) <;> rfl

/-- The record of a link is read as the list was. -/
theorem alike_of_record (id src srcSlot dst dstSlot : Json) (rest : List Json)
    (extra members : List (String × Json)) (hid : id ≠ .null)
    (hextra : ∀ m ∈ extra,
      m.1 ∉ ["id", "origin_id", "origin_slot", "target_id", "target_slot"])
    (horder : members.Perm ([("id", id), ("origin_id", src), ("origin_slot", srcSlot),
      ("target_id", dst), ("target_slot", dstSlot)] ++ extra)) :
    decoder.Alike (.arr (id :: src :: srcSlot :: dst :: dstSlot :: rest)) (.obj members) := by
  have hperm := Record.alike_of_perm independent_record _ _ horder
  -- The record is read part by part in the order of the list.
  unfold Decoder.Alike at hperm ⊢
  rw [toOption_ofJson_arr, toOption_ofJson_obj, hperm, toOption_ofItems,
    toOption_record id src srcSlot dst dstSlot extra hextra, Doc.toOption_nullable _ id hid,
    Option.bind_map]
  rfl

/-- The ids in a list may be exchanged for ids that are read alike. -/
theorem alike_of_id (front back : List Json) (j k : Json) (h : NodeId.decoder.Alike j k)
    (hplace : front.length = 1 ∨ front.length = 3) :
    decoder.Alike (.arr (front ++ j :: back)) (.arr (front ++ k :: back)) := by
  unfold Decoder.Alike
  rw [toOption_ofJson_arr, toOption_ofJson_arr]
  unfold Decoder.Alike at h
  -- A list that is too short is refused whatever is in it.
  rcases hplace with hone | hthree
  · rcases List.length_eq_one_iff.mp hone with ⟨id, rfl⟩
    rcases back with _ | ⟨srcSlot, _ | ⟨dst, _ | ⟨dstSlot, rest⟩⟩⟩
    · rfl
    · rfl
    · rfl
    · change (ofItems (id :: j :: srcSlot :: dst :: dstSlot :: rest)).toOption =
        (ofItems (id :: k :: srcSlot :: dst :: dstSlot :: rest)).toOption
      simp only [toOption_ofItems, ofParts, h]
  · rcases List.length_eq_three.mp hthree with ⟨id, src, srcSlot, rfl⟩
    rcases back with _ | ⟨dstSlot, rest⟩
    · rfl
    · change (ofItems (id :: src :: srcSlot :: j :: dstSlot :: rest)).toOption =
        (ofItems (id :: src :: srcSlot :: k :: dstSlot :: rest)).toOption
      simp only [toOption_ofItems, ofParts, h]

/-- The id of the source or of the destination may be rewritten, in a record and in a list. -/
theorem alike_of_endpoint {name : String} {get : Draft → Option NodeId}
    {set : Draft → NodeId → Draft} {place : Nat}
    (hname : record.fields.find? (·.isNamed name) =
      some (.required name NodeId.decoder get set))
    (hplace : place = 1 ∨ place = 3) (j k : Json)
    (h : Json.FieldStep name place NodeId.Rewrites j k) : decoder.Alike j k := by
  rcases h with ⟨front, back, j, k, hjk⟩ | ⟨front, back, j, k, hjk, rfl⟩
  · unfold Decoder.Alike
    rw [toOption_ofJson_obj, toOption_ofJson_obj]
    exact record.alike_of_field front back (name, j) (name, k) hname hname
      (NodeId.alike_of_rewrites j k hjk)
  · exact alike_of_id front back j k (NodeId.alike_of_rewrites j k hjk) hplace

/-- One rewriting of a link makes no difference. -/
theorem alike_of_rewrites (j k : Json) (h : Rewrites j k) : decoder.Alike j k := by
  cases h with
  | record id src srcSlot dst dstSlot rest extra members hid hextra horder =>
      exact alike_of_record id src srcSlot dst dstSlot rest extra _ hid hextra horder
  | source _ _ hstep => exact alike_of_endpoint rfl (Or.inl rfl) j k hstep
  | destination _ _ hstep => exact alike_of_endpoint rfl (Or.inr rfl) j k hstep

end Link

namespace GraphNode

/-- A buffer that is empty is rewritten to null. -/
inductive RewritesValues : Json → Json → Prop
  | null : RewritesValues (.arr []) .null

/-- A node is rewritten: its id, or the name of the member for its class if the other name is
    not taken, or its empty buffer, which may also be left out. -/
inductive Rewrites : Json → Json → Prop
  | id (j k : Json) (rewrites : Json.FieldStep "id" 0 NodeId.Rewrites j k) : Rewrites j k
  | classType (front back : List (String × Json)) (j : Json)
    (only : ∀ m ∈ front ++ back, m.1 ≠ "class_type") :
    Rewrites (.obj (front ++ ("type", j) :: back)) (.obj (front ++ ("class_type", j) :: back))
  | null (j k : Json) (rewrites : Json.FieldStep "widgets_values" 4 RewritesValues j k) :
    Rewrites j k
  | absentMember (front back : List (String × Json))
    (only : ∀ m ∈ front ++ back, m.1 ≠ "widgets_values") :
    Rewrites (.obj (front ++ ("widgets_values", .arr []) :: back)) (.obj (front ++ back))
  | absentItem (id classType inputs outputs : Json) :
    Rewrites (.arr [id, classType, inputs, outputs, .arr []])
      (.arr [id, classType, inputs, outputs])

theorem independent_record : record.Independent where
  fills := by
    simp only [record, List.forall_mem_cons, Field.required, Field.defaulted]
    exact ⟨Field.make_fills fun _ _ => rfl, Field.make_fills fun _ _ => rfl,
      Field.make_fills fun _ _ => rfl, Field.make_fills fun _ _ => rfl,
      Field.make_fills fun _ _ => rfl, nofun⟩
  apart := by
    simp only [record, Field.required, Field.defaulted, List.pairwise_cons,
      List.forall_mem_cons]
    refine ⟨⟨?_, ?_, ?_, ?_, nofun⟩, ⟨?_, ?_, ?_, nofun⟩, ⟨?_, ?_, nofun⟩, ⟨?_, nofun⟩, nofun,
      .nil⟩ <;> exact Field.make_apart (fun _ _ => rfl) (fun _ _ => rfl) fun _ _ _ => rfl

/-- A node without a buffer is read as one with an empty buffer. -/
theorem alike_of_absentMember (front back : List (String × Json))
    (honly : ∀ m ∈ front ++ back, m.1 ≠ "widgets_values") :
    decoder.Alike (.obj (front ++ ("widgets_values", .arr []) :: back))
      (.obj (front ++ back)) := by
  refine Record.alike_of_absent independent_record front back ("widgets_values", .arr [])
    _ rfl rfl (fun m hm => ?_) fun s hs => ⟨{ s with values := some .empty }, rfl, ?_⟩
  · exact Bool.or_eq_false_iff.mpr ⟨beq_false_of_ne (honly m hm).symm, rfl⟩
  · -- Without a buffer the node gets the empty one, which is what was read.
    have hfree : s.values = none := Option.not_isSome_iff_eq_none.mp (Bool.eq_false_iff.mp hs)
    simp only [record, hfree, Option.getD_some, Option.getD_none]

theorem alike_of_absentItem (id classType inputs outputs : Json) :
    decoder.Alike (.arr [id, classType, inputs, outputs, .arr []])
      (.arr [id, classType, inputs, outputs]) := by
  unfold Decoder.Alike Decoder.ofJson decoder
  simp only [Doc.ofJson, Doc.ofItems, Record.decode, toOption_bind]
  simp only [record, Field.required, Field.defaulted, Field.make, Record.readItems,
    toOption_bind, toOption_map]
  -- Both lists are read alike up to the place of the buffer.
  rcases (NodeId.decoder (Doc.ofJson id)).toOption with _ | id
  · rfl
  rcases (Doc.ofJson classType).string.toOption with _ | classType
  · rfl
  rcases (Doc.list InputSocket.record.decode (Doc.ofJson inputs)).toOption with _ | inputs
  · rfl
  rcases (Doc.list OutputSocket.record.decode (Doc.ofJson outputs)).toOption with _ | outputs
  · rfl
  rfl

/-- One rewriting of a node makes no difference. -/
theorem alike_of_rewrites (j k : Json) (h : Rewrites j k) : decoder.Alike j k := by
  cases h with
  | id _ _ hstep => exact record.alike_of_fieldStep rfl rfl NodeId.alike_of_rewrites j k hstep
  | classType front back j _ =>
      exact record.alike_of_field front back ("type", j) ("class_type", j) rfl rfl (.refl _ j)
  | null _ _ hstep =>
      refine record.alike_of_fieldStep rfl rfl (fun j k hjk => ?_) j k hstep
      cases hjk
      rfl
  | absentMember front back honly => exact alike_of_absentMember front back honly
  | absentItem id classType inputs outputs =>
      exact alike_of_absentItem id classType inputs outputs

end GraphNode

namespace WorkflowGraph

/-- A workflow is rewritten in one of its nodes or links. -/
inductive Rewrites (j k : Json) : Prop
  | node (rewrites : Json.FieldStep "nodes" 1 (Json.ItemStep GraphNode.Rewrites) j k)
  | link (rewrites : Json.FieldStep "links" 2 (Json.ItemStep Link.Rewrites) j k)

/-- Values that rewritings lead to each other, in either direction and in any number. -/
def SameWorkflow : Json → Json → Prop := Relation.EqvGen Rewrites

/-- One rewriting of a workflow makes no difference. -/
theorem alike_of_rewrites (j k : Json) (h : Rewrites j k) : decoder.Alike j k := by
  cases h with
  | node hstep =>
      exact record.alike_of_fieldStep rfl rfl
        (Doc.list_alike_of_itemStep GraphNode.decoder GraphNode.alike_of_rewrites) j k hstep
  | link hstep =>
      exact record.alike_of_fieldStep rfl rfl
        (Doc.list_alike_of_itemStep Link.decoder Link.alike_of_rewrites) j k hstep

/-- No rewritings make a difference. -/
theorem alike_of_sameWorkflow (j k : Json) (h : SameWorkflow j k) : decoder.Alike j k := by
  induction h with
  | rel j k hstep => exact alike_of_rewrites j k hstep
  | refl j => exact .refl decoder j
  | symm _ _ _ ih => exact ih.symm
  | trans _ _ _ _ _ ih ih' => exact ih.trans ih'

/-- What the compile of a workflow that is written as a value yields: nothing if the value
    cannot be read, else an error or the text of the prompt. -/
def promptText? (j : Json) (options : CompileOptions) (source : Source) (fetches : Nat) :
    Option (Except CompileError String) :=
  (ofJson j).toOption.map fun graph =>
    (graph.compile options source fetches).run.result.map fun prompt => prompt.toJson.compact

/-- Dialects of a workflow are read as the same graph, or both cannot be read. So they compile
    to the same text with any options and any source of schemas. -/
theorem ofJson_of_sameWorkflow (j k : Json) (h : SameWorkflow j k) :
    ((∃ e e', ofJson j = .error e ∧ ofJson k = .error e') ∨
        ∃ graph, ofJson j = .ok graph ∧ ofJson k = .ok graph) ∧
      ∀ options source fetches,
        promptText? j options source fetches = promptText? k options source fetches := by
  have halike : (ofJson j).toOption = (ofJson k).toOption := alike_of_sameWorkflow j k h
  refine ⟨?_, fun options source fetches => ?_⟩
  · cases hj : ofJson j with
    | ok graph =>
        rw [hj, toOption_ok, eq_comm, toOption_eq_some_iff] at halike
        exact Or.inr ⟨graph, rfl, halike⟩
    | error e =>
        cases hk : ofJson k with
        | ok graph =>
            rw [hj, hk] at halike
            cases halike
        | error e' => exact Or.inl ⟨e, e', rfl, rfl⟩
  · unfold promptText?
    rw [halike]

/-- The number one as it is written. -/
abbrev jsonOne : Json := .num (.int 1 (by decide))

/-- A workflow with a node and a link that leads nowhere. -/
def linkedLoader (node link : Json) : Json :=
  .obj [("nodes", .arr [node]), ("links", .arr [link])]

/-- The workflow with numbers and a list. -/
def linkedByList : Json :=
  linkedLoader (.obj [("id", jsonOne), ("type", .str "Loader"), ("widgets_values", .arr [])])
    (.arr [jsonOne, jsonOne, jsonOne, .str "2", jsonOne])

/-- The workflow with text and a record. -/
def linkedByRecord : Json :=
  linkedLoader (.obj [("id", .str "1"), ("class_type", .str "Loader")])
    (.obj [("type", .str "MODEL"), ("id", jsonOne), ("origin_id", .str "1"),
      ("origin_slot", jsonOne), ("target_id", .str "2"), ("target_slot", jsonOne)])

theorem linkedLoader_node (j k link : Json) (h : GraphNode.Rewrites j k) :
    SameWorkflow (linkedLoader j link) (linkedLoader k link) :=
  .rel _ _ (.node (.member [] [("links", .arr [link])] _ _ (.item [] [] j k h)))

theorem linkedLoader_link (node j k : Json) (h : Link.Rewrites j k) :
    SameWorkflow (linkedLoader node j) (linkedLoader node k) :=
  .rel _ _ (.link (.member [("nodes", .arr [node])] [] _ _ (.item [] [] j k h)))

theorem sameWorkflow_linked : SameWorkflow linkedByList linkedByRecord := by
  have hone : NodeId.Rewrites jsonOne (.str "1") := .decimal 1 _ (by decide)
  -- The node: its id, the name for its class, and its empty buffer.
  refine .trans _ _ _ (linkedLoader_node _ _ _ (.id _ _ (.member [] _ _ _ hone))) ?_
  refine .trans _ _ _ (linkedLoader_node _ _ _
    (.classType [("id", .str "1")] [("widgets_values", .arr [])] (.str "Loader") ?_)) ?_
  · simp
  refine .trans _ _ _ (linkedLoader_node _ _ _
    (.absentMember [("id", .str "1"), ("class_type", .str "Loader")] [] ?_)) ?_
  · simp
  -- The link: its form, and the id of its source.
  refine .trans _ _ _ (linkedLoader_link _ _ _ (.record jsonOne jsonOne jsonOne (.str "2") jsonOne
    [] [("type", .str "MODEL")] _ ?_ ?_ (List.perm_append_singleton _ _).symm)) ?_
  · simp
  · simp
  exact linkedLoader_link _ _ _
    (.source _ _ (.member [("type", .str "MODEL"), ("id", jsonOne)] _ _ _ hone))

/-- Both are read, as the same graph. -/
theorem linked_dialects_read : SameWorkflow linkedByList linkedByRecord ∧
    ∃ graph, ofJson linkedByList = .ok graph ∧ ofJson linkedByRecord = .ok graph := by
  refine ⟨sameWorkflow_linked, ?_⟩
  rcases (ofJson_of_sameWorkflow _ _ sameWorkflow_linked).1 with ⟨e, -, he, -⟩ | hgraph
  · cases he
  · exact hgraph

end WorkflowGraph

end PromptGraph
