import PromptGraph.Proofs.Graph.Literals
import PromptGraph.Proofs.Wire.Maps
import PromptGraph.Proofs.Wire.Records

/-!
# Reading Prompts Back

What is read when a compiled prompt is written and read again.

A reference is written as a list of a node id and a slot, and a reader takes
every list of this form for a reference. So a prompt is always read back with the
same nodes, classes and input names in the same order, every reference comes back
as it was, and so does every literal that is not such a list. A literal that is
one comes back as a reference.

Compiled prompts may have such literals, for a value of any form is taken where
no kind is expected. If the compile is strict, there are three ways for it: the
input has no kind, being undeclared or passed by reference, or the value is the
default of the input, or it is the value of a primitive node.

## Main definitions

* `Json.WritesId`, `Json.WritesReference`: How ids and references are written.
* `ResolvedInput.ReadsAs`: What an input is read as.
* `CompiledNode.ReadsAs`, `CompiledPrompt.ReadsAs`: The same for nodes and prompts.
* `CompiledPrompt.HasLiteral`: A value in a prompt.

## Theorems

* `NodeId.ofValue?_eq_some_iff`: Which values are read as ids.
* `ResolvedInput.ofValue_eq_reference_iff`: Which values are read as references.
* `CompiledPrompt.ofJson_toJson`: A prompt that is written can be read.
* `WorkflowGraph.compile_readsAs`: What a compiled prompt is read as, and when it
  is read as itself.
* `WorkflowGraph.paired_list_read_as_reference`: It need not be read as itself.
-/

namespace PromptGraph

/-- How a node id is written: as text, or as an integer of 64 bits with a sign, which
    stands for its decimal text. -/
inductive Json.WritesId : Json → NodeId → Prop
  | text (id : String) : WritesId (.str id) id
  | integer (i : Int) (fits : FitsWord i) (signed : i < 0x8000000000000000) :
    WritesId (.num (.int i fits)) (integerText i)

/-- How a reference is written: as a list of a node id and a slot number. -/
def Json.WritesReference (j : Json) (src : NodeId) (slot : Slot) : Prop :=
  ∃ node fits, j = .arr [node, .num (.int slot.toNat fits)] ∧ node.WritesId src

theorem NodeId.ofValue?_eq_some_iff (j : Json) (id : NodeId) :
    NodeId.ofValue? j = some id ↔ j.WritesId id := by
  constructor
  · intro h
    unfold ofValue? at h
    split at h
    · cases h
      exact .text id
    · rename_i i fits
      by_cases hsigned : i < 0x8000000000000000
      · rw [if_pos hsigned] at h
        cases h
        exact .integer i fits hsigned
      · rw [if_neg hsigned] at h
        cases h
    · cases h
  · rintro (_ | ⟨i, fits, hsigned⟩)
    · rfl
    · exact if_pos hsigned

namespace ResolvedInput

theorem slotOfValue?_eq_some_iff (j : Json) (slot : Slot) :
    slotOfValue? j = some slot ↔ ∃ fits, j = .num (.int slot.toNat fits) := by
  have hslot := slot.toNat_lt
  constructor
  · intro h
    unfold slotOfValue? at h
    split at h
    · rename_i i fits
      by_cases hrange : 0 ≤ i ∧ i < 0x100000000
      · rw [if_pos hrange, Option.some.injEq] at h
        -- The number that was read is the slot again.
        have hi : i = slot.toNat := by
          rw [← h, UInt32.toNat_ofNat']
          omega
        subst hi
        exact ⟨fits, rfl⟩
      · rw [if_neg hrange] at h
        cases h
    · cases h
  · rintro ⟨fits, rfl⟩
    have hrange : 0 ≤ (slot.toNat : Int) ∧ (slot.toNat : Int) < 0x100000000 := by omega
    simp only [slotOfValue?, if_pos hrange, Int.toNat_natCast, UInt32.ofNat_toNat]

/-- The values that are read as references are those that write them. -/
theorem ofValue_eq_reference_iff (j : Json) (src : NodeId) (slot : Slot) :
    ofValue j = .reference src slot ↔ j.WritesReference src slot := by
  unfold Json.WritesReference
  constructor
  · intro h
    unfold ofValue at h
    split at h
    · rename_i node index
      split at h
      · rename_i id n hid hn
        cases h
        rcases (slotOfValue?_eq_some_iff index slot).mp hn with ⟨fits, rfl⟩
        exact ⟨node, fits, rfl, (NodeId.ofValue?_eq_some_iff node src).mp hid⟩
      · cases h
    · cases h
  · rintro ⟨node, fits, rfl, hid⟩
    have hslot := (slotOfValue?_eq_some_iff (.num (.int slot.toNat fits)) slot).mpr ⟨fits, rfl⟩
    simp only [ofValue, (NodeId.ofValue?_eq_some_iff node src).mpr hid, hslot]

/-- Any other value is read as it is. -/
theorem ofValue_of_not_writesReference (j : Json)
    (h : ∀ src slot, ¬j.WritesReference src slot) : ofValue j = .value j := by
  cases hread : ofValue j with
  | reference src slot =>
      exact absurd ((ofValue_eq_reference_iff j src slot).mp hread) (h src slot)
  | value k =>
      unfold ofValue at hread
      split at hread
      · split at hread
        · cases hread
        · exact hread.symm
      · exact hread.symm

/-- What an input is read as: a reference and most values as themselves, but a value that
    has the form of a reference as a reference. -/
inductive ReadsAs : ResolvedInput → ResolvedInput → Prop
  | reference (src : NodeId) (slot : Slot) : ReadsAs (.reference src slot) (.reference src slot)
  | value (j : Json) (plain : ∀ src slot, ¬j.WritesReference src slot) :
    ReadsAs (.value j) (.value j)
  | confused (j : Json) (src : NodeId) (slot : Slot) (writes : j.WritesReference src slot) :
    ReadsAs (.value j) (.reference src slot)

/-- An input that is read as itself has not the form of another. -/
theorem readsAs_self_iff (input : ResolvedInput) :
    input.ReadsAs input ↔ ∀ j, input = .value j → ∀ src slot, ¬j.WritesReference src slot := by
  constructor
  · rintro (⟨src, slot⟩ | ⟨j, hplain⟩) k hk
    · cases hk
    · cases hk
      exact hplain
  · intro h
    cases input with
    | reference src slot => exact .reference src slot
    | value j => exact .value j (h j rfl)

theorem ReadsAs.eq_of_plain {input read : ResolvedInput} (h : input.ReadsAs read)
    (hplain : ∀ j, input = .value j → ∀ src slot, ¬j.WritesReference src slot) :
    input = read := by
  cases h with
  | reference src slot => rfl
  | value j _ => rfl
  | confused j src slot hwrites => exact absurd hwrites (hplain j rfl src slot)

/-- The input that is read when an input has been written. -/
def reread (input : ResolvedInput) : ResolvedInput := ofValue input.toJson

theorem readsAs_reread (input : ResolvedInput) : input.ReadsAs input.reread := by
  unfold reread
  cases input with
  | reference src slot =>
      have hwrites : (toJson (.reference src slot)).WritesReference src slot :=
        ⟨.str src, _, rfl, .text src⟩
      rw [(ofValue_eq_reference_iff _ src slot).mpr hwrites]
      exact .reference src slot
  | value j =>
      by_cases hplain : ∀ src slot, ¬j.WritesReference src slot
      · rw [toJson, ofValue_of_not_writesReference j hplain]
        exact .value j hplain
      · simp only [not_forall, not_not] at hplain
        rcases hplain with ⟨src, slot, hwrites⟩
        rw [toJson, (ofValue_eq_reference_iff j src slot).mpr hwrites]
        exact .confused j src slot hwrites

theorem ofJson_toJson (input : ResolvedInput) :
    decoder.ofJson input.toJson = .ok input.reread := by
  unfold Decoder.ofJson decoder
  rw [Doc.value_ofJson]
  rfl

end ResolvedInput

namespace CompiledNode

/-- A node is read as one of the same class, with what its inputs are read as. -/
def ReadsAs (node read : CompiledNode) : Prop :=
  node.classType = read.classType ∧ node.inputs.Related ResolvedInput.ReadsAs read.inputs

/-- The node that is read when a node has been written. -/
def reread (node : CompiledNode) : CompiledNode :=
  ⟨node.classType, node.inputs.map ResolvedInput.reread⟩

theorem readsAs_reread (node : CompiledNode) : node.ReadsAs node.reread :=
  ⟨rfl, OrderedMap.related_map _ _ _ fun e _ => e.2.readsAs_reread⟩

/-- A node is written as two members, which are read one after the other. -/
theorem ofJson_toJson (node : CompiledNode) : decoder.ofJson node.toJson = .ok node.reread := by
  have hmap := Doc.map_ofJson ResolvedInput.decoder ResolvedInput.toJson ResolvedInput.reread
    node.inputs fun e _ => e.2.ofJson_toJson
  have hclass : record.readMember "class_type" (Doc.ofJson (.str node.classType)) record.blank =
      .ok { classType := some node.classType } := rfl
  have hinputs : record.readMember "inputs"
      (Doc.ofJson (.obj (node.inputs.map ResolvedInput.toJson).entries))
      { classType := some node.classType } =
        ((Doc.map ResolvedInput.decoder).ofJson
          (.obj (node.inputs.map ResolvedInput.toJson).entries)).map fun inputs =>
            { classType := some node.classType, inputs := some inputs } := rfl
  rw [hmap] at hinputs
  unfold decoder toJson
  rw [Record.ofJson_obj, Record.readMembers_cons, hclass]
  change (Record.readMember record _ _ _ >>= _) >>= _ = _
  rw [hinputs]
  rfl

end CompiledNode

namespace CompiledPrompt

/-- A prompt is read as one with the same ids in the same order, with what its nodes are
    read as. -/
def ReadsAs (prompt read : CompiledPrompt) : Prop :=
  prompt.nodes.Related CompiledNode.ReadsAs read.nodes

/-- A prompt has a value as an input of a node. -/
def HasLiteral (prompt : CompiledPrompt) (id : NodeId) (name : String) (value : Json) : Prop :=
  ∃ entry, prompt.get? id = some entry ∧ entry.inputs.get? name = some (.value value)

/-- A prompt that is written can be read. -/
theorem ofJson_toJson (prompt : CompiledPrompt) :
    ∃ read, ofJson prompt.toJson = .ok read ∧ prompt.ReadsAs read := by
  have hmap := Doc.map_ofJson CompiledNode.decoder CompiledNode.toJson CompiledNode.reread
    prompt.nodes fun e _ => e.2.ofJson_toJson
  refine ⟨⟨prompt.nodes.map CompiledNode.reread⟩, ?_,
    OrderedMap.related_map _ _ _ fun e _ => e.2.readsAs_reread⟩
  have hread : ofJson prompt.toJson = ((Doc.map CompiledNode.decoder).ofJson
      (.obj (prompt.nodes.map CompiledNode.toJson).entries)).map .mk := rfl
  rw [hread, hmap]
  rfl

/-- A prompt is read as itself exactly if no value in it has the form of a reference. -/
theorem ReadsAs.eq_iff {prompt read : CompiledPrompt} (h : prompt.ReadsAs read) :
    read = prompt ↔ ∀ id name value, prompt.HasLiteral id name value →
      ∀ src slot, ¬value.WritesReference src slot := by
  constructor
  · rintro rfl id name value ⟨entry, hentry, hget⟩
    -- Every part of the prompt is read as itself.
    have hnode := (OrderedMap.related_self_iff _ _).mp h _
      (OrderedMap.mem_of_get? _ id entry hentry)
    have hinput := (OrderedMap.related_self_iff _ _).mp hnode.2 _
      (OrderedMap.mem_of_get? _ name _ hget)
    exact (ResolvedInput.readsAs_self_iff _).mp hinput value rfl
  · intro hplain
    have hnodes : prompt.nodes = read.nodes := by
      refine OrderedMap.Related.eq h fun e he node hnode => ?_
      have hinputs : e.2.inputs = node.inputs := by
        refine OrderedMap.Related.eq hnode.2 fun f hf input hinput => hinput.eq_of_plain ?_
        intro j hj src slot
        refine hplain e.1 f.1 j ⟨e.2, OrderedMap.get?_of_mem _ e he, ?_⟩ src slot
        rw [← hj]
        exact OrderedMap.get?_of_mem _ f hf
      exact congrArg₂ CompiledNode.mk hnode.1 hinputs
    exact congrArg CompiledPrompt.mk hnodes.symm

end CompiledPrompt

theorem fits_arr (kind : Kind) (items : List Json) : fits (some kind) (.arr items) = false := by
  cases kind <;> rfl

namespace WorkflowGraph

variable (graph : WorkflowGraph)

/-- A list as a literal of a strict compile is an input without a kind, or a default, or
    the value of a primitive node. -/
theorem origin_of_list (options : CompileOptions) (source : Source) (fetches : Nat)
    (hstrict : options.strictTypes = true) (prompt : CompiledPrompt)
    (h : (graph.compile options source fetches).run.result = .ok prompt) (id : NodeId)
    (name : String) (items : List Json) (hliteral : prompt.HasLiteral id name (.arr items)) :
    ∃ catalog node, source fetches = .ok catalog ∧ graph.entryNode? id = some node ∧
      ((catalog.schemaOf node.classType).kind? name = none ∨
        (catalog.schemaOf node.classType).default? name = some (.arr items) ∨
        graph.TakesOver node name (.arr items)) := by
  rcases hliteral with ⟨entry, hentry, hget⟩
  rcases graph.compile_entry options source fetches prompt h id entry hentry with
    ⟨catalog, node, hfetch, hnode, hcompiled⟩
  refine ⟨catalog, node, hfetch, hnode, ?_⟩
  -- A list fits no kind.
  have hnone : fits ((catalog.schemaOf node.classType).kind? name) (.arr items) = true →
      (catalog.schemaOf node.classType).kind? name = none := by
    intro hfits
    cases hkind : (catalog.schemaOf node.classType).kind? name with
    | none => rfl
    | some kind =>
        rw [hkind, fits_arr] at hfits
        cases hfits
  rcases graph.route_of_literal _ hstrict catalog node entry hcompiled name _ hget with
    ⟨-, hfits⟩ | ⟨first, htakes, -, hfits | hfirst⟩ | hdefault
  · exact Or.inl (hnone hfits)
  · exact Or.inl (hnone hfits)
  · exact Or.inr (Or.inr (hfirst ▸ htakes))
  · exact Or.inr (Or.inl hdefault)

/-- A compiled prompt that is written can be read. What is read has the same nodes,
    classes and input names in the same order, and the inputs are the same but for values
    that have the form of a reference; so it is the prompt itself exactly if there are no
    such values. In a strict compile they are inputs without a kind, or defaults, or
    values of primitive nodes. -/
theorem compile_readsAs (options : CompileOptions) (source : Source) (fetches : Nat)
    (prompt : CompiledPrompt)
    (h : (graph.compile options source fetches).run.result = .ok prompt) :
    ∃ read, CompiledPrompt.ofJson prompt.toJson = .ok read ∧ prompt.ReadsAs read ∧
      (read = prompt ↔ ∀ id name value, prompt.HasLiteral id name value →
        ∀ src slot, ¬value.WritesReference src slot) ∧
      (options.strictTypes = true → ∀ id name value, prompt.HasLiteral id name value →
        ∀ src slot, value.WritesReference src slot →
          ∃ catalog node, source fetches = .ok catalog ∧ graph.entryNode? id = some node ∧
            ((catalog.schemaOf node.classType).kind? name = none ∨
              (catalog.schemaOf node.classType).default? name = some value ∨
              graph.TakesOver node name value)) := by
  rcases prompt.ofJson_toJson with ⟨read, hread, hreadsAs⟩
  refine ⟨read, hread, hreadsAs, hreadsAs.eq_iff, fun hstrict id name value hliteral => ?_⟩
  rintro src slot ⟨node, fits, rfl, -⟩
  exact graph.origin_of_list options source fetches hstrict prompt h id name _ hliteral

/-- A workflow with a socket for a pair, which no schema declares, and a value for it. -/
def paired (value : Json) : WorkflowGraph :=
  { nodes := [⟨"1", "Loader", [.bound "pair"], [], .sequence [value]⟩] }

/-- What the workflow compiles to. -/
def pairedPrompt (value : Json) : CompiledPrompt :=
  CompiledPrompt.empty.insert "1" ⟨"Loader", OrderedMap.empty.insert "pair" (.value value)⟩

theorem paired_compile (value : Json) :
    ((paired value).compile {} (fun _ => .ok .empty) 0).run.result = .ok (pairedPrompt value) :=
  rfl

theorem eq_of_hasLiteral_paired (value other : Json) (id : NodeId) (name : String)
    (h : (pairedPrompt value).HasLiteral id name other) : other = value := by
  rcases h with ⟨entry, hentry, hget⟩
  unfold pairedPrompt CompiledPrompt.get? CompiledPrompt.insert at hentry
  rw [OrderedMap.get?_insert] at hentry
  split at hentry
  · cases hentry
    rw [OrderedMap.get?_insert] at hget
    split at hget
    · cases hget
      rfl
    · cases hget
  · cases hentry

/-- With text for the pair the prompt is read as itself. -/
theorem paired_text_read_back :
    ((paired (.str "euler")).compile {} (fun _ => .ok .empty) 0).run.result =
        .ok (pairedPrompt (.str "euler")) ∧
      CompiledPrompt.ofJson (pairedPrompt (.str "euler")).toJson =
        .ok (pairedPrompt (.str "euler")) := by
  rcases compile_readsAs (paired (.str "euler")) {} (fun _ => .ok .empty) 0 _
    (paired_compile _) with ⟨read, hread, -, hsame, -⟩
  refine ⟨paired_compile _, hread.trans (congrArg _ (hsame.mpr fun id name value h => ?_))⟩
  -- Text has not the form of a reference.
  rw [eq_of_hasLiteral_paired _ _ _ _ h]
  rintro src slot ⟨node, fits, hvalue, -⟩
  cases hvalue

/-- With an id and a number for the pair the prompt is read with a reference in its place. -/
theorem paired_list_read_as_reference :
    ((paired (.arr [.str "2", jsonOfUInt32 0])).compile {} (fun _ => .ok .empty) 0).run.result =
        .ok (pairedPrompt (.arr [.str "2", jsonOfUInt32 0])) ∧
      ∃ read, CompiledPrompt.ofJson (pairedPrompt (.arr [.str "2", jsonOfUInt32 0])).toJson =
          .ok read ∧ read ≠ pairedPrompt (.arr [.str "2", jsonOfUInt32 0]) := by
  refine ⟨paired_compile _, ?_⟩
  rcases (pairedPrompt (.arr [.str "2", jsonOfUInt32 0])).ofJson_toJson with
    ⟨read, hread, hreadsAs⟩
  refine ⟨read, hread, fun hsame => ?_⟩
  -- The literal is a list of an id and a slot.
  exact hreadsAs.eq_iff.mp hsame "1" "pair" _ ⟨_, rfl, rfl⟩ "2" 0 ⟨.str "2", _, rfl, .text "2"⟩

end WorkflowGraph

end PromptGraph
