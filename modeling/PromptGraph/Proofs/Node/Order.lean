import PromptGraph.Proofs.Node.Findings
import PromptGraph.Proofs.Wire.Maps

/-!
# The Order of Inputs

Which inputs a compiled node has, and in which order.

The three passes write to one map, which keeps a name where it was first set. The first pass may
set a name again, and only the first time counts for the order. The second and the third look
before they set anything, so they add to the end. The names of a compiled node are thus in three
groups, one for each pass: those that sockets set, in the order of the sockets; those with values
from the buffer, in the order declared; and required ones that have their defaults, in that order
too.

This tells of a name where it can have come from. One that no bound socket has and that is not
required has a value from the buffer, and never its default. One that is neither required nor
optional is there only if a bound socket has it.

## Main definitions

* `Site.setNames`: The names that sockets set, by their findings.
* `Stored`: A value from the buffer for a declared input.
* `Site.defaultsAfter`: The defaults that the third pass fills in.
* `Site.Grouped`: The inputs of a compiled node in three groups.

## Theorems

* `OrderedMap.keys_insert_of_eraseDups`: A map to which names were added one after the other.
* `Site.keys_resolveSockets`: The names that the first pass sets.
* `Site.map_input_findingsAlong`: Each bound socket has a finding.
* `Site.entries_backfillAll`: What the second pass adds.
* `Site.entries_fillDefaults`: What the third pass adds.
* `Site.compile_grouped`: The groups of inputs.
* `Site.compile_inputs_order`: The order of inputs, and what it tells of where they are from.
-/

namespace PromptGraph

/-- A map with the names of a list in the order in which they are first met goes on with it. -/
theorem OrderedMap.keys_insert_of_eraseDups {α : Type} (m : OrderedMap α) (names : List String)
    (h : m.keys = names.eraseDups) (name : String) (value : α) :
    (m.insert name value).keys = (names ++ [name]).eraseDups := by
  have hkeys := Entries.keys_insert name value m.entries
  unfold OrderedMap.keys at h ⊢
  rw [entries_insert, hkeys, eraseDups_snoc, h]
  simp only [List.mem_eraseDups]

theorem Resolution.entries_of_insert {r r' : Resolution} {name : String} {input : ResolvedInput}
    (h : r'.inputs = r.inputs.insert name input) (hopen : r.isSet name = false) :
    r'.inputs.entries = r.inputs.entries ++ [(name, input)] := by
  rw [h]
  refine Entries.insert_of_not_mem name input _ fun hmem => ?_
  have hset : r.isSet name = true := (r.inputs.mem_keys_iff name).mp hmem
  rw [hopen] at hset
  cases hset

/-- A value from the buffer for a declared input. -/
structure Stored where
  input : String
  decl : TypeDecl
  value : Json

namespace Stored

/-- The declaration that it is read for. -/
def declared (stored : Stored) : String × TypeDecl := (stored.input, stored.decl)

/-- The input that is set to it. -/
def entry (stored : Stored) : String × ResolvedInput := (stored.input, .value stored.value)

/-- It is a scalar that some read of the buffer gives. -/
structure ReadFrom (buffer : ValueBuffer) (stored : Stored) : Prop where
  isScalar : isScalarType stored.decl.typeName = true
  isRead : ∃ position, (Cursor.take ⟨buffer, position⟩ stored.input
    (classify stored.decl.typeName).kind?).value = some stored.value

end Stored

namespace Site

variable (site : Site) {r r' : Resolution}

/-- The names that sockets set: those for which something was found, or else filled in. -/
def setNames (log : List Finding) : List String :=
  (log.filter fun f => (f.found.or (site.filled f.input)).isSome).map Finding.input

theorem setNames_snoc (log : List Finding) (f : Finding) :
    site.setNames (log ++ [f]) =
      site.setNames log ++
        if (f.found.or (site.filled f.input)).isSome then [f.input] else [] := by
  unfold setNames
  rw [List.filter_append, List.map_append, List.filter_singleton]
  cases (f.found.or (site.filled f.input)).isSome <;> rfl

/-- A socket that goes through sets its name if it finds something or its default is there. -/
theorem resolveSocket_keys (s : Slot × InputSocket) (log : List Finding)
    (hlog : r.inputs.keys = (site.setNames log).eraseDups)
    (h : (site.resolveSocket r s.1 s.2).result = .ok r') :
    r'.inputs.keys = (site.setNames (log ++ (site.finding? r s).toList)).eraseDups := by
  have hstep := site.resolveSocket_step r s
  rw [h] at hstep
  generalize site.finding? r s = finding at hstep
  generalize hresult : Except.ok r' = result at hstep
  -- The name is set in two of the cases: something was found, or there is a default.
  cases hstep with
  | idle =>
      cases hresult
      rwa [Option.toList_none, List.append_nil]
  | dangling => cases hresult
  | set input q hinputs =>
      cases hresult
      rw [hinputs, Option.toList_some, setNames_snoc]
      exact r.inputs.keys_insert_of_eraseDups _ hlog s.2.name input
  | rejected input kind value => cases hresult
  | vain q hinputs =>
      rw [Option.toList_some, setNames_snoc, Option.none_or, filled]
      rcases (site.fallback_ok q r' s.2.name).mp hresult.symm with
        ⟨value, hdefault, rfl⟩ | ⟨hdefault, -, rfl⟩
      · rw [Resolution.inputs_set, hinputs, hdefault]
        exact r.inputs.keys_insert_of_eraseDups _ hlog s.2.name _
      · rw [hinputs, hdefault, hlog]
        exact congrArg _ (List.append_nil _).symm

/-- The first pass sets names in the order of the sockets that first set them. -/
theorem keys_resolveSockets (slots : List (Slot × InputSocket))
    (h : (site.resolveSockets site.start slots).result = .ok r) :
    r.inputs.keys = (site.setNames (site.findingsAlong site.start slots)).eraseDups := by
  rw [result_resolveSockets] at h
  exact site.findingsAlong_invariant (fun log r => r.inputs.keys = (site.setNames log).eraseDups)
    (fun s log _ _ hlog hstep => site.resolveSocket_keys s log hlog hstep) slots [] rfl h

/-- A socket that goes through has a finding if it is bound. -/
theorem finding?_of_ok (s : Slot × InputSocket)
    (h : (site.resolveSocket r s.1 s.2).result = .ok r') :
    site.finding? r s = if s.2.isBound then some ⟨s.2.name, site.found r s⟩ else none := by
  -- A link that went through has a source, so its finding is not held back.
  have hsource : (!s.2.isLinkBound || (site.source? s.1).isSome) = true := by
    rw [result_resolveSocket] at h
    by_cases hlink : s.2.isLinkBound = true
    · rw [if_pos hlink] at h
      rcases (site.resolveLink_ok r r' s.1 s.2).mp h with ⟨source, sourceSlot, hsource, -⟩
      rw [hlink, hsource]
      rfl
    · rw [eq_false_of_ne_true hlink]
      rfl
  unfold finding?
  rw [hsource, Bool.and_true]

/-- If all sockets go through, each of those that are bound has a finding. -/
theorem map_input_findingsAlong (slots : List (Slot × InputSocket))
    (h : slots.foldlM (fun r s => (site.resolveSocket r s.1 s.2).result) r = .ok r') :
    (site.findingsAlong r slots).map Finding.input =
      (slots.filter (·.2.isBound)).map fun s => s.2.name := by
  induction slots generalizing r with
  | nil => rfl
  | cons s rest ih =>
      rw [List.foldlM_cons, bind_eq_ok] at h
      rcases h with ⟨m, hm, hrest⟩
      rw [site.findingsAlong_cons_ok s rest hm, site.finding?_of_ok s hm, List.map_append,
        ih hrest, List.filter_cons]
      cases s.2.isBound <;> rfl

theorem buffer_resolveSockets (slots : List (Slot × InputSocket))
    (h : (site.resolveSockets r slots).result = .ok r') : r'.cursor.buffer = r.cursor.buffer := by
  rw [result_resolveSockets] at h
  exact foldlM_invariant (fun m => m.cursor.buffer = r.cursor.buffer) slots
    (fun s _ a b ha hb => (site.buffer_resolveSocket s hb).trans ha) r r' rfl h

/-- The second pass adds a value from the buffer at the end, or nothing. -/
theorem entries_backfill (e : String × TypeDecl)
    (h : (site.backfill r e.1 e.2).result = .ok r') :
    r'.cursor.buffer = r.cursor.buffer ∧
      (r'.inputs.entries = r.inputs.entries ∨
        ∃ stored : Stored, stored.declared = e ∧ stored.ReadFrom r.cursor.buffer ∧
          r'.inputs.entries = r.inputs.entries ++ [stored.entry]) := by
  refine ⟨site.buffer_backfill e.1 e.2 h, ?_⟩
  rcases site.backfill_origin e.1 e.2 h with ⟨-, rfl⟩ | ⟨hpending, -, hread⟩
  · exact Or.inl rfl
  · rw [Resolution.pending_iff] at hpending
    rcases hread with ⟨value, hfound, -, hinputs⟩ | ⟨hmissed, -⟩
    · exact Or.inr ⟨⟨e.1, e.2, value⟩, rfl, ⟨hpending.2, r.cursor.position, hfound⟩,
        Resolution.entries_of_insert hinputs hpending.1⟩
    · -- Nothing was found, so nothing is set; the default is left to the third pass.
      rw [site.result_backfill_of_pending r e ((r.pending_iff e).mpr hpending)] at h
      simp only [hmissed, Except.ok.injEq] at h
      rw [← h]
      exact Or.inl rfl

/-- The second pass adds values from the buffer, in the order of the declarations. -/
theorem entries_backfillAll (decls : Entries TypeDecl)
    (h : (site.backfillAll r decls).result = .ok r') :
    ∃ stored : List Stored, (stored.map Stored.declared).Sublist decls ∧
      (∀ s ∈ stored, s.ReadFrom r.cursor.buffer) ∧
      r'.inputs.entries = r.inputs.entries ++ stored.map Stored.entry := by
  rw [result_backfillAll] at h
  induction decls generalizing r with
  | nil =>
      cases h
      exact ⟨[], List.Sublist.slnil, fun s hs => (by cases hs), (List.append_nil _).symm⟩
  | cons e rest ih =>
      rw [List.foldlM_cons, bind_eq_ok] at h
      rcases h with ⟨m, hm, hrest⟩
      rcases ih hrest with ⟨stored, hsublist, hread, hentries⟩
      -- A value for the first declaration comes before those for the rest.
      rcases site.entries_backfill e hm with ⟨hbuffer, hsame | ⟨first, hfirst, hread', hadded⟩⟩
      · rw [hbuffer] at hread
        rw [hsame] at hentries
        exact ⟨stored, hsublist.cons e, hread, hentries⟩
      · rw [hbuffer] at hread
        rw [hadded, List.append_assoc] at hentries
        exact ⟨first :: stored, hfirst ▸ hsublist.cons_cons _, List.forall_mem_cons.mpr
          ⟨hread', hread⟩, hentries⟩

/-- The default that an input has filled in, unless it is set or only a link can feed it. -/
def defaultFor? (r : Resolution) (name : String) : Option (String × Json) :=
  if r.isSet name || site.schema.isLinkTyped name then none
  else (site.schema.default? name).map fun value => (name, value)

/-- The third pass adds a default at the end, or nothing, and leaves other inputs alone. -/
theorem entries_fillDefault (name : String) (h : (site.fillDefault r name).result = .ok r') :
    r'.inputs.entries = r.inputs.entries ++
        ((site.defaultFor? r name).toList.map fun e => (e.1, .value e.2)) ∧
      ∀ other, other ≠ name → r'.isSet other = r.isSet other := by
  unfold defaultFor?
  rw [result_fillDefault] at h
  cases hskip : r.isSet name || site.schema.isLinkTyped name with
  | true =>
      rw [if_pos hskip] at h
      cases h
      exact ⟨(List.append_nil _).symm, fun _ _ => rfl⟩
  | false =>
      rw [if_neg (Bool.eq_false_iff.mp hskip)] at h
      rcases (site.fallback_ok r r' name).mp h with ⟨value, hdefault, rfl⟩ | ⟨hdefault, -, rfl⟩
      · rw [hdefault]
        refine ⟨Resolution.entries_of_insert rfl (Bool.or_eq_false_iff.mp hskip).1,
          fun other hother => ?_⟩
        rw [Resolution.isSet_insert r _ other name _ rfl, decide_eq_false hother, Bool.false_or]
      · rw [hdefault]
        exact ⟨(List.append_nil _).symm, fun _ _ => rfl⟩

/-- The third pass adds the defaults of inputs that are still unset, in the order of their names. -/
theorem entries_fillDefaults (names : List String) (hdistinct : names.Nodup)
    (h : (site.fillDefaults r names).result = .ok r') :
    r'.inputs.entries = r.inputs.entries ++
      (names.filterMap (site.defaultFor? r)).map fun e => (e.1, .value e.2) := by
  rw [result_fillDefaults] at h
  induction names generalizing r with
  | nil =>
      cases h
      exact (List.append_nil _).symm
  | cons name rest ih =>
      rw [List.foldlM_cons, bind_eq_ok] at h
      rcases h with ⟨m, hm, hrest⟩
      rcases List.nodup_cons.mp hdistinct with ⟨hname, hothers⟩
      rcases site.entries_fillDefault name hm with ⟨hentries, hset⟩
      -- The names to come are others, so they are set or unset as before.
      have hlater : rest.filterMap (site.defaultFor? m) = rest.filterMap (site.defaultFor? r) := by
        refine List.filterMap_congr fun other hother => ?_
        unfold defaultFor?
        rw [hset other fun heq => hname (heq ▸ hother)]
      rw [ih hothers hrest, hentries, hlater, List.append_assoc, ← List.map_append,
        List.filterMap_cons]
      cases site.defaultFor? r name <;> rfl

theorem keys_defaults (names : List String) :
    Entries.keys ((names.filterMap (site.defaultFor? r)).map
        fun e => (e.1, ResolvedInput.value e.2)) =
      names.filter fun name => !(r.isSet name || site.schema.isLinkTyped name) &&
        (site.schema.default? name).isSome := by
  unfold Entries.keys
  -- Without their values the defaults are names, and which of them stay is a filter.
  rw [List.map_map, List.map_filterMap, ← List.filterMap_eq_filter]
  refine List.filterMap_congr fun name _ => ?_
  unfold defaultFor? Option.guard
  beta_reduce
  cases r.isSet name || site.schema.isLinkTyped name with
  | true => rfl
  | false => cases site.schema.default? name <;> rfl

/-- The inputs of a compiled node in three groups, one for each pass. -/
structure Grouped (compiled : CompiledNode) (r₁ r₂ : Resolution) (stored : List Stored) : Prop where
  /-- The first pass goes through. -/
  sockets : (site.resolveSockets site.start site.node.slots).result = .ok r₁
  /-- Its names are those that bound sockets set, in the order of the first that did. -/
  keys : r₁.inputs.keys = (site.setNames site.findings).eraseDups
  /-- The findings are one for each bound socket, in their order. -/
  findings : site.findings.map Finding.input = site.node.boundNames
  /-- The second pass goes through. -/
  backfill : (site.backfillAll r₁ site.schema.inputs).result = .ok r₂
  /-- It adds values at the end. -/
  added : r₂.inputs.entries = r₁.inputs.entries ++ stored.map Stored.entry
  /-- They are for declared inputs, the required before the optional ones and each in its place. -/
  declared : (stored.map Stored.declared).Sublist site.schema.inputs
  /-- Each is for a scalar and was read from the buffer. -/
  readFrom : ∀ s ∈ stored, s.ReadFrom site.node.values
  /-- The third pass adds the defaults of required inputs that are still unset and that not only
      a link can feed, in the order declared. Nothing else is there. -/
  entries : compiled.inputs.entries = r₂.inputs.entries ++
    (site.schema.required.keys.filterMap (site.defaultFor? r₂)).map fun e => (e.1, .value e.2)

theorem compile_grouped (compiled : CompiledNode) (h : site.compile.result = .ok compiled) :
    ∃ r₁ r₂ stored, site.Grouped compiled r₁ r₂ stored := by
  rcases (site.compile_ok compiled).mp h with ⟨r₁, r₂, r₃, h₁, h₂, h₃, rfl⟩
  rcases site.entries_backfillAll site.schema.inputs h₂ with ⟨stored, hdeclared, hread, hadded⟩
  have hrun := h₁
  rw [result_resolveSockets] at hrun
  -- The first pass leaves the buffer as it is, so what is read after it is from the node's.
  rw [site.buffer_resolveSockets site.node.slots h₁] at hread
  exact ⟨r₁, r₂, stored, {
    sockets := h₁
    keys := site.keys_resolveSockets site.node.slots h₁
    findings := site.map_input_findingsAlong site.node.slots hrun
    backfill := h₂
    added := hadded
    declared := hdeclared
    readFrom := hread
    entries := site.entries_fillDefaults _ site.schema.required.distinct h₃ }⟩

namespace Grouped

variable {site} {compiled : CompiledNode} {r₁ r₂ : Resolution} {stored : List Stored}
  (h : site.Grouped compiled r₁ r₂ stored)
include h

theorem keys_eq : compiled.inputs.keys =
    (site.setNames site.findings).eraseDups ++ stored.map Stored.input ++
      site.schema.required.keys.filter fun name =>
        !(r₂.isSet name || site.schema.isLinkTyped name) &&
          (site.schema.default? name).isSome := by
  have hstored : Entries.keys (stored.map Stored.entry) = stored.map Stored.input :=
    List.map_map
  have hadded := congrArg Entries.keys h.added
  rw [Entries.keys_append, hstored] at hadded
  unfold OrderedMap.keys
  rw [h.entries, Entries.keys_append, hadded, keys_defaults]
  exact congrArg (· ++ _ ++ _) h.keys

/-- An input that no bound socket has is set by one of the later passes. -/
theorem mem_of_not_bound (name : String) (hname : name ∉ site.node.boundNames)
    (input : ResolvedInput) (hget : compiled.inputs.get? name = some input) :
    (∃ s ∈ stored, s.entry = (name, input)) ∨ name ∈ site.schema.required.keys := by
  have hmem := Entries.mem_of_lookup compiled.inputs.entries name input hget
  rw [h.entries, h.added, List.mem_append, List.mem_append] at hmem
  rcases hmem with (hsocket | hstored) | hdefault
  · -- What sockets set has the name of one of them.
    refine absurd ?_ hname
    have hkey : name ∈ r₁.inputs.keys := List.mem_map_of_mem hsocket
    rw [h.keys, List.mem_eraseDups] at hkey
    rw [← h.findings]
    exact (List.filter_sublist.map _).subset hkey
  · exact Or.inl (List.mem_map.mp hstored)
  · rcases List.mem_map.mp hdefault with ⟨e, he, hentry⟩
    rcases List.mem_filterMap.mp he with ⟨key, hkey, hfor⟩
    unfold defaultFor? at hfor
    split at hfor
    · cases hfor
    · rcases Option.map_eq_some_iff.mp hfor with ⟨value, -, rfl⟩
      cases hentry
      exact Or.inr hkey

/-- One that is not required has a value from the buffer. -/
theorem stored_of_not_required (name : String) (hname : name ∉ site.node.boundNames)
    (hrequired : site.schema.isRequired name = false) (input : ResolvedInput)
    (hget : compiled.inputs.get? name = some input) : ∃ s ∈ stored, s.entry = (name, input) := by
  rcases h.mem_of_not_bound name hname input hget with hstored | hmem
  · exact hstored
  · have hrequired' : site.schema.isRequired name = true :=
      (site.schema.required.mem_keys_iff name).mp hmem
    rw [hrequired] at hrequired'
    cases hrequired'

/-- One that is neither required nor optional is not there. -/
theorem get?_of_not_declared (name : String) (hname : name ∉ site.node.boundNames)
    (hinputs : name ∉ Entries.keys site.schema.inputs) : compiled.inputs.get? name = none := by
  refine Option.eq_none_iff_forall_ne_some.mpr fun input hget => hinputs ?_
  have hkeys : Entries.keys site.schema.inputs =
      site.schema.required.keys ++ site.schema.optional.keys := Entries.keys_append _ _
  -- What the later passes set is declared, as required or as optional.
  rcases h.mem_of_not_bound name hname input hget with ⟨s, hs, hentry⟩ | hrequired
  · cases hentry
    exact List.mem_map_of_mem (h.declared.subset (List.mem_map_of_mem hs))
  · rw [hkeys]
    exact List.mem_append_left _ hrequired

end Grouped

/-- The inputs of a compiled node, once each and in three groups: what the sockets set, in the
    order of the first socket that did; what the second pass read from the buffer for scalars, in
    the order declared; and the defaults of required inputs that were still unset and that not only
    a link can feed, in the order declared.

    So an input that no bound socket has and that is not required has a value from the buffer and
    not its default, and one that is neither required nor optional, but hidden at most, is not
    there. -/
theorem compile_inputs_order (compiled : CompiledNode) (h : site.compile.result = .ok compiled) :
    compiled.inputs.keys.Nodup ∧
    ∃ r₁ r₂ stored, site.Grouped compiled r₁ r₂ stored ∧
      (compiled.inputs.keys =
        (site.setNames site.findings).eraseDups ++ stored.map Stored.input ++
          site.schema.required.keys.filter fun name =>
            !(r₂.isSet name || site.schema.isLinkTyped name) &&
              (site.schema.default? name).isSome) ∧
      (∀ name, name ∉ site.node.boundNames → site.schema.isRequired name = false →
        ∀ input, compiled.inputs.get? name = some input → ∃ s ∈ stored, s.entry = (name, input)) ∧
      ∀ name, name ∉ site.node.boundNames → name ∉ Entries.keys site.schema.inputs →
        compiled.inputs.get? name = none := by
  rcases site.compile_grouped compiled h with ⟨r₁, r₂, stored, hgrouped⟩
  exact ⟨compiled.inputs.distinct, r₁, r₂, stored, hgrouped, hgrouped.keys_eq,
    hgrouped.stored_of_not_required, hgrouped.get?_of_not_declared⟩

/-- A sampler with two sockets for the number of steps and an open one for the seed. Its model has
    no socket, and its noise, its label and its id have defaults. -/
def redrawn : Site :=
  { node := ⟨"4", "KSampler", [.bound "steps", { name := "seed" }, .bound "scale", .bound "steps"],
      [], .sequence [jsonOfUInt64 20, jsonOfUInt64 7, jsonOfUInt64 25, jsonOfUInt64 11]⟩
    schema :=
      { required := .ofList [("seed", .ofName "INT"), ("steps", .ofName "INT"),
          ("model", (TypeDecl.ofName "MODEL").withDefault (.str "base")),
          ("noise", (TypeDecl.ofName "INT").withDefault (jsonOfUInt64 1))]
        optional := .ofList [("scale", .ofName "INT"),
          ("label", (TypeDecl.ofName "STRING").withDefault (.str "draft"))]
        hidden := .ofList [("id", (TypeDecl.ofName "STRING").withDefault (.str "0"))] }
    links := .ofLinks []
    nodes := .ofNodes []
    strict := true }

/-- The steps have their place from the first socket, the seed has a value from the buffer, and the
    noise has its default. The model, the label and the id do not have theirs. -/
theorem redrawn_inputs :
    ∃ compiled, redrawn.compile.result = .ok compiled ∧
      compiled.inputs.keys = ["steps", "scale", "seed", "noise"] ∧ compiled.inputs.keys.Nodup ∧
      (∃ r₁ r₂ stored, redrawn.Grouped compiled r₁ r₂ stored) ∧
      (redrawn.setNames redrawn.findings).eraseDups = ["steps", "scale"] ∧
      compiled.inputs.get? "label" = none ∧
      "id" ∉ redrawn.node.boundNames ∧ "id" ∉ Entries.keys redrawn.schema.inputs ∧
      compiled.inputs.get? "id" = none := by
  have hbound : "id" ∉ redrawn.node.boundNames := by decide
  have hinputs : "id" ∉ Entries.keys redrawn.schema.inputs := by decide
  rcases compile_inputs_order redrawn _ rfl with ⟨hnodup, r₁, r₂, stored, hgrouped, -, -, hhidden⟩
  exact ⟨_, rfl, rfl, hnodup, ⟨r₁, r₂, stored, hgrouped⟩, rfl, rfl, hbound, hinputs,
    hhidden "id" hbound hinputs⟩

end Site

end PromptGraph
