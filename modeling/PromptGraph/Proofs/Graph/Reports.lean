import PromptGraph.Proofs.Graph.Conversion
import PromptGraph.Proofs.Node.Reports

/-!
# What a Compile Reports

The reports of a compile that succeeds, from its beginning to its end.

The compile reports that it begins, the fetch of its catalog, and that it is done. In between the
nodes come one after the other, each with all that is reported for it: first that its class is
unknown, if it is the first node that this can be said of, then what was passed over and taken
over, and then that it is compiled. Nodes that are left out of the prompt have reports like any
other, but for their classes, which nobody has to know.

The classes that were reported are carried along in the run, and they are those of the nodes
before. So whether a class is reported at a node can be told from the list of nodes alone, and the
reports of the run are put together from those of its nodes.

## Main definitions

* `Event.unknown?`, `Event.finished?`, `Event.counts?`: Reports of one sort.
* `Catalog.announcement`: The report of an unknown class at the first node that has it.
* `Surroundings.reportsOf`, `Surroundings.reportsFrom`: The reports for nodes.
* `Progress.Knows`: The classes reported so far are those of the nodes so far.

## Theorems

* `WorkflowGraph.events_compile`: The reports of a compile.
* `Surroundings.events_run`: The reports of a run are those for its nodes.
* `Surroundings.unknown?_reportsFrom`: Which classes are reported, and how often.
* `WorkflowGraph.compile_accounted`: The reports account for the run.
-/

namespace PromptGraph

namespace Event

/-- The class that is reported as unknown. -/
def unknown? : Event → Option String
  | .classUnknown classType => some classType
  | _ => none

/-- The node that is reported as compiled, with its class. -/
def finished? : Event → Option (NodeId × String)
  | .nodeCompiled node classType _ _ _ => some (node, classType)
  | _ => none

/-- The counts that are reported in the end. -/
def counts? : Event → Option (Nat × Nat)
  | .compiled nodes excluded => some (nodes, excluded)
  | _ => none

/-- A note is of none of these sorts. -/
theorem sorts_of_isNote (e : Event) (h : e.isNote = true) :
    e.unknown? = none ∧ e.finished? = none ∧ e.counts? = none := by
  cases e with
  | valueSkipped position expected value => exact ⟨rfl, rfl, rfl⟩
  | inlined node source input => exact ⟨rfl, rfl, rfl⟩
  | _ => cases h

end Event

theorem filterMap_single {α β : Type} (f : α → Option β) (a : α) :
    [a].filterMap f = (f a).toList := by
  rw [List.filterMap_cons]
  cases f a <;> rfl

namespace WorkflowGraph

variable (graph : WorkflowGraph) (options : CompileOptions) (source : Source) (fetches : Nat)

/-- The reports of a compile that succeeds: it begins, its catalog is fetched if there is a node,
    the nodes are compiled, and it is done. -/
theorem events_compile (prompt : CompiledPrompt)
    (h : (graph.compile options source fetches).run.result = .ok prompt) :
    ∃ catalog progress, (graph.nodes ≠ [] → source fetches = .ok catalog) ∧
      ((graph.surroundings options.strictTypes).run catalog {} graph.nodes).result =
        .ok progress ∧
      progress.prompt = prompt ∧
      (graph.compile options source fetches).run.events =
        .compiling graph.nodes.length graph.links.length options.strictTypes ::
          ((if graph.nodes = [] then [] else [.fetching, .fetched catalog.size]) ++
            ((graph.surroundings options.strictTypes).run catalog {} graph.nodes).events ++
            [.compiled prompt.size progress.excluded]) := by
  rcases graph.compile_run options source fetches prompt h with
    ⟨hvalid, catalog, progress, hfetch, hrun, rfl⟩
  have hresult : ((graph.surroundings options.strictTypes).run catalog {} graph.nodes).result =
      .ok progress := (Traced.result_foldlM _ _ _).trans hrun
  have hnodes : (compileNodes (graph.surroundings options.strictTypes) ⟨source, fetches, .empty⟩ {}
      graph.nodes).2 = ⟨(if graph.nodes = [] then [] else [.fetching, .fetched catalog.size]) ++
        ((graph.surroundings options.strictTypes).run catalog {} graph.nodes).events,
        .ok progress⟩ := by
    rw [← hresult]
    cases hlist : graph.nodes with
    | nil => rfl
    | cons node rest =>
        have hserved := hfetch (hlist ▸ List.cons_ne_nil node rest)
        rw [compileNodes_of_fetch _ catalog {} source fetches hserved node rest,
          if_neg (List.cons_ne_nil node rest)]
  refine ⟨catalog, progress, hfetch, hresult, rfl, ?_⟩
  unfold WorkflowGraph.compile
  simp only [hvalid, Bool.not_true, Bool.false_eq_true, if_false, hnodes]
  rfl

end WorkflowGraph

/-- A class is reported as unknown at a node if the node is not left out, the catalog does not know
    the class, and no node before has it. -/
def Catalog.announces (catalog : Catalog) (before : List GraphNode) (node : GraphNode) : Bool :=
  !isExcluded node.classType && (catalog.get? node.classType).isNone &&
    !before.any (·.classType = node.classType)

theorem Catalog.announces_iff (catalog : Catalog) (before : List GraphNode) (node : GraphNode) :
    catalog.announces before node = true ↔
      isExcluded node.classType = false ∧ catalog.get? node.classType = none ∧
        ∀ earlier ∈ before, earlier.classType ≠ node.classType := by
  unfold Catalog.announces
  simp only [Bool.and_eq_true, Bool.not_eq_true', Option.isNone_iff_eq_none, List.any_eq_false,
    decide_eq_true_eq, and_assoc, ne_eq]

/-- The report of an unknown class at the first node that has it. -/
def Catalog.announcement (catalog : Catalog) (before : List GraphNode) (node : GraphNode) :
    List Event :=
  if catalog.announces before node then [.classUnknown node.classType] else []

/-- The classes reported so far are those of the nodes so far, as far as they are to be reported. -/
def Progress.Knows (progress : Progress) (catalog : Catalog) (before : List GraphNode) : Prop :=
  ∀ classType, isExcluded classType = false → catalog.get? classType = none →
    (classType ∈ progress.reported ↔ ∃ node ∈ before, node.classType = classType)

/-- Before the first node no class has been reported, and there is no node to have one. -/
theorem Progress.Knows.start (catalog : Catalog) : ({} : Progress).Knows catalog [] :=
  fun _ _ _ => ⟨fun hmem => (by cases hmem), fun ⟨_, hnode, _⟩ => (by cases hnode)⟩

namespace Surroundings

variable (around : Surroundings) (catalog : Catalog)

/-- All that is reported for a node, given the nodes before it. -/
def reportsOf (before : List GraphNode) (node : GraphNode) : List Event :=
  catalog.announcement before node ++ (around.siteIn catalog node).compile.events

/-- What is reported for several nodes, one after the other. -/
def reportsFrom (before : List GraphNode) : List GraphNode → List (List Event)
  | [] => []
  | node :: rest => around.reportsOf catalog before node :: reportsFrom (before ++ [node]) rest

theorem length_reportsFrom (before nodes : List GraphNode) :
    (around.reportsFrom catalog before nodes).length = nodes.length := by
  induction nodes generalizing before with
  | nil => rfl
  | cons node rest ih => rw [reportsFrom, List.length_cons, ih, List.length_cons]

theorem reportsFrom_getElem? (before front back : List GraphNode) (node : GraphNode) :
    (around.reportsFrom catalog before (front ++ node :: back))[front.length]? =
      some (around.reportsOf catalog (before ++ front) node) := by
  induction front generalizing before with
  | nil => rw [List.append_nil]; rfl
  | cons earlier rest ih =>
      rw [List.cons_append, reportsFrom, List.length_cons, List.getElem?_cons_succ, ih,
        List.append_assoc]
      rfl

end Surroundings

theorem Progress.reports_eq_announces (progress : Progress) (catalog : Catalog)
    (before : List GraphNode) (h : progress.Knows catalog before) (node : GraphNode) :
    ((catalog.get? node.classType).isNone && progress.reports node.classType) =
      catalog.announces before node := by
  unfold Progress.reports Catalog.announces
  cases hexcluded : isExcluded node.classType with
  | true => simp only [Bool.not_true, Bool.false_and, Bool.and_false]
  | false =>
      cases hschema : catalog.get? node.classType with
      | some schema => simp only [Option.isNone_some, Bool.false_and, Bool.and_false]
      | none =>
          have hiff := h node.classType hexcluded hschema
          rw [Option.isNone_none, Bool.true_and, Bool.not_false, Bool.true_and, Bool.true_and]
          congr 1
          rw [Bool.eq_iff_iff, List.contains_iff_mem, hiff, List.any_eq_true]
          simp only [decide_eq_true_eq]

/-- A class that has to be reported is among those reported once it has been looked up, and no
    other class is added. -/
theorem Progress.mem_reported_looked (progress : Progress) (schema : Option ClassSchema)
    (own classType : String) (h : classType = own → isExcluded own = false ∧ schema = none) :
    classType ∈ (progress.looked own schema).reported ↔
      classType ∈ progress.reported ∨ classType = own := by
  unfold Progress.looked Progress.reports
  by_cases hclass : classType = own
  · rcases h hclass with ⟨hexcluded, rfl⟩
    subst hclass
    -- It is added unless it is there.
    by_cases hmem : classType ∈ progress.reported
    · simp [hexcluded, hmem]
    · simp [hexcluded, hmem]
  · split <;> simp [hclass]

theorem Progress.reported_add (progress : Progress) (node : GraphNode) (compiled : CompiledNode) :
    (progress.add node compiled).reported = progress.reported := by
  unfold Progress.add
  split <;> rfl

/-- After a node its class is among those that have been met. -/
theorem Progress.Knows.snoc {progress : Progress} {catalog : Catalog} {before : List GraphNode}
    (h : progress.Knows catalog before) (node : GraphNode) (compiled : CompiledNode) :
    ((progress.looked node.classType (catalog.get? node.classType)).add node compiled).Knows catalog
      (before ++ [node]) := by
  intro classType hexcluded hschema
  have hown : classType = node.classType →
      isExcluded node.classType = false ∧ catalog.get? node.classType = none := by
    rintro rfl
    exact ⟨hexcluded, hschema⟩
  rw [Progress.reported_add, Progress.mem_reported_looked _ _ _ _ hown,
    h classType hexcluded hschema]
  simp only [List.mem_append, List.mem_singleton, or_and_right, exists_or, exists_eq_left]
  rw [eq_comm (a := classType)]

/-- What is reported when a node is compiled: its class, if it is new and unknown, and what the
    node reports. -/
theorem events_compileNode (around : Surroundings) (progress : Progress) (node : GraphNode)
    (schema : Option ClassSchema) :
    (compileNode around progress node schema).events =
      (if schema.isNone && progress.reports node.classType then [.classUnknown node.classType]
        else []) ++ (around.site node (schema.getD .empty)).compile.events := by
  have hsettle : (progress.settle node.classType schema).events =
      if schema.isNone && progress.reports node.classType then [.classUnknown node.classType]
      else [] := by
    unfold Progress.settle
    cases schema with
    | some schema => rfl
    | none => cases hreports : progress.reports node.classType <;> rfl
  unfold compileNode
  rw [Traced.events_bind_of_ok _ _ _ (progress.result_settle node.classType schema), hsettle,
    Traced.events_bind]
  -- Adding what the node compiles to reports nothing.
  cases (around.site node (schema.getD .empty)).compile.result <;> simp

namespace Surroundings

variable (around : Surroundings) (catalog : Catalog)

/-- The reports of a run are those for its nodes. -/
theorem events_run (nodes before : List GraphNode) (progress next : Progress)
    (hknows : progress.Knows catalog before)
    (h : (around.run catalog progress nodes).result = .ok next) :
    (around.run catalog progress nodes).events =
      (around.reportsFrom catalog before nodes).flatten := by
  unfold run at h ⊢
  induction nodes generalizing before progress with
  | nil => rfl
  | cons node rest ih =>
      rw [List.foldlM_cons] at h ⊢
      rcases (Traced.result_bind_eq_ok _ _ next).mp h with ⟨middle, hmiddle, hrest⟩
      rw [Traced.events_bind_of_ok _ _ middle hmiddle, reportsFrom, List.flatten_cons,
        events_compileNode, progress.reports_eq_announces catalog before hknows]
      -- The node has gone through, so the progress is that with its class and its entry.
      rw [result_compileNode, bind_eq_ok] at hmiddle
      rcases hmiddle with ⟨compiled, -, hmiddle⟩
      rw [← Except.ok.inj hmiddle] at hrest ⊢
      rw [ih (before ++ [node]) _ (hknows.snoc node compiled) hrest]
      rfl

/-- The nodes of a run that goes through compile. -/
theorem compiles_of_run (nodes : List GraphNode) (progress next : Progress)
    (h : (around.run catalog progress nodes).result = .ok next) :
    ∀ node ∈ nodes, ∃ compiled, (around.siteIn catalog node).compile.result = .ok compiled := by
  intro node hnode
  unfold run at h
  rw [Traced.result_foldlM] at h
  rcases foldlM_ok_at _ nodes node hnode _ _ h with ⟨before, after, hstep⟩
  rw [result_compileNode, bind_eq_ok] at hstep
  rcases hstep with ⟨compiled, hcompiled, -⟩
  exact ⟨compiled, hcompiled⟩

/-- Notes apart, what is reported for a node is its class, if that is to be reported, and that it is
    compiled. -/
theorem filterMap_reportsOf {α : Type} (f : Event → Option α)
    (hf : ∀ e, e.isNote = true → f e = none) (before : List GraphNode) (node : GraphNode)
    (h : ∃ compiled, (around.siteIn catalog node).compile.result = .ok compiled) :
    ∃ inputs consumed unread, (around.reportsOf catalog before node).filterMap f =
      (catalog.announcement before node).filterMap f ++
        (f (.nodeCompiled node.id node.classType inputs consumed unread)).toList := by
  rcases h with ⟨compiled, hcompiled⟩
  rcases Site.compile_reports _ compiled hcompiled with
    ⟨notes, consumed, unread, hevents, hreported⟩
  refine ⟨compiled.inputs.size, consumed, unread, ?_⟩
  have hnotes : notes.filterMap f = [] :=
    List.filterMap_eq_nil_iff.mpr fun e he => hf e (hreported.isNote e he)
  rw [reportsOf, hevents, List.filterMap_append, List.filterMap_append, hnotes, List.nil_append]
  exact congrArg _ (filterMap_single f _)

section Sorts

variable (before nodes : List GraphNode)
  (h : ∀ node ∈ nodes, ∃ compiled, (around.siteIn catalog node).compile.result = .ok compiled)
include h

/-- Reports of a sort that is about compiled nodes are one for each node, or none. -/
theorem filterMap_reportsFrom {α : Type} (f : Event → Option α) (g : GraphNode → Option α)
    (hnote : ∀ e, e.isNote = true → f e = none)
    (hclass : ∀ classType, f (.classUnknown classType) = none)
    (hend : ∀ node : GraphNode, ∀ inputs consumed unread,
      f (.nodeCompiled node.id node.classType inputs consumed unread) = g node) :
    (around.reportsFrom catalog before nodes).flatten.filterMap f = nodes.filterMap g := by
  induction nodes generalizing before with
  | nil => rfl
  | cons node rest ih =>
      rcases around.filterMap_reportsOf catalog f hnote before node (h node (List.mem_cons_self ..))
        with ⟨inputs, consumed, unread, hnode⟩
      have hannouncement : (catalog.announcement before node).filterMap f = [] := by
        unfold Catalog.announcement
        split
        · rw [List.filterMap_cons, hclass, List.filterMap_nil]
        · rfl
      rw [reportsFrom, List.flatten_cons, List.filterMap_append, hnode, hannouncement, hend,
        ih _ fun other hother => h other (List.mem_cons_of_mem node hother), List.filterMap_cons]
      cases g node <;> rfl

/-- A class is reported as unknown at most once, and this happens if it is one that has to be
    reported, no node before has it, and one of the nodes does. -/
theorem unknown?_reportsFrom :
    ((around.reportsFrom catalog before nodes).flatten.filterMap Event.unknown?).Nodup ∧
      ∀ classType,
        classType ∈ (around.reportsFrom catalog before nodes).flatten.filterMap Event.unknown? ↔
          (isExcluded classType = false ∧ catalog.get? classType = none ∧
            ∀ earlier ∈ before, earlier.classType ≠ classType) ∧
          ∃ node ∈ nodes, node.classType = classType := by
  induction nodes generalizing before with
  | nil =>
      refine ⟨.nil, fun classType => ⟨fun hmem => (by cases hmem), ?_⟩⟩
      rintro ⟨-, node, hnode, -⟩
      cases hnode
  | cons node rest ih =>
      rcases around.filterMap_reportsOf catalog Event.unknown?
        (fun e he => (e.sorts_of_isNote he).1) before node (h node (List.mem_cons_self ..)) with
        ⟨inputs, consumed, unread, hnode⟩
      rcases ih (before ++ [node]) fun other hother => h other (List.mem_cons_of_mem node hother)
        with ⟨hnodup, hmem⟩
      have hfirst : (around.reportsOf catalog before node).filterMap Event.unknown? =
          if catalog.announces before node then [node.classType] else [] := by
        rw [hnode]
        unfold Catalog.announcement
        split <;> rfl
      -- The class of this node is not reported again.
      have hlater : node.classType ∉
          (around.reportsFrom catalog (before ++ [node]) rest).flatten.filterMap Event.unknown? :=
        fun hagain => ((hmem _).mp hagain).1.2.2 node
          (List.mem_append_right before (List.mem_singleton_self node)) rfl
      rw [reportsFrom, List.flatten_cons, List.filterMap_append, hfirst]
      refine ⟨?_, fun classType => ?_⟩
      · split
        · exact List.nodup_cons.mpr ⟨hlater, hnodup⟩
        · exact hnodup
      have hown : classType ∈ (if catalog.announces before node then [node.classType] else []) ↔
          classType = node.classType ∧ catalog.announces before node = true := by
        by_cases hannounces : catalog.announces before node = true
        · rw [if_pos hannounces, List.mem_singleton, and_iff_left hannounces]
        · rw [if_neg hannounces]
          exact ⟨fun hnil => (by cases hnil), fun hand => absurd hand.2 hannounces⟩
      rw [List.mem_append, hown, catalog.announces_iff, hmem, List.forall_mem_append,
        List.forall_mem_singleton, List.exists_mem_cons_iff]
      by_cases hclass : classType = node.classType
      · subst hclass
        simp only [ne_eq, not_true_eq_false, and_false, false_and, or_false, true_and, true_or,
          and_true]
      · have hother : node.classType ≠ classType := Ne.symm hclass
        simp only [hclass, hother, false_and, false_or, ne_eq, not_false_eq_true, and_true]

end Sorts

end Surroundings

/-- Of all that a compile reports, only the reports of its nodes and the last one are left if those
    of its beginning and of its fetch are passed over. -/
theorem filterMap_compiling {α : Type} (f : Event → Option α)
    (hcompiling : ∀ nodes links strict, f (.compiling nodes links strict) = none)
    (hfetching : f .fetching = none) (hfetched : ∀ classes, f (.fetched classes) = none)
    (p : Prop) [Decidable p] (nodes links classes : Nat) (strict : Bool) (reports : List Event)
    (last : Event) :
    (Event.compiling nodes links strict ::
        ((if p then [] else [.fetching, .fetched classes]) ++ reports ++ [last])).filterMap f =
      reports.filterMap f ++ (f last).toList := by
  have hfetch : (if p then [] else [.fetching, .fetched classes]).filterMap f = [] := by
    split
    · rfl
    · simp only [List.filterMap_cons, hfetching, hfetched, List.filterMap_nil]
  rw [List.filterMap_cons, hcompiling, List.filterMap_append, List.filterMap_append, hfetch,
    List.nil_append, filterMap_single]

namespace WorkflowGraph

variable (graph : WorkflowGraph) (options : CompileOptions) (source : Source) (fetches : Nat)

/-- The reports of a compile that succeeds account for its run. Between the beginning, with the
    fetch of the catalog, and the end there is one list of reports for each node, in order.

    Each class that the catalog does not know is reported once if a node has it that is not left
    out of the prompt, and no other class is. Each node is reported as compiled once, in the order
    of the workflow.

    The reports for a node start with that of its class, if it is the first node to report it
    for. They end with its being compiled, and what comes in between is `Site.Reported`: consumed
    and unread make up the node's sequence, the positions of the values passed over go up and are
    below consumed, and consumed is the number of these and of the values that were taken. Named
    values are looked up, which consumes none. -/
theorem compile_accounted (prompt : CompiledPrompt)
    (h : (graph.compile options source fetches).run.result = .ok prompt) :
    ∃ (catalog : Catalog) (reports : List (List Event)),
      (graph.nodes ≠ [] → source fetches = .ok catalog) ∧
      (∃ excluded, (graph.compile options source fetches).run.events =
        .compiling graph.nodes.length graph.links.length options.strictTypes ::
          ((if graph.nodes = [] then [] else [.fetching, .fetched catalog.size]) ++
            reports.flatten ++ [.compiled prompt.size excluded])) ∧
      ((graph.compile options source fetches).run.events.filterMap Event.unknown?).Nodup ∧
      (∀ classType,
        classType ∈ (graph.compile options source fetches).run.events.filterMap Event.unknown? ↔
          isExcluded classType = false ∧ catalog.get? classType = none ∧
            ∃ node ∈ graph.nodes, node.classType = classType) ∧
      (graph.compile options source fetches).run.events.filterMap Event.finished? =
        graph.nodes.map (fun node => (node.id, node.classType)) ∧
      reports.length = graph.nodes.length ∧
      ∀ before node after, graph.nodes = before ++ node :: after →
        ∃ notes inputs consumed unread,
          reports[before.length]? = some (catalog.announcement before node ++ notes ++
            [.nodeCompiled node.id node.classType inputs consumed unread]) ∧
          ((graph.surroundings options.strictTypes).siteIn catalog node).Reported notes consumed
            unread := by
  rcases graph.events_compile options source fetches prompt h with
    ⟨catalog, progress, hfetch, hrun, -, hevents⟩
  have hcompiles := Surroundings.compiles_of_run _ catalog graph.nodes {} progress hrun
  rw [Surroundings.events_run _ catalog graph.nodes [] {} progress (.start catalog) hrun]
    at hevents
  rcases Surroundings.unknown?_reportsFrom _ catalog [] graph.nodes hcompiles with ⟨hnodup, hmem⟩
  have hunknown : (graph.compile options source fetches).run.events.filterMap Event.unknown? =
      ((graph.surroundings options.strictTypes).reportsFrom catalog []
        graph.nodes).flatten.filterMap Event.unknown? := by
    rw [hevents, filterMap_compiling _ (fun _ _ _ => rfl) rfl fun _ => rfl]
    exact List.append_nil _
  refine ⟨catalog, _, hfetch, ⟨progress.excluded, hevents⟩, hunknown ▸ hnodup, fun classType => ?_,
    ?_, Surroundings.length_reportsFrom _ catalog [] graph.nodes,
    fun before node after hsplit => ?_⟩
  · rw [hunknown, hmem, and_assoc, and_assoc]
    simp only [List.not_mem_nil, false_implies, implies_true, true_and]
  · rw [hevents, filterMap_compiling _ (fun _ _ _ => rfl) rfl fun _ => rfl,
      Surroundings.filterMap_reportsFrom _ catalog [] graph.nodes hcompiles Event.finished?
        (fun node => some (node.id, node.classType)) (fun e he => (e.sorts_of_isNote he).2.1)
        (fun _ => rfl) fun _ _ _ _ => rfl]
    exact (List.append_nil _).trans (congrFun List.filterMap_eq_map graph.nodes)
  · have hnode : node ∈ graph.nodes :=
      hsplit ▸ List.mem_append_right before (List.mem_cons_self ..)
    rcases hcompiles node hnode with ⟨compiled, hcompiled⟩
    rcases Site.compile_reports _ compiled hcompiled with
      ⟨notes, consumed, unread, hreports, hreported⟩
    refine ⟨notes, compiled.inputs.size, consumed, unread, ?_, hreported⟩
    rw [hsplit, Surroundings.reportsFrom_getElem?, List.nil_append, Surroundings.reportsOf,
      hreports, List.append_assoc]
    rfl

/-- A sampler with a word between its two values, two nodes of a class that is not in the catalog,
    and a note between these. -/
def remarked : WorkflowGraph where
  nodes := [⟨"1", "Sampler", [.bound "seed"], [],
      .sequence [jsonOfUInt64 5, .str "randomize", jsonOfUInt64 30]⟩,
    ⟨"2", "Upscaler", [], [], .empty⟩,
    ⟨"3", "Note", [], [], .sequence [.str "slow"]⟩,
    ⟨"4", "Upscaler", [], [], .empty⟩]

/-- The unknown class is reported once, at the first node that has it, and the class of the note is
    not. All three values of the sampler are consumed: the word was passed over and the two others
    were taken. -/
theorem remarked_accounted :
    ∃ prompt, (remarked.compile {} (fun _ => .ok samplerCatalog) 0).run.result = .ok prompt ∧
      ((remarked.compile {} (fun _ => .ok samplerCatalog) 0).run.events.filterMap
        Event.unknown?).Nodup ∧
      "Upscaler" ∈ (remarked.compile {} (fun _ => .ok samplerCatalog) 0).run.events.filterMap
        Event.unknown? ∧
      "Note" ∉ (remarked.compile {} (fun _ => .ok samplerCatalog) 0).run.events.filterMap
        Event.unknown? ∧
      (remarked.compile {} (fun _ => .ok samplerCatalog) 0).run.events.filterMap
        Event.finished? =
          [("1", "Sampler"), ("2", "Upscaler"), ("3", "Note"), ("4", "Upscaler")] ∧
      ∃ (reports : List (List Event)) (notes : List Event) (inputs consumed unread : Nat),
        reports.length = 4 ∧
        reports[0]? = some (notes ++ [.nodeCompiled "1" "Sampler" inputs consumed unread]) ∧
        consumed + unread = 3 ∧ consumed = (notes.filterMap Event.skipped?).length + 2 ∧
        (∃ rest, reports[1]? = some (.classUnknown "Upscaler" :: rest)) ∧
        ∃ notes inputs,
          reports[3]? = some (notes ++ [.nodeCompiled "4" "Upscaler" inputs 0 0]) := by
  rcases compile_accounted remarked {} (fun _ => .ok samplerCatalog) 0 _ rfl with
    ⟨catalog, reports, hfetch, -, hnodup, hunknown, hfinished, hlength, hblocks⟩
  cases hfetch (List.cons_ne_nil _ _)
  rcases hblocks [] _ _ rfl with ⟨notes, inputs, consumed, unread, hsampler, hreported⟩
  rcases hblocks (remarked.nodes.take 1) _ _ rfl with ⟨_, _, _, _, hfirst, -⟩
  rcases hblocks (remarked.nodes.take 3) _ _ rfl with
    ⟨notes', inputs', consumed', unread', hsecond, hreported'⟩
  have hempty : consumed' + unread' = 0 := hreported'.total
  rw [(Nat.add_eq_zero_iff.mp hempty).1, (Nat.add_eq_zero_iff.mp hempty).2] at hsecond
  refine ⟨_, rfl, hnodup, (hunknown _).mpr ⟨by decide, rfl, _, .tail _ (.head _), rfl⟩,
    fun hnote => ?_, hfinished, reports, notes, inputs, consumed, unread, hlength, hsampler,
    hreported.total, hreported.consumed, ⟨_, hfirst⟩, notes', inputs', hsecond⟩
  exact Bool.noConfusion ((hunknown _).mp hnote).1

end WorkflowGraph

end PromptGraph
