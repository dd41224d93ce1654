import PromptGraph.Proofs.Graph.Run
import PromptGraph.Proofs.Outcomes

/-!
# Fetches of a Compile

How often a compile asks its source for a catalog, and what it does with the answer.

The registry of a compile is asked at every node and fetches if it has no catalog. So the first
node makes it fetch. If the fetch fails, the compile ends there. If not, the catalog is at hand
for all nodes after the first, whichever of them the compile may end at. That is one fetch, if
there is a node at all and the options let the compile begin.

A compile keeps nothing for the next one. Workflows that are compiled one after the other with
the same options and the same source are given as many fetches as there are compiles that need a
catalog, and each of these has the outcome of a fetch of its own.

## Main definitions

* `WorkflowGraph.promptIn`: The prompt of a workflow in a given catalog.
* `WorkflowGraph.NeedsCatalog`: A compile has to fetch.
* `compileEach`: Workflows compiled one after the other.
* `fetchesAfter`: The fetches that these make.

## Theorems

* `compileNodes_of_loaded`: With a catalog at hand nothing is fetched.
* `fetches_compileNodes`: Without one there is one fetch for any number of nodes.
* `WorkflowGraph.result_compile_eq_promptIn`: All nodes are compiled in the same catalog.
* `WorkflowGraph.fetches_compile`: The fetches of a compile.
* `compileEach_getElem?`: Each of several compiles.
* `WorkflowGraph.compile_fetches`: All of this together.
-/

namespace PromptGraph

namespace Registry

variable (registry : Registry) (classType : String)

/-- A look-up with the catalog at hand leaves the registry as it is. -/
theorem schema?_of_loaded (catalog : Catalog) (h : registry.loaded = .filled catalog) :
    (registry.schema? classType).1 = registry :=
  congrArg Prod.fst (ask_of_loaded _ registry catalog h)

/-- A look-up without a catalog fetches once, and if it succeeds the catalog is at hand. -/
theorem schema?_of_unloaded (h : registry.loaded = .empty) :
    (registry.schema? classType).1.fetches = registry.fetches + 1 ∧
      ∀ schema, (registry.schema? classType).2.result = .ok schema →
        ∃ catalog, (registry.schema? classType).1.loaded = .filled catalog := by
  rcases registry with ⟨source, fetches, loaded⟩
  obtain rfl : loaded = .empty := h
  unfold schema?
  cases hfetch : source fetches with
  | ok catalog =>
      rw [ask_of_served _ source fetches catalog hfetch]
      exact ⟨rfl, fun _ _ => ⟨catalog, rfl⟩⟩
  | error failure =>
      rw [ask_of_failing _ source fetches failure hfetch]
      exact ⟨rfl, fun schema hschema => (by cases hschema)⟩

end Registry

section Nodes

variable (around : Surroundings) (registry : Registry) (progress : Progress)

/-- With the catalog at hand the nodes leave the registry as it is. -/
theorem compileNodes_of_loaded (nodes : List GraphNode) (catalog : Catalog)
    (h : registry.loaded = .filled catalog) :
    (compileNodes around registry progress nodes).1 = registry := by
  induction nodes generalizing progress with
  | nil => rfl
  | cons node rest ih =>
      unfold compileNodes
      simp only [registry.schema?_of_loaded node.classType catalog h]
      split
      · rfl
      · exact ih _

/-- Without a catalog the first node makes the registry fetch, and no node after it does. -/
theorem fetches_compileNodes (node : GraphNode) (rest : List GraphNode)
    (h : registry.loaded = .empty) :
    (compileNodes around registry progress (node :: rest)).1.fetches = registry.fetches + 1 := by
  rcases registry.schema?_of_unloaded node.classType h with ⟨hfetches, hloaded⟩
  unfold compileNodes
  simp only []
  split
  · exact hfetches
  · next next hstep =>
      -- The first node is through, so the look-up for it has succeeded.
      rcases (Traced.result_bind_eq_ok _ _ next).mp hstep with ⟨schema, hschema, -⟩
      rcases hloaded schema ((Traced.result_mapError_eq_ok _ _ schema).mp hschema) with
        ⟨catalog, hcatalog⟩
      rw [compileNodes_of_loaded _ _ _ rest catalog hcatalog]
      exact hfetches

end Nodes

namespace WorkflowGraph

variable (graph : WorkflowGraph) (options : CompileOptions) (source : Source) (fetches : Nat)

/-- The prompt of a workflow in a catalog: the nodes are compiled against it one after the
    other, and those that are not left out are inserted under their ids. -/
def promptIn (strict : Bool) (catalog : Catalog) : Except CompileError CompiledPrompt :=
  graph.nodes.foldlM (fun prompt node => do
    let compiled ← ((graph.surroundings strict).siteIn catalog node).compile.result
    .ok (if isExcluded node.classType then prompt else prompt.insert node.id compiled)) .empty

/-- A compile has to fetch: it may begin, and there are nodes. -/
def NeedsCatalog : Prop := options.valid = true ∧ graph.nodes ≠ []

instance : Decidable (graph.NeedsCatalog options) := inferInstanceAs (Decidable (_ ∧ _))

/-- With a catalog the result is the prompt in this catalog, for all nodes. -/
theorem result_compile_eq_promptIn (catalog : Catalog) (hvalid : options.valid = true)
    (hfetch : source fetches = .ok catalog) :
    (graph.compile options source fetches).run.result =
      graph.promptIn options.strictTypes catalog := by
  rw [graph.result_compile_of_fetch options source fetches catalog hvalid hfetch]
  -- What is counted and reported on the way does not show in the prompt.
  have hrun : EndAlike Eq (fun (progress : Progress) prompt => progress.prompt = prompt)
      (graph.nodes.foldlM (fun progress node =>
        (compileNode (graph.surroundings options.strictTypes) progress node
          (catalog.get? node.classType)).result) {})
      (graph.promptIn options.strictTypes catalog) := by
    refine EndAlike.foldlM (List.forall₂_same.mpr fun node _ => rfl)
      (fun node other progress prompt hnode hprompt => ?_) _ _ rfl
    cases hnode
    rw [result_compileNode]
    refine (EndAlike.of_eq (fun _ => rfl) _ _ rfl).bind fun compiled other hcompiled => .ok ?_
    rw [Progress.prompt_add, Progress.prompt_looked, hprompt, hcompiled]
  have hend := hrun.bind (f := fun progress => .ok progress.prompt) (g := pure)
    fun progress prompt hprompt => .ok hprompt
  rw [hend.eq, bind_pure]

/-- A compile that has to fetch does so once, and any other compile does not. -/
theorem fetches_compile :
    (graph.compile options source fetches).fetches =
      fetches + if graph.NeedsCatalog options then 1 else 0 := by
  unfold WorkflowGraph.compile NeedsCatalog
  by_cases hvalid : options.valid = true
  · simp only [hvalid, Bool.not_true, Bool.false_eq_true, if_false, true_and]
    cases hnodes : graph.nodes with
    | nil => rfl
    | cons node rest =>
        rw [if_pos (List.cons_ne_nil node rest)]
        exact fetches_compileNodes _ _ _ node rest rfl
  · simp only [hvalid, Bool.not_false, if_true, false_and, if_false, Nat.add_zero,
      Bool.false_eq_true]

end WorkflowGraph

/-- Workflows compiled one after the other, with the same options and the same source. -/
def compileEach (options : CompileOptions) (source : Source) (fetches : Nat) :
    List WorkflowGraph → List Compilation
  | [] => []
  | graph :: rest =>
    let outcome := graph.compile options source fetches
    outcome :: compileEach options source outcome.fetches rest

/-- The number of fetches that a source has served once workflows have been compiled. -/
def fetchesAfter (options : CompileOptions) (fetches : Nat) (graphs : List WorkflowGraph) : Nat :=
  fetches + graphs.countP fun graph => graph.NeedsCatalog options

/-- A compile among others starts after the fetches of those before it, and has nothing else of
    them. -/
theorem compileEach_getElem? (options : CompileOptions) (source : Source) (fetches : Nat)
    (before after : List WorkflowGraph) (graph : WorkflowGraph) :
    (compileEach options source fetches (before ++ graph :: after))[before.length]? =
      some (graph.compile options source (fetchesAfter options fetches before)) := by
  unfold fetchesAfter
  induction before generalizing fetches with
  | nil => rfl
  | cons earlier rest ih =>
      rw [List.cons_append, compileEach, List.length_cons, List.getElem?_cons_succ, ih,
        earlier.fetches_compile, List.countP_cons]
      simp only [decide_eq_true_eq]
      rw [Nat.add_assoc, Nat.add_comm (List.countP _ rest)]

namespace WorkflowGraph

/-- A compile fetches once if its options are valid and there are nodes, and else not at all,
    whatever comes of it. A failed fetch is its result, and with a catalog all nodes are compiled
    against that one. Compiles before it take their own fetches from the source, one for each
    that has to fetch, and leave nothing to the later ones. -/
theorem compile_fetches (graph : WorkflowGraph) (options : CompileOptions) (source : Source)
    (fetches : Nat) :
    (isBlankText options.baseUrl = true →
      (graph.compile options source fetches).fetches = fetches ∧
        (graph.compile options source fetches).run.result = .error .invalidOptions) ∧
    (isBlankText options.baseUrl = false → graph.nodes = [] →
      (graph.compile options source fetches).fetches = fetches ∧
        (graph.compile options source fetches).run.result = .ok .empty) ∧
    (isBlankText options.baseUrl = false → graph.nodes ≠ [] →
      (graph.compile options source fetches).fetches = fetches + 1 ∧
        (∀ failure, source fetches = .error failure →
          (graph.compile options source fetches).run.result = .error (.registryFetch failure)) ∧
        ∀ catalog, source fetches = .ok catalog →
          (graph.compile options source fetches).run.result =
            graph.promptIn options.strictTypes catalog) ∧
    ∀ before after,
      (compileEach options source fetches (before ++ graph :: after))[before.length]? =
        some (graph.compile options source (fetchesAfter options fetches before)) := by
  have hfetches := graph.fetches_compile options source fetches
  have hblank : ∀ b, isBlankText options.baseUrl = b → options.valid = !b := fun b hb =>
    congrArg not hb
  refine ⟨fun h => ?_, fun h hnodes => ?_, fun h hnodes => ?_, fun before after => ?_⟩
  · have hinvalid := hblank true h
    rw [if_neg fun hneeds => absurd (hinvalid.symm.trans hneeds.1) (by decide)] at hfetches
    refine ⟨hfetches, ?_⟩
    unfold WorkflowGraph.compile
    rw [hinvalid]
    rfl
  · rw [if_neg fun hneeds => hneeds.2 hnodes] at hfetches
    refine ⟨hfetches, ?_⟩
    rw [graph.result_compile options source fetches (hblank false h), hnodes]
    rfl
  · have hvalid := hblank false h
    rw [if_pos ⟨hvalid, hnodes⟩] at hfetches
    refine ⟨hfetches, fun failure hfetch => ?_, fun catalog hfetch => ?_⟩
    · rw [graph.result_compile_of_failing options source fetches failure hvalid hfetch,
        if_neg hnodes]
    · exact graph.result_compile_eq_promptIn options source fetches catalog hvalid hfetch
  · exact compileEach_getElem? options source fetches before after graph

/-- A workflow with two nodes of a class that no catalog knows. -/
def stray : WorkflowGraph :=
  { nodes := [⟨"1", "Loader", [], [], .empty⟩, ⟨"2", "Loader", [], [], .empty⟩] }

/-- The source fails at first. The first of three compiles fetches and fails, the second has no
    nodes, and the third fetches again and goes through. With a blank address nothing is
    fetched. -/
theorem stray_fetches :
    (stray.compile {} (.failing 1 .notObject .empty) 0).run.result =
      .error (.registryFetch .notObject) ∧
    (WorkflowGraph.compile {} {} (.failing 1 .notObject .empty) 1).fetches = 1 ∧
    (∃ outcome, (compileEach {} (.failing 1 .notObject .empty) 0 [stray, {}, stray])[2]? =
        some outcome ∧
      outcome.fetches = 2 ∧ outcome.run.result = stray.promptIn true .empty) ∧
    (stray.compile { baseUrl := " " } (.failing 1 .notObject .empty) 0).fetches = 0 := by
  have hvalid : isBlankText ({} : CompileOptions).baseUrl = false := by decide
  rcases compile_fetches stray {} (.failing 1 .notObject .empty) 0 with ⟨-, -, hfirst, hseries⟩
  rcases compile_fetches {} {} (.failing 1 .notObject .empty) 1 with ⟨-, hsecond, -⟩
  rcases compile_fetches stray {} (.failing 1 .notObject .empty) 1 with ⟨-, -, hthird, -⟩
  rcases compile_fetches stray { baseUrl := " " } (.failing 1 .notObject .empty) 0 with ⟨hblank, -⟩
  rcases hthird hvalid (by decide) with ⟨hfetches, -, hserved⟩
  refine ⟨(hfirst hvalid (by decide)).2.1 _ rfl, (hsecond hvalid rfl).1, ?_,
    (hblank (by decide)).1⟩
  exact ⟨_, hseries [stray, {}] [], hfetches, hserved _ rfl⟩

end WorkflowGraph

end PromptGraph
