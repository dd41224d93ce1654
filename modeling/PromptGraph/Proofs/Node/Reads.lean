import PromptGraph.Proofs.Node.Named
import PromptGraph.Proofs.Node.Takes
import PromptGraph.Proofs.Pops

/-!
# What a Node Makes of Its Reads

The first two passes as a single run of steps, and how this run depends on the buffer.

A step is about a socket or about a declared input, and it makes at most one read. Of the buffer it
sees only what this read gives. So if the same reads give the same from another sequence, all steps
do the same, and the node compiles to the same or fails with the same error, wherever in the
sequences the values stood. The third pass reads nothing.

This makes statements about nodes out of statements about cursors: to compare a node with two
sequences it is enough to compare what the reads that it makes give from the two.

## Main definitions

* `ReadingStep`: A step of the first two passes.
* `Site.runStep`, `Site.stepRequest?`: What a step does and what it reads.
* `Site.readingSteps`: The steps of a node.
* `Site.dangles`: A step fails before it reads.
* `Site.kindsFrom`, `Site.kinds`: The kinds that a node reads values for.
* `Site.unread`: The values that the reads of a node leave.
* `Resolution.Moved`: The same read is made from two states.
* `Site.SameReads`: The reads to come give the same from two states.

## Theorems

* `Site.result_compile_steps`, `Site.takes_eq`: A node as a run of steps.
* `Site.runStep_moved`: A step sees what it reads and nothing else of the buffer.
* `Site.cursor_runSteps`, `Site.unread_of_resolve`: Where the reads leave the cursor.
* `Site.compile_congr_reads`: A node sees what it reads and nothing else of the buffer.
-/

namespace PromptGraph

/-- A step of the first two passes. -/
inductive ReadingStep where
  /-- A socket, with its slot. -/
  | socket (s : Slot × InputSocket)
  /-- A declared input. -/
  | input (e : String × TypeDecl)

/-- The input that a step is about. -/
def ReadingStep.name : ReadingStep → String
  | .socket s => s.2.name
  | .input e => e.1

section Along

variable {α β : Type} (step : Resolution → α → Except CompileError Resolution)
  (request? : Resolution → α → Option Request)

theorem takesAlong_append (r : Resolution) (front back : List α) :
    takesAlong step request? r (front ++ back) =
      takesAlong step request? r front ++
        match front.foldlM step r with
        | .ok r' => takesAlong step request? r' back
        | .error _ => [] := by
  induction front generalizing r with
  | nil => rfl
  | cons a rest ih =>
      rw [List.cons_append, takesAlong, takesAlong, List.append_assoc, List.foldlM_cons]
      cases step r a with
      | ok r' => exact congrArg _ (ih r')
      | error e => rfl

theorem takesAlong_map (f : β → α) (r : Resolution) (items : List β) :
    takesAlong step request? r (items.map f) =
      takesAlong (fun r b => step r (f b)) (fun r b => request? r (f b)) r items := by
  induction items generalizing r with
  | nil => rfl
  | cons b rest ih =>
      rw [List.map_cons, takesAlong, takesAlong]
      simp only [ih]

end Along

/-- Where a read leaves the cursor, if there is one. -/
def Resolution.after (r : Resolution) (request? : Option Request) : Cursor :=
  request?.elim r.cursor fun request => (r.cursor.pop request.expected).cursor

/-- From two states the same read is made, and the same inputs are set in the end. -/
structure Resolution.Moved (r q : Resolution) (request? : Option Request) (r' q' : Resolution) :
    Prop where
  inputs : r'.inputs = q'.inputs
  left : r'.cursor = r.after request?
  right : q'.cursor = q.after request?

namespace Site

variable (site : Site) {r q r' : Resolution}

/-- What a step does. -/
def runStep (r : Resolution) : ReadingStep → Except CompileError Resolution
  | .socket s => (site.resolveSocket r s.1 s.2).result
  | .input e => (site.backfill r e.1 e.2).result

/-- The read that a step makes, unless its link dangles. -/
def stepRequest? (r : Resolution) : ReadingStep → Option Request
  | .socket s => site.socketRequest? s
  | .input e => r.backfillRequest? e

/-- The steps of a node: its sockets, and then its declared inputs. -/
def readingSteps : List ReadingStep :=
  site.node.slots.map .socket ++ site.schema.inputs.map .input

/-- A step is about a socket with a link that leads nowhere. It fails before it reads. -/
def dangles : ReadingStep → Bool
  | .socket s => s.2.isLinkBound && (site.source? s.1).isNone
  | .input _ => false

/-- The kinds that steps read values for, up to the first that fails. -/
def kindsFrom (r : Resolution) : List ReadingStep → List (Option Kind)
  | [] => []
  | step :: rest =>
    if site.dangles step then []
    else ((site.stepRequest? r step).map Request.expected).toList ++
      match site.runStep r step with
      | .ok r' => kindsFrom r' rest
      | .error _ => []

/-- The kinds that a node reads values for, one after the other. -/
def kinds : List (Option Kind) := site.kindsFrom site.start site.readingSteps

/-- The values that the reads of a node leave. -/
def unread : List Json := (site.start.cursor.dropAll site.kinds).unread

/-- The steps are the first two passes. -/
theorem foldlM_readingSteps (r : Resolution) :
    site.readingSteps.foldlM site.runStep r =
      (site.resolveSockets r site.node.slots).result >>= fun r₁ =>
        (site.backfillAll r₁ site.schema.inputs).result := by
  rw [readingSteps, List.foldlM_append, List.foldlM_map, result_resolveSockets]
  simp only [result_backfillAll, List.foldlM_map]
  rfl

/-- A node goes through its steps and then takes its defaults. -/
theorem result_compile_steps :
    site.compile.result =
      site.readingSteps.foldlM site.runStep site.start >>= fun r =>
        (site.fillDefaults r site.schema.required.keys).result >>= fun r' =>
          .ok ⟨site.node.classType, r'.inputs⟩ := by
  rw [result_compile, foldlM_readingSteps, bind_assoc]

theorem takes_eq :
    site.takes = takesAlong site.runStep site.stepRequest? site.start site.readingSteps := by
  unfold takes readingSteps
  rw [takesAlong_append, takesAlong_map, List.foldlM_map, result_resolveSockets]
  simp only [takesAlong_map]
  rfl

theorem step_answers (hsequence : r.cursor.buffer.isSequence = true) (step : ReadingStep)
    (hmem : step ∈ site.readingSteps) (h : site.runStep r step = .ok r') :
    site.Answers r r' step.name (site.stepRequest? r step) := by
  cases step with
  | socket s =>
      have hs : s ∈ site.node.slots := by
        unfold readingSteps at hmem
        simpa using hmem
      exact site.resolveSocket_answers hsequence s hs h
  | input e => exact site.backfill_answers hsequence e h

theorem exists_error_of_dangles (step : ReadingStep) (h : site.dangles step = true) :
    ∃ e, ∀ r, site.runStep r step = .error e := by
  cases step with
  | input e => cases h
  | socket s =>
      simp only [dangles, Bool.and_eq_true, Option.isNone_iff_eq_none] at h
      refine ⟨.linkDangling site.node.id site.node.classType s.2.name s.1 s.2.link, fun r => ?_⟩
      rw [runStep, result_resolveSocket, if_pos h.1, result_resolveLink, h.2]

theorem cursor_dropStored (name : String) :
    (site.dropStored r name).cursor =
      r.after (if site.schema.isScalar name then some ⟨name, site.schema.kind? name, true⟩
        else none) := by
  unfold dropStored
  split <;> rfl

section Moved

variable (hinputs : r.inputs = q.inputs)
include hinputs

/-- A linked socket drops what it reads, so it does not even see that. -/
theorem resolveLink_moved (slot : Slot) (socket : InputSocket) :
    EndAlike Eq (r.Moved q (if site.schema.isScalar socket.name then
        some ⟨socket.name, site.schema.kind? socket.name, true⟩ else none))
      (site.resolveLink r slot socket).result (site.resolveLink q slot socket).result := by
  have hr := site.cursor_dropStored (r := r) socket.name
  have hq := site.cursor_dropStored (r := q) socket.name
  have hdropped : (site.dropStored r socket.name).inputs =
      (site.dropStored q socket.name).inputs := by
    rw [inputs_dropStored, inputs_dropStored, hinputs]
  exact site.resolveLink_endAlike _ slot socket
    (fun input => ⟨Resolution.inputs_set_congr _ _ hdropped socket.name input, hr, hq⟩)
    fun _ _ _ _ _ => ⟨hdropped, hr, hq⟩

variable (hr : r.cursor.buffer.isSequence = true) (hq : q.cursor.buffer.isSequence = true)
include hr hq

theorem resolveBinding_moved (name binding : String)
    (hread : (q.cursor.pop (site.schema.kind? name)).value =
      (r.cursor.pop (site.schema.kind? name)).value) :
    EndAlike Eq (r.Moved q (some ⟨name, site.schema.kind? name, false⟩))
      (site.resolveBinding r name binding).result (site.resolveBinding q name binding).result := by
  rw [result_resolveBinding, result_resolveBinding]
  simp only [Cursor.take_eq_pop _ _ hr, Cursor.take_eq_pop _ _ hq, hread]
  cases (r.cursor.pop (site.schema.kind? name)).value with
  | some value =>
      exact site.accept_endAlike _ name value
        ⟨Resolution.inputs_set_congr _ _ hinputs name (.value value), rfl, rfl⟩
  | none =>
      exact site.fallback_endAlike _ name
        (fun input => ⟨Resolution.inputs_set_congr _ _ hinputs name input, rfl, rfl⟩)
        ⟨hinputs, rfl, rfl⟩

theorem backfill_moved (e : String × TypeDecl)
    (hread : ∀ request, r.backfillRequest? e = some request →
      (q.cursor.pop request.expected).value = (r.cursor.pop request.expected).value) :
    EndAlike Eq (r.Moved q (r.backfillRequest? e)) (site.backfill r e.1 e.2).result
      (site.backfill q e.1 e.2).result := by
  unfold Resolution.backfillRequest? at hread ⊢
  have hsame : q.pending e = r.pending e := Resolution.pending_congr r q e hinputs.symm
  cases hpending : r.pending e with
  | false =>
      rw [site.backfill_of_not_pending r e hpending,
        site.backfill_of_not_pending q e (hsame.trans hpending)]
      exact .ok ⟨hinputs, rfl, rfl⟩
  | true =>
      rw [hpending] at hread
      have hvalue := hread _ rfl
      rw [site.result_backfill_of_pending r e hpending,
        site.result_backfill_of_pending q e (hsame.trans hpending)]
      simp only [] at hvalue
      simp only [Cursor.take_eq_pop _ _ hr, Cursor.take_eq_pop _ _ hq, hvalue]
      cases (r.cursor.pop (classify e.2.typeName).kind?).value with
      | some value =>
          exact site.accept_endAlike _ e.1 value
            ⟨Resolution.inputs_set_congr _ _ hinputs e.1 (.value value), rfl, rfl⟩
      | none => exact .ok ⟨hinputs, rfl, rfl⟩

/-- A step sees what it reads and nothing else of the buffer. -/
theorem runStep_moved (step : ReadingStep)
    (hread : ∀ request, site.stepRequest? r step = some request →
      (q.cursor.pop request.expected).value = (r.cursor.pop request.expected).value) :
    EndAlike Eq (r.Moved q (site.stepRequest? r step)) (site.runStep r step)
      (site.runStep q step) := by
  cases step with
  | input e => exact site.backfill_moved hinputs hr hq e hread
  | socket s =>
      unfold stepRequest? socketRequest? at hread ⊢
      unfold runStep
      simp only [result_resolveSocket] at hread ⊢
      by_cases hlink : s.2.isLinkBound = true
      · simp only [hlink, if_true]
        exact site.resolveLink_moved hinputs s.1 s.2
      · simp only [hlink] at hread ⊢
        cases hwidget : s.2.widget with
        | none => exact .ok ⟨hinputs, rfl, rfl⟩
        | some binding =>
            rw [hwidget] at hread
            exact site.resolveBinding_moved hinputs hr hq s.2.name binding (hread _ rfl)

end Moved

/-- A step leaves the cursor where its read does. -/
theorem cursor_runStep (hr : r.cursor.buffer.isSequence = true) (step : ReadingStep)
    (h : site.runStep r step = .ok r') : r'.cursor = r.after (site.stepRequest? r step) := by
  rcases (site.runStep_moved rfl hr hr step fun _ _ => rfl).exists_ok r' h with ⟨q', -, hmoved⟩
  exact hmoved.left

theorem isSequence_after (hr : r.cursor.buffer.isSequence = true) (request? : Option Request) :
    (r.after request?).buffer.isSequence = true := by
  cases request? <;> exact hr

/-- Steps leave the cursor where their reads do. -/
theorem cursor_runSteps (steps : List ReadingStep) (hr : r.cursor.buffer.isSequence = true)
    (h : steps.foldlM site.runStep r = .ok r') :
    r'.cursor = r.cursor.dropAll (site.kindsFrom r steps) := by
  induction steps generalizing r with
  | nil =>
      cases h
      rfl
  | cons step rest ih =>
      rw [List.foldlM_cons, bind_eq_ok] at h
      rcases h with ⟨m, hm, hrest⟩
      have hcursor := site.cursor_runStep hr step hm
      -- A step that went through has made its read.
      have hdangles : ¬site.dangles step = true := by
        intro hdangles
        rcases site.exists_error_of_dangles step hdangles with ⟨e, herror⟩
        cases (herror r).symm.trans hm
      rw [ih (hcursor ▸ isSequence_after hr _) hrest, hcursor, kindsFrom, if_neg hdangles, hm]
      cases site.stepRequest? r step <;> rfl

/-- The reads that steps still make give the same from two states with the same inputs. -/
structure SameReads (steps : List ReadingStep) (r q : Resolution) : Prop where
  inputs : r.inputs = q.inputs
  left : r.cursor.buffer.isSequence = true
  right : q.cursor.buffer.isSequence = true
  pops : q.cursor.popAll (site.kindsFrom r steps) = r.cursor.popAll (site.kindsFrom r steps)

/-- A step does the same if the reads to come give the same, and then those after it do. -/
theorem SameReads.step {step : ReadingStep} {rest : List ReadingStep}
    (h : site.SameReads (step :: rest) r q) :
    EndAlike Eq (site.SameReads rest) (site.runStep r step) (site.runStep q step) := by
  by_cases hdangles : site.dangles step = true
  · rcases site.exists_error_of_dangles step hdangles with ⟨e, herror⟩
    rw [herror r, herror q]
    exact .error rfl
  have hpops := h.pops
  rw [kindsFrom, if_neg hdangles] at hpops
  -- The read of the step comes first, if it makes one.
  have hread : ∀ request, site.stepRequest? r step = some request →
      (q.cursor.pop request.expected).value = (r.cursor.pop request.expected).value := by
    intro request hrequest
    rw [hrequest] at hpops
    exact (List.cons.inj hpops).1
  refine (site.runStep_moved h.inputs h.left h.right step hread).mono_of_ok ?_
  rintro r' q' hrun ⟨hinputs, hr', hq'⟩
  rw [hrun] at hpops
  refine ⟨hinputs, hr' ▸ isSequence_after h.left _, hq' ▸ isSequence_after h.right _, ?_⟩
  rw [hr', hq']
  cases hrequest : site.stepRequest? r step with
  | none =>
      rw [hrequest] at hpops
      exact hpops
  | some request =>
      rw [hrequest] at hpops
      exact (List.cons.inj hpops).2

/-- With other values a node goes through the same steps, from another start. -/
theorem result_compile_steps_withValues (values : List Json) :
    (site.withValues values).compile.result =
      site.readingSteps.foldlM site.runStep { cursor := ⟨.sequence values, 0⟩ } >>= fun r =>
        (site.fillDefaults r site.schema.required.keys).result >>= fun r' =>
          .ok ⟨site.node.classType, r'.inputs⟩ := by
  rw [result_compile_steps]
  simp only [result_fillDefaults]
  rfl

theorem compile_steps_withValues_ok (values : List Json) (compiled : CompiledNode) :
    (site.withValues values).compile.result = .ok compiled ↔
      ∃ r r', site.readingSteps.foldlM site.runStep { cursor := ⟨.sequence values, 0⟩ } = .ok r ∧
        (site.fillDefaults r site.schema.required.keys).result = .ok r' ∧
          compiled = ⟨site.node.classType, r'.inputs⟩ := by
  rw [result_compile_steps_withValues]
  simp only [bind_eq_ok, Except.ok.injEq, exists_and_left, eq_comm (b := compiled)]

theorem takes_withValues (values : List Json) :
    (site.withValues values).takes = takesAlong site.runStep site.stepRequest?
      { cursor := ⟨.sequence values, 0⟩ } site.readingSteps :=
  (site.withValues values).takes_eq

/-- A node sees what it reads and nothing else of the buffer: if the reads that it makes give the
    same from other values, it compiles to the same with them, or fails with the same error. -/
theorem compile_congr_reads (hsequence : site.node.values.isSequence = true) (values : List Json)
    (h : Cursor.popAll ⟨.sequence values, 0⟩ site.kinds = site.start.cursor.popAll site.kinds) :
    (site.withValues values).compile.result = site.compile.result := by
  rw [result_compile_steps_withValues, result_compile_steps]
  -- The states stay in step as to the reads that are still to be made.
  have hsteps := EndAlike.foldlM_left site.SameReads (fun _ _ _ _ => SameReads.step site)
    site.readingSteps site.start { cursor := ⟨.sequence values, 0⟩ } ⟨rfl, hsequence, rfl, h⟩
  refine (hsteps.bind fun r q hrq => ?_).eq.symm
  refine (site.fillDefaults_endAlike hrq.inputs _).bind fun r' q' hinputs => .ok ?_
  rw [hinputs]

theorem cursor_fillDefaults (names : List String)
    (h : (site.fillDefaults r names).result = .ok r') : r'.cursor = r.cursor := by
  rw [result_fillDefaults] at h
  refine foldlM_invariant (fun r' => r'.cursor = r.cursor) names (fun name _ a b ha hb => ?_) r r'
    rfl h
  exact (site.fillDefault_origin name hb).1.trans ha

/-- What the reads of a node leave is what the cursor has ahead in the end. -/
theorem unread_of_resolve (hsequence : site.node.values.isSequence = true)
    (h : site.resolve.result = .ok r) : r.cursor.unread = site.unread := by
  rcases (site.resolve_ok r).mp h with ⟨r₁, r₂, h₁, h₂, h₃⟩
  have hsteps : site.readingSteps.foldlM site.runStep site.start = .ok r₂ := by
    rw [foldlM_readingSteps, bind_eq_ok]
    exact ⟨r₁, h₁, h₂⟩
  rw [site.cursor_fillDefaults _ h₃, site.cursor_runSteps _ hsequence hsteps]
  rfl

end Site

end PromptGraph
