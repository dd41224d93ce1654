import PromptGraph.Proofs.Node.Reads
import PromptGraph.Proofs.Node.References

/-!
# More Values at the End

A node whose buffer goes on after the values that it had.

As long as its reads find something, the node does not notice. A read that finds nothing has gone
through all values, and from there on the longer buffer may have something for a read that found
nothing before. But then no read finds anything in the shorter one, so all inputs that have a value
from it have it already. The sockets have different names, and the later passes set only what is
unset, so these inputs keep their values with either buffer.

If some value is left in the end, no read has failed, and the node compiles to the same.

## Main definitions

* `ReadingStep.Spares`: A step leaves an input alone that is set.
* `Site.Trails`: Two runs agree about a take.

## Theorems

* `Site.takesAlong_of_unread`: Nothing is taken from the end of a buffer.
* `Site.Trails.next`: A step keeps two runs in agreement.
* `Site.compile_trailing`: What was read is kept when values are added at the end.
-/

namespace PromptGraph

/-- A step leaves an input of a name alone, if it is set: it is about a socket of another name, or
    it is one of the second pass. -/
def ReadingStep.Spares (name : String) : ReadingStep → Prop
  | .socket s => s.2.name ≠ name
  | .input _ => True

theorem Request.value_of_take? (request : Request) (cursor : Cursor) (t : Take)
    (h : request.take? cursor = some t) : (cursor.pop request.expected).value = some t.value := by
  unfold take? at h
  rcases Option.map_eq_some_iff.mp h with ⟨value, hvalue, rfl⟩
  exact hvalue

namespace Site

variable (site : Site) {r q r' q' : Resolution}

/-- Each socket has another name than those before, so it leaves their inputs alone. -/
theorem pairwise_spares (hnames : (site.node.inputs.map InputSocket.name).Nodup) :
    site.readingSteps.Pairwise fun step later => later.Spares step.name := by
  have hslots : site.node.slots.Pairwise fun s later => later.2.name ≠ s.2.name := by
    rw [← GraphNode.map_name_slots] at hnames
    exact (List.pairwise_map.mp hnames).imp Ne.symm
  unfold readingSteps
  rw [List.pairwise_append, List.pairwise_map, List.pairwise_map]
  refine ⟨hslots, List.pairwise_of_forall fun _ _ => trivial, fun step _ later hlater => ?_⟩
  rcases List.mem_map.mp hlater with ⟨e, -, rfl⟩
  trivial

theorem runStep_keeps (step : ReadingStep) (h : site.runStep r step = .ok r') (name : String)
    (hspares : step.Spares name) (input : ResolvedInput)
    (hget : r.inputs.get? name = some input) : r'.inputs.get? name = some input := by
  cases step with
  | socket s => exact ((site.resolveSocket_sets s h).get?_other name (Ne.symm hspares)).trans hget
  | input e => exact sets_keeps (site.backfill_sets e.1 e.2 h) hget

theorem stepRequest?_congr (h : r.inputs = q.inputs) (step : ReadingStep) :
    site.stepRequest? q step = site.stepRequest? r step := by
  cases step with
  | socket s => rfl
  | input e =>
      change q.backfillRequest? e = r.backfillRequest? e
      unfold Resolution.backfillRequest?
      rw [Resolution.pending_congr r q e h.symm]

/-- At the end of the buffer nothing is taken. -/
theorem takesAlong_of_unread (steps : List ReadingStep) (hr : r.cursor.buffer.isSequence = true)
    (hend : r.cursor.unread = []) :
    takesAlong site.runStep site.stepRequest? r steps = [] := by
  induction steps generalizing r with
  | nil => rfl
  | cons step rest ih =>
      have htake : (site.stepRequest? r step).bind (·.take? r.cursor) = none := by
        refine Option.bind_eq_none_iff.mpr fun request _ => ?_
        exact request.take?_of_missed _ (r.cursor.pop_of_unread request.expected hend).1
      have hafter : r.after (site.stepRequest? r step) = r.cursor := by
        cases site.stepRequest? r step with
        | none => rfl
        | some request => exact (r.cursor.pop_of_unread request.expected hend).2
      rw [takesAlong, htake]
      cases hrun : site.runStep r step with
      | error e => rfl
      | ok r' =>
          have hcursor := (site.cursor_runStep hr step hrun).trans hafter
          exact ih (hcursor ▸ hr) (hcursor ▸ hend)

/-- A step whose read finds a value for an input sets the input to it. -/
theorem runStep_kept (hr : r.cursor.buffer.isSequence = true) (step : ReadingStep)
    (hstep : step ∈ site.readingSteps) (h : site.runStep r step = .ok r') (request : Request)
    (hrequest : site.stepRequest? r step = some request) (hkept : request.dropped = false)
    (value : Json) (hvalue : (r.cursor.pop request.expected).value = some value) :
    request.input = step.name ∧ r'.inputs = r.inputs.insert step.name (.value value) := by
  have hanswers := site.step_answers hr step hstep h
  rw [hrequest] at hanswers
  cases hanswers with
  | dropped expected hcursor hsets => cases hkept
  | kept expected found hcursor hfound hinputs =>
      rw [hfound, Option.some.injEq] at hvalue
      exact ⟨rfl, hvalue ▸ hinputs⟩
  | missed expected hcursor hmissed hsets =>
      rw [hmissed] at hvalue
      cases hvalue

/-- Two runs, the second with more values at the end, agree about a take of the first: it is still
    ahead, and the runs have done the same, or it has been done, and its input is set in both. -/
inductive Trails (more : List Json) (t : Take) (steps : List ReadingStep) (r q : Resolution) :
    Prop where
  | ahead (hmem : t ∈ takesAlong site.runStep site.stepRequest? r steps)
    (hinputs : r.inputs = q.inputs) (hextends : Cursor.Extends more r.cursor q.cursor)
  | done (hleft : r.inputs.get? t.request.input = some (.value t.value))
    (hright : q.inputs.get? t.request.input = some (.value t.value))
    (hspares : ∀ step ∈ steps, step.Spares t.request.input)

section Trails

variable {site} {more : List Json} {t : Take} {step : ReadingStep} {rest : List ReadingStep}

/-- If a take is further ahead, the step before it finds what it reads for, in both runs. -/
theorem trails_of_mem_rest (hinputs : r.inputs = q.inputs)
    (hextends : Cursor.Extends more r.cursor q.cursor) (hr : site.runStep r step = .ok r')
    (hq : site.runStep q step = .ok q')
    (hmem : t ∈ takesAlong site.runStep site.stepRequest? r' rest) :
    site.Trails more t rest r' q' := by
  have hsequence := hextends.1
  have hcursor := site.cursor_runStep hsequence step hr
  have hfound : ∀ request, site.stepRequest? r step = some request →
      ∃ value, (r.cursor.pop request.expected).value = some value := by
    intro request hrequest
    rw [← Option.isSome_iff_exists, Option.isSome_iff_ne_none]
    intro hnone
    -- A read that finds nothing leaves nothing for later takes.
    rw [hrequest] at hcursor
    have hend := r.cursor.unread_of_pop_none request.expected hnone
    rw [site.takesAlong_of_unread rest (hcursor ▸ hsequence) (hcursor ▸ hend)] at hmem
    cases hmem
  have hread : ∀ request, site.stepRequest? r step = some request →
      (q.cursor.pop request.expected).value = (r.cursor.pop request.expected).value := by
    intro request hrequest
    rcases hfound request hrequest with ⟨value, hvalue⟩
    rw [(hextends.pop request.expected value hvalue).1, hvalue]
  rcases (site.runStep_moved hinputs hsequence hextends.2.1 step hread).exists_ok r' hr with
    ⟨q'', hq'', hsame, -, hcursor'⟩
  cases hq.symm.trans hq''
  refine .ahead hmem hsame ?_
  rw [hcursor, hcursor']
  cases hrequest : site.stepRequest? r step with
  | none => exact hextends
  | some request =>
      rcases hfound request hrequest with ⟨value, hvalue⟩
      exact (hextends.pop request.expected value hvalue).2

/-- A step keeps two runs in agreement about a take that is not dropped. -/
theorem Trails.next (hkept : t.request.dropped = false)
    (hpairwise : (step :: rest).Pairwise fun step later => later.Spares step.name)
    (hstep : step ∈ site.readingSteps) (h : site.Trails more t (step :: rest) r q)
    (hr : site.runStep r step = .ok r') (hq : site.runStep q step = .ok q') :
    site.Trails more t rest r' q' := by
  cases h with
  | done hleft hright hspares =>
      rcases List.forall_mem_cons.mp hspares with ⟨hhere, hlater⟩
      exact .done (site.runStep_keeps step hr _ hhere _ hleft)
        (site.runStep_keeps step hq _ hhere _ hright) hlater
  | ahead hmem hinputs hextends =>
      rw [takesAlong, hr, List.mem_append, Option.mem_toList] at hmem
      rcases hmem with htake | hmem
      · -- The step makes the take, and in the other run it finds the same value.
        rcases Option.bind_eq_some_iff.mp htake with ⟨request, hrequest, htake⟩
        have hvalue := request.value_of_take? r.cursor t htake
        have hvalue' := (hextends.pop request.expected t.value hvalue).1
        have hrequest' := (site.stepRequest?_congr hinputs step).trans hrequest
        rw [request.request_of_take? r.cursor t htake] at hkept
        rcases site.runStep_kept hextends.1 step hstep hr request hrequest hkept t.value hvalue with
          ⟨hname, hset⟩
        rcases site.runStep_kept hextends.2.1 step hstep hq request hrequest' hkept t.value hvalue'
          with ⟨-, hset'⟩
        have hinput : t.request.input = step.name := by
          rw [request.request_of_take? r.cursor t htake, hname]
        refine .done ?_ ?_ ?_
        · rw [hset, hinput, OrderedMap.get?_insert, if_pos rfl]
        · rw [hset', hinput, OrderedMap.get?_insert, if_pos rfl]
        · rw [hinput]
          exact (List.pairwise_cons.mp hpairwise).1
      · exact trails_of_mem_rest hinputs hextends hr hq hmem

end Trails

/-- Whatever the reads of a node take for its inputs, it has also if more values follow. -/
theorem get?_of_takes (vs ws : List Json)
    (hnames : (site.node.inputs.map InputSocket.name).Nodup) (compiled compiled' : CompiledNode)
    (h : (site.withValues vs).compile.result = .ok compiled)
    (h' : (site.withValues (vs ++ ws)).compile.result = .ok compiled') (t : Take)
    (ht : t ∈ (site.withValues vs).takes) (hkept : t.request.dropped = false) :
    compiled.inputs.get? t.request.input = some (.value t.value) ∧
      compiled'.inputs.get? t.request.input = some (.value t.value) := by
  rcases (site.compile_steps_withValues_ok vs compiled).mp h with ⟨r, r', hr, hr', rfl⟩
  rcases (site.compile_steps_withValues_ok (vs ++ ws) compiled').mp h' with ⟨q, q', hq, hq', rfl⟩
  rw [takes_withValues] at ht
  -- The agreement follows the steps that are left, and in the end the take has been done.
  have hend := foldlM_both
    (fun steps r q => steps <:+ site.readingSteps ∧ site.Trails ws t steps r q)
    (fun step rest a b a' b' hab ha hb => ⟨(List.suffix_cons step rest).trans hab.1,
      hab.2.next hkept ((site.pairwise_spares hnames).sublist hab.1.sublist)
        (hab.1.mem (List.mem_cons_self ..)) ha hb⟩)
    site.readingSteps { cursor := ⟨.sequence vs, 0⟩ } r { cursor := ⟨.sequence (vs ++ ws), 0⟩ } q
    ⟨List.suffix_refl _, .ahead ht rfl (Cursor.extends_start vs ws)⟩ hr hq
  cases hend.2 with
  | ahead hmem _ _ => cases hmem
  | done hleft hright _ =>
      exact ⟨site.fillDefaults_keeps _ _ _ hr' hleft, site.fillDefaults_keeps _ _ _ hq' hright⟩

/-- Values at the end are harmless. If a node with different socket names compiles with and without
    them, every input that has a value from the buffer without them has the same value with them. If
    reads leave a value or none of them fails, the node compiles to the same or fails with the same
    error. What reads leave is what the cursor has ahead when the node is resolved. -/
theorem compile_trailing (vs ws : List Json)
    (hnames : (site.node.inputs.map InputSocket.name).Nodup) :
    (∀ compiled compiled', (site.withValues vs).compile.result = .ok compiled →
        (site.withValues (vs ++ ws)).compile.result = .ok compiled' →
          ∀ t ∈ (site.withValues vs).takes, t.request.dropped = false →
            compiled.inputs.get? t.request.input = some (.value t.value) ∧
              compiled'.inputs.get? t.request.input = some (.value t.value)) ∧
      ((site.withValues vs).unread ≠ [] ∨
          (∀ value? ∈ Cursor.popAll ⟨.sequence vs, 0⟩ (site.withValues vs).kinds,
            value?.isSome = true) →
        (site.withValues (vs ++ ws)).compile.result = (site.withValues vs).compile.result) ∧
      ∀ r, (site.withValues vs).resolve.result = .ok r →
        r.cursor.unread = (site.withValues vs).unread := by
  refine ⟨site.get?_of_takes vs ws hnames, fun hfound => ?_, fun r hr => ?_⟩
  · have hall : ∀ value? ∈ Cursor.popAll ⟨.sequence vs, 0⟩ (site.withValues vs).kinds,
        value?.isSome = true := by
      rcases hfound with hunread | hall
      · exact Cursor.found_of_unread ⟨.sequence vs, 0⟩ _ hunread
      · exact hall
    exact (site.withValues vs).compile_congr_reads rfl (vs ++ ws)
      (Cursor.popAll_extends (Cursor.extends_start vs ws) _ hall)
  · exact (site.withValues vs).unread_of_resolve rfl hr

/-- The sampler with a seed and a number of steps, in which the steps may stay unset. -/
def reseededLenient : Site := { reseeded with strict := false }

/-- If the buffer of the sampler ends after the seed, the number of steps stays unset. If it goes
    on, the number of steps is set and the seed is as it was. With values for both and one left,
    nothing that follows makes a difference. -/
theorem reseeded_trailing :
    (∃ compiled compiled',
      (reseededLenient.withValues [jsonOfUInt64 11]).compile.result = .ok compiled ∧
      (reseededLenient.withValues ([jsonOfUInt64 11] ++ [.str "randomize", jsonOfUInt64 22])
        ).compile.result = .ok compiled' ∧
      compiled.inputs.get? "steps" = none ∧
      compiled'.inputs.get? "steps" = some (.value (jsonOfUInt64 22)) ∧
      compiled.inputs.get? "seed" = some (.value (jsonOfUInt64 11)) ∧
      compiled'.inputs.get? "seed" = some (.value (jsonOfUInt64 11))) ∧
    (reseeded.withValues ([jsonOfUInt64 11, jsonOfUInt64 22, jsonOfUInt64 33] ++
        [.str "more"])).compile.result =
      (reseeded.withValues [jsonOfUInt64 11, jsonOfUInt64 22, jsonOfUInt64 33]).compile.result := by
  have hnames : (reseeded.node.inputs.map InputSocket.name).Nodup := List.nodup_singleton "seed"
  refine ⟨⟨_, _, rfl, rfl, rfl, rfl, ?_⟩, ?_⟩
  · exact (reseededLenient.compile_trailing [jsonOfUInt64 11] [.str "randomize", jsonOfUInt64 22]
      hnames).1 _ _ rfl rfl ⟨⟨"seed", some .int, false⟩, 0, jsonOfUInt64 11⟩
        (List.mem_cons_self ..) rfl
  · exact (reseeded.compile_trailing [jsonOfUInt64 11, jsonOfUInt64 22, jsonOfUInt64 33]
      [.str "more"] hnames).2.1 (Or.inl (List.cons_ne_nil _ _))

end Site

end PromptGraph
