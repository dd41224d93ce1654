import PromptGraph.Proofs.Node.Origins
import PromptGraph.Proofs.Takes

/-!
# The Reads of a Node

Which values of its buffer a node reads, and which of its inputs they end up in.

The reads are made along the first two passes. A linked socket reads a value if
it is a declared scalar, to drop it; a bound socket reads one for its input; and
the second pass reads one for each input that is pending. One cursor goes through
all of these, so the takes of a run are a single log, in order from the front of
the buffer to its end.

A literal comes from elsewhere, or it is the value of the last take for its input
that was not dropped. Takes before that have been written over, which happens if
several sockets have one name. Every take is for one input, so no two inputs have
their values from the same take.

## Main definitions

* `lastTake?`: The take that an input has its value from.
* `takesAlong`: The takes of steps made one after the other.
* `Site.socketRequest?`, `Resolution.backfillRequest?`: The read that a step
  makes.
* `Site.takes`: The takes of a run.
* `Site.Answers`: A step makes the read of a request.
* `Site.Account`: A log of takes accounts for a state.

## Theorems

* `takesAlong_reports`, `takesAlong_invariant`: What each step keeps with its take, a run
  keeps with all its takes.
* `Site.resolveSocket_answers`, `Site.backfill_answers`: What the steps read.
* `Site.Account.step`: A step carries the account on.
* `Site.compile_takes`: The takes of a run account for the compiled node.
-/

namespace PromptGraph

/-- The last take for an input that is not dropped. -/
def lastTake? (log : List Take) (name : String) : Option Take :=
  log.reverse.find? fun t => !t.request.dropped && t.request.input = name

theorem lastTake?_snoc (log : List Take) (t : Take) (name : String) :
    lastTake? (log ++ [t]) name =
      if !t.request.dropped && t.request.input = name then some t else lastTake? log name :=
  find?_reverse_snoc _ log t

theorem lastTake?_eq_some (log : List Take) (name : String) (t : Take)
    (h : lastTake? log name = some t) :
    t ∈ log ∧ t.request.dropped = false ∧ t.request.input = name := by
  have hkept := List.find?_some h
  rw [Bool.and_eq_true, Bool.not_eq_true', decide_eq_true_eq] at hkept
  exact ⟨List.mem_reverse.mp (List.mem_of_find?_eq_some h), hkept⟩

/-- The takes of steps made one after the other, as far as they go. Each step makes at
    most one read, from where the one before has left the cursor. -/
def takesAlong {α : Type} (step : Resolution → α → Except CompileError Resolution)
    (request? : Resolution → α → Option Request) (r : Resolution) : List α → List Take
  | [] => []
  | a :: rest =>
    ((request? r a).bind (·.take? r.cursor)).toList ++
      match step r a with
      | .ok r' => takesAlong step request? r' rest
      | .error _ => []

/-- A statement about takes, reports and a state that every step carries on holds of a whole
    run. -/
theorem takesAlong_reports {α : Type} (step : Resolution → α → Traced CompileError Resolution)
    (request? : Resolution → α → Option Request)
    (P : List Take → List Event → Resolution → Prop) (items : List α)
    (hstep : ∀ a ∈ items, ∀ log events r r', P log events r → (step r a).result = .ok r' →
      P (log ++ ((request? r a).bind (·.take? r.cursor)).toList) (events ++ (step r a).events) r')
    (log : List Take) (events : List Event) (r r' : Resolution) (start : P log events r)
    (run : (items.foldlM step r).result = .ok r') :
    P (log ++ takesAlong (fun r a => (step r a).result) request? r items)
      (events ++ (items.foldlM step r).events) r' := by
  induction items generalizing log events r with
  | nil =>
      cases run
      rw [takesAlong, List.append_nil]
      rw [List.foldlM_nil, Traced.events_pure, List.append_nil]
      exact start
  | cons a rest ih =>
      rw [List.foldlM_cons, Traced.result_bind_eq_ok] at run
      rcases run with ⟨m, hm, hrest⟩
      have hnext := hstep a (List.mem_cons_self ..) log events r m start hm
      have hend := ih (fun a' h => hstep a' (List.mem_cons_of_mem a h)) _ _ m hnext hrest
      rw [List.foldlM_cons, Traced.events_bind_of_ok _ _ m hm, takesAlong, hm,
        ← List.append_assoc, ← List.append_assoc]
      exact hend

/-- What each step keeps with its take at the end of the log, a run of them keeps with
    all their takes. -/
theorem takesAlong_invariant {α : Type} {step : Resolution → α → Except CompileError Resolution}
    (request? : Resolution → α → Option Request) (P : List Take → Resolution → Prop)
    (items : List α)
    (hstep : ∀ a ∈ items, ∀ log r r', P log r → step r a = .ok r' →
      P (log ++ ((request? r a).bind (·.take? r.cursor)).toList) r')
    (log : List Take) (r r' : Resolution) (start : P log r) (run : items.foldlM step r = .ok r') :
    P (log ++ takesAlong step request? r items) r' :=
  takesAlong_reports (fun r a => Traced.ofExcept (step r a)) request? (fun log _ r => P log r)
    items (fun a ha log _ => hstep a ha log) log [] r r' start
    ((Traced.result_foldlM _ items r).trans run)

/-- The read that the second pass makes for a declared input. -/
def Resolution.backfillRequest? (r : Resolution) (e : String × TypeDecl) : Option Request :=
  if r.pending e then some ⟨e.1, (classify e.2.typeName).kind?, false⟩ else none

namespace Site

variable (site : Site) {r r' : Resolution} {values : List Json} {log : List Take}

/-- The read that a socket makes: to drop a value if it is a linked scalar, for its
    input if it is bound to a stored value. -/
def socketRequest? (s : Slot × InputSocket) : Option Request :=
  if s.2.isLinkBound then
    if site.schema.isScalar s.2.name then some ⟨s.2.name, site.schema.kind? s.2.name, true⟩
    else none
  else s.2.widget.map fun _ => ⟨s.2.name, site.schema.kind? s.2.name, false⟩

/-- The values that the first pass reads and then the second. -/
def takes : List Take :=
  takesAlong (fun r s => (site.resolveSocket r s.1 s.2).result) (fun _ s => site.socketRequest? s)
      site.start site.node.slots ++
    match (site.resolveSockets site.start site.node.slots).result with
    | .ok r =>
      takesAlong (fun r e => (site.backfill r e.1 e.2).result) Resolution.backfillRequest? r
        site.schema.inputs
    | .error _ => []

/-- A step about an input makes the read of a request. The value found is what the input
    is set to, unless it is dropped. In all other cases what is set comes from
    elsewhere. -/
inductive Answers (site : Site) (r r' : Resolution) (name : String) : Option Request → Prop where
  /-- The step reads nothing. -/
  | idle (hcursor : r'.cursor = r.cursor) (hsets : r.Sets r' name (site.Elsewhere name)) :
    Answers site r r' name none
  /-- The step reads a value and drops it. -/
  | dropped (expected : Option Kind) (hcursor : r'.cursor = (r.cursor.pop expected).cursor)
    (hsets : r.Sets r' name (site.Elsewhere name)) :
    Answers site r r' name (some ⟨name, expected, true⟩)
  /-- The step finds a value for the input. -/
  | kept (expected : Option Kind) (value : Json)
    (hcursor : r'.cursor = (r.cursor.pop expected).cursor)
    (hfound : (r.cursor.pop expected).value = some value)
    (hinputs : r'.inputs = r.inputs.insert name (.value value)) :
    Answers site r r' name (some ⟨name, expected, false⟩)
  /-- The step finds no value for the input. -/
  | missed (expected : Option Kind) (hcursor : r'.cursor = (r.cursor.pop expected).cursor)
    (hmissed : (r.cursor.pop expected).value = none)
    (hsets : r.Sets r' name (site.Elsewhere name)) :
    Answers site r r' name (some ⟨name, expected, false⟩)

theorem Reads.answers {name : String} {expected : Option Kind}
    (h : site.Reads r r' name (r.cursor.pop expected)) :
    site.Answers r r' name (some ⟨name, expected, false⟩) := by
  rcases h with ⟨hcursor, ⟨value, hfound, -, hinputs⟩ | ⟨hmissed, hsets⟩⟩
  · exact .kept expected value hcursor hfound hinputs
  · exact .missed expected hcursor hmissed (hsets.mono fun _ hdefault => hdefault.elsewhere site)

theorem resolveSocket_answers (hsequence : r.cursor.buffer.isSequence = true)
    (s : Slot × InputSocket) (hs : s ∈ site.node.slots)
    (h : (site.resolveSocket r s.1 s.2).result = .ok r') :
    site.Answers r r' s.2.name (site.socketRequest? s) := by
  unfold socketRequest?
  rcases site.resolveSocket_origin s h with
    ⟨hlink, hcursor, hbrings⟩ | ⟨hlink, ⟨binding, hwidget, hreads⟩ | ⟨hwidget, rfl⟩⟩
  · rw [if_pos hlink]
    have hsets := hbrings.mono fun _ h => h.elsewhere site hs
    unfold dropStored at hcursor
    by_cases hscalar : site.schema.isScalar s.2.name = true
    · rw [if_pos hscalar] at hcursor ⊢
      exact .dropped _ hcursor hsets
    · rw [if_neg hscalar] at hcursor ⊢
      exact .idle hcursor hsets
  · -- In a sequence the name of the binding does not matter.
    rw [if_neg (Bool.eq_false_iff.mp hlink), hwidget]
    rw [Cursor.take_eq_pop _ _ hsequence] at hreads
    exact hreads.answers
  · rw [if_neg (Bool.eq_false_iff.mp hlink), hwidget]
    exact .idle rfl (Or.inl rfl)

theorem backfill_answers (hsequence : r.cursor.buffer.isSequence = true)
    (e : String × TypeDecl) (h : (site.backfill r e.1 e.2).result = .ok r') :
    site.Answers r r' e.1 (r.backfillRequest? e) := by
  unfold Resolution.backfillRequest?
  rcases site.backfill_origin e.1 e.2 h with ⟨hidle, rfl⟩ | ⟨hpending, hreads⟩
  · rw [if_neg (Bool.eq_false_iff.mp hidle)]
    exact .idle rfl (Or.inl rfl)
  · rw [if_pos hpending]
    rw [Cursor.take_eq_pop _ _ hsequence] at hreads
    exact hreads.answers

/-- A value comes from elsewhere, or it is that of the last take for an input. -/
def Sourced (log : List Take) (name : String) (input : ResolvedInput) : Prop :=
  ∀ value, input = .value value →
    site.FromElsewhere name value ∨ ∃ t, lastTake? log name = some t ∧ t.value = value

theorem Elsewhere.sourced {name : String} {input : ResolvedInput}
    (h : site.Elsewhere name input) (log : List Take) : site.Sourced log name input :=
  fun value hvalue => Or.inl (h value hvalue)

/-- Takes that are dropped are nobody's source. -/
theorem sourced_snoc_of_dropped (t : Take) (hdropped : t.request.dropped = true) :
    site.Sourced (log ++ [t]) = site.Sourced log := by
  have hlast : ∀ name, lastTake? (log ++ [t]) name = lastTake? log name := by
    intro name
    rw [lastTake?_snoc, hdropped]
    exact if_neg Bool.false_ne_true
  unfold Sourced
  simp only [hlast]

/-- A log accounts for a state: the cursor has made its reads, and each value that is set
    comes from elsewhere or from the log. -/
structure Account (values : List Json) (log : List Take) (r : Resolution) : Prop where
  spent : Spent values log r.cursor
  sourced : r.All (site.Sourced log)

namespace Account

variable {site}

theorem start (hvalues : site.node.values = .sequence values) :
    site.Account values [] site.start where
  spent := by
    unfold Site.start
    rw [hvalues]
    exact .start values
  sourced := fun name input hnone => (by cases hnone)

theorem isSequence (h : site.Account values log r) : r.cursor.buffer.isSequence = true := by
  rw [h.spent.buffer]
  rfl

/-- What is set from elsewhere needs no take. -/
theorem sourced_of_sets (h : site.Account values log r) {name : String}
    (hsets : r.Sets r' name (site.Elsewhere name)) : r'.All (site.Sourced log) :=
  (hsets.mono fun _ helsewhere => helsewhere.sourced site log).all h.sourced

/-- A value that is kept for an input is the source of that input and of no other. -/
theorem sourced_of_kept (h : site.Account values log r) (t : Take)
    (hkept : t.request.dropped = false)
    (hinputs : r'.inputs = r.inputs.insert t.request.input (.value t.value)) :
    r'.All (site.Sourced (log ++ [t])) := by
  intro name input hget value hvalue
  rw [hinputs, OrderedMap.get?_insert] at hget
  rw [lastTake?_snoc, hkept, Bool.not_false, Bool.true_and]
  by_cases hname : name = t.request.input
  · rw [if_pos hname, Option.some.injEq, hvalue, ResolvedInput.value.injEq] at hget
    rw [if_pos (decide_eq_true hname.symm)]
    exact Or.inr ⟨t, rfl, hget⟩
  · rw [if_neg hname] at hget
    have hother : ¬decide (t.request.input = name) = true := fun heq =>
      hname (of_decide_eq_true heq).symm
    rw [if_neg hother]
    exact h.sourced name input hget value hvalue

/-- A step carries the account on, with its take at the end of the log. -/
theorem step (h : site.Account values log r) {name : String} {request? : Option Request}
    (hanswers : site.Answers r r' name request?) :
    site.Account values (log ++ (request?.bind (·.take? r.cursor)).toList) r' := by
  cases hanswers with
  | idle hcursor hsets =>
      rw [Option.bind_none, Option.toList_none, List.append_nil]
      exact ⟨hcursor ▸ h.spent, h.sourced_of_sets hsets⟩
  | dropped expected hcursor hsets =>
      refine ⟨hcursor ▸ h.spent.pop _, ?_⟩
      -- Whether or not a value was found to drop, the inputs do not have it.
      rw [Option.bind_some]
      cases htake : Request.take? ⟨name, expected, true⟩ r.cursor with
      | none =>
          rw [Option.toList_none, List.append_nil]
          exact h.sourced_of_sets hsets
      | some t =>
          have hdropped := Request.request_of_take? _ _ t htake
          rw [Option.toList_some, site.sourced_snoc_of_dropped t (by rw [hdropped])]
          exact h.sourced_of_sets hsets
  | kept expected value hcursor hfound hinputs =>
      refine ⟨hcursor ▸ h.spent.pop _, ?_⟩
      -- The value that the input is set to is that of the take.
      have htake : Request.take? ⟨name, expected, false⟩ r.cursor = some _ :=
        Request.take?_of_found _ _ value hfound
      rw [Option.bind_some, htake, Option.toList_some]
      exact h.sourced_of_kept _ rfl hinputs
  | missed expected hcursor hmissed hsets =>
      refine ⟨hcursor ▸ h.spent.pop _, ?_⟩
      have htake : Request.take? ⟨name, expected, false⟩ r.cursor = none :=
        Request.take?_of_missed _ _ hmissed
      rw [Option.bind_some, htake, Option.toList_none, List.append_nil]
      exact h.sourced_of_sets hsets

/-- The third pass reads nothing. -/
theorem fillDefault (h : site.Account values log r) (name : String)
    (hstep : (site.fillDefault r name).result = .ok r') : site.Account values log r' := by
  rcases site.fillDefault_origin name hstep with ⟨hcursor, hsets, -⟩
  have helsewhere := hsets.mono fun _ hdefault => hdefault.elsewhere site
  exact ⟨hcursor ▸ h.spent, h.sourced_of_sets helsewhere⟩

end Account

/-- The takes of a run account for the state that it ends in. -/
theorem account_of_resolve (hvalues : site.node.values = .sequence values)
    (h : site.resolve.result = .ok r) : site.Account values site.takes r := by
  rcases (site.resolve_ok r).mp h with ⟨r₁, r₂, h₁, h₂, h₃⟩
  unfold takes
  simp only [h₁]
  rw [result_resolveSockets] at h₁
  rw [result_backfillAll] at h₂
  rw [result_fillDefaults] at h₃
  -- The log grows through the first two passes and stays as it is in the third.
  have hsockets := takesAlong_invariant (fun _ s => site.socketRequest? s)
    (site.Account values) site.node.slots
    (fun s hs log r r' hr hstep => hr.step (site.resolveSocket_answers hr.isSequence s hs hstep))
    [] site.start r₁ (Account.start hvalues) h₁
  have hbackfilled := takesAlong_invariant Resolution.backfillRequest?
    (site.Account values) site.schema.inputs
    (fun e _ log r r' hr hstep => hr.step (site.backfill_answers hr.isSequence e hstep))
    _ r₁ r₂ hsockets h₂
  exact foldlM_invariant (site.Account values _) site.schema.required.keys
    (fun name _ r r' hr hstep => hr.fillDefault name hstep) r₂ r hbackfilled h₃

/-- No value of a buffer is used twice, and every literal has a source. The takes of a run
    are in order, each being the next value that fits, and no more is consumed than there
    is. A literal is the value of a primitive node or a default, or it is the value of
    one take that is not dropped; and no two inputs have their values from one take. -/
theorem compile_takes (hvalues : site.node.values = .sequence values) (compiled : CompiledNode)
    (h : site.compile.result = .ok compiled) :
    (∃ r, site.resolve.result = .ok r ∧ compiled = ⟨site.node.classType, r.inputs⟩ ∧
      Spent values site.takes r.cursor) ∧
    (∀ name value, compiled.inputs.get? name = some (.value value) →
      (∃ s ∈ site.node.slots, s.2.name = name ∧ site.Inlines s value) ∨
        site.schema.default? name = some value ∨
        ∃ t ∈ site.takes, t.request.dropped = false ∧ t.value = value ∧
          lastTake? site.takes name = some t) ∧
    ∀ name name' t t', lastTake? site.takes name = some t →
      lastTake? site.takes name' = some t' → t.position = t'.position → name = name' := by
  rcases (site.compile_ok compiled).mp h with ⟨r₁, r₂, r, h₁, h₂, h₃, hcompiled⟩
  have hresolve := (site.resolve_ok r).mpr ⟨r₁, r₂, h₁, h₂, h₃⟩
  have haccount := site.account_of_resolve hvalues hresolve
  refine ⟨⟨r, hresolve, hcompiled, haccount.spent⟩, fun name value hget => ?_,
    fun name name' t t' hlast hlast' hposition => ?_⟩
  · rw [hcompiled] at hget
    rcases haccount.sourced name _ hget value rfl with (hinlined | hdefault) | ⟨t, hlast, hvalue⟩
    · exact Or.inl hinlined
    · exact Or.inr (Or.inl hdefault)
    · rcases lastTake?_eq_some _ name t hlast with ⟨ht, hkept, -⟩
      exact Or.inr (Or.inr ⟨t, ht, hkept, hvalue, hlast⟩)
  · -- A take at one position is one take, and it is for one input.
    rcases lastTake?_eq_some _ name t hlast with ⟨ht, -, hname⟩
    rcases lastTake?_eq_some _ name' t' hlast' with ⟨ht', -, hname'⟩
    have hsame := haccount.spent.inOrder.eq_of_position t t' ht ht' hposition
    rw [← hname, ← hname', hsame]

/-- A sampler whose seed has a socket and whose number of steps has none, with a word
    between the values of the two. -/
def reseeded : Site :=
  { node := ⟨"4", "KSampler", [.bound "seed"], [],
      .sequence [jsonOfUInt64 11, .str "randomize", jsonOfUInt64 22]⟩
    schema := (ClassSchema.empty.withRequired "seed" (.ofName "INT")).withRequired "steps"
      (.ofName "INT")
    links := .ofLinks []
    nodes := .ofNodes []
    strict := true }

/-- It reads the seed and then the number of steps, and passes over the word. -/
theorem takes_reseeded :
    reseeded.takes = [⟨⟨"seed", some .int, false⟩, 0, jsonOfUInt64 11⟩,
      ⟨⟨"steps", some .int, false⟩, 2, jsonOfUInt64 22⟩] := rfl

/-- The number of steps in the compiled sampler is the value of its second take. -/
theorem reseeded_steps_taken :
    ∃ compiled, reseeded.compile.result = .ok compiled ∧
      compiled.inputs.get? "steps" = some (.value (jsonOfUInt64 22)) ∧
      (∃ r, reseeded.resolve.result = .ok r ∧
        Spent [jsonOfUInt64 11, .str "randomize", jsonOfUInt64 22] reseeded.takes r.cursor) ∧
      ∃ t ∈ reseeded.takes, t.position = 2 ∧ t.value = jsonOfUInt64 22 := by
  refine ⟨_, rfl, rfl, ?_⟩
  rcases reseeded.compile_takes rfl _ rfl with ⟨⟨r, hresolve, -, hspent⟩, hsources, -⟩
  refine ⟨⟨r, hresolve, hspent⟩, ?_⟩
  rcases hsources "steps" (jsonOfUInt64 22) rfl with
    ⟨s, hs, hname, -⟩ | hdefault | ⟨t, ht, -, hvalue, hlast⟩
  · -- The only socket is the one of the seed.
    rw [List.mem_singleton.mp hs] at hname
    exact absurd hname (by decide)
  · cases hdefault
  · rw [takes_reseeded] at hlast
    cases hlast
    exact ⟨_, ht, rfl, rfl⟩

end Site

end PromptGraph
