import Mathlib.Data.List.Basic
import PromptGraph.Proofs.Node.Reads

/-!
# What a Node Reports

The reports that are made while a node is compiled, and what they tell of its buffer.

A read reports each value that it passes over, with the position of the value. As a read passes
over the values from the cursor on, these positions come one after the other, and they are before
the place where the read leaves the cursor. So along a run the positions go up, and every value
that the cursor has moved past was either passed over, and reported, or taken. Apart from this a
node reports the values that it takes over from primitive nodes, and in the end that it is
compiled.

Named values are looked up without moving the cursor. For a buffer with such values nothing is
passed over or taken, and nothing is left.

## Main definitions

* `Event.isNote`, `Event.skipped?`: The reports made before a node is compiled.
* `Noted`: Reports and takes account for the place of a cursor.
* `Site.Reported`: The reports of a node account for its buffer.

## Theorems

* `Cursor.map_fst_skipped`: The positions that a read passes over.
* `Noted.pop`: What a read reports and takes is accounted for.
* `Site.resolveSocket_reports`, `Site.backfill_reports`: What the steps report.
* `Site.compile_reports`: What a node reports.
-/

namespace PromptGraph

namespace Event

/-- A report that is made while the inputs of a node are resolved: a value is passed over or taken
    over from a primitive node. -/
def isNote : Event → Bool
  | .valueSkipped _ _ _ | .inlined _ _ _ => true
  | _ => false

/-- The position of a value that is passed over. -/
def skipped? : Event → Option Nat
  | .valueSkipped position _ _ => some position
  | _ => none

end Event

namespace Cursor

variable (cursor : Cursor) (expected : Option Kind)

theorem map_fst_numbered (position : Nat) (values : List Json) :
    (numbered position values).map Prod.fst = List.range' position values.length := by
  induction values generalizing position with
  | nil => rfl
  | cons j rest ih => rw [numbered, List.map_cons, ih, List.length_cons, List.range'_succ]

/-- A read passes over the values from the cursor on. -/
theorem map_fst_skipped :
    (cursor.pop expected).skipped.map Prod.fst =
      List.range' cursor.position (cursor.pop expected).skipped.length := by
  unfold pop
  rw [map_fst_numbered, length_numbered]

/-- A read moves past the values that it passes over and the one that it finds. -/
theorem position_pop :
    (cursor.pop expected).cursor.position = cursor.position +
      ((cursor.pop expected).skipped.length +
        if (cursor.pop expected).value.isSome then 1 else 0) := by
  unfold pop Fit.consumed
  rw [length_numbered]

/-- What is behind a cursor and what is ahead of it stay the same in number. -/
theorem consumed_add_remaining_pop :
    (cursor.pop expected).cursor.consumed + (cursor.pop expected).cursor.remaining =
      cursor.consumed + cursor.remaining := by
  have hlength := firstFit_length expected cursor.unread
  unfold remaining
  rw [unread_pop, ← hlength, ← Nat.add_assoc]
  rfl

/-- A read that takes an input by name passes over what any other read does. -/
theorem events_take (name : String) :
    (cursor.take name expected).events expected = (cursor.pop expected).events expected := by
  rcases cursor with ⟨buffer, position⟩
  cases buffer <;> rfl

end Cursor

theorem filterMap_skipped?_read (read : Read) (expected : Option Kind) :
    (read.events expected).filterMap Event.skipped? = read.skipped.map Prod.fst := by
  unfold Read.events
  rw [List.filterMap_map]
  exact congrFun List.filterMap_eq_map read.skipped

theorem length_take? (request : Request) (cursor : Cursor) :
    (request.take? cursor).toList.length =
      if (cursor.pop request.expected).value.isSome then 1 else 0 := by
  cases hvalue : (cursor.pop request.expected).value with
  | none =>
      rw [request.take?_of_missed cursor hvalue]
      rfl
  | some value =>
      rw [request.take?_of_found cursor value hvalue]
      rfl

/-- The number of values that are read by their positions. -/
def ValueBuffer.readable (buffer : ValueBuffer) : Nat :=
  if buffer.isSequence then buffer.size else 0

/-- Reports and takes account for a cursor over a buffer: the reports are notes, the positions in
    them go up, and what the cursor has moved past was reported or taken. -/
structure Noted (buffer : ValueBuffer) (log : List Take) (events : List Event) (cursor : Cursor) :
    Prop where
  isNote : ∀ e ∈ events, e.isNote = true
  total : cursor.consumed + cursor.remaining = buffer.readable
  increasing : (events.filterMap Event.skipped?).Pairwise (· < ·)
  below : ∀ p ∈ events.filterMap Event.skipped?, p < cursor.position
  consumed : cursor.position = (events.filterMap Event.skipped?).length + log.length

namespace Noted

variable {buffer : ValueBuffer} {log : List Take} {events : List Event} {cursor : Cursor}

theorem start (buffer : ValueBuffer) : Noted buffer [] [] ⟨buffer, 0⟩ where
  isNote := fun e he => (by cases he)
  total := by cases buffer <;> exact Nat.zero_add _
  increasing := .nil
  below := fun p hp => (by cases hp)
  consumed := rfl

/-- Notes that are not about the buffer may be added. -/
theorem append (h : Noted buffer log events cursor) (more : List Event)
    (hmore : ∀ e ∈ more, e.isNote = true ∧ e.skipped? = none) :
    Noted buffer log (events ++ more) cursor := by
  have hpositions : (events ++ more).filterMap Event.skipped? =
      events.filterMap Event.skipped? := by
    rw [List.filterMap_append, List.filterMap_eq_nil_iff.mpr fun e he => (hmore e he).2,
      List.append_nil]
  refine ⟨fun e he => ?_, h.total, ?_, ?_, ?_⟩
  · rcases List.mem_append.mp he with hold | hnew
    · exact h.isNote e hold
    · exact (hmore e hnew).1
  · rw [hpositions]
    exact h.increasing
  · rw [hpositions]
    exact h.below
  · rw [hpositions]
    exact h.consumed

/-- A read keeps the account, with its reports and its take. -/
theorem pop (h : Noted buffer log events cursor) (request : Request) :
    Noted buffer (log ++ (request.take? cursor).toList)
      (events ++ (cursor.pop request.expected).events request.expected)
      (cursor.pop request.expected).cursor := by
  have hpositions : (events ++ (cursor.pop request.expected).events request.expected).filterMap
      Event.skipped? = events.filterMap Event.skipped? ++
        List.range' cursor.position (cursor.pop request.expected).skipped.length := by
    rw [List.filterMap_append, filterMap_skipped?_read, Cursor.map_fst_skipped]
  have hmoved := cursor.position_pop request.expected
  refine ⟨fun e he => ?_, ?_, ?_, fun p hp => ?_, ?_⟩
  · rcases List.mem_append.mp he with hold | hnew
    · exact h.isNote e hold
    · rcases List.mem_map.mp hnew with ⟨entry, -, rfl⟩
      rfl
  · rw [cursor.consumed_add_remaining_pop, h.total]
  · -- The new positions go up, and all positions before them are behind the cursor.
    rw [hpositions, List.pairwise_append]
    refine ⟨h.increasing, List.pairwise_lt_range', fun p hp q hq => ?_⟩
    exact Nat.lt_of_lt_of_le (h.below p hp) (List.mem_range'_1.mp hq).1
  · rw [hpositions, List.mem_append] at hp
    rcases hp with hold | hnew
    · have hbefore := h.below p hold
      omega
    · have hrange := (List.mem_range'_1.mp hnew).2
      omega
  · -- The cursor has moved past what was passed over and what was taken.
    rw [hpositions, List.length_append, List.length_append, List.length_range', length_take?,
      hmoved, h.consumed]
    omega

end Noted

/-- What a read reports, if there is one. -/
def Resolution.readEvents (r : Resolution) (request? : Option Request) : List Event :=
  request?.elim [] fun request => (r.cursor.pop request.expected).events request.expected

namespace Site

variable (site : Site) {r r' : Resolution}

/-- From one state to the next a step has made a read, or none, and has reported what this passes
    over and nothing else about the buffer. -/
structure Reports (r r' : Resolution) (request? : Option Request) (events : List Event) : Prop where
  cursor : r'.cursor = r.after request?
  events : ∃ more, events = r.readEvents request? ++ more ∧
    ∀ e ∈ more, e.isNote = true ∧ e.skipped? = none

/-- A step that makes a read and reports it keeps the account. -/
theorem Reports.noted {request? : Option Request} {events : List Event}
    (h : Reports r r' request? events) {log : List Take} {before : List Event}
    {buffer : ValueBuffer} (hnoted : Noted buffer log before r.cursor) :
    Noted buffer (log ++ (request?.bind (·.take? r.cursor)).toList) (before ++ events)
      r'.cursor := by
  rcases h.events with ⟨more, rfl, hmore⟩
  rw [h.cursor, ← List.append_assoc]
  refine Noted.append ?_ more hmore
  cases request? with
  | none =>
      unfold Resolution.readEvents Resolution.after
      rw [Option.bind_none, Option.toList_none, Option.elim_none, Option.elim_none,
        List.append_nil, List.append_nil]
      exact hnoted
  | some request => exact hnoted.pop request

/-- A linked socket reports the read of the value that it drops, and the value that it takes over
    if there is one. -/
theorem events_resolveLink (slot : Slot) (socket : InputSocket)
    (h : (site.resolveLink r slot socket).result = .ok r') :
    ∃ more, (site.resolveLink r slot socket).events =
        r.readEvents (if site.schema.isScalar socket.name then
          some ⟨socket.name, site.schema.kind? socket.name, true⟩ else none) ++ more ∧
      ∀ e ∈ more, e.isNote = true ∧ e.skipped? = none := by
  have hread : r.readEvents (if site.schema.isScalar socket.name then
      some ⟨socket.name, site.schema.kind? socket.name, true⟩ else none) =
        if site.schema.isScalar socket.name then
          (r.cursor.pop (site.schema.kind? socket.name)).events (site.schema.kind? socket.name)
        else [] := by
    split <;> rfl
  rw [hread]
  unfold resolveLink at h ⊢
  cases hsource : site.source? slot with
  | none =>
      rw [hsource] at h
      cases h
  | some found =>
      simp only [Traced.events_bind_of_ok _ _ () (Traced.result_emitAll _)]
      by_cases hclass : found.1.classType ≠ primitiveClass
      · rw [if_pos hclass]
        exact ⟨[], rfl, fun e he => (by cases he)⟩
      · rw [if_neg hclass]
        cases found.1.values.first? with
        | none => exact ⟨[], rfl, fun e he => (by cases he)⟩
        | some value =>
            refine ⟨[.inlined site.node.id found.1.id socket.name], rfl, fun e he => ?_⟩
            rw [List.mem_singleton.mp he]
            exact ⟨rfl, rfl⟩

theorem events_resolveBinding (name binding : String) :
    (site.resolveBinding r name binding).events =
      r.readEvents (some ⟨name, site.schema.kind? name, false⟩) := by
  unfold resolveBinding
  rw [Traced.events_bind_of_ok _ _ () (Traced.result_emitAll _)]
  cases (r.cursor.take binding (site.schema.kind? name)).value <;>
    exact (List.append_nil _).trans (r.cursor.events_take _ binding)

/-- What a socket reports. -/
theorem resolveSocket_reports (s : Slot × InputSocket)
    (h : (site.resolveSocket r s.1 s.2).result = .ok r') :
    Reports r r' (site.socketRequest? s) (site.resolveSocket r s.1 s.2).events := by
  have horigin := site.resolveSocket_origin s h
  unfold resolveSocket at h ⊢
  unfold socketRequest?
  by_cases hlink : s.2.isLinkBound = true
  · rw [if_pos hlink] at h ⊢
    rw [if_pos hlink]
    refine ⟨?_, site.events_resolveLink s.1 s.2 h⟩
    rcases horigin with ⟨-, hcursor, -⟩ | ⟨hopen, -⟩
    · rw [hcursor, cursor_dropStored]
    · rw [hlink] at hopen
      cases hopen
  · rw [if_neg hlink] at h ⊢
    rw [if_neg hlink]
    cases hwidget : s.2.widget with
    | none =>
        rw [hwidget] at h
        cases h
        exact ⟨rfl, [], rfl, fun e he => (by cases he)⟩
    | some binding =>
        refine ⟨?_, [], ?_, fun e he => (by cases he)⟩
        · rcases horigin with ⟨hlinked, -⟩ | ⟨-, ⟨binding', -, hreads⟩ | ⟨hopen, -⟩⟩
          · exact absurd hlinked hlink
          · rw [hreads.1, Cursor.cursor_take]
            rfl
          · rw [hwidget] at hopen
            cases hopen
        · rw [List.append_nil]
          exact site.events_resolveBinding s.2.name binding

/-- What the second pass reports. -/
theorem backfill_reports (e : String × TypeDecl)
    (h : (site.backfill r e.1 e.2).result = .ok r') :
    Reports r r' (r.backfillRequest? e) (site.backfill r e.1 e.2).events := by
  unfold Resolution.backfillRequest?
  rcases site.backfill_origin e.1 e.2 h with ⟨hidle, rfl⟩ | ⟨hpending, hreads⟩
  · rw [if_neg (Bool.eq_false_iff.mp hidle)]
    refine ⟨rfl, [], ?_, fun e he => (by cases he)⟩
    unfold Resolution.pending at hidle
    unfold backfill
    rw [if_pos (Bool.not_eq_false' .. ▸ hidle)]
    rfl
  · rw [if_pos hpending]
    refine ⟨?_, [], ?_, fun e he => (by cases he)⟩
    · rw [hreads.1, Cursor.cursor_take]
      rfl
    · unfold Resolution.pending at hpending
      unfold backfill
      rw [if_neg (Bool.eq_false_iff.mp (Bool.not_eq_true' .. ▸ hpending)),
        Traced.events_bind_of_ok _ _ () (Traced.result_emitAll _)]
      cases (r.cursor.take e.1 (classify e.2.typeName).kind?).value <;>
        exact congrArg (· ++ []) (r.cursor.events_take _ e.1)

/-- The third pass reports nothing. -/
theorem events_fillDefaults (names : List String) (r : Resolution) :
    (site.fillDefaults r names).events = [] := by
  have hstep : ∀ r name, (site.fillDefault r name).events = [] := by
    intro r name
    unfold fillDefault
    split <;> rfl
  induction names generalizing r with
  | nil => rfl
  | cons name rest ih =>
      unfold fillDefaults
      rw [Traced.events_bind, hstep]
      cases (site.fillDefault r name).result with
      | ok r' => exact ih r'
      | error e => rfl

theorem resolveSockets_eq_foldlM (r : Resolution) (slots : List (Slot × InputSocket)) :
    site.resolveSockets r slots =
      slots.foldlM (fun r s => site.resolveSocket r s.1 s.2) r := by
  induction slots generalizing r with
  | nil => rfl
  | cons s rest ih =>
      unfold resolveSockets
      rw [List.foldlM_cons]
      exact congrArg _ (funext ih)

theorem backfillAll_eq_foldlM (r : Resolution) (decls : Entries TypeDecl) :
    site.backfillAll r decls = decls.foldlM (fun r e => site.backfill r e.1 e.2) r := by
  induction decls generalizing r with
  | nil => rfl
  | cons e rest ih =>
      unfold backfillAll
      rw [List.foldlM_cons]
      exact congrArg _ (funext ih)

/-- The reports of a node account for its buffer: they are notes about values that are passed over
    or taken over. What is consumed and what is unread make up the sequence, and named values are
    neither. The positions of the values passed over go up and are among those consumed, and what
    is consumed was either passed over or taken. -/
structure Reported (notes : List Event) (consumed unread : Nat) : Prop where
  isNote : ∀ e ∈ notes, e.isNote = true
  total : consumed + unread = site.node.values.readable
  increasing : (notes.filterMap Event.skipped?).Pairwise (· < ·)
  below : ∀ p ∈ notes.filterMap Event.skipped?, p < consumed
  consumed : consumed = (notes.filterMap Event.skipped?).length + site.takes.length

/-- The reports and the takes of a run account for the cursor that it leaves. -/
theorem noted_of_resolve (h : site.resolve.result = .ok r) :
    Noted site.node.values site.takes site.resolve.events r.cursor := by
  rcases (site.resolve_ok r).mp h with ⟨r₁, r₂, h₁, h₂, h₃⟩
  have hevents : site.resolve.events = (site.resolveSockets site.start site.node.slots).events ++
      (site.backfillAll r₁ site.schema.inputs).events := by
    unfold resolve
    rw [Traced.events_bind_of_ok _ _ r₁ h₁, Traced.events_bind_of_ok _ _ r₂ h₂,
      events_fillDefaults, List.append_nil]
  -- The account is carried through the first two passes; the third reads and reports nothing.
  have hsockets := takesAlong_reports (fun r s => site.resolveSocket r s.1 s.2)
    (fun _ s => site.socketRequest? s)
    (fun log events r => Noted site.node.values log events r.cursor) site.node.slots
    (fun s _ log events r r' hr hstep => (site.resolveSocket_reports s hstep).noted hr)
    [] [] site.start r₁ (Noted.start _) (site.resolveSockets_eq_foldlM _ _ ▸ h₁)
  have hinputs := takesAlong_reports (fun r e => site.backfill r e.1 e.2)
    Resolution.backfillRequest? (fun log events r => Noted site.node.values log events r.cursor)
    site.schema.inputs
    (fun e _ log events r r' hr hstep => (site.backfill_reports e hstep).noted hr)
    _ _ r₁ r₂ hsockets (site.backfillAll_eq_foldlM _ _ ▸ h₂)
  rw [hevents, site.cursor_fillDefaults _ h₃]
  unfold takes
  simp only [h₁]
  rwa [List.nil_append, List.nil_append, ← resolveSockets_eq_foldlM, ← backfillAll_eq_foldlM]
    at hinputs

/-- A node that compiles reports what it passes over and takes over, and in the end that it is
    compiled. The reports account for its buffer. -/
theorem compile_reports (compiled : CompiledNode) (h : site.compile.result = .ok compiled) :
    ∃ notes consumed unread,
      site.compile.events = notes ++ [.nodeCompiled site.node.id site.node.classType
        compiled.inputs.size consumed unread] ∧
      site.Reported notes consumed unread := by
  unfold compile at h ⊢
  rcases (Traced.result_bind_eq_ok _ _ _).mp h with ⟨r, hresolve, hcompiled⟩
  cases hcompiled
  have hnoted := site.noted_of_resolve hresolve
  refine ⟨site.resolve.events, r.cursor.consumed, r.cursor.remaining, ?_, ?_⟩
  · rw [Traced.events_bind_of_ok _ _ r hresolve]
    rfl
  · exact ⟨hnoted.isNote, hnoted.total, hnoted.increasing, hnoted.below, hnoted.consumed⟩

end Site

end PromptGraph
