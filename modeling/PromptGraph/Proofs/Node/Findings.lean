import Mathlib.Data.List.Induction
import PromptGraph.Proofs.Node.Dangling
import PromptGraph.Proofs.Node.References
import PromptGraph.Proofs.Node.Rejection

/-!
# Resolved Inputs and the Default

Whether an input that a socket has resolved can be lost to the default.

A socket that is fed by a link or bound to a stored value has something to find for its input: a
reference, the value of a primitive node, or a value of the buffer. If it finds nothing, it has
the default of its input filled in, and it does not look whether the input is set. So where two
sockets have one name, the default may step in for what the other socket has found. The later
passes do look.

What the sockets find is written down in a log, one finding for each socket that looks for
something. The log tells what the first pass makes of an input: what was found last, but the
default from each socket on that looked in vain.

## Main definitions

* `Finding`: What a socket found for its input.
* `settled`, `resolved?`: What an input comes to by a log, with and without a default.
* `Site.finding?`, `Site.findings`: The findings of a socket and of a run.
* `Site.Step`: What the step of a socket can do.
* `Site.Keeps`: A resolved input is kept.
* `Site.Overruled`: The default or its absence overrules a resolved input.

## Theorems

* `Site.resolveSocket_step`: What the step of a socket does.
* `Site.findingsAlong_invariant`: What each socket keeps with its finding, a run keeps.
* `Site.resolveSockets_settled`: The log tells what the inputs are.
* `Site.findingsAlong_split`: A finding belongs to a socket that the run came to.
* `Site.keeps_of_not_overruled`, `Site.Overruled.not_keeps`: The two directions.
* `Site.keeps_of_count`: An input is kept if no two bound sockets have its name.
* `Site.compile_keeps_iff`: A resolved input is kept unless it is overruled.
-/

namespace PromptGraph

/-- If an item or none stands before a list, a split of the whole is at that item or in the
    list. -/
theorem split_of_toList_append {α : Type} (item : Option α) (tail before after : List α) (a : α)
    (h : item.toList ++ tail = before ++ a :: after) :
    before = [] ∧ item = some a ∨
      ∃ before', before = item.toList ++ before' ∧ tail = before' ++ a :: after := by
  cases item with
  | none => exact Or.inr ⟨before, rfl, h⟩
  | some b =>
      cases before with
      | nil => exact Or.inl ⟨rfl, congrArg some (List.cons.inj h).1⟩
      | cons c before' =>
          rcases List.cons.inj h with ⟨rfl, htail⟩
          exact Or.inr ⟨before', rfl, htail⟩

/-- What a socket found for its input; nothing if it looked in vain. -/
structure Finding where
  input : String
  found : Option ResolvedInput

/-- What an input comes to by a log of findings, if something is filled in wherever a socket has
    looked in vain. -/
def settled (filled : Option ResolvedInput) (name : String) (log : List Finding) :
    Option ResolvedInput :=
  log.foldl (fun input f => if f.input = name then f.found.or (filled.or input) else input) none

/-- What was found last for an input. -/
def resolved? (name : String) (log : List Finding) : Option ResolvedInput := settled none name log

section Settled

variable (filled : Option ResolvedInput) (name : String) (log : List Finding)

theorem settled_snoc (f : Finding) :
    settled filled name (log ++ [f]) =
      if f.input = name then f.found.or (filled.or (settled filled name log))
      else settled filled name log := by
  unfold settled
  rw [List.foldl_append]
  rfl

/-- What has been found for an input stays found. -/
theorem isSome_resolved?_append (more : List Finding) (h : (resolved? name log).isSome = true) :
    (resolved? name (log ++ more)).isSome = true := by
  induction more using List.reverseRecOn with
  | nil => rwa [List.append_nil]
  | append_singleton more f ih =>
      unfold resolved? at ih ⊢
      rw [← List.append_assoc, settled_snoc]
      split
      · cases f.found with
        | some input => rfl
        | none => exact ih
      · exact ih

/-- Something was found for an input only if the log has findings for it. -/
theorem exists_mem_of_resolved? (h : (resolved? name log).isSome = true) :
    ∃ f ∈ log, f.input = name := by
  induction log using List.reverseRecOn with
  | nil => cases h
  | append_singleton log f ih =>
      by_cases hname : f.input = name
      · exact ⟨f, List.mem_append_right log (List.mem_singleton_self f), hname⟩
      · unfold resolved? at h ih
        rw [settled_snoc, if_neg hname] at h
        rcases ih h with ⟨g, hg, hinput⟩
        exact ⟨g, List.mem_append_left [f] hg, hinput⟩

/-- If what is filled in is always what was found before, an input comes to what was found
    last. -/
theorem settled_of_resolved?
    (hsame : ∀ before after input value, log = before ++ ⟨name, none⟩ :: after →
      resolved? name before = some input → filled = some value → value = input)
    (input : ResolvedInput) (h : resolved? name log = some input) :
    settled filled name log = some input := by
  induction log using List.reverseRecOn generalizing input with
  | nil => cases h
  | append_singleton log f ih =>
      have hbefore := ih fun before after i v hlog =>
        hsame before (after ++ [f]) i v (by rw [hlog, List.append_assoc, List.cons_append])
      unfold resolved? at h hbefore
      rw [settled_snoc] at h ⊢
      by_cases hname : f.input = name
      · rw [if_pos hname] at h ⊢
        cases hfound : f.found with
        | some found =>
            rw [hfound] at h
            exact h
        | none =>
            -- The socket looked in vain, so what is filled in is what was there.
            rw [hfound, Option.none_or, Option.none_or] at h
            rw [Option.none_or, hbefore input h]
            have hvain : log ++ [f] = log ++ ⟨name, none⟩ :: [] := by
              rw [← hname, ← hfound]
            cases hfilled : filled with
            | none => rfl
            | some value => exact congrArg some (hsame log [] input value hvain h hfilled)
      · rw [if_neg hname] at h ⊢
        exact hbefore input h

end Settled

namespace Site

variable (site : Site) (r : Resolution)

/-- The reference or the value that a socket finds for its input. -/
def found (s : Slot × InputSocket) : Option ResolvedInput :=
  if s.2.isLinkBound then
    (site.source? s.1).bind fun source =>
      if source.1.classType ≠ primitiveClass then some (.reference source.1.id source.2)
      else source.1.values.first?.map fun value =>
        .value (inlineValue (site.schema.kind? s.2.name) value)
  else
    s.2.widget.bind fun binding =>
      (r.cursor.take binding (site.schema.kind? s.2.name)).value.map .value

/-- What a socket finds, if it looks for anything. An open socket does not, and a link without a
    source is an error before it can be looked along. -/
def finding? (s : Slot × InputSocket) : Option Finding :=
  if s.2.isBound && (!s.2.isLinkBound || (site.source? s.1).isSome) then
    some ⟨s.2.name, site.found r s⟩
  else none

/-- The findings of sockets that are resolved one after the other, as far as it goes. -/
def findingsAlong (r : Resolution) : List (Slot × InputSocket) → List Finding
  | [] => []
  | s :: rest =>
    (site.finding? r s).toList ++
      match (site.resolveSocket r s.1 s.2).result with
      | .ok r' => findingsAlong r' rest
      | .error _ => []

/-- The findings of the first pass. -/
def findings : List Finding := site.findingsAlong site.start site.node.slots

/-- What is filled in for an input where a socket looks in vain. -/
def filled (name : String) : Option ResolvedInput := (site.schema.default? name).map .value

/-- What the step of a socket can do, with what the socket finds. -/
inductive Step (s : Slot × InputSocket) :
    Option Finding → Except CompileError Resolution → Prop where
  /-- An open socket does nothing. -/
  | idle : Step s none (.ok r)
  /-- A link has no source. -/
  | dangling : Step s none (.error (site.dangling s))
  /-- The input is set to what was found. -/
  | set (input : ResolvedInput) (r' : Resolution)
      (hinputs : r'.inputs = r.inputs.insert s.2.name input) :
      Step s (some ⟨s.2.name, some input⟩) (.ok r')
  /-- A value was found that does not fit. -/
  | rejected (input : ResolvedInput) (kind : Kind) (value : Json) :
      Step s (some ⟨s.2.name, some input⟩)
        (.error (.typeMismatch site.node.id site.node.classType s.2.name kind value))
  /-- Nothing was found, and the default is looked for. -/
  | vain (q : Resolution) (hinputs : q.inputs = r.inputs) :
      Step s (some ⟨s.2.name, none⟩) (site.fallback q s.2.name)

theorem resolveLink_step (s : Slot × InputSocket) (hlink : s.2.isLinkBound = true) :
    site.Step r s (site.finding? r s) (site.resolveLink r s.1 s.2).result := by
  have hinputs := site.inputs_dropStored r s.2.name
  unfold finding? found InputSocket.isBound
  rw [result_resolveLink, hlink]
  cases hsource : site.source? s.1 with
  | none => exact .dangling
  | some source =>
      simp only [Bool.true_or, Option.isSome_some, Bool.or_true, Bool.and_self, if_true,
        Option.bind_some]
      by_cases hclass : source.1.classType ≠ primitiveClass
      · rw [if_pos hclass, if_pos hclass]
        exact .set _ _ (by rw [Resolution.inputs_set, hinputs])
      · rw [if_neg hclass, if_neg hclass]
        cases source.1.values.first? with
        | some value => exact .set _ _ (by rw [Resolution.inputs_set, hinputs])
        | none => exact .vain _ hinputs

theorem resolveBinding_step (s : Slot × InputSocket) (hlink : s.2.isLinkBound = false)
    (binding : String) (hwidget : s.2.widget = some binding) :
    site.Step r s (site.finding? r s) (site.resolveBinding r s.2.name binding).result := by
  unfold finding? found InputSocket.isBound
  rw [result_resolveBinding, hlink, hwidget]
  simp only [Bool.false_or, Option.isSome_some, Bool.not_false, Bool.true_or, Bool.and_self,
    if_true, Bool.false_eq_true, if_false, Option.bind_some]
  cases (r.cursor.take binding (site.schema.kind? s.2.name)).value with
  | none => exact .vain _ rfl
  | some value =>
      simp only [Option.map_some]
      cases haccept : site.accept
          (r.moveTo (r.cursor.take binding (site.schema.kind? s.2.name)).cursor) s.2.name value with
      | ok r' =>
          rcases (site.accept_ok _ r' s.2.name value).mp haccept with ⟨-, rfl⟩
          exact .set _ _ rfl
      | error e =>
          rcases (site.accept_error _ s.2.name value e).mp haccept with ⟨-, kind, -, -, rfl⟩
          exact .rejected _ kind value

/-- What the step of a socket does. -/
theorem resolveSocket_step (s : Slot × InputSocket) :
    site.Step r s (site.finding? r s) (site.resolveSocket r s.1 s.2).result := by
  rw [result_resolveSocket]
  by_cases hlink : s.2.isLinkBound = true
  · rw [if_pos hlink]
    exact site.resolveLink_step r s hlink
  · rw [if_neg hlink]
    cases hwidget : s.2.widget with
    | some binding => exact site.resolveBinding_step r s (eq_false_of_ne_true hlink) binding hwidget
    | none =>
        have hfinding : site.finding? r s = none := by
          unfold finding? InputSocket.isBound
          rw [hwidget, eq_false_of_ne_true hlink]
          rfl
        rw [hfinding]
        exact .idle

variable {r} {r' : Resolution}

/-- A socket that goes through sets what it finds, or what is filled in. -/
theorem resolveSocket_settled (s : Slot × InputSocket) (name : String) (log : List Finding)
    (hlog : r.inputs.get? name = settled (site.filled name) name log)
    (h : (site.resolveSocket r s.1 s.2).result = .ok r') :
    r'.inputs.get? name = settled (site.filled name) name (log ++ (site.finding? r s).toList) := by
  have hstep := site.resolveSocket_step r s
  rw [h] at hstep
  generalize site.finding? r s = finding at hstep
  generalize hresult : Except.ok r' = result at hstep
  cases hstep with
  | idle =>
      cases hresult
      rwa [Option.toList_none, List.append_nil]
  | dangling => cases hresult
  | set input q hinputs =>
      cases hresult
      rw [Option.toList_some, settled_snoc, hinputs, OrderedMap.get?_insert, hlog]
      simp only [eq_comm, Option.some_or]
  | rejected input kind value => cases hresult
  | vain q hinputs =>
      rw [Option.toList_some, settled_snoc, ← hlog, ← hinputs]
      rcases (site.fallback_ok q r' s.2.name).mp hresult.symm with
        ⟨value, hdefault, rfl⟩ | ⟨hdefault, -, rfl⟩
      · rw [Resolution.inputs_set, OrderedMap.get?_insert]
        by_cases hname : s.2.name = name
        · rw [if_pos hname, if_pos hname.symm, Option.none_or, filled, ← hname, hdefault]
          rfl
        · rw [if_neg hname, if_neg (Ne.symm hname)]
      · by_cases hname : s.2.name = name
        · rw [if_pos hname, Option.none_or, filled, ← hname, hdefault]
          rfl
        · rw [if_neg hname]

theorem findingsAlong_cons_ok (s : Slot × InputSocket) (rest : List (Slot × InputSocket))
    (h : (site.resolveSocket r s.1 s.2).result = .ok r') :
    site.findingsAlong r (s :: rest) =
      (site.finding? r s).toList ++ site.findingsAlong r' rest := by
  rw [findingsAlong, h]

/-- A statement about findings and a state that every socket carries on holds of a run. -/
theorem findingsAlong_invariant (P : List Finding → Resolution → Prop)
    (hstep : ∀ s log r r', P log r → (site.resolveSocket r s.1 s.2).result = .ok r' →
      P (log ++ (site.finding? r s).toList) r')
    (slots : List (Slot × InputSocket)) (log : List Finding) (hlog : P log r)
    (h : slots.foldlM (fun r s => (site.resolveSocket r s.1 s.2).result) r = .ok r') :
    P (log ++ site.findingsAlong r slots) r' := by
  induction slots generalizing r log with
  | nil =>
      cases h
      rwa [findingsAlong, List.append_nil]
  | cons s rest ih =>
      rw [List.foldlM_cons, bind_eq_ok] at h
      rcases h with ⟨m, hm, hrest⟩
      rw [site.findingsAlong_cons_ok s rest hm, ← List.append_assoc]
      exact ih _ (hstep s log r m hlog hm) hrest

/-- Sockets that go through leave the inputs as the log of their findings tells. -/
theorem resolveSockets_settled (slots : List (Slot × InputSocket)) (name : String)
    (log : List Finding) (hlog : r.inputs.get? name = settled (site.filled name) name log)
    (h : slots.foldlM (fun r s => (site.resolveSocket r s.1 s.2).result) r = .ok r') :
    r'.inputs.get? name = settled (site.filled name) name (log ++ site.findingsAlong r slots) :=
  site.findingsAlong_invariant
    (fun log r => r.inputs.get? name = settled (site.filled name) name log)
    (fun s log _ _ hlog hstep => site.resolveSocket_settled s name log hlog hstep) slots log hlog h

theorem findingsAlong_append (front back : List (Slot × InputSocket))
    (h : front.foldlM (fun r s => (site.resolveSocket r s.1 s.2).result) r = .ok r') :
    site.findingsAlong r (front ++ back) =
      site.findingsAlong r front ++ site.findingsAlong r' back := by
  induction front generalizing r with
  | nil =>
      cases h
      rfl
  | cons s rest ih =>
      rw [List.foldlM_cons, bind_eq_ok] at h
      rcases h with ⟨m, hm, hrest⟩
      rw [List.cons_append, site.findingsAlong_cons_ok s _ hm, site.findingsAlong_cons_ok s _ hm,
        ih hrest, List.append_assoc]

/-- A finding of a log belongs to a socket that the run came to, and the findings before it to the
    sockets before that. -/
theorem findingsAlong_split (slots : List (Slot × InputSocket)) (before after : List Finding)
    (f : Finding) (h : site.findingsAlong r slots = before ++ f :: after) :
    ∃ front s back m, slots = front ++ s :: back ∧
      front.foldlM (fun r s => (site.resolveSocket r s.1 s.2).result) r = .ok m ∧
      site.findingsAlong r front = before ∧ site.finding? m s = some f := by
  induction slots generalizing r before with
  | nil =>
      rw [findingsAlong, List.nil_eq_append_iff] at h
      cases h.2
  | cons s rest ih =>
      rcases split_of_toList_append (site.finding? r s) _ before after f h with
        ⟨rfl, hfinding⟩ | ⟨before', rfl, hlater⟩
      · exact ⟨[], s, rest, r, rfl, rfl, rfl, hfinding⟩
      · -- The finding comes later, so the socket has gone through.
        cases hstep : (site.resolveSocket r s.1 s.2).result with
        | error e =>
            rw [hstep, List.nil_eq_append_iff] at hlater
            cases hlater.2
        | ok n =>
            rw [hstep] at hlater
            rcases ih before' hlater with ⟨front, t, back, m, rfl, hfront, hlog, hfinding⟩
            refine ⟨s :: front, t, back, m, rfl, ?_, ?_, hfinding⟩
            · rw [List.foldlM_cons, hstep]
              exact hfront
            · rw [site.findingsAlong_cons_ok s front hstep, hlog]

/-- The names of the findings are those of bound sockets, in their order. -/
theorem findingsAlong_sublist (slots : List (Slot × InputSocket)) :
    List.Sublist ((site.findingsAlong r slots).map Finding.input)
      ((slots.filter (·.2.isBound)).map fun s => s.2.name) := by
  induction slots generalizing r with
  | nil => exact List.Sublist.slnil
  | cons s rest ih =>
      have hrest : List.Sublist
          ((match (site.resolveSocket r s.1 s.2).result with
            | .ok r' => site.findingsAlong r' rest
            | .error _ => []).map Finding.input)
          ((rest.filter (·.2.isBound)).map fun s => s.2.name) := by
        cases (site.resolveSocket r s.1 s.2).result with
        | ok r' => exact ih
        | error e => exact List.nil_sublist _
      rw [findingsAlong, List.map_append]
      unfold finding?
      simp only [List.filter_cons]
      cases s.2.isBound with
      | false => exact hrest
      | true =>
          rw [Bool.true_and]
          split
          · exact hrest.cons_cons _
          · exact hrest.cons _

variable (name : String)

/-- A resolved input is not lost: after any part of the first pass the input is what was found
    last, it is not reported as missing, and it is so in the compiled node. -/
structure Keeps : Prop where
  sockets : ∀ front back r input, site.node.slots = front ++ back →
    (site.resolveSockets site.start front).result = .ok r →
      resolved? name (site.findingsAlong site.start front) = some input →
        r.inputs.get? name = some input
  reported : (resolved? name site.findings).isSome = true →
    site.compile.result ≠ .error (.missingRequiredInput site.node.id site.node.classType name)
  compiled : ∀ input compiled, resolved? name site.findings = some input →
    site.compile.result = .ok compiled → compiled.inputs.get? name = some input

/-- A socket looks in vain for an input that has been found before, and the default is something
    else, or there is none for an input that has to be there. -/
def Overruled : Prop :=
  ∃ before after input, site.findings = before ++ ⟨name, none⟩ :: after ∧
    resolved? name before = some input ∧
      (site.strict = true ∧ site.schema.isRequired name = true ∧
          site.schema.default? name = none ∨
        ∃ value, site.schema.default? name = some value ∧ ResolvedInput.value value ≠ input)

variable {name}

/-- The findings of the first sockets begin the findings of all. -/
theorem findings_of_append {front back : List (Slot × InputSocket)}
    (hslots : site.node.slots = front ++ back)
    (h : (site.resolveSockets site.start front).result = .ok r) :
    site.findings = site.findingsAlong site.start front ++ site.findingsAlong r back := by
  rw [result_resolveSockets] at h
  rw [findings, hslots, site.findingsAlong_append front back h]

theorem get?_of_resolved? (hnot : ¬site.Overruled name) (front back : List (Slot × InputSocket))
    (input : ResolvedInput) (hslots : site.node.slots = front ++ back)
    (h : (site.resolveSockets site.start front).result = .ok r)
    (hresolved : resolved? name (site.findingsAlong site.start front) = some input) :
    r.inputs.get? name = some input := by
  have hlog := site.findings_of_append hslots h
  rw [result_resolveSockets] at h
  rw [site.resolveSockets_settled front name [] rfl h, List.nil_append]
  refine settled_of_resolved? _ _ _ (fun before after found value hsplit hbefore hfilled => ?_)
    input hresolved
  -- A default that is something else would overrule the input.
  refine Classical.byContradiction fun hne => hnot ?_
  rcases Option.map_eq_some_iff.mp hfilled with ⟨default, hdefault, rfl⟩
  refine ⟨before, after ++ site.findingsAlong r back, found, ?_, hbefore,
    Or.inr ⟨default, hdefault, hne⟩⟩
  rw [hlog, hsplit, List.append_assoc, List.cons_append]

/-- A socket reports its input as missing only if it has looked in vain. -/
theorem finding?_of_missing (s : Slot × InputSocket) (id : NodeId) (classType : String)
    (h : (site.resolveSocket r s.1 s.2).result =
      .error (.missingRequiredInput id classType name)) :
    site.finding? r s = some ⟨name, none⟩ ∧ site.strict = true ∧
      site.schema.isRequired name = true ∧ site.schema.default? name = none := by
  have hstep := site.resolveSocket_step r s
  rw [h] at hstep
  generalize site.finding? r s = finding at hstep ⊢
  generalize hresult : Except.error _ = result at hstep
  cases hstep with
  | idle => cases hresult
  | dangling => cases hresult
  | set input r' hinputs => cases hresult
  | rejected input kind value => cases hresult
  | vain q hinputs =>
      rcases (site.fallback_error q s.2.name _).mp hresult.symm with
        ⟨hstrict, hrequired, hdefault, herror⟩
      cases herror
      exact ⟨rfl, hstrict, hrequired, hdefault⟩

theorem not_reported_of_resolved? (hnot : ¬site.Overruled name)
    (hresolved : (resolved? name site.findings).isSome = true) :
    site.compile.result ≠
      .error (.missingRequiredInput site.node.id site.node.classType name) := by
  intro h
  rcases (site.compile_error _).mp h with hsockets | ⟨r₁, h₁, hbackfill | ⟨r₂, h₂, hdefaults⟩⟩
  · -- The socket that reports the input is the last that has looked for anything.
    rw [result_resolveSockets] at hsockets
    rcases foldlM_error_split _ _ _ hsockets with ⟨front, s, back, m, hslots, hfront, hstep⟩
    rcases site.finding?_of_missing s _ _ hstep with ⟨hfinding, hstrict, hrequired, hdefault⟩
    have hlog : site.findings = site.findingsAlong site.start front ++ [⟨name, none⟩] := by
      rw [findings, hslots, site.findingsAlong_append front _ hfront, findingsAlong, hfinding,
        hstep]
      rfl
    rw [hlog, resolved?, settled_snoc, if_pos rfl, Option.none_or, Option.none_or] at hresolved
    rcases Option.isSome_iff_exists.mp hresolved with ⟨input, hinput⟩
    exact hnot ⟨_, [], input, hlog, hinput, Or.inl ⟨hstrict, hrequired, hdefault⟩⟩
  · -- The second pass reports other errors.
    rw [result_backfillAll] at hbackfill
    rcases foldlM_error_split _ _ _ hbackfill with ⟨-, entry, -, m, -, -, hstep⟩
    exact (site.backfill_isTypeMismatch entry.1 entry.2 hstep).elim
  · -- The third pass leaves an input alone that is set.
    rcases Option.isSome_iff_exists.mp hresolved with ⟨input, hinput⟩
    have hset := site.backfillAll_keeps _ _ _ h₂
      (site.get?_of_resolved? hnot site.node.slots [] input (List.append_nil _).symm h₁ hinput)
    rw [result_fillDefaults] at hdefaults
    rcases foldlM_error_split _ _ _ hdefaults with ⟨front, other, -, m, -, hfront, hstep⟩
    rw [← result_fillDefaults] at hfront
    have hkept := site.fillDefaults_keeps front name input hfront hset
    rw [result_fillDefault] at hstep
    split at hstep
    · cases hstep
    · next hopen =>
        rcases (site.fallback_error m other _).mp hstep with ⟨-, -, -, herror⟩
        cases herror
        rw [Resolution.isSet_eq_isSome, hkept] at hopen
        exact hopen rfl

theorem keeps_of_not_overruled (hnot : ¬site.Overruled name) : site.Keeps name where
  sockets := fun front back _ input hslots h =>
    site.get?_of_resolved? hnot front back input hslots h
  reported := site.not_reported_of_resolved? hnot
  compiled := by
    intro input compiled hresolved h
    rcases (site.compile_ok compiled).mp h with ⟨r₁, r₂, r₃, h₁, h₂, h₃, rfl⟩
    exact site.fillDefaults_keeps _ _ _ h₃ (site.backfillAll_keeps _ _ _ h₂
      (site.get?_of_resolved? hnot site.node.slots [] input (List.append_nil _).symm h₁ hresolved))

/-- A socket that looks in vain and goes on has the default filled in or nothing. -/
theorem fallback_of_finding? (s : Slot × InputSocket)
    (hfinding : site.finding? r s = some ⟨name, none⟩) :
    ∃ q, (site.resolveSocket r s.1 s.2).result = site.fallback q name := by
  have hstep := site.resolveSocket_step r s
  rw [hfinding] at hstep
  generalize (site.resolveSocket r s.1 s.2).result = result at hstep ⊢
  generalize hvain : some (Finding.mk name none) = finding at hstep
  cases hstep with
  | idle => cases hvain
  | dangling => cases hvain
  | set input r' hinputs => cases hvain
  | rejected input kind value => cases hvain
  | vain q hinputs =>
      cases hvain
      exact ⟨q, rfl⟩

theorem Overruled.not_keeps (h : site.Overruled name) : ¬site.Keeps name := by
  intro hkeeps
  rcases h with ⟨before, after, input, hlog, hbefore, hcause⟩
  rcases site.findingsAlong_split _ before after _ hlog with
    ⟨front, s, back, m, hslots, hfront, rfl, hfinding⟩
  rcases site.fallback_of_finding? s hfinding with ⟨q, hstep⟩
  rcases hcause with ⟨hstrict, hrequired, hdefault⟩ | ⟨value, hdefault, hne⟩
  · -- Without a default the socket reports the input.
    rw [(site.fallback_error q name _).mpr ⟨hstrict, hrequired, hdefault, rfl⟩] at hstep
    refine hkeeps.reported ?_ ((site.compile_error _).mpr (Or.inl ?_))
    · rw [hlog]
      exact isSome_resolved?_append _ _ _ (by rw [hbefore]; rfl)
    · rw [result_resolveSockets, hslots]
      exact foldlM_error_at hfront hstep back
  · -- With one the input is the default once the socket is done.
    rw [(site.fallback_ok q _ name).mpr (Or.inl ⟨value, hdefault, rfl⟩)] at hstep
    have hrun := (foldlM_split_ok _ front [] s site.start _).mpr ⟨m, _, hfront, hstep, rfl⟩
    have hresolved : resolved? name (site.findingsAlong site.start (front ++ [s])) =
        some input := by
      rw [site.findingsAlong_append front [s] hfront, site.findingsAlong_cons_ok s [] hstep,
        hfinding, Option.toList_some, findingsAlong, List.append_nil, resolved?, settled_snoc,
        if_pos rfl, Option.none_or, Option.none_or]
      exact hbefore
    have hkept := hkeeps.sockets (front ++ [s]) back _ input
      (by rw [hslots, List.append_assoc, List.singleton_append])
      (by rw [result_resolveSockets, hrun]) hresolved
    rw [Resolution.inputs_set, OrderedMap.get?_insert, if_pos rfl] at hkept
    exact hne (Option.some.inj hkept)

/-- An input is kept if no two bound sockets have its name, for then no two findings have it. -/
theorem keeps_of_count (hcount : site.node.boundNames.count name ≤ 1) : site.Keeps name := by
  refine site.keeps_of_not_overruled ?_
  rintro ⟨before, after, input, hlog, hbefore, -⟩
  have hsublist : (site.findings.map Finding.input).Sublist site.node.boundNames :=
    site.findingsAlong_sublist site.node.slots
  -- The name is that of a finding before and that of the one in vain.
  rcases exists_mem_of_resolved? name before (by rw [hbefore]; rfl) with ⟨f, hf, hinput⟩
  have hfirst : 0 < (before.map Finding.input).count name :=
    List.count_pos_iff.mpr (hinput ▸ List.mem_map_of_mem hf)
  have htwo := hsublist.count_le name
  rw [hlog, List.map_append, List.map_cons, List.count_append, List.count_cons_self] at htwo
  omega

/-- A resolved input is kept, unless a socket that looks for it in vain overrules it. So it is
    kept if no two bound sockets have its name. -/
theorem compile_keeps_iff (site : Site) (name : String) :
    (site.Keeps name ↔ ¬site.Overruled name) ∧
      (site.node.boundNames.count name ≤ 1 → site.Keeps name) :=
  ⟨⟨fun hkeeps hoverruled => hoverruled.not_keeps site hkeeps, site.keeps_of_not_overruled⟩,
    site.keeps_of_count⟩

/-- A sampler whose number of steps has a default, with sockets of which the first is fed by a
    link. -/
def samplerWith (sockets : List InputSocket) : Site :=
  { node := ⟨"4", "KSampler", .linked "steps" 1 :: sockets, [], .empty⟩
    schema := ClassSchema.empty.withRequired "steps"
      ((TypeDecl.ofName "INT").withDefault (jsonOfUInt64 20))
    links := .ofLinks [⟨some 1, "3", 0, "4", 0⟩]
    nodes := .ofNodes [⟨"3", "Loader", [], [], .empty⟩]
    strict := true }

section Sampler

variable (sockets : List InputSocket)

theorem source?_samplerWith :
    (samplerWith sockets).source? 0 = some (⟨"3", "Loader", [], [], .empty⟩, 0) := by
  unfold source? samplerWith
  simp only [LinkIndex.source?_ofLinks, NodeIndex.node?_ofNodes]
  rfl

/-- What its sockets find begins with the reference that the link gives. -/
theorem findings_samplerWith :
    (samplerWith sockets).findings = ⟨"steps", some (.reference "3" 0)⟩ ::
      (samplerWith sockets).findingsAlong
        ((samplerWith sockets).start.set "steps" (.reference "3" 0))
        (GraphNode.slotsFrom 1 sockets) := by
  have hlinked : (samplerWith sockets).finding? (samplerWith sockets).start
      (0, .linked "steps" 1) = some ⟨"steps", some (.reference "3" 0)⟩ := by
    unfold finding? found
    rw [source?_samplerWith]
    rfl
  have hset : ((samplerWith sockets).resolveSocket (samplerWith sockets).start 0
      (.linked "steps" 1)).result =
        .ok ((samplerWith sockets).start.set "steps" (.reference "3" 0)) := by
    refine ((samplerWith sockets).result_resolveLink _ 0 (.linked "steps" 1)).trans ?_
    rw [source?_samplerWith]
    rfl
  have hslots : (samplerWith sockets).node.slots =
      (0, .linked "steps" 1) :: GraphNode.slotsFrom 1 sockets := rfl
  rw [findings, hslots, findingsAlong_cons_ok _ _ _ hset, hlinked]
  rfl

end Sampler

/-- The sampler with a second socket for the number of steps, bound to a value that is not
    stored. -/
def doubled : Site := samplerWith [.bound "steps"]

/-- The link gives the number of steps a reference, and the default replaces it. -/
theorem doubled_steps_not_kept : ¬doubled.Keeps "steps" := by
  refine Overruled.not_keeps doubled ⟨[⟨"steps", some (.reference "3" 0)⟩], [],
    .reference "3" 0, ?_, rfl, Or.inr ⟨jsonOfUInt64 20, rfl, fun h => (by cases h)⟩⟩
  exact findings_samplerWith [.bound "steps"]

/-- If the second socket is for the seed, the number of steps keeps the reference. -/
theorem undoubled_steps_kept :
    (samplerWith [.bound "seed"]).Keeps "steps" ∧
      resolved? "steps" (samplerWith [.bound "seed"]).findings = some (.reference "3" 0) := by
  refine ⟨(compile_keeps_iff (samplerWith [.bound "seed"]) "steps").2 (by decide), ?_⟩
  rw [findings_samplerWith]
  rfl

end Site

end PromptGraph
