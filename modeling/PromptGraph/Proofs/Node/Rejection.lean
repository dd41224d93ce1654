import PromptGraph.Proofs.Node.Alignment
import PromptGraph.Proofs.Node.Validation

/-!
# Values That Are Rejected

Every class with a clash has a node that is rejected for a value of its buffer, although the
buffer is a sequence and the value is one of the kind that its input was read for.

The node needs no sockets. Its buffer has a value for each input that is read before the
optional boolean, each as its kind has it, and a truth value after these. The reads take one
value each, so the truth value is what is ahead when the second pass comes to the boolean. The
required input of that name is of an unknown type, and so still unset. Thus the boolean is
read, and checked to be text. If the pass does not come that far, it is because a value was
rejected before.

## Main definitions

* `CompileError.IsTypeMismatch`: A value does not fit its input.
* `Kind.sample`: A value of a kind.

## Theorems

* `ClassSchema.Clashes.exists_split`: What is read before the optional boolean of a clash.
* `Site.exists_read`: Values for the second pass to read, one after the other.
* `Site.backfill_clash`: A truth value is rejected where there is a clash.
* `Site.exists_rejected`: A buffer with which a node of a class is rejected.
-/

namespace PromptGraph

/-- A value does not fit the kind of its input. -/
def CompileError.IsTypeMismatch : CompileError → Prop
  | .typeMismatch _ _ _ _ _ => True
  | _ => False

/-- A value of a kind, as the kind has it. -/
def Kind.sample : Kind → Json
  | .int | .float => jsonOfUInt64 0
  | .string | .combo | .file | .enum => .str ""
  | .boolean => .bool true

theorem Kind.coerceTo_sample (kind : Kind) : coerceTo kind kind.sample = some kind.sample := by
  cases kind <;> rfl

/-- Where there is a clash, the optional boolean is declared after inputs of which none of its
    name is a scalar. -/
theorem ClassSchema.Clashes.exists_split {schema : ClassSchema} {name : String}
    (h : schema.Clashes name) : ∃ front decl back,
      schema.inputs = front ++ (name, decl) :: back ∧ classify decl.typeName = .scalar .boolean ∧
        ∀ entry ∈ front, entry.1 = name → isScalarType entry.2.typeName = false := by
  rcases h with ⟨required, decl, hrequired, hoptional, hunknown, hboolean⟩
  rcases List.append_of_mem (OrderedMap.mem_of_get? _ name decl hoptional) with
    ⟨before, back, hsplit⟩
  refine ⟨schema.required.entries ++ before, decl, back, ?_, hboolean, ?_⟩
  · unfold inputs
    rw [hsplit, List.append_assoc]
  · rintro ⟨key, other⟩ hentry rfl
    rcases List.mem_append.mp hentry with hmem | hmem
    · cases hrequired.symm.trans (OrderedMap.get?_of_mem _ (key, other) hmem)
      refine eq_false_of_ne_true fun hscalar => ?_
      rcases (isScalarType_iff _).mp hscalar with ⟨kind, hkind⟩
      cases hunknown.symm.trans hkind
    · -- The names of the optional inputs are distinct.
      have hdistinct := schema.optional.distinct
      unfold Entries.keys at hdistinct
      rw [hsplit, List.map_append, List.map_cons, List.nodup_append] at hdistinct
      exact absurd rfl (hdistinct.2.2 key (List.mem_map_of_mem hmem) key (List.mem_cons_self ..))

namespace Site

/-- A check that fails is a mismatch of types. -/
theorem backfill_isTypeMismatch (site : Site) {r : Resolution} {e : CompileError} (name : String)
    (decl : TypeDecl) (h : (site.backfill r name decl).result = .error e) : e.IsTypeMismatch := by
  rcases site.backfill_error name decl h with ⟨-, value, -, q, herror⟩
  rcases (site.accept_error q name value e).mp herror with ⟨-, kind, -, -, rfl⟩
  trivial

/-- For every list of inputs there are values to read for those that are pending. The pass
    reads just these, unless one of them is rejected. -/
theorem exists_read (decls : Entries TypeDecl) (inputs : OrderedMap ResolvedInput) :
    ∃ values, ∀ (site : Site) (r : Resolution) (back : List Json), r.inputs = inputs →
      r.cursor.buffer.isSequence = true → r.cursor.unread = values ++ back →
        (∃ e, e.IsTypeMismatch ∧ (site.backfillAll r decls).result = .error e) ∨
          ∃ r', (site.backfillAll r decls).result = .ok r' ∧
            r'.cursor.buffer.isSequence = true ∧ r'.cursor.unread = back := by
  induction decls generalizing inputs with
  | nil => exact ⟨[], fun site r back _ hsequence hunread => Or.inr ⟨r, rfl, hsequence, hunread⟩⟩
  | cons entry rest ih =>
      simp only [result_backfillAll, List.foldlM_cons, bind_eq_error, bind_eq_ok] at ih ⊢
      -- Whether the input is pending depends on the inputs that are set, and not on the buffer.
      by_cases hpending : Resolution.pending ⟨inputs, ⟨.empty, 0⟩⟩ entry = true
      · rcases kind?_of_isScalarType _ ((Resolution.pending_iff _ entry).mp hpending).2 with
          ⟨kind, hkind⟩
        rcases ih (inputs.insert entry.1 (.value kind.sample)) with ⟨values, hvalues⟩
        refine ⟨kind.sample :: values, fun site r back hinputs hsequence hunread => ?_⟩
        cases hstep : (site.backfill r entry.1 entry.2).result with
        | error e =>
            exact Or.inl ⟨e, site.backfill_isTypeMismatch entry.1 entry.2 hstep, Or.inl rfl⟩
        | ok m =>
            have hpending' : r.pending entry = true :=
              (Resolution.pending_congr _ r entry hinputs).trans hpending
            have hfits : coerce (classify entry.2.typeName).kind? kind.sample =
                some kind.sample := by
              rw [hkind]
              exact kind.coerceTo_sample
            rcases site.backfill_of_pending r m entry hpending' hsequence kind.sample
              (values ++ back) hunread hfits hstep with ⟨hset, hsequence', hahead⟩
            rcases hvalues site m back (by rw [hset, hinputs]) hsequence' hahead with
              ⟨e, hmismatch, hrest⟩ | ⟨r', hrest, hend⟩
            · exact Or.inl ⟨e, hmismatch, Or.inr ⟨m, rfl, hrest⟩⟩
            · exact Or.inr ⟨r', ⟨m, rfl, hrest⟩, hend⟩
      · rcases ih inputs with ⟨values, hvalues⟩
        refine ⟨values, fun site r back hinputs hsequence hunread => ?_⟩
        have hidle : r.pending entry = false :=
          (Resolution.pending_congr _ r entry hinputs).trans (eq_false_of_ne_true hpending)
        rw [site.backfill_of_not_pending r entry hidle]
        rcases hvalues site r back hinputs hsequence hunread with
          ⟨e, hmismatch, hrest⟩ | ⟨r', hrest, hend⟩
        · exact Or.inl ⟨e, hmismatch, Or.inr ⟨r, rfl, hrest⟩⟩
        · exact Or.inr ⟨r', ⟨r, rfl, hrest⟩, hend⟩

variable (site : Site) {r r' : Resolution}

/-- The second pass does not set an input whose declarations are no scalars. -/
theorem backfillAll_unset (decls : Entries TypeDecl) (name : String)
    (hdecls : ∀ entry ∈ decls, entry.1 = name → isScalarType entry.2.typeName = false)
    (hunset : r.isSet name = false) (h : (site.backfillAll r decls).result = .ok r') :
    r'.isSet name = false := by
  rw [result_backfillAll] at h
  refine foldlM_invariant (fun r => r.isSet name = false) decls (fun entry hentry a b ha hb => ?_)
    r r' hunset h
  by_cases hname : entry.1 = name
  · -- The step for the input itself passes it over.
    have hidle : a.pending entry = false := eq_false_of_ne_true fun hpending => by
      cases (hdecls entry hentry hname).symm.trans ((a.pending_iff entry).mp hpending).2
    rw [site.backfill_of_not_pending a entry hidle, Except.ok.injEq] at hb
    exact hb ▸ ha
  · rw [Resolution.isSet_eq_isSome,
      (site.backfill_sets entry.1 entry.2 hb).1.get?_other name (Ne.symm hname)]
    exact ha

/-- Where there is a clash, a truth value is read for the optional boolean and rejected. -/
theorem backfill_clash (hstrict : site.strict = true) (name : String) (decl : TypeDecl)
    (hboolean : classify decl.typeName = .scalar .boolean)
    (hkind : site.schema.kind? name = some .string) (hunset : r.isSet name = false)
    (hsequence : r.cursor.buffer.isSequence = true) (b : Bool) (rest : List Json)
    (hunread : r.cursor.unread = .bool b :: rest) :
    (site.backfill r name decl).result =
      .error (.typeMismatch site.node.id site.node.classType name .string (.bool b)) := by
  have hpending : r.pending (name, decl) = true :=
    (r.pending_iff (name, decl)).mpr ⟨hunset, (isScalarType_iff _).mpr ⟨.boolean, hboolean⟩⟩
  have hread := (Cursor.pop_of_fits (some .boolean) r.cursor (.bool b) (.bool b) rest hunread
    rfl).1
  rw [site.result_backfill_of_pending r (name, decl) hpending, hboolean,
    Cursor.take_eq_pop _ _ hsequence]
  simp only [TypeClass.kind?, hread]
  exact (site.accept_error _ name (.bool b) _).mpr ⟨hstrict, .string, hkind, rfl, rfl⟩

/-- A node without sockets starts with the second pass. -/
theorem compile_of_backfillAll (hslots : site.node.slots = []) (e : CompileError)
    (h : (site.backfillAll site.start site.schema.inputs).result = .error e) :
    site.compile.result = .error e := by
  refine (site.compile_error e).mpr (Or.inr ⟨site.start, ?_, Or.inl h⟩)
  rw [hslots]
  rfl

/-- A class with a clash has a buffer with which its nodes are rejected. -/
theorem exists_rejected (schema : ClassSchema) (name : String) (hclash : schema.Clashes name) :
    ∃ values, ∀ (id : NodeId) (classType : String) (links : LinkIndex) (nodes : NodeIndex),
      ∃ e, e.IsTypeMismatch ∧
        (Site.mk ⟨id, classType, [], [], .sequence values⟩ schema links nodes
          true).compile.result = .error e := by
  rcases hclash.exists_split with ⟨front, decl, back, hinputs, hboolean, hdecls⟩
  rcases exists_read front .empty with ⟨values, hvalues⟩
  refine ⟨values ++ [.bool true], fun id classType links nodes => ?_⟩
  generalize hsite : Site.mk ⟨id, classType, [], [], .sequence (values ++ [.bool true])⟩ schema
    links nodes true = site
  have hschema : site.schema = schema := by rw [← hsite]
  have hstart : site.start.inputs = .empty ∧ site.start.cursor.buffer.isSequence = true ∧
      site.start.cursor.unread = values ++ [.bool true] := by
    rw [← hsite]
    exact ⟨rfl, rfl, rfl⟩
  suffices hpass : ∃ e, e.IsTypeMismatch ∧
      (site.backfillAll site.start site.schema.inputs).result = .error e by
    rcases hpass with ⟨e, hmismatch, hpass⟩
    exact ⟨e, hmismatch, site.compile_of_backfillAll (by rw [← hsite]; rfl) e hpass⟩
  rw [hschema, hinputs, result_backfillAll]
  rcases hvalues site site.start [.bool true] hstart.1 hstart.2.1 hstart.2.2 with
    ⟨e, hmismatch, hfail⟩ | ⟨m, hrun, hsequence, hahead⟩
  · -- A value before the truth value has been rejected.
    rw [result_backfillAll] at hfail
    exact ⟨e, hmismatch, (foldlM_append_error _ front _ _ e).mpr (Or.inl hfail)⟩
  · have hunset := site.backfillAll_unset front name hdecls rfl hrun
    have hstep := site.backfill_clash (by rw [← hsite]) name decl hboolean
      (by rw [hschema]; exact hclash.kind?) hunset hsequence true [] hahead
    have hmismatch := site.backfill_isTypeMismatch name decl hstep
    rw [result_backfillAll] at hrun
    exact ⟨_, hmismatch, foldlM_error_at hrun hstep back⟩

end Site

end PromptGraph
