import Mathlib.Data.List.Forall2
import PromptGraph.Proofs.Tables
import PromptGraph.Proofs.Wire.Records

/-!
# Reading Records Field by Field

What a record is read as, one field after the other.

A record may be written as an object or as a list. The members of an object may come in any order,
so those of one name can be read first. There may be none, which leaves the field as it is, or one,
whose value the field is read from; a second one is refused. In a list a field has the item at its
place, if the list is long enough. So in either form a field is given no value or a single one.

Maps are read member by member. A member is read as an entry of the same name, and later entries
replace earlier ones of the same name.

## Main definitions

* `Entries.named`: The values of the entries of a name.
* `Entries.withoutAll`: The entries with other names than those given.
* `Given`: What a field is given by a list of values.
* `OrderedMap.Writes`: A value is an object that writes a map.

## Theorems

* `Record.readMembers_field`: Reading the members of a field first.
* `Record.readMembers_withoutAll`: What is left when all fields have been read.
* `Record.readItems_field`, `Record.readItems_end`: Reading the item of a field.
* `Doc.map_ofJson_iff`: Which values are read as a map.
-/

namespace PromptGraph

namespace Entries

variable {α : Type u}

/-- The values of the entries of a name. -/
def named (name : String) (entries : Entries α) : List α :=
  (entries.filter fun e => e.1 = name).map Prod.snd

theorem named_without (name other : String) (h : other ≠ name) (entries : Entries α) :
    named other (without name entries) = named other entries := by
  unfold named without
  rw [List.filter_filter]
  refine congrArg _ (List.filter_congr fun e _ => ?_)
  by_cases hname : e.1 = other
  · rw [hname, decide_eq_true rfl, decide_eq_true h, Bool.and_self]
  · rw [decide_eq_false hname, Bool.false_and]

/-- All entries but those of several names. -/
def withoutAll (names : List String) (entries : Entries α) : Entries α :=
  names.foldl (fun entries name => without name entries) entries

theorem not_mem_of_mem_withoutAll (names : List String) (entries : Entries α) (e : String × α)
    (he : e ∈ withoutAll names entries) : e ∈ entries ∧ e.1 ∉ names := by
  induction names generalizing entries with
  | nil => exact ⟨he, List.not_mem_nil⟩
  | cons name rest ih =>
      rcases ih (without name entries) he with ⟨hwithout, hrest⟩
      rcases List.mem_filter.mp hwithout with ⟨hmem, hname⟩
      exact ⟨hmem, List.not_mem_cons_of_ne_of_not_mem (of_decide_eq_true hname) hrest⟩

theorem map_named (name : String) (entries : Entries α) :
    (named name entries).map (fun a => (name, a)) = entries.filter fun e => e.1 = name := by
  unfold named
  rw [List.map_map]
  refine List.map_congr_left (fun e he => ?_) |>.trans (List.map_id _)
  exact Prod.ext (of_decide_eq_true (List.mem_filter.mp he).2).symm rfl

/-- The entries of a name can be put before the others. -/
theorem perm_without (name : String) (entries : Entries α) :
    entries.Perm ((entries.filter fun e => e.1 = name) ++ without name entries) := by
  have hnot : without name entries = entries.filter fun e => !decide (e.1 = name) := by
    unfold without
    simp only [ne_eq, decide_not]
  rw [hnot]
  exact (List.filter_append_perm _ entries).symm

end Entries

variable {ε α β σ : Type}

theorem map_eq_ok (x : Except ε α) (f : α → β) (b : β) :
    x.map f = .ok b ↔ ∃ a, x = .ok a ∧ b = f a := by
  cases x with
  | error e => simp [Except.map]
  | ok a => simp [Except.map, eq_comm]

/-- What is given by values of which there may be one: nothing if there is none, else what the
    value is read as. -/
inductive Given (reads : Json → α → Prop) : List Json → Option α → Prop where
  | absent : Given reads [] none
  | once (j : Json) (a : α) (h : reads j a) : Given reads [j] (some a)

theorem Given.congr {reads reads' : Json → α → Prop} (hreads : ∀ j a, reads j a ↔ reads' j a)
    (values : List Json) (o : Option α) : Given reads values o ↔ Given reads' values o := by
  have hsame : reads = reads' := funext fun j => funext fun a => propext (hreads j a)
  rw [hsame]

theorem given_some_iff (reads : Json → α → Prop) (values : List Json) (a : α) :
    Given reads values (some a) ↔ ∃ j, values = [j] ∧ reads j a := by
  constructor
  · intro h
    cases h with
    | once j _ hj => exact ⟨j, rfl, hj⟩
  · rintro ⟨j, rfl, hj⟩
    exact .once j a hj

/-- A value is an object that writes a map: its members write the entries that are set, one after
    the other. -/
inductive OrderedMap.Writes (item : Json → α → Prop) : Json → OrderedMap α → Prop where
  | intro (members : List (String × Json)) (es : Entries α)
      (h : List.Forall₂ (fun m e => m.1 = e.1 ∧ item m.2 e.2) members es) :
      Writes item (.obj members) (.ofList es)

/-- Reading a field takes the draft `put none`, which does not have it, to a draft that has what was
    read. -/
structure Field.Puts (f : Field σ) (decoder : Decoder β) (put : Option β → σ) : Prop where
  free : f.filled (put none) = false
  read : ∀ d, f.read d (put none) = (decoder d).map fun b => put (some b)

/-- Once the members of all fields have been read, those that are left are skipped. -/
theorem Record.readMembers_withoutAll (r : Record σ α) (members : List (String × Json)) (s : σ) :
    r.readMembers s (Doc.ofMembers (Entries.withoutAll r.names members)) = .ok s :=
  r.readMembers_skipped _ s fun m hm => (Entries.not_mem_of_mem_withoutAll r.names members m hm).2

namespace Record

variable (r : Record σ α) {f : Field σ} {decoder : Decoder β} {put : Option β → σ}
  (hf : f.Puts decoder put) (s : σ)
include hf

section Members

variable (hr : r.Independent) (name : String)
  (hfind : r.fields.find? (·.isNamed name) = some f)
include hr hfind

/-- Members of one name are read if there is at most one of them. -/
theorem readMembers_same (values : List Json) :
    r.readMembers (put none) (Doc.ofMembers (values.map fun j => (name, j))) = .ok s ↔
      ∃ o, Given (fun j b => decoder.ofJson j = .ok b) values o ∧ s = put o := by
  have honce := fun (j : Json) (s : σ) =>
    r.toOption_readMember_of_named name (Doc.ofJson j) s f hfind
  rw [← toOption_eq_some_iff]
  rcases values with _ | ⟨j, _ | ⟨k, rest⟩⟩
  · -- Without a member the draft is as it was.
    refine ⟨fun h => ⟨none, .absent, (Option.some.inj h).symm⟩, ?_⟩
    rintro ⟨-, ⟨⟩, rfl⟩
    rfl
  · -- A single member fills the field.
    have hread : (r.readMembers (put none) (Doc.ofMembers [(name, j)])).toOption =
        (decoder.ofJson j).toOption.map fun b => put (some b) := by
      rw [readMembers_cons, toOption_bind, honce, Field.once, hf.free, hf.read,
        if_neg Bool.false_ne_true, toOption_map]
      exact Option.bind_fun_some _
    rw [List.map_singleton, hread, Option.map_eq_some_iff]
    constructor
    · rintro ⟨b, hb, rfl⟩
      exact ⟨some b, .once j b ((toOption_eq_some_iff _ b).mp hb), rfl⟩
    · rintro ⟨o, ho, rfl⟩
      cases ho with
      | once j b hb => exact ⟨b, (toOption_eq_some_iff _ b).mpr hb, rfl⟩
  · -- A second member is refused, for the first has filled the field.
    have htwice := f.once_twice (hr.fills f (List.mem_of_find?_eq_some hfind))
    simp only [List.map_cons, readMembers_cons, toOption_bind, honce]
    rw [← Option.bind_assoc, htwice, Option.bind_none]
    refine ⟨fun h => (by cases h), ?_⟩
    rintro ⟨-, ⟨⟩, -⟩

/-- The members of a field can be read first. -/
theorem readMembers_field (members : List (String × Json)) :
    r.readMembers (put none) (Doc.ofMembers members) = .ok s ↔
      ∃ o, Given (fun j b => decoder.ofJson j = .ok b) (Entries.named name members) o ∧
        r.readMembers (put o) (Doc.ofMembers (Entries.without name members)) = .ok s := by
  have hperm : members.Perm
      ((Entries.named name members).map (fun j => (name, j)) ++ Entries.without name members) := by
    rw [Entries.map_named]
    exact Entries.perm_without name members
  rw [← toOption_eq_some_iff, readMembers_perm hr _ _ hperm, toOption_eq_some_iff,
    readMembers_append, bind_eq_ok]
  constructor
  · rintro ⟨m, hm, hrest⟩
    rcases (r.readMembers_same hf m hr name hfind _).mp hm with ⟨o, ho, rfl⟩
    exact ⟨o, ho, hrest⟩
  · rintro ⟨o, ho, hrest⟩
    exact ⟨_, (r.readMembers_same hf _ hr name hfind _).mpr ⟨o, ho, rfl⟩, hrest⟩

end Members

section Items

omit hf in
/-- A list is read item by item, and then the draft is completed. -/
theorem ofJson_arr (items : List Json) :
    r.decode.ofJson (.arr items) =
      r.readItems items.length .counted 0 r.blank r.fields (Doc.ofItems items) >>= r.complete := by
  unfold Decoder.ofJson
  rw [Doc.ofJson, decode, Doc.ofItems_eq_map, List.length_map]

variable (total index : Nat) (items : List Json)

/-- The item at the place of a field is read, if the list is long enough. -/
theorem readItems_field (hoptional : f.optional = true) (fields : List (Field σ)) :
    r.readItems total .counted index (put none) (f :: fields) (Doc.ofItems (items.drop index)) =
        .ok s ↔
      ∃ o, Given (fun j b => decoder.ofJson j = .ok b) items[index]?.toList o ∧
        r.readItems total .counted (index + 1) (put o) fields
          (Doc.ofItems (items.drop (index + 1))) = .ok s := by
  rw [← List.head?_drop, ← List.tail_drop]
  generalize items.drop index = items
  cases items with
  | nil =>
      have hrun : r.readItems total .counted index (put none) (f :: fields) (Doc.ofItems []) =
          r.readItems total .counted (index + 1) (put none) fields (Doc.ofItems []) :=
        if_pos hoptional
      rw [hrun]
      refine ⟨fun h => ⟨none, .absent, h⟩, ?_⟩
      rintro ⟨-, ⟨⟩, h⟩
      exact h
  | cons j rest =>
      rw [Doc.ofItems, readItems, bind_eq_ok]
      simp only [hf.read]
      constructor
      · rintro ⟨m, hm, hrest⟩
        rcases (map_eq_ok _ _ m).mp hm with ⟨b, hb, rfl⟩
        exact ⟨some b, .once j b hb, hrest⟩
      · rintro ⟨o, ho, hrest⟩
        cases ho with
        | once j b hb => exact ⟨_, (map_eq_ok _ _ _).mpr ⟨b, hb, rfl⟩, hrest⟩

omit hf in
/-- A list must not have more items than there are fields. -/
theorem readItems_end (s' : σ) :
    r.readItems total .counted index s [] (Doc.ofItems (items.drop index)) = .ok s' ↔
      items.length ≤ index ∧ s' = s := by
  rw [← List.drop_eq_nil_iff]
  cases items.drop index with
  | nil => exact ⟨fun h => ⟨rfl, (Except.ok.inj h).symm⟩, fun h => congrArg Except.ok h.2.symm⟩
  | cons j rest => exact ⟨fun h => (by cases h), fun h => (by cases h.1)⟩

end Items

end Record

namespace Doc

variable {item : Decoder α} {writes : Json → α → Prop}
  (hitem : ∀ j a, item.ofJson j = .ok a ↔ writes j a)
include hitem

theorem entries_ofMembers_iff (members : List (String × Json)) (m n : OrderedMap α) :
    entries item m (ofMembers members) = .ok n ↔
      ∃ es : Entries α, List.Forall₂ (fun m e => m.1 = e.1 ∧ writes m.2 e.2) members es ∧
        n = es.foldl (fun m e => m.insert e.1 e.2) m := by
  induction members generalizing m with
  | nil =>
      refine ⟨fun h => ⟨[], .nil, (Except.ok.inj h).symm⟩, ?_⟩
      rintro ⟨-, ⟨⟩, rfl⟩
      rfl
  | cons member rest ih =>
      have hrun : entries item m (ofMembers (member :: rest)) =
          item.ofJson member.2 >>= fun a => entries item (m.insert member.1 a) (ofMembers rest) :=
        rfl
      rw [hrun, bind_eq_ok]
      constructor
      · rintro ⟨a, ha, hrest⟩
        rcases (ih _).mp hrest with ⟨es, hes, rfl⟩
        exact ⟨(member.1, a) :: es, .cons ⟨rfl, (hitem _ a).mp ha⟩ hes, rfl⟩
      · rintro ⟨es, hes, rfl⟩
        cases hes with
        | @cons _ e _ es hfirst hes =>
            refine ⟨e.2, (hitem _ _).mpr hfirst.2, ?_⟩
            rw [List.foldl_cons, hfirst.1]
            exact (ih _).mpr ⟨es, hes, rfl⟩

/-- A value is read as a map if it is an object whose members are read as entries. -/
theorem map_ofJson_iff (j : Json) (m : OrderedMap α) :
    (map item).ofJson j = .ok m ↔ OrderedMap.Writes writes j m := by
  cases j with
  | obj members =>
      have hrun : (map item).ofJson (.obj members) =
          entries item .empty (ofMembers members) >>= fun n => .ok n := rfl
      rw [hrun, bind_eq_ok]
      constructor
      · rintro ⟨n, hn, ⟨⟩⟩
        rcases (entries_ofMembers_iff hitem members .empty _).mp hn with ⟨es, hes, rfl⟩
        exact .intro members es hes
      · intro h
        cases h with
        | intro members es hes =>
            exact ⟨_, (entries_ofMembers_iff hitem members .empty _).mpr ⟨es, hes, rfl⟩, rfl⟩
  | null | bool _ | num _ | str _ | arr _ => exact ⟨fun h => (by cases h), fun h => (by cases h)⟩

end Doc

end PromptGraph
