import Mathlib.Data.List.Pairwise
import PromptGraph.Json.Decode
import PromptGraph.Proofs.Loops

/-!
# Reading Records

Records that are written as objects, and what their members may do without being
noticed.

What is looked at here is whether a value is read and as what, not the error if
it is not, for the error depends on which member is met first. The fields of a
record are kept in different places of a draft, so reading one does not change
what reading another does. Therefore the members of an object may come in any
order. A member that names no field is skipped, and one that brings a field to
what it is anyway may be left out.

## Main definitions

* `Decoder.Alike`: Two values are read alike.
* `Field.Apart`: Two fields do not get in each other's way.
* `Record.names`: The names that the members of a record may have.
* `Record.Independent`: No two fields of a record get in each other's way.

## Theorems

* `Field.make_apart`: Fields in different places are apart.
* `Doc.skip_ofJson`: A value at hand can be skipped.
* `Record.ofJson_obj`, `Record.readMembers_cons`, `Record.readMembers_append`:
  An object is read member by member.
* `Record.readMembers_skipped`: Members that name no field are skipped.
* `Record.readMembers_perm`: The order of members does not matter.
* `Record.alike_of_member`, `Record.alike_of_item`, `Doc.list_alike`: A part may
  be exchanged for one that is read alike.
* `Record.alike_of_absent`: A member that changes nothing may be left out.
-/

namespace PromptGraph

variable {ε α β σ : Type}

theorem toOption_bind (x : Except ε α) (f : α → Except ε β) :
    (x >>= f).toOption = x.toOption.bind fun a => (f a).toOption := by
  cases x <;> rfl

theorem toOption_map (x : Except ε α) (f : α → β) : (x.map f).toOption = x.toOption.map f := by
  cases x <;> rfl

theorem toOption_eq_some_iff (x : Except ε α) (a : α) : x.toOption = some a ↔ x = .ok a := by
  cases x with
  | error e => simp [Except.toOption]
  | ok b => simp [Except.toOption]

@[simp] theorem toOption_ok (a : α) : (Except.ok a : Except ε α).toOption = some a := rfl

@[simp] theorem toOption_error (e : ε) : (Except.error e : Except ε α).toOption = none := rfl

/-- Two values are read alike: as the same, or both not at all. -/
def Decoder.Alike (decoder : Decoder α) (j k : Json) : Prop :=
  (decoder.ofJson j).toOption = (decoder.ofJson k).toOption

theorem Decoder.Alike.refl (decoder : Decoder α) (j : Json) : decoder.Alike j j := rfl

namespace Field

/-- Two fields do not get in each other's way: reading one leaves it open whether the
    other has been read, and they can be read in either order. -/
structure Apart (f g : Field σ) : Prop where
  keeps : ∀ d s s', f.read d s = .ok s' → g.filled s' = g.filled s
  kept : ∀ d s s', g.read d s = .ok s' → f.filled s' = f.filled s
  swaps : ∀ d e s, (f.read d s >>= g.read e).toOption = (g.read e s >>= f.read d).toOption

theorem Apart.symm {f g : Field σ} (h : f.Apart g) : g.Apart f :=
  ⟨h.kept, h.keeps, fun d e s => (h.swaps e d s).symm⟩

instance : Std.Symm (Apart (σ := σ)) := ⟨fun _ _ h => h.symm⟩

/-- Read a field unless it has been read before. -/
def once (f : Field σ) (d : Doc) (s : σ) : Option σ :=
  if f.filled s then none else (f.read d s).toOption

/-- A field is not read twice. -/
theorem once_twice (f : Field σ) (hfills : ∀ d s s', f.read d s = .ok s' → f.filled s' = true)
    (d e : Doc) (s : σ) : (f.once d s).bind (f.once e) = none := by
  rw [Option.bind_eq_none_iff]
  intro s' hs'
  unfold once at hs' ⊢
  by_cases hfilled : f.filled s = true
  · rw [if_pos hfilled] at hs'
    cases hs'
  · rw [if_neg hfilled, toOption_eq_some_iff] at hs'
    exact if_pos (hfills d s s' hs')

theorem once_once (f g : Field σ) (d e : Doc) (s : σ)
    (hkeeps : ∀ s', f.read d s = .ok s' → g.filled s' = g.filled s) :
    (f.once d s).bind (g.once e) =
      if f.filled s || g.filled s then none else (f.read d s >>= g.read e).toOption := by
  unfold once
  by_cases hfilled : f.filled s = true
  · simp only [hfilled, if_true, Bool.true_or, Option.bind_none]
  · simp only [hfilled, Bool.false_eq_true, if_false, Bool.false_or, toOption_bind]
    cases hread : f.read d s with
    | error e => simp only [toOption_error, Option.bind_none, ite_self]
    | ok s' => simp only [toOption_ok, Option.bind_some, hkeeps s' hread]

theorem Apart.once_swap {f g : Field σ} (h : f.Apart g) (d e : Doc) (s : σ) :
    (f.once d s).bind (g.once e) = (g.once e s).bind (f.once d) := by
  rw [once_once f g d e s (h.keeps d s), once_once g f e d s (h.kept e s), Bool.or_comm,
    h.swaps d e s]

theorem read_make_ok (name : String) (aliases : List String) (optional : Bool)
    (decoder : Decoder α) (get : σ → Option α) (set : σ → α → σ) (d : Doc) (s s' : σ) :
    (make name aliases optional decoder get set).read d s = .ok s' ↔
      ∃ a, decoder d = .ok a ∧ s' = set s a := by
  unfold make
  simp only []
  cases decoder d with
  | error e => simp [Except.map]
  | ok a => simp [Except.map, eq_comm]

/-- Fields that are kept in different places of a draft are apart. -/
theorem make_apart {name name' : String} {aliases aliases' : List String}
    {optional optional' : Bool} {decoder : Decoder α} {decoder' : Decoder β}
    {get : σ → Option α} {set : σ → α → σ} {get' : σ → Option β} {set' : σ → β → σ}
    (hget : ∀ s a, get' (set s a) = get' s) (hget' : ∀ s b, get (set' s b) = get s)
    (hset : ∀ s a b, set' (set s a) b = set (set' s b) a) :
    Apart (make name aliases optional decoder get set)
      (make name' aliases' optional' decoder' get' set') where
  keeps := by
    intro d s s' h
    rcases (read_make_ok _ _ _ _ _ _ d s s').mp h with ⟨a, -, rfl⟩
    exact congrArg Option.isSome (hget s a)
  kept := by
    intro d s s' h
    rcases (read_make_ok _ _ _ _ _ _ d s s').mp h with ⟨b, -, rfl⟩
    exact congrArg Option.isSome (hget' s b)
  swaps := by
    intro d e s
    unfold make
    simp only [toOption_bind, toOption_map, Option.bind_map, Function.comp_def]
    cases (decoder d).toOption with
    | none => cases (decoder' e).toOption <;> rfl
    | some a =>
        cases (decoder' e).toOption with
        | none => rfl
        | some b => exact congrArg some (hset s a b)

theorem make_fills {name : String} {aliases : List String} {optional : Bool}
    {decoder : Decoder α} {get : σ → Option α} {set : σ → α → σ}
    (hget : ∀ s a, get (set s a) = some a) (d : Doc) (s s' : σ)
    (h : (make name aliases optional decoder get set).read d s = .ok s') :
    (make name aliases optional decoder get set).filled s' = true := by
  rcases (read_make_ok _ _ _ _ _ _ d s s').mp h with ⟨a, -, rfl⟩
  exact congrArg Option.isSome (hget s a)

end Field

namespace Doc

mutual

theorem skipFault_ofJson : (j : Json) → (ofJson j).skipFault = none
  | .null => rfl
  | .bool _ => rfl
  | .num _ => rfl
  | .str _ => rfl
  | .arr items => by
    rw [ofJson, skipFault, skipFaultItems_ofItems items]
    rfl
  | .obj members => by
    rw [ofJson, skipFault, skipFaultMembers_ofMembers members]
    rfl

theorem skipFaultItems_ofItems : (items : List Json) → skipFaultItems (ofItems items) = none
  | [] => rfl
  | j :: rest => by
    rw [ofItems, skipFaultItems, skipFault_ofJson j, skipFaultItems_ofItems rest]
    rfl

theorem skipFaultMembers_ofMembers :
    (members : List (String × Json)) → skipFaultMembers (ofMembers members) = none
  | [] => rfl
  | (k, j) :: rest => by
    rw [ofMembers, skipFaultMembers, skipFault_ofJson j, skipFaultMembers_ofMembers rest]
    rfl

end

theorem skip_ofJson (j : Json) : (ofJson j).skip = .ok () := by
  unfold skip
  rw [skipFault_ofJson]

theorem value_ofJson (j : Json) : value (ofJson j) = .ok j := by
  unfold value
  rw [toJson_ofJson]
  rfl

/-- A value that is not null is read as it would be if null were not allowed. -/
theorem toOption_nullable (inner : Decoder α) (j : Json) (h : j ≠ .null) :
    ((nullable inner).ofJson j).toOption = (inner.ofJson j).toOption.map some := by
  rw [← toOption_map]
  cases j with
  | null => exact absurd rfl h
  | bool _ => rfl
  | num _ => rfl
  | str _ => rfl
  | arr _ => rfl
  | obj _ => rfl

/-- An item of a list may be exchanged for one that is read alike. -/
theorem list_alike (item : Decoder α) (before after : List Json) (j k : Json)
    (h : item.Alike j k) :
    (list item).Alike (.arr (before ++ j :: after)) (.arr (before ++ k :: after)) := by
  have hitems : (items item (ofItems (before ++ j :: after))).toOption =
      (items item (ofItems (before ++ k :: after))).toOption := by
    induction before with
    | nil =>
        unfold Decoder.Alike Decoder.ofJson at h
        simp only [List.nil_append, ofItems, items, toOption_bind, h]
    | cons first rest ih => simp only [List.cons_append, ofItems, items, toOption_bind, ih]
  unfold Decoder.Alike Decoder.ofJson
  simp only [ofJson, list, toOption_bind, hitems]

end Doc

namespace Record

variable (r : Record σ α)

/-- An object is read member by member, and then the draft is completed. -/
theorem ofJson_obj (members : List (String × Json)) :
    r.decode.ofJson (.obj members) =
      r.readMembers r.blank (Doc.ofMembers members) >>= r.complete := by
  unfold Decoder.ofJson
  rw [Doc.ofJson, decode]
  cases r.readMembers r.blank (Doc.ofMembers members) <;> rfl

theorem readMembers_cons (s : σ) (m : String × Json) (rest : List (String × Json)) :
    r.readMembers s (Doc.ofMembers (m :: rest)) =
      r.readMember m.1 (Doc.ofJson m.2) s >>= fun s => r.readMembers s (Doc.ofMembers rest) := rfl

theorem readMembers_append (s : σ) (front back : List (String × Json)) :
    r.readMembers s (Doc.ofMembers (front ++ back)) =
      r.readMembers s (Doc.ofMembers front) >>= fun s => r.readMembers s (Doc.ofMembers back) := by
  induction front generalizing s with
  | nil => rfl
  | cons m rest ih =>
      rw [List.cons_append, readMembers_cons, readMembers_cons, bind_assoc]
      simp only [ih]

theorem readMember_of_unnamed (key : String) (j : Json) (s : σ)
    (h : r.fields.find? (·.isNamed key) = none) : r.readMember key (Doc.ofJson j) s = .ok s := by
  unfold readMember
  rw [h]
  simp only [Doc.skip_ofJson]
  rfl

theorem toOption_readMember_of_named (key : String) (d : Doc) (s : σ) (f : Field σ)
    (h : r.fields.find? (·.isNamed key) = some f) :
    (r.readMember key d s).toOption = f.once d s := by
  unfold readMember Field.once
  rw [h]
  simp only []
  by_cases hfilled : f.filled s = true
  · rw [if_pos hfilled, if_pos hfilled]
    rfl
  · rw [if_neg hfilled, if_neg hfilled]

/-- A member for a field that a draft does not have yet. -/
theorem toOption_readMember_of_free {name : String} {aliases : List String} {optional : Bool}
    {decoder : Decoder β} {get : σ → Option β} {set : σ → β → σ} (key : String)
    (hfind : r.fields.find? (·.isNamed key) =
      some (.make name aliases optional decoder get set))
    (j : Json) (s : σ) (hfree : get s = none) :
    (r.readMember key (Doc.ofJson j) s).toOption = (decoder.ofJson j).toOption.map (set s) := by
  rw [r.toOption_readMember_of_named key _ s _ hfind]
  unfold Field.once Field.make
  simp only [hfree, Option.isSome_none, Bool.false_eq_true, if_false, toOption_map]
  rfl

/-- The names that the members of a record may have. -/
def names : List String := r.fields.flatMap fun f => f.name :: f.aliases

theorem find?_eq_none (key : String) (h : key ∉ r.names) :
    r.fields.find? (·.isNamed key) = none := by
  rw [List.find?_eq_none]
  intro f hf hnamed
  refine h (List.mem_flatMap.mpr ⟨f, hf, ?_⟩)
  unfold Field.isNamed at hnamed
  rcases Bool.or_eq_true_iff.mp hnamed with hname | halias
  · exact beq_iff_eq.mp hname ▸ List.mem_cons_self ..
  · exact List.mem_cons_of_mem _ (List.contains_iff_mem.mp halias)

/-- Members that name no field are skipped. -/
theorem readMembers_skipped (members : List (String × Json)) (s : σ)
    (h : ∀ m ∈ members, m.1 ∉ r.names) :
    r.readMembers s (Doc.ofMembers members) = .ok s := by
  induction members with
  | nil => rfl
  | cons m rest ih =>
      have hnone := r.find?_eq_none m.1 (h m (List.mem_cons_self ..))
      rw [readMembers_cons, r.readMember_of_unnamed m.1 m.2 s hnone]
      exact ih fun n hn => h n (List.mem_cons_of_mem m hn)

/-- Reading a field fills it, and different fields do not get in each other's way. -/
structure Independent : Prop where
  fills : ∀ f ∈ r.fields, ∀ d s s', f.read d s = .ok s' → f.filled s' = true
  apart : r.fields.Pairwise Field.Apart

section Independent

variable {r} (hr : r.Independent)
include hr

/-- Two members can be read in either order. -/
theorem readMember_swap (key key' : String) (j k : Json) (s : σ) :
    (r.readMember key (Doc.ofJson j) s >>= r.readMember key' (Doc.ofJson k)).toOption =
      (r.readMember key' (Doc.ofJson k) s >>= r.readMember key (Doc.ofJson j)).toOption := by
  simp only [toOption_bind]
  cases hfind : r.fields.find? (·.isNamed key) with
  | none =>
      simp only [r.readMember_of_unnamed key j _ hfind, toOption_ok, Option.bind_some,
        Option.bind_fun_some]
  | some f =>
      cases hfind' : r.fields.find? (·.isNamed key') with
      | none =>
          simp only [r.readMember_of_unnamed key' k _ hfind', toOption_ok, Option.bind_some,
            Option.bind_fun_some]
      | some g =>
          have hf := List.mem_of_find?_eq_some hfind
          have hg := List.mem_of_find?_eq_some hfind'
          simp only [r.toOption_readMember_of_named key _ _ f hfind,
            r.toOption_readMember_of_named key' _ _ g hfind']
          by_cases hsame : f = g
          · -- The second of two members for one field is refused, whichever it is.
            subst hsame
            rw [f.once_twice (hr.fills f hf), f.once_twice (hr.fills f hf)]
          · exact (hr.apart.forall hf hg hsame).once_swap _ _ s

/-- The members of an object may come in any order. -/
theorem readMembers_perm (members members' : List (String × Json)) (h : members.Perm members')
    (s : σ) : (r.readMembers s (Doc.ofMembers members)).toOption =
      (r.readMembers s (Doc.ofMembers members')).toOption := by
  induction h generalizing s with
  | nil => rfl
  | cons m _ ih => simp only [readMembers_cons, toOption_bind, ih]
  | swap m n rest =>
      -- The two members that change places are read first, the rest after them.
      rw [readMembers_cons, readMembers_cons]
      simp only [readMembers_cons]
      have hswap := readMember_swap hr n.1 m.1 n.2 m.2 s
      rw [← bind_assoc, ← bind_assoc, toOption_bind (r.readMember n.1 _ s >>= _),
        toOption_bind (r.readMember m.1 _ s >>= _), hswap]
  | trans _ _ ih ih' => exact (ih s).trans (ih' s)

theorem alike_of_perm (members members' : List (String × Json)) (h : members.Perm members') :
    r.decode.Alike (.obj members) (.obj members') := by
  unfold Decoder.Alike
  rw [ofJson_obj, ofJson_obj, toOption_bind, toOption_bind, readMembers_perm hr _ _ h]

/-- Whether a field has been read depends on the members that name it only. -/
theorem filled_readMembers (f : Field σ) (hf : f ∈ r.fields) (members : List (String × Json))
    (hothers : ∀ m ∈ members, f.isNamed m.1 = false) (s s' : σ)
    (h : r.readMembers s (Doc.ofMembers members) = .ok s') : f.filled s' = f.filled s := by
  induction members generalizing s with
  | nil =>
      cases h
      rfl
  | cons m rest ih =>
      rw [readMembers_cons, bind_eq_ok] at h
      rcases h with ⟨s₁, hs₁, hrest⟩
      rw [ih (fun n hn => hothers n (List.mem_cons_of_mem m hn)) s₁ hrest]
      cases hfind : r.fields.find? (·.isNamed m.1) with
      | none =>
          rw [r.readMember_of_unnamed m.1 m.2 s hfind] at hs₁
          cases hs₁
          rfl
      | some g =>
          -- The field that the member names is another one.
          have hne : g ≠ f := by
            rintro rfl
            have hnamed := List.find?_some hfind
            rw [hothers m (List.mem_cons_self ..)] at hnamed
            cases hnamed
          have hread : g.read (Doc.ofJson m.2) s = .ok s₁ := by
            rw [← toOption_eq_some_iff, r.toOption_readMember_of_named m.1 _ s g hfind] at hs₁
            unfold Field.once at hs₁
            split at hs₁
            · cases hs₁
            · exact (toOption_eq_some_iff _ _).mp hs₁
          exact (hr.apart.forall (List.mem_of_find?_eq_some hfind) hf hne).keeps _ s s₁ hread

/-- A member may be left out if it is the only one for its field and what it brings to a
    draft without the field makes no difference in the end. -/
theorem alike_of_absent (front back : List (String × Json)) (m : String × Json) (f : Field σ)
    (hfind : r.fields.find? (·.isNamed m.1) = some f) (hblank : f.filled r.blank = false)
    (hothers : ∀ n ∈ front ++ back, f.isNamed n.1 = false)
    (hidle : ∀ s, f.filled s = false → ∃ s', f.read (Doc.ofJson m.2) s = .ok s' ∧
      (r.complete s').toOption = (r.complete s).toOption) :
    r.decode.Alike (.obj (front ++ m :: back)) (.obj (front ++ back)) := by
  -- The member can be read last.
  have hlast : (front ++ m :: back).Perm ((front ++ back) ++ [m]) :=
    List.perm_middle.trans (List.perm_append_singleton m _).symm
  refine (alike_of_perm hr _ _ hlast).trans ?_
  rw [ofJson_obj, ofJson_obj, readMembers_append, bind_assoc]
  cases hread : r.readMembers r.blank (Doc.ofMembers (front ++ back)) with
  | error e => rfl
  | ok s =>
      have hfree : f.filled s = false :=
        (filled_readMembers hr f (List.mem_of_find?_eq_some hfind) _ hothers _ s hread).trans
          hblank
      rcases hidle s hfree with ⟨s', hs', hcomplete⟩
      have hmember : (r.readMember m.1 (Doc.ofJson m.2) s).toOption = some s' := by
        rw [r.toOption_readMember_of_named m.1 _ s f hfind, Field.once, hfree, hs']
        rfl
      rw [toOption_eq_some_iff] at hmember
      change (r.readMember m.1 (Doc.ofJson m.2) s >>= _ >>= r.complete).toOption = _
      rw [hmember]
      exact hcomplete

end Independent

/-- A member may be exchanged for one that is read alike. -/
theorem alike_of_member (front back : List (String × Json)) (m n : String × Json)
    (h : ∀ s, (r.readMember m.1 (Doc.ofJson m.2) s).toOption =
      (r.readMember n.1 (Doc.ofJson n.2) s).toOption) :
    r.decode.Alike (.obj (front ++ m :: back)) (.obj (front ++ n :: back)) := by
  unfold Decoder.Alike
  simp only [ofJson_obj, readMembers_append, readMembers_cons, toOption_bind, h]

/-- The value of a field may be exchanged for one that is read alike, and its name for
    another of the same field. -/
theorem alike_of_field {name : String} {aliases : List String} {optional : Bool}
    {decoder : Decoder β} {get : σ → Option β} {set : σ → β → σ}
    (front back : List (String × Json)) (m n : String × Json)
    (hm : r.fields.find? (·.isNamed m.1) = some (.make name aliases optional decoder get set))
    (hn : r.fields.find? (·.isNamed n.1) = some (.make name aliases optional decoder get set))
    (h : decoder.Alike m.2 n.2) :
    r.decode.Alike (.obj (front ++ m :: back)) (.obj (front ++ n :: back)) := by
  refine r.alike_of_member front back m n fun s => ?_
  unfold Decoder.Alike Decoder.ofJson at h
  rw [r.toOption_readMember_of_named m.1 _ s _ hm, r.toOption_readMember_of_named n.1 _ s _ hn]
  unfold Field.once Field.make
  simp only [toOption_map, h]

/-- An item of a record that is written as a list may be exchanged for one that is read
    alike by the field at its place. -/
theorem alike_of_item (front back : List Json) (j k : Json)
    (h : ∀ f, r.fields[front.length]? = some f → ∀ s,
      (f.read (Doc.ofJson j) s).toOption = (f.read (Doc.ofJson k) s).toOption) :
    r.decode.Alike (.arr (front ++ j :: back)) (.arr (front ++ k :: back)) := by
  have hitems : ∀ (front : List Json) (fields : List (Field σ)) (total index : Nat) (s : σ),
      (∀ f, fields[front.length]? = some f → ∀ s,
        (f.read (Doc.ofJson j) s).toOption = (f.read (Doc.ofJson k) s).toOption) →
      (r.readItems total .counted index s fields (Doc.ofItems (front ++ j :: back))).toOption =
        (r.readItems total .counted index s fields
          (Doc.ofItems (front ++ k :: back))).toOption := by
    intro front
    -- Each item before the exchanged one is read by a field, which leaves one fewer of both.
    induction front with
    | nil =>
        intro fields total index s hf
        cases fields with
        | nil => rfl
        | cons f rest =>
            simp only [List.nil_append, Doc.ofItems, readItems, toOption_bind, hf f rfl]
    | cons first rest ih =>
        intro fields total index s hf
        cases fields with
        | nil => rfl
        | cons f fields =>
            simp only [List.cons_append, Doc.ofItems, readItems, toOption_bind]
            refine congrArg _ (funext fun s' => ih fields total (index + 1) s' fun g hg => ?_)
            exact hf g hg
  have hlength : (Doc.ofItems (front ++ j :: back)).length =
      (Doc.ofItems (front ++ k :: back)).length := by
    simp only [Doc.ofItems_eq_map, List.length_map, List.length_append, List.length_cons]
  unfold Decoder.Alike Decoder.ofJson
  simp only [Doc.ofJson, decode, toOption_bind, hlength, hitems front r.fields _ 0 r.blank h]

end Record

end PromptGraph
