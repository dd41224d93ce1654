import PromptGraph.Proofs.Wire.Maps
import PromptGraph.Proofs.Wire.Records
import PromptGraph.Workflow.NodeId

/-!
# Reading Back What Was Written

Decoders that undo the way in which values are written.

Plain values are written as themselves, and numbers of 32 or 64 bits fit the type that they are
read as. A list is read back if its items are. A record is written member by member. Each member
names a field that the draft does not have yet, so reading it sets the field. A member that is
left out when it has no value leaves its field unset, and then the record is completed without
a value, as it should be.

## Main definitions

* `Decoder.Undoes`: A decoder reads back what is written.

## Theorems

* `Doc.natural_ofJson`, `Doc.undoes_u32`, `Doc.undoes_u64`, `NodeId.undoes_decoder`: Numbers
  and ids.
* `Doc.undoes_list`, `Doc.undoes_nullable`: Lists, and values that may be absent.
* `Record.readMembers_named`: A member sets its field.
* `Record.readMembers_optional`: A member that may be left out.
-/

namespace PromptGraph

variable {α β σ : Type}

/-- A decoder reads back what is written. -/
def Decoder.Undoes (decoder : Decoder α) (write : α → Json) : Prop :=
  ∀ a, decoder.ofJson (write a) = .ok a

namespace Doc

theorem undoes_string : string.Undoes Json.str := fun _ => rfl

theorem undoes_binary64 : binary64.Undoes fun x => .num (.double x) := fun _ => rfl

/-- A number of 64 bits is read as itself if it is below the bound. -/
theorem natural_ofJson (name : String) (bound : Nat) (n : UInt64) (h : n.toNat < bound) :
    (natural name bound).ofJson (jsonOfUInt64 n) = .ok n.toNat := by
  have hrange : 0 ≤ (n.toNat : Int) ∧ (n.toNat : Int) < bound := by omega
  exact (if_pos hrange).trans (congrArg Except.ok (Int.toNat_natCast _))

theorem undoes_u64 : u64.Undoes jsonOfUInt64 := by
  intro n
  have hread : ∀ j, u64.ofJson j =
      ((natural "u64" 0x10000000000000000).ofJson j).map UInt64.ofNat := fun _ => rfl
  rw [hread, natural_ofJson _ _ n n.toNat_lt]
  exact congrArg Except.ok UInt64.ofNat_toNat

theorem undoes_u32 : u32.Undoes jsonOfUInt32 := by
  intro n
  have hread : ∀ j, u32.ofJson j = ((natural "u32" 0x100000000).ofJson j).map UInt32.ofNat :=
    fun _ => rfl
  have hword : jsonOfUInt32 n = jsonOfUInt64 n.toUInt64 := rfl
  have hnat : n.toUInt64.toNat = n.toNat := n.toNat_toUInt64
  rw [hread, hword, natural_ofJson _ _ n.toUInt64 (hnat ▸ n.toNat_lt), hnat]
  exact congrArg Except.ok UInt32.ofNat_toNat

/-- A list is read back if its items are. -/
theorem undoes_list {item : Decoder α} {write : α → Json} (h : item.Undoes write) :
    (list item).Undoes fun as => .arr (as.map write) := by
  intro as
  have hitems : items item (ofItems (as.map write)) = .ok as := by
    induction as with
    | nil => rfl
    | cons a rest ih =>
        have hfirst : item (ofJson (write a)) = .ok a := h a
        rw [List.map_cons, ofItems, items, hfirst, ih]
        rfl
  unfold Decoder.ofJson
  rw [ofJson, list, hitems]
  rfl

/-- A value that is there is read back by a decoder that also takes null. -/
theorem nullable_ofJson {inner : Decoder α} (j : Json) (hj : j ≠ .null) (a : α)
    (h : inner.ofJson j = .ok a) : (nullable inner).ofJson j = .ok (some a) := by
  rw [← toOption_eq_some_iff, toOption_nullable inner j hj, h]
  rfl

theorem undoes_nullable {inner : Decoder α} {write : α → Json} (h : inner.Undoes write)
    (hwrite : ∀ a, write a ≠ .null) :
    (nullable inner).Undoes fun a? => (a?.map write).getD .null := by
  intro a?
  cases a? with
  | none => rfl
  | some a => exact nullable_ofJson (write a) (hwrite a) a (h a)

end Doc

theorem NodeId.undoes_decoder : NodeId.decoder.Undoes Json.str := by
  intro id
  unfold Decoder.ofJson NodeId.decoder
  rw [Doc.value_ofJson]
  rfl

namespace Record

variable (r : Record σ α) {name : String} {aliases : List String} {optional : Bool}
  {get : σ → Option β} {set : σ → β → σ}

/-- A member sets its field, if the draft does not have it yet. -/
theorem readMembers_named {decoder : Decoder β} (key : String)
    (hfind : r.fields.find? (·.isNamed key) =
      some (.make name aliases optional decoder get set))
    (j : Json) (b : β) (hread : decoder.ofJson j = .ok b) (s : σ) (hfree : get s = none)
    (rest : List (String × Json)) :
    r.readMembers s (Doc.ofMembers ((key, j) :: rest)) =
      r.readMembers (set s b) (Doc.ofMembers rest) := by
  have hmember : r.readMember key (Doc.ofJson j) s = .ok (set s b) := by
    rw [← toOption_eq_some_iff, r.toOption_readMember_of_free key hfind j s hfree, hread]
    rfl
  rw [readMembers_cons, hmember]
  rfl

/-- A member that is left out when it has no value sets its field when it has one. -/
theorem readMembers_optional {decoder : Decoder β} {write : β → Json}
    {get : σ → Option (Option β)} {set : σ → Option β → σ} (key : String)
    (hfind : r.fields.find? (·.isNamed key) =
      some (.make name aliases optional (Doc.nullable decoder) get set))
    (h : decoder.Undoes write) (hwrite : ∀ b, write b ≠ .null) (b? : Option β) (s : σ)
    (hfree : get s = none) (rest : List (String × Json)) :
    r.readMembers s (Doc.ofMembers (Json.optionalMember key (b?.map write) ++ rest)) =
      r.readMembers (if b?.isSome then set s b? else s) (Doc.ofMembers rest) := by
  cases b? with
  | none => rfl
  | some b =>
      exact r.readMembers_named key hfind (write b) (some b)
        (Doc.nullable_ofJson (write b) (hwrite b) b (h b)) s hfree rest

end Record

end PromptGraph
