import PromptGraph.Compile.Coercion

/-!
# Values and Kinds

What it takes for a value to fit a kind, and what it is brought to.

A value that has been brought to a kind is of the type that the kind has values of, and a value that
is of this type already stays as it is. So bringing values to a kind is a projection: doing it a
second time changes nothing. The type is all that matters about a kind, so the textual kinds are
alike, and so are the numeric ones.

A read looks at a value only through the kinds that it fits, so two values that
fit the same kinds cannot be told apart by where reads end up. Numbers all fit
alike, and so do the two truth values. A string may be a numeral or a word for a
truth value besides being text, never both, and has company in each case. So no
value of a kind is alone: it can be exchanged for another of the same kind
without any read noticing where to stop.

## Main definitions

* `Kind.valueType`: The JSON type of the values of a kind.
* `SameFits`: Two values fit the same kinds.

## Theorems

* `typeName_of_coerceTo`, `coerceTo_of_typeName`: The type of what a value is brought to,
  and of what stays as it is.
* `coerceTo_idem`: A value that was brought to a kind is as its kind has it.
* `coerce_projects`: Bringing values to a kind is a projection onto the values of its type.
* `padded_numeral_projects`: A numeral between blanks is brought to a number.
* `sameFits_num`, `sameFits_bool`, `sameFits_str`: Which values fit alike.
* `exists_ne_sameFits`: Every value of a kind can be exchanged for another.
-/

namespace PromptGraph

/-- The JSON type of the values of a kind. -/
def Kind.valueType : Kind → String
  | .int | .float => "number"
  | .string | .combo | .file | .enum => "string"
  | .boolean => "boolean"

section Types

variable (kind : Kind) (v w : Json)

/-- What a value is brought to is of the type of the kind. -/
theorem typeName_of_coerceTo (h : coerceTo kind v = some w) : w.typeName = kind.valueType := by
  cases v with
  | num n =>
      cases kind with
      | int | float | string | combo | file | enum =>
          cases h
          rfl
      | boolean => cases h
  | str s =>
      -- A string is read as a number or a truth value, or it is text.
      cases kind with
      | int | float =>
          rcases Option.map_eq_some_iff.mp h with ⟨n, -, rfl⟩
          rfl
      | boolean =>
          rcases Option.map_eq_some_iff.mp h with ⟨b, -, rfl⟩
          rfl
      | string | combo | file | enum =>
          cases h
          rfl
  | bool b =>
      cases kind with
      | boolean =>
          cases h
          rfl
      | int | float | string | combo | file | enum => cases h
  | null | arr items | obj members => cases kind <;> cases h

/-- A value of the type of the kind stays as it is. -/
theorem coerceTo_of_typeName (h : v.typeName = kind.valueType) : coerceTo kind v = some v := by
  cases v with
  | num n =>
      cases kind with
      | int | float => rfl
      | string | combo | boolean | file | enum => simp [Json.typeName, Kind.valueType] at h
  | str s =>
      cases kind with
      | string | combo | file | enum => rfl
      | int | float | boolean => simp [Json.typeName, Kind.valueType] at h
  | bool b =>
      cases kind with
      | boolean => rfl
      | int | float | string | combo | file | enum => simp [Json.typeName, Kind.valueType] at h
  | null | arr items | obj members => cases kind <;> simp [Json.typeName, Kind.valueType] at h

/-- The values that stay as they are are those of the type of the kind. -/
theorem coerceTo_eq_self_iff : coerceTo kind v = some v ↔ v.typeName = kind.valueType :=
  ⟨typeName_of_coerceTo kind v v, coerceTo_of_typeName kind v⟩

theorem coerceTo_idem (h : coerceTo kind v = some w) : coerceTo kind w = some w :=
  coerceTo_of_typeName kind w (typeName_of_coerceTo kind v w h)

/-- If a value stays as it is, so does any other of its type. -/
theorem coerceTo_self_congr (h : coerceTo kind v = some v) (htype : w.typeName = v.typeName) :
    coerceTo kind w = some w :=
  coerceTo_of_typeName kind w (htype.trans (typeName_of_coerceTo kind v v h))

/-- The textual kinds bring a value to the same. -/
theorem coerceTo_of_isTextual (h : kind.isTextual = true) :
    coerceTo kind v = coerceTo .string v := by
  cases kind with
  | string | combo | file | enum => cases v <;> rfl
  | int | float | boolean => cases h

/-- So do the numeric kinds. -/
theorem coerceTo_of_isNumeric (h : kind.isNumeric = true) : coerceTo kind v = coerceTo .int v := by
  cases kind with
  | int | float => cases v <;> rfl
  | string | combo | boolean | file | enum => cases h

end Types

/-- Bringing values to a kind is a projection onto the values of its type.

    What comes out is of the type, whatever went in, and stays as it is when it is brought to the
    kind again. The values that stay as they are are those that are of the type already. Which of
    the textual kinds it is makes no difference, nor which of the numeric ones. A null, an array and
    an object fit no kind. And where no kind is expected every value stays as it is. -/
theorem coerce_projects (kind : Kind) :
    (∀ v w, coerce (some kind) v = some w →
      w.typeName = kind.valueType ∧ coerce (some kind) w = some w ∧
        (v.typeName = kind.valueType → w = v)) ∧
    (∀ v, coerce (some kind) v = some v ↔ v.typeName = kind.valueType) ∧
    (∀ kind', kind.isTextual = true → kind'.isTextual = true →
      ∀ v, coerce (some kind) v = coerce (some kind') v) ∧
    (∀ kind', kind.isNumeric = true → kind'.isNumeric = true →
      ∀ v, coerce (some kind) v = coerce (some kind') v) ∧
    (fits (some kind) .null = false ∧ (∀ items, fits (some kind) (.arr items) = false) ∧
      ∀ members, fits (some kind) (.obj members) = false) ∧
    ∀ v, coerce none v = some v := by
  refine ⟨fun v w h => ⟨typeName_of_coerceTo kind v w h, coerceTo_idem kind v w h, fun htype => ?_⟩,
    coerceTo_eq_self_iff kind, fun kind' h h' v => ?_, fun kind' h h' v => ?_,
    ⟨?_, fun items => ?_, fun members => ?_⟩, fun v => rfl⟩
  · exact Option.some.inj (h.symm.trans (coerceTo_of_typeName kind v htype))
  · exact (coerceTo_of_isTextual kind v h).trans (coerceTo_of_isTextual kind' v h').symm
  · exact (coerceTo_of_isNumeric kind v h).trans (coerceTo_of_isNumeric kind' v h').symm
  · cases kind <;> rfl
  · cases kind <;> rfl
  · cases kind <;> rfl

/-- A numeral between blanks is a number where one is expected, the same for both numeric kinds, and
    the number stays as it is. A truth value fits one textual kind as little as another. -/
theorem padded_numeral_projects :
    coerce (some .float) (.str " 12 ") = some (.num (.int 12 (by decide))) ∧
    coerce (some .int) (.str " 12 ") = some (.num (.int 12 (by decide))) ∧
    coerce (some .float) (.num (.int 12 (by decide))) = some (.num (.int 12 (by decide))) ∧
    coerce (some .enum) (.bool true) = coerce (some .file) (.bool true) := by
  rcases coerce_projects .float with ⟨hprojects, -, -, hnumeric, -⟩
  rcases coerce_projects .enum with ⟨-, -, htextual, -⟩
  have hread : coerce (some .float) (.str " 12 ") = some (.num (.int 12 (by decide))) := rfl
  refine ⟨hread, ?_, (hprojects _ _ hread).2.1, htextual .file rfl rfl (.bool true)⟩
  exact (hnumeric .int rfl rfl (.str " 12 ")).symm.trans hread

/-- Two values fit the same kinds. -/
def SameFits (v w : Json) : Prop := ∀ expected, fits expected v = fits expected w

theorem SameFits.refl (v : Json) : SameFits v v := fun _ => rfl

theorem sameFits_num (m n : Number) : SameFits (.num m) (.num n) := by
  intro expected
  cases expected with
  | none => rfl
  | some kind => cases kind <;> rfl

theorem sameFits_bool (b c : Bool) : SameFits (.bool b) (.bool c) := by
  intro expected
  cases expected with
  | none => rfl
  | some kind => cases kind <;> rfl

/-- Strings fit alike if both or neither are numerals, and both or neither are words
    for truth values. -/
theorem sameFits_str (s t : String)
    (hnumber : (numberOfText? s).isSome = (numberOfText? t).isSome)
    (hboolean : (booleanOfText? s).isSome = (booleanOfText? t).isSome) :
    SameFits (.str s) (.str t) := by
  intro expected
  cases expected with
  | none => rfl
  | some kind =>
      cases kind with
      | int | float => simpa only [fits, coerce, coerceTo, Option.isSome_map] using hnumber
      | boolean => simpa only [fits, coerce, coerceTo, Option.isSome_map] using hboolean
      | string | combo | file | enum => rfl

theorem ne_or_ne {α : Type} (a b c : α) (h : a ≠ b) : a ≠ c ∨ b ≠ c := by
  by_cases hac : a = c
  · exact Or.inr fun hbc => h (hac.trans hbc.symm)
  · exact Or.inl hac

theorem exists_ne_sameFits_str (s : String) : ∃ t, t ≠ s ∧ SameFits (.str s) (.str t) := by
  have hpick : ∀ t u : String, t ≠ u → SameFits (.str s) (.str t) → SameFits (.str s) (.str u) →
      ∃ w, w ≠ s ∧ SameFits (.str s) (.str w) := by
    intro t u hne ht hu
    rcases ne_or_ne t u s hne with h | h
    · exact ⟨t, h, ht⟩
    · exact ⟨u, h, hu⟩
  by_cases hword : s = "true" ∨ s = "false"
  · -- A word for a truth value is no numeral, and neither is the other one.
    refine hpick "true" "false" (by decide) ?_ ?_ <;>
      rcases hword with rfl | rfl <;> exact sameFits_str _ _ (by decide) (by decide)
  · rw [not_or] at hword
    have hboolean : (booleanOfText? s).isSome = false := by
      simp only [booleanOfText?, hword.1, hword.2, if_false, Option.isSome_none]
    -- Any other string is a numeral or plain text.
    cases hnumber : (numberOfText? s).isSome with
    | true =>
        exact hpick "0" "1" (by decide) (sameFits_str _ _ (hnumber.trans (by decide))
          (hboolean.trans (by decide))) (sameFits_str _ _ (hnumber.trans (by decide))
          (hboolean.trans (by decide)))
    | false =>
        exact hpick "a" "b" (by decide) (sameFits_str _ _ (hnumber.trans (by decide))
          (hboolean.trans (by decide))) (sameFits_str _ _ (hnumber.trans (by decide))
          (hboolean.trans (by decide)))

/-- A value that is as its kind has it can be exchanged for another that is. -/
theorem exists_ne_sameFits (kind : Kind) (v : Json) (h : coerceTo kind v = some v) :
    ∃ w, w ≠ v ∧ coerceTo kind w = some w ∧ SameFits v w := by
  cases v with
  | num n =>
      have hne : Json.num (.int 0 (by decide)) ≠ .num (.int 1 (by decide)) := by
        intro heq
        cases heq
      rcases ne_or_ne _ _ (Json.num n) hne with hdiffers | hdiffers
      · exact ⟨_, hdiffers, coerceTo_self_congr kind (.num n) _ h rfl, sameFits_num n _⟩
      · exact ⟨_, hdiffers, coerceTo_self_congr kind (.num n) _ h rfl, sameFits_num n _⟩
  | bool b =>
      refine ⟨.bool !b, fun heq => ?_, coerceTo_self_congr kind (.bool b) _ h rfl,
        sameFits_bool b _⟩
      injection heq with heq
      cases b <;> cases heq
  | str s =>
      rcases exists_ne_sameFits_str s with ⟨t, hne, hsame⟩
      exact ⟨.str t, fun heq => hne (Json.str.inj heq), coerceTo_self_congr kind (.str s) _ h rfl,
        hsame⟩
  | null => cases kind <;> cases h
  | arr items => cases kind <;> cases h
  | obj members => cases kind <;> cases h

end PromptGraph
