import PromptGraph.Proofs.Declarations

/-!
# The Class of a Type Name

Which names are scalars and which are link types, and what normalizing makes of a name.

A name is looked at in four ways, one after the other: as a scalar tag, as an inline enumeration, as
a link type, and then it is unknown. The order does not matter. A tag has no comma, in whatever case
its letters are written, and no link type is a tag or has a comma, so at most one of the first three
applies.

There are two ways to normalize. An unknown class has the kind of text, and an unknown name becomes
the tag of text; and as inline enumerations have the kind of enumerations, they become its tag. All
other names stay, letters and all. So a name that has been normalized is known, has the kind that it
had before, and is not altered any more.

## Theorems

* `Kind.ofTag?_eq_some_iff`: The tags in any case of their letters.
* `Kind.comma_not_mem_of_ofTag?`: They have no comma.
* `classify_eq_scalar_iff`, `classify_eq_link_iff`: The names of a class.
* `normalize_of_comma`, `normalize_of_unknown`, `normalize_of_plain`: What becomes of a name.
* `classify_normalize`: The class of a name that has been normalized.
* `normalizers_agree`: Classes and names are normalized to the same.
-/

namespace PromptGraph

namespace Kind

/-- Tags are written in capital letters. -/
theorem toUpper_tag (kind : Kind) : kind.tag.toList.map Char.toUpper = kind.tag.toList := by
  cases kind <;> decide

/-- A name has the kind whose tag it is when it is written in capital letters. -/
theorem ofTag?_eq_some_iff (name : String) (kind : Kind) :
    ofTag? name = some kind ↔ name.toList.map Char.toUpper = kind.tag.toList := by
  constructor
  · intro h
    have hsame : sameLetters name kind.tag = true :=
      List.find?_some (p := fun kind : Kind => sameLetters name kind.tag) h
    unfold sameLetters at hsame
    rw [beq_iff_eq, toUpper_tag] at hsame
    exact hsame
  · intro h
    -- The name can be exchanged for the tag, and the tags are told apart.
    have hsame : ∀ t, sameLetters name t = sameLetters kind.tag t := by
      intro t
      unfold sameLetters
      rw [h, toUpper_tag]
    unfold ofTag?
    simp only [hsame]
    cases kind <;> decide

theorem comma_not_mem_of_ofTag? (name : String) (kind : Kind) (h : ofTag? name = some kind) :
    ',' ∉ name.toList := by
  intro hcomma
  have hupper : ',' ∈ name.toList.map Char.toUpper := List.mem_map_of_mem hcomma
  rw [(ofTag?_eq_some_iff name kind).mp h] at hupper
  have htag : ',' ∉ kind.tag.toList := by cases kind <;> decide
  exact htag hupper

end Kind

variable (name : String)

theorem classify_of_comma (h : ',' ∈ name.toList) : classify name = .scalar .enum := by
  unfold classify
  cases htag : Kind.ofTag? name with
  | some kind => exact absurd h (Kind.comma_not_mem_of_ofTag? name kind htag)
  | none => simp only [if_pos h]

/-- The scalars of a kind are its tag and, for enumerations, the names with a comma. -/
theorem classify_eq_scalar_iff (kind : Kind) :
    classify name = .scalar kind ↔
      name.toList.map Char.toUpper = kind.tag.toList ∨ kind = .enum ∧ ',' ∈ name.toList := by
  rw [← Kind.ofTag?_eq_some_iff]
  by_cases hcomma : ',' ∈ name.toList
  · -- A name with a comma is no tag, so it is an enumeration and nothing else.
    have hnone : Kind.ofTag? name ≠ some kind := fun h =>
      Kind.comma_not_mem_of_ofTag? name kind h hcomma
    rw [classify_of_comma name hcomma]
    simp only [hnone, hcomma, and_true, false_or, TypeClass.scalar.injEq, eq_comm]
  · unfold classify
    cases htag : Kind.ofTag? name with
    | some other =>
        simp only [TypeClass.scalar.injEq, Option.some.injEq, hcomma, and_false, or_false]
    | none =>
        simp only [hcomma, if_false, and_false, or_false, reduceCtorEq, iff_false]
        split <;> exact TypeClass.noConfusion

theorem classify_eq_link_iff : classify name = .link ↔ name ∈ linkTypes := by
  rw [← isLink_classify_iff]
  cases classify name <;> simp [TypeClass.isLink]

/-- The names that are carried by value are the tags and those with a comma. -/
theorem exists_classify_eq_scalar_iff :
    (∃ kind, classify name = .scalar kind) ↔
      (∃ kind : Kind, name.toList.map Char.toUpper = kind.tag.toList) ∨ ',' ∈ name.toList := by
  simp only [classify_eq_scalar_iff, exists_or, exists_eq_left]

theorem normalize_of_comma (h : ',' ∈ name.toList) : normalize name = Kind.enum.tag := by
  unfold normalize
  simp only [classify_of_comma name h, if_pos h]

theorem normalize_of_unknown (h : classify name = .unknown) :
    normalize name = Kind.string.tag := by
  unfold normalize
  rw [h]

/-- A known name without a comma stays as it is. -/
theorem normalize_of_plain (hcomma : ',' ∉ name.toList) (hknown : classify name ≠ .unknown) :
    normalize name = name := by
  unfold normalize
  split
  · rw [if_neg hcomma]
  · rfl
  · rfl
  · exact absurd ‹_› hknown

/-- Normalizing leaves the class of a name as it is, or makes it text. -/
theorem classify_normalize :
    classify (normalize name) =
      if classify name = .unknown then .scalar .string else classify name := by
  by_cases hcomma : ',' ∈ name.toList
  · rw [normalize_of_comma name hcomma, classify_of_comma name hcomma]
    decide
  · by_cases hknown : classify name = .unknown
    · rw [normalize_of_unknown name hknown, if_pos hknown]
      decide
    · rw [normalize_of_plain name hcomma hknown, if_neg hknown]

theorem classify_normalize_ne_unknown : classify (normalize name) ≠ .unknown := by
  rw [classify_normalize]
  split
  · exact TypeClass.noConfusion
  · assumption

theorem comma_not_mem_normalize : ',' ∉ (normalize name).toList := by
  by_cases hcomma : ',' ∈ name.toList
  · rw [normalize_of_comma name hcomma]
    decide
  · by_cases hknown : classify name = .unknown
    · rw [normalize_of_unknown name hknown]
      decide
    · rwa [normalize_of_plain name hcomma hknown]

theorem kind?_classify_normalize :
    (classify (normalize name)).kind? = (classify name).kind? := by
  rw [classify_normalize]
  split
  · rename_i hunknown
    rw [hunknown]
    rfl
  · rfl

/-- A name is a link type if it is in the set, and a scalar if it is a tag up to the case of ASCII
    letters or has a comma. Normalizing a name a second time changes nothing, what it gives is
    known, and its kind is that of the name, so that a name is passed by reference before it is
    normalized if and only if it is afterwards. -/
theorem normalizers_agree :
    (classify name = .link ↔ name ∈ linkTypes) ∧
    ((∃ kind, classify name = .scalar kind) ↔
      (∃ kind : Kind, name.toList.map Char.toUpper = kind.tag.toList) ∨ ',' ∈ name.toList) ∧
    normalize (normalize name) = normalize name ∧
    classify (normalize name) ≠ .unknown ∧
    (classify (normalize name)).kind? = (classify name).kind? ∧
    (classify (normalize name) = .link ↔ classify name = .link) := by
  refine ⟨classify_eq_link_iff name, exists_classify_eq_scalar_iff name, ?_,
    classify_normalize_ne_unknown name, kind?_classify_normalize name, ?_⟩
  · exact normalize_of_plain _ (comma_not_mem_normalize name) (classify_normalize_ne_unknown name)
  · rw [classify_normalize]
    by_cases hknown : classify name = .unknown <;> simp [hknown]

end PromptGraph
