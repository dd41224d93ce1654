import Mathlib.Data.List.Forall2
import PromptGraph.Proofs.Loops

/-!
# Runs That End Alike

Two runs, side by side, that may differ in what they start from.

They end alike if both succeed with related values, or both fail with related
errors; one never succeeds where the other fails. Sequences of steps that end
alike end alike, and so do folds. The folds may be over two lists whose elements
are paired off, or over one list while the relation of the states follows what is
left of it.

With equality for both relations this says that the results are the same, so a
statement about equal runs is a case of this one.

## Main definitions

* `EndAlike`: Both runs succeed, or both fail.

## Theorems

* `forall₂_of_map_eq`: How items of two lists are paired off.
* `EndAlike.bind`: Sequences of runs that end alike.
* `EndAlike.foldlM`: Folds over lists that are paired off.
* `EndAlike.foldlM_left`: Folds over one list, with a relation that follows it.
* `foldlM_both`: Two such folds that are known to go through.
* `EndAlike.eq`: Runs that end in the same way have the same result.
* `EndAlike.ok_iff`, `EndAlike.exists_ok`: If one succeeds, so does the other.
-/

namespace PromptGraph

/-- The items of two lists with equal images have equal images, one by one. -/
theorem forall₂_of_map_eq {α β : Type} (f : α → β) (items items' : List α)
    (h : items.map f = items'.map f) : List.Forall₂ (fun a b => f a = f b) items items' := by
  rw [← List.forall₂_eq_eq_eq] at h
  exact List.forall₂_map_right_iff.mp (List.forall₂_map_left_iff.mp h)

variable {ε α α' β β' : Type}

/-- Two runs end alike: both succeed with related values, or both fail with related
    errors. -/
inductive EndAlike (E : ε → ε → Prop) (R : α → β → Prop) : Except ε α → Except ε β → Prop where
  | ok {a : α} {b : β} (h : R a b) : EndAlike E R (.ok a) (.ok b)
  | error {e e' : ε} (h : E e e') : EndAlike E R (.error e) (.error e')

namespace EndAlike

variable {E : ε → ε → Prop} {R : α → β → Prop}

theorem of_eq (hE : ∀ e, E e e) (x y : Except ε α) (h : x = y) : EndAlike E Eq x y := by
  subst h
  cases x with
  | ok a => exact .ok rfl
  | error e => exact .error (hE e)

theorem eq {x y : Except ε α} (h : EndAlike Eq Eq x y) : x = y := by
  cases h with
  | ok h => rw [h]
  | error h => rw [h]

theorem ok_iff {x y : Except ε α} (h : EndAlike E Eq x y) (a : α) : x = .ok a ↔ y = .ok a := by
  cases h with
  | ok h => rw [h]
  | error h => simp only [reduceCtorEq]

theorem exists_ok {x : Except ε α} {y : Except ε β} (h : EndAlike E R x y) (a : α)
    (hx : x = .ok a) : ∃ b, y = .ok b ∧ R a b := by
  cases h with
  | ok h =>
      cases hx
      exact ⟨_, rfl, h⟩
  | error => cases hx

theorem toOption_eq {x y : Except ε α} (h : EndAlike E Eq x y) : x.toOption = y.toOption := by
  cases h with
  | ok h => rw [h]
  | error h => rfl

theorem mono {S : α → β → Prop} {x : Except ε α} {y : Except ε β} (h : EndAlike E R x y)
    (hS : ∀ a b, R a b → S a b) : EndAlike E S x y := by
  cases h with
  | ok h => exact .ok (hS _ _ h)
  | error h => exact .error h

theorem mono_of_ok {S : α → β → Prop} {x : Except ε α} {y : Except ε β} (h : EndAlike E R x y)
    (hS : ∀ a b, x = .ok a → R a b → S a b) : EndAlike E S x y := by
  cases h with
  | ok h => exact .ok (hS _ _ rfl h)
  | error h => exact .error h

theorem bind {S : α' → β' → Prop} {x : Except ε α} {y : Except ε β} {f : α → Except ε α'}
    {g : β → Except ε β'} (h : EndAlike E R x y)
    (hnext : ∀ a b, R a b → EndAlike E S (f a) (g b)) : EndAlike E S (x >>= f) (y >>= g) := by
  cases h with
  | ok h => exact hnext _ _ h
  | error h => exact .error h

/-- Folds over two lists that are paired off end alike if their steps do. -/
theorem foldlM {P : α' → β' → Prop} {f : α → α' → Except ε α} {g : β → β' → Except ε β}
    {items : List α'} {items' : List β'} (hitems : List.Forall₂ P items items')
    (step : ∀ i i' a b, P i i' → R a b → EndAlike E R (f a i) (g b i')) (a : α) (b : β)
    (start : R a b) : EndAlike E R (items.foldlM f a) (items'.foldlM g b) := by
  induction hitems generalizing a b with
  | nil => exact .ok start
  | @cons i i' items items' hi _ ih =>
      rw [List.foldlM_cons, List.foldlM_cons]
      exact (step i i' a b hi start).bind ih

/-- Folds over one list end alike if each step takes states that are related as to what is
    left of the list to such states for the rest. -/
theorem foldlM_left {f : α → α' → Except ε α} {g : β → α' → Except ε β}
    (Q : List α' → α → β → Prop)
    (step : ∀ i rest a b, Q (i :: rest) a b → EndAlike E (Q rest) (f a i) (g b i))
    (items : List α') (a : α) (b : β) (start : Q items a b) :
    EndAlike E (Q []) (items.foldlM f a) (items.foldlM g b) := by
  induction items generalizing a b with
  | nil => exact .ok start
  | cons i rest ih =>
      rw [List.foldlM_cons, List.foldlM_cons]
      exact (step i rest a b start).bind ih

end EndAlike

/-- Two folds over one list that both go through keep a relation that follows what is left of the
    list. -/
theorem foldlM_both {f : α → α' → Except ε α} {g : β → α' → Except ε β}
    (Q : List α' → α → β → Prop)
    (step : ∀ i rest a b a' b', Q (i :: rest) a b → f a i = .ok a' → g b i = .ok b' → Q rest a' b')
    (items : List α') (a a' : α) (b b' : β) (start : Q items a b)
    (ha : items.foldlM f a = .ok a') (hb : items.foldlM g b = .ok b') : Q [] a' b' := by
  induction items generalizing a b with
  | nil =>
      cases ha
      cases hb
      exact start
  | cons i rest ih =>
      rw [List.foldlM_cons, bind_eq_ok] at ha hb
      rcases ha with ⟨m, hm, ha⟩
      rcases hb with ⟨n, hn, hb⟩
      exact ih m n (step i rest a b m n start hm hn) ha hb

end PromptGraph
