import PromptGraph.Trace

/-!
# Loops That May Stop

Every pass of the compiler walks a list, and the first step that fails ends the
walk. With the reports left out a pass is a monadic fold whose steps may fail,
and this module says what such a fold does.

A fold that succeeds has gone through every step, so what each step keeps is
kept by the whole, and a fold over two lists is one fold after the other. A fold
that fails has gone through the steps before some element and failed at it; the
split names that element, which is how the first of several faults is found.

## Main definitions

* `SameUnless`: Two results are the same, unless the first is a certain error.

## Theorems

* `bind_eq_ok`, `bind_eq_error`: How a sequence succeeds and fails.
* `Traced.result_bind_eq_ok`, `Traced.result_bind_eq_error`: The same for
  computations that report.
* `Traced.events_bind_of_ok`, `Traced.result_foldlM`: Their reports, and folds of them.
* `foldlM_append_ok`, `foldlM_append_error`: A fold over two lists passes through a
  middle state, unless it fails before.
* `foldlM_split_ok`: A fold that succeeds passes through each of its elements.
* `foldlM_ok_at`: It succeeds at each of them.
* `foldlM_invariant`: What every step keeps, a fold keeps.
* `foldlM_history`: The same for what is said of the elements done so far.
* `foldlM_total`: A fold whose steps all succeed succeeds.
* `foldlM_related`: Folds of related steps stay related.
* `foldlM_error_split`: A fold that fails does so at some element, all those
  before it having succeeded.
* `foldlM_error_at`: Conversely, it fails where one of its steps does.
* `SameUnless.bind`, `SameUnless.foldlM`: Folds of steps with the same results,
  unless they fail in a certain way, are alike in this too.
-/

namespace PromptGraph

variable {ε α β : Type}

theorem bind_eq_ok (x : Except ε α) (f : α → Except ε β) (b : β) :
    (x >>= f) = .ok b ↔ ∃ a, x = .ok a ∧ f a = .ok b := by
  cases x with
  | error e => simp [bind, Except.bind]
  | ok a => simp [bind, Except.bind]

theorem bind_eq_error (x : Except ε α) (f : α → Except ε β) (e : ε) :
    (x >>= f) = .error e ↔ x = .error e ∨ ∃ a, x = .ok a ∧ f a = .error e := by
  cases x with
  | error e' => simp [bind, Except.bind]
  | ok a => simp [bind, Except.bind]

namespace Traced

theorem result_bind_eq_ok (x : Traced ε α) (f : α → Traced ε β) (b : β) :
    (x >>= f).result = .ok b ↔ ∃ a, x.result = .ok a ∧ (f a).result = .ok b := by
  rw [result_bind, bind_eq_ok]

theorem result_bind_eq_error (x : Traced ε α) (f : α → Traced ε β) (e : ε) :
    (x >>= f).result = .error e ↔
      x.result = .error e ∨ ∃ a, x.result = .ok a ∧ (f a).result = .error e := by
  rw [result_bind, bind_eq_error]

/-- With another type of errors a computation gives the same results. -/
theorem result_mapError_eq_ok {ε' : Type} (f : ε → ε') (x : Traced ε α) (a : α) :
    (x.mapError f).result = .ok a ↔ x.result = .ok a := by
  unfold mapError
  cases x.result with
  | ok b => exact ⟨fun h => congrArg _ (Except.ok.inj h), fun h => congrArg _ (Except.ok.inj h)⟩
  | error e => exact ⟨fun h => (by cases h), fun h => (by cases h)⟩

/-- Reports come before what follows them and change nothing of its result. -/
@[simp] theorem result_emitAll_bind (events : List Event) (f : Unit → Traced ε β) :
    (emitAll events >>= f).result = (f ()).result := rfl

@[simp] theorem result_emit_bind (event : Event) (f : Unit → Traced ε β) :
    (emit event >>= f).result = (f ()).result := rfl

/-- What is reported by a sequence whose first part goes through. -/
theorem events_bind_of_ok (x : Traced ε α) (f : α → Traced ε β) (a : α) (h : x.result = .ok a) :
    (x >>= f).events = x.events ++ (f a).events := by
  rw [events_bind, h]

/-- The result of a fold of steps that report is the fold of their results. -/
theorem result_foldlM (f : β → α → Traced ε β) (items : List α) (b : β) :
    (items.foldlM f b).result = items.foldlM (fun b a => (f b a).result) b := by
  induction items generalizing b with
  | nil => rfl
  | cons a rest ih =>
      rw [List.foldlM_cons, Traced.result_bind, List.foldlM_cons]
      simp only [ih]

end Traced

theorem foldlM_append_ok (f : β → α → Except ε β) (front back : List α) (b c : β) :
    (front ++ back).foldlM f b = .ok c ↔
      ∃ m, front.foldlM f b = .ok m ∧ back.foldlM f m = .ok c := by
  rw [List.foldlM_append, bind_eq_ok]

theorem foldlM_append_error (f : β → α → Except ε β) (front back : List α) (b : β) (e : ε) :
    (front ++ back).foldlM f b = .error e ↔ front.foldlM f b = .error e ∨
      ∃ m, front.foldlM f b = .ok m ∧ back.foldlM f m = .error e := by
  rw [List.foldlM_append, bind_eq_error]

/-- A fold that succeeds passes through any of its elements, and succeeds there. -/
theorem foldlM_split_ok (f : β → α → Except ε β) (front back : List α) (a : α) (b c : β) :
    (front ++ a :: back).foldlM f b = .ok c ↔
      ∃ m n, front.foldlM f b = .ok m ∧ f m a = .ok n ∧ back.foldlM f n = .ok c := by
  simp only [foldlM_append_ok, List.foldlM_cons, bind_eq_ok]
  constructor
  · rintro ⟨m, hfront, n, hstep, hback⟩
    exact ⟨m, n, hfront, hstep, hback⟩
  · rintro ⟨m, n, hfront, hstep, hback⟩
    exact ⟨m, hfront, n, hstep, hback⟩

/-- A fold that succeeds has succeeded at each of its elements. -/
theorem foldlM_ok_at (f : β → α → Except ε β) (items : List α) (a : α) (ha : a ∈ items) (b c : β)
    (run : items.foldlM f b = .ok c) : ∃ m n, f m a = .ok n := by
  rcases List.append_of_mem ha with ⟨front, back, rfl⟩
  rw [foldlM_split_ok] at run
  rcases run with ⟨m, n, -, hstep, -⟩
  exact ⟨m, n, hstep⟩

/-- What every step keeps, the whole fold keeps. -/
theorem foldlM_invariant {f : β → α → Except ε β} (P : β → Prop) (items : List α)
    (step : ∀ a ∈ items, ∀ b c, P b → f b a = .ok c → P c) (b c : β) (start : P b)
    (run : items.foldlM f b = .ok c) : P c := by
  induction items generalizing b with
  | nil =>
      rw [List.foldlM_nil] at run
      cases run
      exact start
  | cons a rest ih =>
      rw [List.foldlM_cons, bind_eq_ok] at run
      rcases run with ⟨m, hm, hrest⟩
      have hnext := step a (List.mem_cons_self ..) b m start hm
      exact ih (fun a' h => step a' (List.mem_cons_of_mem a h)) m hnext hrest

/-- A statement about the elements done so far that every step carries on holds, in
    the end, of all of them. -/
theorem foldlM_history {f : β → α → Except ε β} (P : List α → β → Prop) (items : List α)
    (step : ∀ done a b c, P done b → f b a = .ok c → P (done ++ [a]) c)
    (done : List α) (b c : β) (start : P done b) (run : items.foldlM f b = .ok c) :
    P (done ++ items) c := by
  induction items generalizing done b with
  | nil =>
      cases run
      rw [List.append_nil]
      exact start
  | cons a rest ih =>
      rw [List.foldlM_cons, bind_eq_ok] at run
      rcases run with ⟨m, hm, hrest⟩
      have hnext := ih (done ++ [a]) m (step done a b m start hm) hrest
      rwa [List.append_assoc] at hnext

theorem foldlM_total {f : β → α → Except ε β} (items : List α)
    (step : ∀ a ∈ items, ∀ b, ∃ c, f b a = .ok c) (b : β) :
    ∃ c, items.foldlM f b = .ok c := by
  induction items generalizing b with
  | nil => exact ⟨b, rfl⟩
  | cons a rest ih =>
      rcases step a (List.mem_cons_self ..) b with ⟨m, hm⟩
      rcases ih (fun a' h => step a' (List.mem_cons_of_mem a h)) m with ⟨c, hc⟩
      exact ⟨c, by rw [List.foldlM_cons, bind_eq_ok]; exact ⟨m, hm, hc⟩⟩

/-- Folds of steps that keep two states related end in related states. -/
theorem foldlM_related {γ : Type} {f : β → α → Except ε β} {g : γ → α → Except ε γ}
    (R : β → γ → Prop) (items : List α)
    (step : ∀ a ∈ items, ∀ b c b', R b c → f b a = .ok b' → ∃ c', g c a = .ok c' ∧ R b' c')
    (b b' : β) (c : γ) (start : R b c) (run : items.foldlM f b = .ok b') :
    ∃ c', items.foldlM g c = .ok c' ∧ R b' c' := by
  induction items generalizing b c with
  | nil =>
      cases run
      exact ⟨c, rfl, start⟩
  | cons a rest ih =>
      rw [List.foldlM_cons, bind_eq_ok] at run
      rcases run with ⟨m, hm, hrest⟩
      rcases step a (List.mem_cons_self ..) b c m start hm with ⟨n, hn, hrelated⟩
      rcases ih (fun a' h => step a' (List.mem_cons_of_mem a h)) m n hrelated hrest with
        ⟨c', hc', hend⟩
      exact ⟨c', by rw [List.foldlM_cons, bind_eq_ok]; exact ⟨n, hn, hc'⟩, hend⟩

/-- A fold that fails has gone through the elements before some element and
    failed at that one. -/
theorem foldlM_error_split {f : β → α → Except ε β} (items : List α) (b : β) (e : ε)
    (run : items.foldlM f b = .error e) :
    ∃ front a back m, items = front ++ a :: back ∧ front.foldlM f b = .ok m ∧
      f m a = .error e := by
  induction items generalizing b with
  | nil => cases run
  | cons a rest ih =>
      rw [List.foldlM_cons, bind_eq_error] at run
      rcases run with hfail | ⟨m, hm, hrest⟩
      · exact ⟨[], a, rest, b, rfl, rfl, hfail⟩
      · -- The step here succeeds, so it joins those before the failing one.
        rcases ih m hrest with ⟨front, a', back, m', hsplit, hfront, hfail⟩
        refine ⟨a :: front, a', back, m', by rw [hsplit]; rfl, ?_, hfail⟩
        rw [List.foldlM_cons, bind_eq_ok]
        exact ⟨m, hm, hfront⟩

/-- A fold fails with the first of its steps that does. -/
theorem foldlM_error_at {f : β → α → Except ε β} {front : List α} {b m : β}
    (hfront : front.foldlM f b = .ok m) {a : α} {e : ε} (hfail : f m a = .error e)
    (back : List α) : (front ++ a :: back).foldlM f b = .error e := by
  refine (foldlM_append_error f front (a :: back) b e).mpr (Or.inr ⟨m, hfront, ?_⟩)
  rw [List.foldlM_cons]
  exact (bind_eq_error _ _ e).mpr (Or.inl hfail)

/-- Two results are the same, unless the first is an error of some sort. -/
def SameUnless (sort : ε → Prop) (x y : Except ε α) : Prop :=
  x = y ∨ ∃ e, x = .error e ∧ sort e

namespace SameUnless

variable {sort : ε → Prop}

theorem bind {x y : Except ε α} {f g : α → Except ε β} (h : SameUnless sort x y)
    (hnext : ∀ a, SameUnless sort (f a) (g a)) : SameUnless sort (x >>= f) (y >>= g) := by
  rcases h with rfl | ⟨e, rfl, he⟩
  · cases x with
    | error e => exact Or.inl rfl
    | ok a => exact hnext a
  · -- The first sequence has failed in the way that is allowed for.
    exact Or.inr ⟨e, rfl, he⟩

theorem foldlM {f g : β → α → Except ε β} (items : List α)
    (step : ∀ b a, SameUnless sort (f b a) (g b a)) (b : β) :
    SameUnless sort (items.foldlM f b) (items.foldlM g b) := by
  induction items generalizing b with
  | nil => exact Or.inl rfl
  | cons a rest ih =>
      rw [List.foldlM_cons, List.foldlM_cons]
      exact (step b a).bind ih

end SameUnless

end PromptGraph
