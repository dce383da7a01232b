import Mathlib.Data.List.Infix

/-!
# Runs of a step function

A run folds a step over its events. What a step preserves whenever its event
meets a guard, a run whose every event meets it preserves, at each prefix.
-/

namespace Foundation

variable {σ ε : Type}

/-- Every event of the run meets `guard` at the state it finds. -/
def Guarded (step : σ → ε → σ) (guard : σ → ε → Prop) : σ → List ε → Prop
  | _, [] => True
  | s, e :: es => guard s e ∧ Guarded step guard (step s e) es

section
variable {step : σ → ε → σ} {guard : σ → ε → Prop} {inv : σ → Prop}

theorem guarded_append {s : σ} {xs ys : List ε} :
    Guarded step guard s (xs ++ ys) ↔ Guarded step guard s xs ∧
      Guarded step guard (xs.foldl step s) ys := by
  induction xs generalizing s with
  | nil => simp [Guarded]
  | cons x xs ih => simp only [List.cons_append, Guarded, List.foldl_cons, ih, and_assoc]

theorem guarded_of_early {s : σ} {xs es : List ε} (early : xs <+: es)
    (guarded : Guarded step guard s es) : Guarded step guard s xs := by
  obtain ⟨rest, rfl⟩ := early
  exact (guarded_append.mp guarded).1

theorem run_invariant (preserved : ∀ s e, inv s → guard s e → inv (step s e)) {s : σ} {es : List ε}
    (start : inv s) (guarded : Guarded step guard s es) : inv (es.foldl step s) := by
  induction es generalizing s with
  | nil => exact start
  | cons e es ih => exact ih (preserved s e start guarded.1) guarded.2

theorem guarded_imp {other : σ → ε → Prop} (weaker : ∀ s e, guard s e → other s e) {s : σ}
    {es : List ε} (guarded : Guarded step guard s es) : Guarded step other s es := by
  induction es generalizing s with
  | nil => trivial
  | cons e es ih => exact ⟨weaker s e guarded.1, ih guarded.2⟩

/-- A guard that an invariant makes out of another, where the invariant lives on it. -/
theorem guarded_of_invariant {other : σ → ε → Prop} (here : ∀ s e, inv s → guard s e → other s e)
    (preserved : ∀ s e, inv s → other s e → inv (step s e)) {s : σ} {es : List ε} (start : inv s)
    (guarded : Guarded step guard s es) : Guarded step other s es := by
  induction es generalizing s with
  | nil => trivial
  | cons e es ih =>
    have met := here s e start guarded.1
    exact ⟨met, ih (preserved s e start met) guarded.2⟩

theorem guarded_and {other : σ → ε → Prop} {s : σ} {es : List ε} (one : Guarded step guard s es)
    (two : Guarded step other s es) : Guarded step (fun s e => guard s e ∧ other s e) s es := by
  induction es generalizing s with
  | nil => trivial
  | cons e es ih => exact ⟨⟨one.1, two.1⟩, ih one.2 two.2⟩

theorem guarded_of_events {allowed : ε → Prop} {es : List ε} (all : ∀ e ∈ es, allowed e) (s : σ) :
    Guarded step (fun _ e => allowed e) s es := by
  induction es generalizing s with
  | nil => trivial
  | cons e es ih => exact ⟨all e List.mem_cons_self,
      ih (fun f member => all f (List.mem_cons_of_mem _ member)) (step s e)⟩

theorem guarded_of_forall (always : ∀ s e, guard s e) (s : σ) (es : List ε) :
    Guarded step guard s es := by
  induction es generalizing s with
  | nil => trivial
  | cons e es ih => exact ⟨always s e, ih (step s e)⟩

theorem guarded_congr {other : σ → ε → Prop} (same : ∀ s e, guard s e ↔ other s e) {s : σ}
    {es : List ε} : Guarded step guard s es ↔ Guarded step other s es :=
  ⟨guarded_imp fun s e => (same s e).mp, guarded_imp fun s e => (same s e).mpr⟩

theorem guarded_iff_steps {s : σ} {es : List ε} :
    Guarded step guard s es ↔ ∀ reached e, reached ++ [e] <+: es →
      guard (reached.foldl step s) e := by
  constructor
  · intro guarded reached e early
    exact (guarded_append.mp (guarded_of_early early guarded)).2.1
  · induction es generalizing s with
    | nil => exact fun _ => trivial
    | cons e es ih =>
      intro each
      refine ⟨each [] e ⟨es, rfl⟩, ih fun reached f early => ?_⟩
      exact each (e :: reached) f (List.cons_prefix_cons.mpr ⟨rfl, early⟩)

theorem invariant_of_forall (preserved : ∀ s e, inv s → inv (step s e)) {s : σ} (start : inv s)
    (es : List ε) : inv (es.foldl step s) :=
  run_invariant (fun s e here (_ : True) => preserved s e here) start
    (guarded_of_forall (fun _ _ => trivial) s es)

/-- Where a guard says of each allowed step exactly whether it keeps `inv`, `inv` holds all along a
run of allowed steps exactly if every event meets the guard. -/
theorem guarded_iff_among {aux : σ → Prop} {allowed : ε → Prop}
    (kept : ∀ s e, allowed e → aux s → aux (step s e))
    (exact : ∀ s e, allowed e → aux s → inv s → (inv (step s e) ↔ guard s e)) {s : σ} {es : List ε}
    (all : ∀ e ∈ es, allowed e) (first : aux s) (start : inv s) :
    (∀ reached, reached <+: es → inv (reached.foldl step s)) ↔ Guarded step guard s es := by
  induction es generalizing s with
  | nil => exact ⟨fun _ => trivial, fun _ reached early => List.prefix_nil.mp early ▸ start⟩
  | cons e es ih =>
    obtain ⟨here, later⟩ := List.forall_mem_cons.mp all
    have exact := exact s e here first start
    have first := kept s e here first
    constructor
    · intro always
      have next : inv (step s e) := always [e] ⟨es, rfl⟩
      refine ⟨exact.mp next, (ih later first next).mp fun reached early => ?_⟩
      exact always (e :: reached) (List.cons_prefix_cons.mpr ⟨rfl, early⟩)
    · rintro ⟨met, rest⟩ reached early
      have next : inv (step s e) := exact.mpr met
      cases reached with
      | nil => exact start
      | cons e' reached =>
        obtain ⟨rfl, shorter⟩ := List.cons_prefix_cons.mp early
        exact (ih later first next).mpr rest reached shorter

theorem guarded_iff {aux : σ → Prop} (kept : ∀ s e, aux s → aux (step s e))
    (exact : ∀ s e, aux s → inv s → (inv (step s e) ↔ guard s e)) {s : σ} (es : List ε)
    (first : aux s) (start : inv s) :
    (∀ reached, reached <+: es → inv (reached.foldl step s)) ↔ Guarded step guard s es :=
  guarded_iff_among (fun s e (_ : True) => kept s e) (fun s e _ => exact s e)
    (fun _ _ => trivial) first start

end

/-- How many events of the run meet `p` at the state they find. -/
def occurrences (step : σ → ε → σ) (p : σ → ε → Bool) : σ → List ε → Nat
  | _, [] => 0
  | s, e :: es => (if p s e then 1 else 0) + occurrences step p (step s e) es

section
variable {step : σ → ε → σ} {guard : σ → ε → Prop} {p : σ → ε → Bool} {closed : σ → Prop}

theorem occurrences_closed (stays : ∀ s e, closed s → closed (step s e))
    (never : ∀ s e, closed s → guard s e → p s e = false) {s : σ} {es : List ε} (here : closed s)
    (guarded : Guarded step guard s es) : occurrences step p s es = 0 := by
  induction es generalizing s with
  | nil => rfl
  | cons e es ih => rw [occurrences, never s e here guarded.1, ih (stays s e here) guarded.2]; rfl

/-- What closes the door behind it happens at most once. -/
theorem occurrences_le_one (stays : ∀ s e, closed s → closed (step s e))
    (never : ∀ s e, closed s → guard s e → p s e = false)
    (closes : ∀ s e, guard s e → p s e = true → closed (step s e)) {s : σ} {es : List ε}
    (guarded : Guarded step guard s es) : occurrences step p s es ≤ 1 := by
  induction es generalizing s with
  | nil => exact Nat.zero_le 1
  | cons e es ih =>
    rw [occurrences]
    by_cases met : p s e = true
    · rw [occurrences_closed stays never (closes s e guarded.1 met) guarded.2, if_pos met]
    · rw [if_neg met, Nat.zero_add]
      exact ih guarded.2

end

end Foundation
