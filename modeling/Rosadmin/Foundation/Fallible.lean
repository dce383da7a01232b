/-!
# Fallible steps

Peeling a computation in `Except` apart, one bind at a time.
-/

namespace Foundation

variable {ε α β : Type}

theorem bind_ok {x : Except ε α} {f : α → Except ε β} {b : β} :
    x >>= f = .ok b ↔ ∃ a, x = .ok a ∧ f a = .ok b := by
  cases x with
  | error e => exact ⟨fun h => (nomatch h), fun ⟨_, h, _⟩ => (nomatch h)⟩
  | ok a => exact ⟨fun h => ⟨a, rfl, h⟩, fun ⟨_, h, g⟩ => by cases h; exact g⟩

theorem ok_bind (a : α) (f : α → Except ε β) : (Except.ok a >>= f) = f a := rfl

theorem ok_ne_error {a : α} {failure : ε} : Except.ok a ≠ .error failure := fun same => nomatch same

theorem bind_ne_error {x : Except ε α} {f : α → Except ε β} {failure : ε}
    (first : x ≠ .error failure) (second : ∀ a, f a ≠ .error failure) :
    x >>= f ≠ .error failure := by
  cases x with
  | error e => exact fun h => first (congrArg Except.error (Except.error.inj h))
  | ok a => exact second a

theorem map_ne_error {x : Except ε α} {f : α → β} {failure : ε} (clean : x ≠ .error failure) :
    x.map f ≠ .error failure := by
  cases x with
  | error e => exact fun h => clean (congrArg Except.error (Except.error.inj h))
  | ok a => exact ok_ne_error

theorem pure_ok {a b : α} : (pure a : Except ε α) = .ok b ↔ a = b := by
  simp [pure, Except.pure]

def ensure (condition : Bool) (failure : ε) : Except ε Unit :=
  if condition then .ok () else .error failure

theorem ensure_ok {condition : Bool} {failure : ε} {u : Unit} :
    ensure condition failure = .ok u ↔ condition = true := by
  cases condition <;> simp [ensure]

theorem ensure_bind_ok {condition : Bool} {failure : ε} {f : Unit → Except ε β} {b : β} :
    ensure condition failure >>= f = .ok b ↔ condition = true ∧ f () = .ok b := by
  rw [bind_ok]
  constructor
  · rintro ⟨_, met, rest⟩
    exact ⟨ensure_ok.mp met, rest⟩
  · rintro ⟨met, rest⟩
    exact ⟨(), ensure_ok.mpr met, rest⟩

theorem ensure_ne_error {condition : Bool} {failure other : ε} (distinct : failure ≠ other) :
    ensure condition failure ≠ .error other := by
  cases condition with
  | true => exact ok_ne_error
  | false => exact fun h => distinct (Except.error.inj h)

def andThen {σ : Type} (x : Except ε α × σ) (next : α → σ → Except ε β × σ) : Except ε β × σ :=
  match x with
  | (.error e, s) => (.error e, s)
  | (.ok a, s) => next a s

theorem andThen_keeps {σ : Type} (inv : σ → Prop) {x : Except ε α × σ}
    {next : α → σ → Except ε β × σ} (first : inv x.2) (second : ∀ a s, inv s → inv (next a s).2) :
    inv (andThen x next).2 := by
  rcases x with ⟨_ | a, s⟩
  · exact first
  · exact second a s first

section
variable {σ : Type} {step : σ → α → Except ε σ} {items : List α} {s t : σ}

theorem foldlM_cons_ok {item : α} {rest : List α} :
    (item :: rest).foldlM step s = .ok t ↔ ∃ u, step s item = .ok u ∧
      rest.foldlM step u = .ok t := by
  rw [List.foldlM_cons, bind_ok]

theorem foldlM_append_ok {rest : List α} :
    (items ++ rest).foldlM step s = .ok t ↔ ∃ u, items.foldlM step s = .ok u ∧
      rest.foldlM step u = .ok t := by
  rw [List.foldlM_append, bind_ok]

/-- What a step carries from the items done to the items done and its own, a fold carries to all of
them. -/
theorem foldlM_invariant {holds : List α → σ → Prop}
    (each : ∀ done item rest s t, items = done ++ item :: rest → holds done s →
      step s item = .ok t → holds (done ++ [item]) t)
    (start : holds [] s) (run : items.foldlM step s = .ok t) : holds items t := by
  have walk : ∀ rest done s, items = done ++ rest → holds done s → rest.foldlM step s = .ok t →
      holds items t := by
    intro rest
    induction rest with
    | nil =>
      intro done s whole here run
      rw [whole, List.append_nil]
      exact pure_ok.mp run ▸ here
    | cons item rest ih =>
      intro done s whole here run
      obtain ⟨u, stepped, run⟩ := foldlM_cons_ok.mp run
      exact ih (done ++ [item]) u (by simp [whole]) (each done item rest s u whole here stepped) run
  exact walk items [] s rfl start run

theorem foldlM_keeps {holds : σ → Prop}
    (each : ∀ item ∈ items, ∀ s t, holds s → step s item = .ok t → holds t) (start : holds s)
    (run : items.foldlM step s = .ok t) : holds t := by
  have carries : ∀ done item rest s t, items = done ++ item :: rest → holds s →
      step s item = .ok t → holds t :=
    fun _ item _ s t whole => each item (by simp [whole]) s t
  exact foldlM_invariant carries start run

/-- A fold that fails does so at one item, after the items before it went well. -/
theorem foldlM_error {failure : ε} (failed : items.foldlM step s = .error failure) :
    ∃ done item rest u, items = done ++ item :: rest ∧ done.foldlM step s = .ok u ∧
      step u item = .error failure := by
  induction items generalizing s with
  | nil => cases failed
  | cons item items ih =>
    rw [List.foldlM_cons] at failed
    cases stepped : step s item with
    | error e =>
      rw [stepped] at failed
      exact ⟨[], item, items, s, rfl, rfl, stepped.trans failed⟩
    | ok u =>
      rw [stepped] at failed
      obtain ⟨done, next, rest, v, whole, before, fails⟩ := ih failed
      exact ⟨item :: done, next, rest, v,
        by rw [whole]; rfl, foldlM_cons_ok.mpr ⟨u, stepped, before⟩, fails⟩

theorem foldlM_ok_iff :
    (∃ t, items.foldlM step s = .ok t) ↔
      ∀ done item rest, items = done ++ item :: rest → ∀ u, done.foldlM step s = .ok u →
        ∃ t, step u item = .ok t := by
  constructor
  · rintro ⟨t, run⟩ done item rest rfl u before
    obtain ⟨v, reached, run⟩ := foldlM_append_ok.mp run
    cases before.symm.trans reached
    obtain ⟨w, stepped, -⟩ := foldlM_cons_ok.mp run
    exact ⟨w, stepped⟩
  · intro each
    induction items generalizing s with
    | nil => exact ⟨s, rfl⟩
    | cons item rest ih =>
      obtain ⟨u, stepped⟩ := each [] item rest rfl s rfl
      obtain ⟨t, run⟩ := ih fun done next after whole v before =>
        each (item :: done) next after (by rw [whole]; rfl) v
          (foldlM_cons_ok.mpr ⟨u, stepped, before⟩)
      exact ⟨t, foldlM_cons_ok.mpr ⟨u, stepped, run⟩⟩

end

end Foundation
