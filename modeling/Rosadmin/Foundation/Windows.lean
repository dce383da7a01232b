import Mathlib.Data.List.Basic

/-!
# Counts by window

A store bumps the count of a key in the window of an instant, and from time to
time forgets windows. Whatever the store is made of, what it answers for a key is
how often that key was bumped in that window before.
-/

namespace Foundation

/-- A store `σ` of counts by key; an instant `τ` falls in a window `ω`. -/
structure WindowCounter (κ τ σ : Type) where
  bump : κ → τ → σ → Nat × σ
  forget : τ → σ → σ

inductive WindowEvent (κ τ : Type) where
  | bump (key : κ) (time : τ)
  | forget (time : τ)

namespace WindowCounter
variable {κ τ ω σ : Type} [DecidableEq κ] [DecidableEq ω]

/-- The counts that are answered. -/
def answers (counter : WindowCounter κ τ σ) : σ → List (WindowEvent κ τ) → List (κ × Nat)
  | _, [] => []
  | s, .bump key t :: events => (key, (counter.bump key t s).1) :: answers counter
      (counter.bump key t s).2 events
  | s, .forget t :: events => answers counter (counter.forget t s) events

/-- What `counter` shows of its store, for the instants it `spans`, as long as the pruning `spares`
them. -/
structure Reads (counter : WindowCounter κ τ σ) (window : τ → ω) (spans : τ → Prop)
    (spares : τ → τ → Prop) (reads : σ → κ → ω → Nat) : Prop where
  answer : ∀ {key t} s, spans t → (counter.bump key t s).1 = reads s key (window t) + 1
  bumped : ∀ {key t other u} s, spans t → spans u →
    reads (counter.bump key t s).2 other (window u) =
    reads s other (window u) + if other = key ∧ window u = window t then 1 else 0
  forgotten : ∀ {key t u} s, spares t u →
    reads (counter.forget t s) key (window u) = reads s key (window u)

end WindowCounter

/-- How often a window was met, instant by instant. -/
def windowTallies {τ ω : Type} [DecidableEq ω] (window : τ → ω) : List τ → List τ → List Nat
  | _, [] => []
  | past, t :: later => (past.countP (window · = window t) + 1) :: windowTallies window
      (t :: past) later

namespace WindowEvent
variable {κ τ : Type} [DecidableEq κ]

/-- When a key is bumped. -/
def instants (key : κ) : List (WindowEvent κ τ) → List τ
  | [] => []
  | .bump other t :: events => if other = key then t :: instants key events else instants key events
  | .forget _ :: events => instants key events

def instant : WindowEvent κ τ → τ
  | .bump _ t | .forget t => t

/-- A pruning spares the window of what comes after it. -/
def Spares (spares : τ → τ → Prop) : WindowEvent κ τ → WindowEvent κ τ → Prop
  | .forget t, .bump _ u => spares t u
  | _, _ => True

theorem mem_instants {key : κ} {events : List (WindowEvent κ τ)} {t : τ} :
    t ∈ instants key events ↔ .bump key t ∈ events := by
  induction events with
  | nil => simp [instants]
  | cons e events ih =>
    cases e with
    | forget u => simp [instants, ih]
    | bump other u =>
      by_cases own : other = key
      · subst own
        simp [instants, ih]
      · simp [instants, own, Ne.symm own, ih]

end WindowEvent

namespace WindowCounter
variable {κ τ ω σ : Type} [DecidableEq κ] [DecidableEq ω]

/-- Each key is answered as if it were alone and nothing were ever forgotten. -/
theorem answers_alone {counter : WindowCounter κ τ σ} {window : τ → ω} {spans : τ → Prop}
    {spares : τ → τ → Prop}
    {reads : σ → κ → ω → Nat} (lawful : counter.Reads window spans spares reads) (key : κ)
    (past : List τ) (s : σ)
    {events : List (WindowEvent κ τ)} (spanned : ∀ e ∈ events, spans e.instant)
    (apart : events.Pairwise (WindowEvent.Spares spares))
    (counted : ∀ t ∈ WindowEvent.instants key events,
      reads s key (window t) = past.countP (window · = window t)) :
    ((counter.answers s events).filter (·.1 = key)).map (·.2) = windowTallies window past
      (WindowEvent.instants key events) := by
  induction events generalizing past s with
  | nil => rfl
  | cons e events ih =>
    obtain ⟨here, later⟩ := List.forall_mem_cons.mp spanned
    obtain ⟨first, rest⟩ := List.pairwise_cons.mp apart
    have spannedAt : ∀ {other : κ} {u : τ}, .bump other u ∈ events → spans u :=
      fun member => later _ member
    cases e with
    | forget t =>
      refine ih past (counter.forget t s) later rest ?_
      intro u upcoming
      rw [lawful.forgotten s (first _ (WindowEvent.mem_instants.mp upcoming))]
      exact counted u upcoming
    | bump other t =>
      have here : spans t := here
      by_cases own : other = key
      · subst own
        have answered : (counter.bump other t s).1 = past.countP (window · = window t) + 1 := by
          rw [lawful.answer s here, counted t (by simp [WindowEvent.instants])]
        have next := ih (t :: past) (counter.bump other t s).2 later rest ?_
        · simp only [answers, WindowEvent.instants, if_true, List.filter_cons, decide_true,
            List.map_cons, windowTallies, answered, next]
        · intro u upcoming
          rw [lawful.bumped s here (spannedAt (WindowEvent.mem_instants.mp upcoming)),
            counted u (by simp [WindowEvent.instants, upcoming]), List.countP_cons]
          simp [eq_comm]
      · have next := ih past (counter.bump other t s).2 later rest ?_
        · rw [answers, WindowEvent.instants, if_neg own,
            List.filter_cons_of_neg (by simpa using own), next]
        · intro u upcoming
          rw [lawful.bumped s here (spannedAt (WindowEvent.mem_instants.mp upcoming)),
            if_neg (fun same => own same.1.symm), Nat.add_zero]
          exact counted u (by simp [WindowEvent.instants, own, upcoming])

end WindowCounter

end Foundation
