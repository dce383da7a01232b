import Rosadmin.Foundation.Fallible
import Rosadmin.Sweep.Run

/-!
# What each step of an application can do

Over any ports: the ways one add can go, the ways the closing question can go,
and the frame rule, by which what every call of a plan preserves its
application preserves.
-/

namespace Rosadmin
open Foundation

section
variable {σ : Type} (ports : Ports σ) (plan : GroupPlan)

/-- One add. Its 404 is read with the first answer about the group, in hand or asked for now. -/
inductive AddTurn (l : AddLoop σ) (a : PlannedAdd) : Except (AddLoop σ) (AddLoop σ) → Prop where
  | settled (outcome : SyncOutcome) (port : σ)
      (answer : ports.sync.add (some plan.groupEmail) a.address l.port = (outcome, port))
      (readable : outcome ≠ .addressNotFound) :
      AddTurn l a (.ok (settleAdd ports plan a outcome { l with port }))
  | vouched (port heard : σ)
      (answer : ports.sync.add (some plan.groupEmail) a.address l.port = (.addressNotFound, port))
      (asks : askOnce ports plan l.presence port = (.present, heard)) :
      AddTurn l a (.ok (settleAdd ports plan a .addressNotFound { l with
        presence := some .present, port := heard }))
  | unread (port heard : σ)
      (answer : ports.sync.add (some plan.groupEmail) a.address l.port = (.addressNotFound, port))
      (asks : askOnce ports plan l.presence port = (.unknown, heard)) :
      AddTurn l a (.ok { l with
        presence := some .unknown, port := heard, tally := l.tally ++ [.failed] })
  | gone (port heard : σ)
      (answer : ports.sync.add (some plan.groupEmail) a.address l.port = (.addressNotFound, port))
      (asks : askOnce ports plan l.presence port = (.gone, heard)) :
      AddTurn l a (.error { l with presence := some .gone, port := heard })

theorem applyAdd_turn (l : AddLoop σ) (a : PlannedAdd) :
    AddTurn ports plan l a (applyAdd ports plan l a) := by
  unfold applyAdd
  cases answer : ports.sync.add (some plan.groupEmail) a.address l.port with
  | mk outcome port =>
    dsimp only
    by_cases missing : outcome = .addressNotFound
    · subst missing
      rw [if_pos rfl]
      cases asks : askOnce ports plan l.presence port with
      | mk presence heard =>
        cases presence with
        | present => exact .vouched port heard answer asks
        | gone => exact .gone port heard answer asks
        | unknown => exact .unread port heard answer asks
    · rw [if_neg missing]
      exact .settled outcome port answer missing

/-- The closing question, asked only when a 404 is among the refusals. -/
inductive Closing (l : AddLoop σ) : Except (AddLoop σ) (AddLoop σ) → Prop where
  | unasked (none : l.found.any (·.outcome = .addressNotFound) = false) : Closing l (.ok l)
  | confirmed (port : σ) (doubted : l.found.any (·.outcome = .addressNotFound) = true)
      (answer : presenceOf ports.lister plan.groupEmail l.port = (.present, port)) :
      Closing l (.ok { l with presence := some .present, port })
  | denied (presence : Presence) (port : σ)
      (doubted : l.found.any (·.outcome = .addressNotFound) = true)
      (answer : presenceOf ports.lister plan.groupEmail l.port = (presence, port))
      (absent : presence ≠ .present) :
      Closing l (.error { l with presence := some presence, port })

theorem confirmAdds_closing (l : AddLoop σ) : Closing ports plan l (confirmAdds ports plan l) := by
  unfold confirmAdds
  cases doubted : l.found.any (·.outcome = .addressNotFound) with
  | false => exact .unasked doubted
  | true =>
    rw [if_pos rfl]
    cases answer : presenceOf ports.lister plan.groupEmail l.port with
    | mk presence port =>
      dsimp only
      split
      · rename_i there
        subst there
        exact .confirmed port doubted answer
      · rename_i absent
        exact .denied presence port doubted answer absent

/-- The loop and its closing question: left at one add, or run through and then asked. -/
inductive AddsRun (l : AddLoop σ) : Except (AddLoop σ) (AddLoop σ) → Prop where
  | left (done rest : List PlannedAdd) (a : PlannedAdd) (u e : AddLoop σ)
      (whole : plan.adds = done ++ a :: rest)
      (before : applyAdds ports plan done l = .ok u) (turn : applyAdd ports plan u a = .error e) :
      AddsRun l (.error e)
  | through (u : AddLoop σ) (result : Except (AddLoop σ) (AddLoop σ))
      (run : applyAdds ports plan plan.adds l = .ok u)
      (closing : Closing ports plan u result) : AddsRun l result

theorem adds_run (l : AddLoop σ) :
    AddsRun ports plan l (applyAdds ports plan plan.adds l >>= confirmAdds ports plan) := by
  cases run : applyAdds ports plan plan.adds l with
  | error e =>
    obtain ⟨done, a, rest, u, whole, before, turn⟩ := foldlM_error run
    exact .left done rest a u e whole before turn
  | ok u => exact .through u _ run (confirmAdds_closing ports plan u)

/-! ### The frame rule -/

/-- What every call the adds of the plan can make preserves. -/
structure AddFrame (related : σ → σ → Prop) : Prop where
  refl : ∀ s, related s s
  trans : ∀ {s t u}, related s t → related t u → related s u
  add : ∀ a ∈ plan.adds, ∀ s, related s (ports.sync.add (some plan.groupEmail) a.address s).2
  groupExists : ∀ s, related s (ports.lister.groupExists plan.groupEmail s).2
  audit : ∀ event s, related s (ports.audit event s)

structure PlanFrame (related : σ → σ → Prop) : Prop extends AddFrame ports plan related where
  remove : ∀ address ∈ plan.removes, ∀ s,
    related s (ports.sync.remove (some plan.groupEmail) address s).2

variable {ports} {plan} {related : σ → σ → Prop} {l u : AddLoop σ} {a : PlannedAdd}
  {result : Except (AddLoop σ) (AddLoop σ)}

/-- The loop a turn or a run ends with, well or not. -/
def ending : Except (AddLoop σ) (AddLoop σ) → AddLoop σ
  | .ok l => l
  | .error l => l

theorem AddFrame.asks (frame : AddFrame ports plan related) (presence : Option Presence) (s : σ) :
    related s (askOnce ports plan presence s).2 := by
  cases presence with
  | none => exact frame.groupExists s
  | some known => exact frame.refl s

theorem AddFrame.settles (frame : AddFrame ports plan related) (a : PlannedAdd)
    (outcome : SyncOutcome) (l : AddLoop σ) :
    related l.port (settleAdd ports plan a outcome l).port := by
  rw [settleAdd_port]
  split
  · exact frame.audit _ _
  · exact frame.refl _

theorem AddFrame.turn (frame : AddFrame ports plan related) (planned : a ∈ plan.adds)
    (turn : AddTurn ports plan l a result) : related l.port (ending result).port := by
  have added := frame.add a planned l.port
  cases turn with
  | settled outcome port answer readable =>
    rw [answer] at added
    exact frame.trans added (frame.settles a outcome { l with port })
  | vouched port heard answer asks =>
    have asked := frame.asks l.presence port
    rw [answer] at added
    rw [asks] at asked
    exact frame.trans added (frame.trans asked
      (frame.settles a .addressNotFound { l with presence := some .present, port := heard }))
  | unread port heard answer asks =>
    have asked := frame.asks l.presence port
    rw [answer] at added
    rw [asks] at asked
    exact frame.trans added asked
  | gone port heard answer asks =>
    have asked := frame.asks l.presence port
    rw [answer] at added
    rw [asks] at asked
    exact frame.trans added asked

theorem AddFrame.loop (frame : AddFrame ports plan related) {adds : List PlannedAdd}
    (planned : ∀ a ∈ adds, a ∈ plan.adds) (run : applyAdds ports plan adds l = .ok u) :
    related l.port u.port := by
  induction adds generalizing l with
  | nil =>
    cases pure_ok.mp run
    exact frame.refl _
  | cons a adds ih =>
    obtain ⟨here, later⟩ := List.forall_mem_cons.mp planned
    obtain ⟨v, turned, rest⟩ := foldlM_cons_ok.mp run
    have turn := frame.turn here (applyAdd_turn ports plan l a)
    rw [turned] at turn
    exact frame.trans turn (ih later rest)

theorem AddFrame.run (frame : AddFrame ports plan related) (run : AddsRun ports plan l result) :
    related l.port (ending result).port := by
  cases run with
  | left done rest a u e whole before turned =>
    have turn := frame.turn (by simp [whole]) (applyAdd_turn ports plan u a)
    rw [turned] at turn
    exact frame.trans (frame.loop (fun b member => by simp [whole, member]) before) turn
  | through u result run closing =>
    refine frame.trans (frame.loop (fun _ member => member) run) ?_
    have asked := frame.groupExists u.port
    cases closing with
    | unasked none => exact frame.refl _
    | confirmed port doubted answer =>
      simp only [presenceOf, Prod.mk.injEq] at answer
      exact answer.2 ▸ asked
    | denied presence port doubted answer absent =>
      simp only [presenceOf, Prod.mk.injEq] at answer
      exact answer.2 ▸ asked

theorem PlanFrame.removes (frame : PlanFrame ports plan related) {removes : List Email}
    (planned : ∀ address ∈ removes, address ∈ plan.removes) (r : RemoveLoop σ) :
    related r.port (removes.foldl (applyRemove ports plan) r).port := by
  induction removes generalizing r with
  | nil => exact frame.refl _
  | cons address removes ih =>
    obtain ⟨here, rest⟩ := List.forall_mem_cons.mp planned
    refine frame.trans ?_ (ih rest _)
    refine frame.trans (frame.remove address here r.port) ?_
    unfold applyRemove
    dsimp only
    split
    · exact frame.audit _ _
    split
    · exact frame.refl _
    · exact frame.refl _

theorem PlanFrame.applyRemoves (frame : PlanFrame ports plan related) (tally : List SyncOutcome)
    (s : σ) : related s (applyRemoves ports plan tally s).2 := by
  have removed : related s _ := frame.removes (fun _ planned => planned) ⟨tally, 0, s⟩
  unfold Rosadmin.applyRemoves
  dsimp only
  split
  · exact frame.trans removed (frame.groupExists _)
  · exact removed

/-- What every call of the plan preserves, its application preserves. -/
theorem PlanFrame.apply (frame : PlanFrame ports plan related) (unmirrorable : List Str)
    (refusals : List Refusal) (accepted : List Email) (s : σ) :
    related s (apply ports plan unmirrorable refusals accepted s).port := by
  have run := frame.run (adds_run ports plan (loopStart unmirrorable accepted s))
  unfold Rosadmin.apply
  generalize applyAdds ports plan plan.adds (loopStart unmirrorable accepted s) >>=
    confirmAdds ports plan = result at *
  cases result with
  | error l => exact run
  | ok l => exact frame.trans run (frame.applyRemoves _ _)

end

end Rosadmin
