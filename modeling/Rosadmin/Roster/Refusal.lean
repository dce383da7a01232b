import Rosadmin.Roster.Again

/-!
# A refused lapse

The pull that refuses a lapse still stores its roster, so the table the lapse
is a share of may grow. The next pull refuses again if the lapse is still too
large a share, and otherwise lapses what the first one would not.
-/

namespace Rosadmin
open Foundation

/-- The rows the roster has lost are there as they were. -/
def AbsentKept (roster : List Int) (before after : Database) : Prop :=
  ∀ row ∈ before.members, row.stId ∉ roster → row ∈ after.members

instance {roster : List Int} {before after : Database} :
    Decidable (AbsentKept roster before after) :=
  inferInstanceAs (Decidable (∀ row ∈ before.members, row.stId ∉ roster → row ∈ after.members))

section
variable {server : Server} {members : List Member} {db first : Database} {report : PullReport}

theorem wouldLapse_of_kept (keyed : db.Keyed)
    (small : Commits server members db → lapseFuseTrips db (members.map (·.stId)) = true) :
    AbsentKept (members.map (·.stId)) db (pullOnce server members db) ∧
      wouldLapse (pullOnce server members db) (members.map (·.stId)) =
        wouldLapse db (members.map (·.stId)) := by
  by_cases commits : Commits server members db
  · obtain ⟨⟨report, after⟩, pulled⟩ := commits
    have same : ∀ row : MembersRow, row.stId ∉ members.map (·.stId) →
        (row ∈ after.members ↔ row ∈ db.members) :=
      fun row gone => absent_of_tripped keyed pulled (small ⟨_, pulled⟩) gone
    rw [pullOnce_committed pulled]
    exact ⟨fun row present gone => (same row gone).mpr present,
      wouldLapse_congr (keyed_of_pull keyed pulled) keyed same⟩
  · rw [pullOnce_aborted commits]
    exact ⟨fun _ present _ => present, rfl⟩

theorem kept_iff_tripped (keyed : db.Keyed) (waiting : 0 < wouldLapse db (members.map (·.stId))) :
    AbsentKept (members.map (·.stId)) db (pullOnce server members db) ↔
      (Commits server members db → lapseFuseTrips db (members.map (·.stId)) = true) := by
  constructor
  · rintro kept ⟨⟨report, after⟩, pulled⟩
    rw [pullOnce_committed pulled] at kept
    by_contra held
    obtain ⟨row, present, lapses⟩ := List.countP_pos_iff.mp waiting
    have gone : row.stId ∉ members.map (·.stId) :=
      of_decide_eq_true ((Bool.and_eq_true _ _).mp lapses).2
    have lapsed := lapsed_of_held pulled (eq_false_of_ne_true held) (kept row present gone)
    exact Bool.false_ne_true (lapsed.symm.trans lapses)
  · exact fun small => (wouldLapse_of_kept keyed small).1

theorem first_refused (keyed : db.Keyed)
    (pulled : pullIn server members false db = .ok (report, first))
    (refused : 0 < report.lapseRefused) :
    first.Keyed ∧ wouldLapse first (members.map (·.stId)) = report.lapseRefused := by
  obtain ⟨-, s, -, closing⟩ := pullIn_ok.mp pulled
  obtain ⟨-, -, reported⟩ := closePull_frame closing
  cases tripped : lapseFuseTrips db (members.map (·.stId)) with
  | false =>
    rw [tripped] at reported
    exact absurd (reported ▸ refused) (lt_irrefl 0)
  | true =>
    rw [tripped] at reported
    have keyed' := keyed_of_pull keyed pulled
    exact ⟨keyed', (wouldLapse_congr keyed' keyed fun row gone => absent_of_tripped keyed pulled
      tripped gone).trans reported.symm⟩

/-- After a refused lapse the pulls that follow leave the rows the roster has lost alone for as long
as each of them that commits starts with too few members in good standing for its budget to cover
the lapse; and no longer. -/
theorem refusal_stands_iff (valid : db.Valid)
    (pulled : pullIn server members false db = .ok (report, first))
    (refused : 0 < report.lapseRefused) (n : Nat) :
    (∀ k < n, AbsentKept (members.map (·.stId)) (again server members k first)
      (again server members (k + 1) first)) ↔
      ∀ k < n, Commits server members (again server members k first) →
        lapseBudget (goodStandingTotal (again server members k first)) < report.lapseRefused := by
  obtain ⟨keyed, would⟩ := first_refused valid.keyed pulled refused
  have keyed : ∀ k, (again server members k first).Keyed := keyed_again keyed
  -- while the rows are kept, the number that would lapse is the number refused
  have stays : ∀ k, (∀ j < k, AbsentKept (members.map (·.stId)) (again server members j first)
      (again server members (j + 1) first)) →
      wouldLapse (again server members k first) (members.map (·.stId)) = report.lapseRefused := by
    intro k kept
    induction k with
    | zero => exact would
    | succ k ih =>
      have before := ih fun j earlier => kept j (by omega)
      have last := kept k (by omega)
      rw [again_succ] at last ⊢
      have tripped := (kept_iff_tripped (keyed k) (before ▸ refused)).mp last
      exact (wouldLapse_of_kept (keyed k) tripped).2.trans before
  constructor
  · intro kept k earlier commits
    have before := stays k fun j lt => kept j (lt.trans earlier)
    have last := kept k earlier
    rw [again_succ] at last
    have tripped := (kept_iff_tripped (keyed k) (before ▸ refused)).mp last commits
    exact before ▸ lapseFuseTrips_iff.mp tripped
  · intro small k
    induction k using Nat.strong_induction_on with
    | h k ih =>
      intro earlier
      have before := stays k fun j lt => ih j lt (lt.trans earlier)
      rw [again_succ]
      refine (kept_iff_tripped (keyed k) (before ▸ refused)).mpr fun commits =>
        lapseFuseTrips_iff.mpr ?_
      rw [before]
      exact small k earlier commits

end

/-! ### A roster that grows the table -/

def sixLost : Database :=
  { Database.empty with members := (List.range 6).map (fun i => plainMember i [i]), nextId := 6 }

def newcomers (count : Nat) : List Member := (List.range count).map
    (fun i : Nat => plainRecord (100 + i) [100 + i])

/-- The first pull refuses to lapse six, and stores so many that the second lapses them. -/
theorem refused_lapse_follows : ∃ report first,
    pullIn textServer (newcomers 45) false sixLost = .ok (report, first) ∧ report.lapseRefused = 6 ∧
    ¬AbsentKept ((newcomers 45).map (·.stId)) first (again textServer (newcomers 45) 1 first) := by
  have computed : ((pullIn textServer (newcomers 45) false sixLost).toOption.any fun result =>
      result.1.lapseRefused = 6 &&
        !decide (AbsentKept ((newcomers 45).map (·.stId)) result.2
          (again textServer (newcomers 45) 1 result.2))) = true := by
    decide +kernel
  cases pulled : pullIn textServer (newcomers 45) false sixLost with
  | error error =>
    rw [pulled] at computed
    cases computed
  | ok result =>
    rw [pulled] at computed
    exact ⟨result.1, result.2, rfl, by simpa [Except.toOption] using computed⟩

theorem sixLost_valid : sixLost.Valid := by
  constructor <;> constructor <;> decide

/-- Four newcomers leave the six refused however often they are pulled. -/
theorem refusal_stands_few : ∃ report first,
    pullIn textServer (newcomers 4) false sixLost = .ok (report, first) ∧
    AbsentKept ((newcomers 4).map (·.stId)) first (again textServer (newcomers 4) 1 first) := by
  have computed : ((pullIn textServer (newcomers 4) false sixLost).toOption.any fun result =>
      result.1.lapseRefused = 6 && goodStandingTotal result.2 = 10) = true := by decide +kernel
  cases pulled : pullIn textServer (newcomers 4) false sixLost with
  | error error =>
    rw [pulled] at computed
    cases computed
  | ok result =>
    rw [pulled] at computed
    obtain ⟨refused, total⟩ : result.1.lapseRefused = 6 ∧ goodStandingTotal result.2 = 10 := by
      simpa [Except.toOption] using computed
    refine ⟨result.1, result.2, rfl, ?_⟩
    refine (refusal_stands_iff sixLost_valid pulled (by omega) 1).mpr
      (fun k only _ => ?_) 0 Nat.one_pos
    cases Nat.lt_one_iff.mp only
    rw [refused]
    show lapseBudget (goodStandingTotal result.2) < 6
    rw [total]
    decide

end Rosadmin
