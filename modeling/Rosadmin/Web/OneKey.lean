import Rosadmin.Db.SyncTarget
import Rosadmin.Foundation.Folding
import Rosadmin.Sweep.Diff
import Rosadmin.Web.Mirrors

/-!
# One mailbox, one key

The sweep offers a member's address folded and the panel offers it as it is
written; the status table lowers what it is given. The three meet in one key
when the lowercase address holds no letter that folding carries further.
-/

namespace Rosadmin
open Foundation

/-! ### The panel chooses as the sweep does -/

theorem oldestRefusal_congr {first second : EmailStatuses} {best : Email} {rest : List Email}
    (refused : ∀ c ∈ best :: rest, first.refusedAt.get? (lower c) = second.refusedAt.get?
      (lower c)) :
    oldestRefusal first best rest = oldestRefusal second best rest := by
  induction rest generalizing best with
  | nil => rfl
  | cons a rest ih =>
    have here := refused best List.mem_cons_self
    have next := refused a (List.mem_cons_of_mem _ List.mem_cons_self)
    have later : ∀ c ∈ rest, first.refusedAt.get? (lower c) = second.refusedAt.get? (lower c) :=
      fun c member => refused c (List.mem_cons_of_mem _ (List.mem_cons_of_mem _ member))
    rw [oldestRefusal, oldestRefusal, here, next, ih (List.forall_mem_cons.mpr ⟨next, later⟩),
      ih (List.forall_mem_cons.mpr ⟨here, later⟩)]

/-- The choice reads nothing but what the statuses say of the candidates. -/
theorem syncTarget_congr {row : SyncAddresses} {first second : EmailStatuses}
    (accepted : ∀ c ∈ candidates row.email row.alternateEmail, lower c ∈ first.accepted ↔
      lower c ∈ second.accepted)
    (refused : ∀ c ∈ candidates row.email row.alternateEmail,
      first.refusedAt.get? (lower c) = second.refusedAt.get? (lower c)) :
    syncTarget row first = syncTarget row second := by
  unfold syncTarget
  split
  · rfl
  generalize candidates row.email row.alternateEmail = offered at *
  have taken : offered.find? (fun a => lower a ∈ first.accepted) =
      offered.find? (fun a => lower a ∈ second.accepted) :=
    List.find?_congr fun c member => decide_eq_decide.mpr (accepted c member)
  have untried : offered.find? (fun a => lower a ∉ first.refusedAt) =
      offered.find? (fun a => lower a ∉ second.refusedAt) := by
    refine List.find?_congr fun c member => decide_eq_decide.mpr (not_congr ?_)
    rw [Dict.mem_iff_item, Dict.mem_iff_item]
    simp only [← Dict.get?_eq_some_iff, refused c member]
  dsimp only
  rw [taken, untried]
  split
  · rfl
  split
  · rfl
  split
  · rfl
  · exact oldestRefusal_congr refused

namespace Web

theorem targetAddress_eq (target : MemberRow) (store : StatusStore) (now : Time) :
    targetAddress target store now = syncTarget ⟨target.email, target.alternateEmail⟩
      (emailStatuses store now) := by
  apply syncTarget_congr
  · intro c offered
    exact (offered_accepted offered).trans mem_accepted.symm
  · intro c offered
    apply Option.ext
    intro time
    rw [refusedAt_get?, refusedAt_get?, get?_only, if_pos (lower_asked offered)]

/-! ### Offers and keys -/

section
variable (target : MemberRow) (store : StatusStore) (now : Time)

/-- What the sweep offers Google for one member where it has the choice: `_admit` keys the member,
and `plan_group` passes the key on for an empty group and with no refusal to withhold it for. -/
def sweepOffers (groupEmail : Email) : List PlannedAdd :=
  (planGroup [] [] 0 groupEmail
    (admitInto (emailStatuses store now) ⟨target.id, ⟨target.email, target.alternateEmail⟩⟩
      Dict.empty) [] false).adds

/-- The panel's offer lowers to the sweep's, a verdict on the sweep's offer is written where the
member's address is looked up, and a refusal of it that is committed is one of the member's
address. -/
structure OneKey (a : PlannedAdd) : Prop where
  offer : lower a.address = lower (targetAddress target store now)
  written : ∀ (σ : Type) (clock : σ → Time × σ) (status : Str) (later : StatusStore) (port : σ),
    (recordStatus (.landing clock) a.address status later port).2.1.statusOf
      (lower (targetAddress target store now)) = some status
  refused : ∀ (σ : Type) (clock : σ → Time × σ) (refusals : List Refusal) (known : List Str)
    (later : StatusStore) (port : σ) (moment : Time),
    (∃ r ∈ refusals, r.address = a.address) → (∀ r ∈ refusals, r.outcome.unmirrorable = true) →
      refusalFuseTrips later known refusals = false →
      lower (targetAddress target store now) ∈
        (emailStatuses (commitRefusals (.landing clock) refusals known false later port).2.1
          moment).refusedAt

end

section
variable {target : MemberRow} {store : StatusStore} {now : Time} {groupEmail : Email}

theorem mem_sweepOffers {a : PlannedAdd} :
    a ∈ sweepOffers target store now groupEmail ↔
      isExample target.email = false ∧ a = ⟨casefold (targetAddress target store now),
        target.id⟩ := by
  have alike := isExample_syncTarget ⟨target.email, target.alternateEmail⟩ (emailStatuses store now)
  dsimp only at alike
  have open_ : withheld [] [] 0 (admitInto (emailStatuses store now)
      ⟨target.id, ⟨target.email, target.alternateEmail⟩⟩ Dict.empty) [] a.address = false := rfl
  have absent : a.address ∉ present [] := List.not_mem_nil
  rw [targetAddress_eq, ← alike, sweepOffers, mem_planGroup_adds, mem_missing, and_iff_left open_,
    and_iff_left absent]
  unfold admitInto
  dsimp only
  split
  · rename_i fabricated
    simp [fabricated, Dict.empty]
  · rename_i real
    have one : (Dict.empty.set
      (casefold (syncTarget ⟨target.email, target.alternateEmail⟩ (emailStatuses store now)))
        target.id).items =
        [(casefold (syncTarget ⟨target.email, target.alternateEmail⟩ (emailStatuses store now)),
          target.id)] := rfl
    rw [one, List.mem_singleton, Prod.mk.injEq, and_iff_right (eq_false_of_ne_true real)]
    constructor
    · rintro ⟨address, id⟩
      cases a
      cases address
      cases id
      rfl
    · rintro rfl
      exact ⟨rfl, rfl⟩

/-- The key is one when lowering the folded address is lowering it, and only then. -/
theorem oneKey_of_offer {a : PlannedAdd}
    (offer : lower a.address = lower (targetAddress target store now)) :
    OneKey target store now a where
  offer := offer
  written := by
    intro σ clock status later port
    rw [statusOf_recordStatus, offer, if_pos rfl]
  refused := by
    intro σ clock refusals known later port moment ⟨r, member, same⟩ verdicts landed
    have key : ∃ r ∈ refusals, lower r.address = lower (targetAddress target store now) :=
      ⟨r, member, by rw [same, offer]⟩
    obtain ⟨d, refusal, -, status⟩ := statusOf_refusals_some clock key (0, later, port)
    refine mem_refusedAt.mpr ⟨d.outcome.value, ?_, refused_not_accepted (verdicts d refusal)⟩
    rw [statusOf_commitRefusals, if_neg (by simp [landed])]
    exact status

/-- The sweep and the panel share one key for a member exactly when the primary is fabricated, so
that nothing is offered, or the lowercase of the address chosen has no letter that folding carries
further. -/
theorem oneKey_iff :
    (∀ a ∈ sweepOffers target store now groupEmail, OneKey target store now a) ↔
      isExample target.email = true ∨
        ∀ d ∈ lower (targetAddress target store now), lower (casefold [d]) = [d] := by
  rw [← lower_casefold_eq_iff]
  constructor
  · intro each
    cases fabricated : isExample target.email with
    | true => exact Or.inl rfl
    | false => exact Or.inr (each _ (mem_sweepOffers.mpr ⟨fabricated, rfl⟩)).offer
  · rintro (fabricated | settled) a offered
    · rw [(mem_sweepOffers.mp offered).1] at fabricated
      cases fabricated
    · rw [(mem_sweepOffers.mp offered).2]
      exact oneKey_of_offer settled

end

def streetMember : MemberRow :=
  { id := 0, firstName := none, lastName := none, alternateName := none,
    email := str "straße@pdx.org",
    alternateEmail := none, discordUserId := none, standing := .goodStanding, banned := false }

theorem sharp_s_offered_twice :
    ¬∀ a ∈ sweepOffers streetMember ⟨Dict.empty, false⟩ 0 (str "everyone@pdx.org"),
      OneKey streetMember ⟨Dict.empty, false⟩ 0 a := by
  intro each
  have offered : (⟨str "strasse@pdx.org", 0⟩ : PlannedAdd) ∈
      sweepOffers streetMember ⟨Dict.empty, false⟩ 0 (str "everyone@pdx.org") := by
    decide +kernel
  exact absurd (each _ offered).offer (by decide +kernel)

end Web

end Rosadmin
