import Rosadmin.Foundation.Retrying
import Rosadmin.GoogleSync

/-!
# Waiting out Google's weather

Every call of a membership operation is tried up to six times while Google
answers with a quota signal or a server error. Such an answer says nothing of
what Google did: an insert may have been performed and its answer lost.
-/

namespace Rosadmin
open Foundation

/-- A 403 with one of these means "slow down", not "forbidden". -/
def rateLimitReasons : List Str :=
  [str "rateLimitExceeded", str "userRateLimitExceeded", str "quotaExceeded"]

def isRateLimited403 (error : HttpError) : Bool :=
  error.statusCode = 403 && error.reasons.any (·.any (· ∈ rateLimitReasons))

def isTransientHttpError (error : HttpError) : Bool :=
  error.statusCode = 429 || 500 ≤ error.statusCode || isRateLimited403 error

/-- `stop_after_attempt(6)`, the last error raised as it is. -/
def retryTransient {σ α : Type} (call : σ → Except HttpError α × σ) (port : σ) :
    Except HttpError α × σ :=
  retrying isTransientHttpError call 5 port

theorem addOutcome_transient {error : HttpError} (transient : isTransientHttpError error = true) :
    addOutcome error = .failed := by
  simp only [isTransientHttpError, isRateLimited403, Bool.or_eq_true, Bool.and_eq_true,
    decide_eq_true_eq] at transient
  rw [addOutcome, if_neg (by omega), if_neg (by omega), if_neg (by omega)]

theorem removeOutcome_transient {error : HttpError}
    (transient : isTransientHttpError error = true) : removeOutcome error = .failed := by
  simp only [isTransientHttpError, isRateLimited403, Bool.or_eq_true, Bool.and_eq_true,
    decide_eq_true_eq] at transient
  rw [removeOutcome, if_neg (by omega)]

/-! ### Membership calls -/

section
variable {σ : Type}

/-- What Google documents of a membership call: done again it answers `status` and changes nothing,
and a refusal is a verdict, under which nothing changes. -/
structure Verdicts (status : Nat) (perform : Email → Email → σ → Except HttpError Unit × σ) :
    Prop where
  again : ∀ group address w, (perform group address w).1 = .ok () →
    ∃ error, perform group address (perform group address w).2 =
      (.error error, (perform group address w).2) ∧ error.statusCode = status
  refused : ∀ group address w error, (perform group address w).1 = .error error →
    (perform group address w).2 = w ∧ isTransientHttpError error = false

/-- Each call of the directory, over a transport that strikes some tries. -/
def retriedDirectory (fates : Nat → Delivery HttpError) (directory : Directory σ) :
    Directory (Tried σ) where
  insertMember := fun group address =>
    retryTransient (delivered fates (directory.insertMember group address))
  deleteMember := fun group address =>
    retryTransient (delivered fates (directory.deleteMember group address))
  listMembers := fun group => retryTransient (delivered fates (directory.listMembers group))
  getGroup := fun group => retryTransient (delivered fates (directory.getGroup group))

/-- Six tries in a row from the `n`th on are struck. -/
def StruckSix (fates : Nat → Delivery HttpError) (n : Nat) : Prop :=
  ∀ j ≤ 5, (fates (n + j)).answers = false

/-- What one performance leaves and says, but for a performance that is found to hold already. -/
def Relayed (plain : SyncOutcome × σ) (outcome : SyncOutcome) (after : σ) : Prop :=
  after = plain.2 ∧ (outcome = plain.1 ∨ plain.1 = .applied ∧ outcome = .alreadyConverged)

variable {fates : Nat → Delivery HttpError} {status : Nat}
    {perform : Email → Email → σ → Except HttpError Unit × σ} {read : HttpError → SyncOutcome}

theorem Verdicts.settling (verdicts : Verdicts status perform) (group address : Email) :
    Settling isTransientHttpError (perform group address) where
  verdict := fun w error answer => (verdicts.refused group address w error answer).2
  again := by
    intro w
    cases answer : (perform group address w).1 with
    | ok =>
      obtain ⟨error, second, -⟩ := verdicts.again group address w answer
      rw [second]
    | error error =>
      have unchanged := (verdicts.refused group address w error answer).1
      rw [unchanged, unchanged]

/-- One retried call: an answered try leaves what a single performance leaves, and says what it says
or that it holds already; six struck tries end in their last error. -/
theorem retried_call (verdicts : Verdicts status perform)
    (weather : Weather isTransientHttpError fates) (group address : Email) (t : Tried σ)
    {answer : Except HttpError Unit} {after : Tried σ}
    (retried : retryTransient (delivered fates (perform group address)) t = (answer, after)) :
    after.tries ≤ t.tries + 6 ∧
      (after.world = (perform group address t.world).2 ∧
        (answer = (perform group address t.world).1 ∨
          (perform group address t.world).1 = .ok () ∧ ∃ error,
            answer = .error error ∧ error.statusCode = status) ∨
        StruckSix fates t.tries ∧ (∃ error, answer = .error error ∧
          isTransientHttpError error = true) ∧
          (after.world = t.world ∨ after.world = (perform group address t.world).2)) := by
  rw [retryTransient] at retried
  rcases retrying_delivered weather (verdicts.settling group address) 5 t with
    ⟨k, within, -, -, result⟩ | ⟨struck, error, transient, result⟩
  · obtain ⟨rfl, rfl⟩ := Prod.mk.inj (result.symm.trans retried)
    refine ⟨by dsimp only; omega, Or.inl ?_⟩
    rw [worldAfter]
    cases performedAmong fates t.tries k with
    | false => exact ⟨rfl, Or.inl rfl⟩
    | true =>
      -- the call was performed before, and is asked again where it holds already
      rw [if_pos rfl]
      cases first : (perform group address t.world).1 with
      | ok =>
        obtain ⟨error, second, code⟩ := verdicts.again group address t.world first
        rw [second]
        exact ⟨rfl, Or.inr ⟨rfl, error, rfl, code⟩⟩
      | error error =>
        rw [(verdicts.refused group address t.world error first).1]
        exact ⟨(verdicts.refused group address t.world error first).1, Or.inl first⟩
  · obtain ⟨rfl, rfl⟩ := Prod.mk.inj (result.symm.trans retried)
    refine ⟨Nat.le_refl _, Or.inr ⟨struck, ⟨error, rfl, transient⟩, ?_⟩⟩
    rw [worldAfter]
    split
    · exact Or.inr rfl
    · exact Or.inl rfl

/-- The outcome an answer is read as. -/
def outcomeOf (read : HttpError → SyncOutcome) : Except HttpError Unit → SyncOutcome
  | .ok () => .applied
  | .error error => read error

theorem mirrored_gated {group : Option Email} {address gated : Email}
    (gate : skipGate group address = .ok gated) (port : σ) :
    mirrored perform read group address port =
      (outcomeOf read (perform gated address port).1, (perform gated address port).2) := by
  rw [mirrored, gate]
  dsimp only
  rcases perform gated address port with ⟨_ | _, after⟩ <;> rfl

/-- A call at a gate is not tried at all. -/
theorem mirrored_retried (verdicts : Verdicts status perform)
    (weather : Weather isTransientHttpError fates)
    (holds : ∀ error, error.statusCode = status → read error = .alreadyConverged)
    (fails : ∀ error, isTransientHttpError error = true → read error = .failed)
    (group : Option Email) (address : Email)
    (t : Tried σ) {outcome : SyncOutcome} {after : Tried σ}
    (asked : mirrored (fun g a => retryTransient (delivered fates (perform g a))) read group address
      t = (outcome, after)) :
    after.tries ≤ t.tries + 6 ∧
      (Relayed (mirrored perform read group address t.world) outcome after.world ∨
        StruckSix fates t.tries ∧ outcome = .failed ∧
          (after.world = t.world ∨
            after.world = (mirrored perform read group address t.world).2)) := by
  cases gate : skipGate group address with
  | error skipped =>
    rw [mirrored, gate] at asked
    cases asked
    rw [mirrored, gate]
    exact ⟨Nat.le_add_right _ _, Or.inl ⟨rfl, Or.inl rfl⟩⟩
  | ok gated =>
    rw [mirrored_gated gate] at asked ⊢
    obtain ⟨rfl, rfl⟩ := Prod.mk.inj asked
    obtain ⟨few, met⟩ := retried_call verdicts weather gated address t Prod.mk.eta.symm
    refine ⟨few, met.imp ?_ ?_⟩
    · rintro ⟨world, said | ⟨first, error, said, code⟩⟩
      · exact ⟨world, Or.inl (congrArg _ said)⟩
      · rw [said, first]
        exact ⟨world, Or.inr ⟨rfl, holds error code⟩⟩
    · rintro ⟨struck, ⟨error, said, transient⟩, world⟩
      rw [said]
      exact ⟨struck, fails error transient, world⟩

end

/-! ### Runs of mirror calls -/

structure MirrorCall where
  isAdd : Bool
  groupEmail : Option Email
  memberEmail : Email

def GroupSync.perform {σ : Type} (sync : GroupSync σ) (c : MirrorCall) (port : σ) :
    SyncOutcome × σ :=
  if c.isAdd then sync.add c.groupEmail c.memberEmail port
    else sync.remove c.groupEmail c.memberEmail port

def mirrorRun {σ : Type} (sync : GroupSync σ) : List MirrorCall → σ → List SyncOutcome × σ
  | [], port => ([], port)
  | c :: rest, port =>
    let done := sync.perform c port
    let later := mirrorRun sync rest done.2
    (done.1 :: later.1, later.2)

section
variable {σ : Type} {directory : Directory σ} {fates : Nat → Delivery HttpError}

/-- What Google documents of inserts and deletes. -/
structure Directory.Lawful (directory : Directory σ) : Prop where
  inserts : Verdicts 409 directory.insertMember
  deletes : Verdicts 404 directory.deleteMember

theorem perform_retried (lawful : directory.Lawful) (weather : Weather isTransientHttpError fates)
    (c : MirrorCall) (t : Tried σ) {outcome : SyncOutcome} {after : Tried σ}
    (asked : (googleGroupSync (retriedDirectory fates directory)).perform c t = (outcome, after)) :
    after.tries ≤ t.tries + 6 ∧
      (Relayed ((googleGroupSync directory).perform c t.world) outcome after.world ∨
        StruckSix fates t.tries ∧ outcome = .failed ∧
          (after.world = t.world ∨
            after.world = ((googleGroupSync directory).perform c t.world).2)) := by
  rw [GroupSync.perform] at asked
  rw [GroupSync.perform]
  have converges : ∀ error : HttpError, error.statusCode = 409 →
      addOutcome error = .alreadyConverged :=
    fun error code => if_pos code
  have gone : ∀ error : HttpError, error.statusCode = 404 →
      removeOutcome error = .alreadyConverged :=
    fun error code => if_pos code
  split at asked
  · rename_i adds
    rw [if_pos adds]
    exact mirrored_retried lawful.inserts weather converges
      (fun _ => addOutcome_transient) _ _ t asked
  · rename_i removes
    rw [if_neg removes]
    exact mirrored_retried lawful.deletes weather gone
      (fun _ => removeOutcome_transient) _ _ t asked

/-- What a call of the run says, beside what one performance says. -/
def SameReading (plain said : SyncOutcome) : Prop :=
  said = plain ∨ plain = .applied ∧ said = .alreadyConverged

/-- Where no call of the run meets six struck tries, the run leaves what a run over a transport that
never fails leaves. -/
theorem mirrorRun_retried (lawful : directory.Lawful) (weather : Weather isTransientHttpError fates)
    (calls : List MirrorCall) (t : Tried σ)
    (passes : ∀ done c rest, calls = done ++ c :: rest →
      ¬StruckSix fates (mirrorRun (googleGroupSync (retriedDirectory fates directory)) done
        t).2.tries) :
    (mirrorRun (googleGroupSync (retriedDirectory fates directory)) calls t).2.world =
        (mirrorRun (googleGroupSync directory) calls t.world).2 ∧
      List.Forall₂ SameReading (mirrorRun (googleGroupSync directory) calls t.world).1
        (mirrorRun (googleGroupSync (retriedDirectory fates directory)) calls t).1 := by
  induction calls generalizing t with
  | nil => exact ⟨rfl, .nil⟩
  | cons c rest ih =>
    obtain ⟨-, met⟩ := perform_retried lawful weather c t Prod.mk.eta.symm
    obtain ⟨world, reading⟩ := met.resolve_right fun struck => passes [] c rest rfl struck.1
    rw [mirrorRun, mirrorRun]
    dsimp only
    rw [← world]
    obtain ⟨final, readings⟩ := ih _ fun done next later whole =>
      passes (c :: done) next later (by rw [whole]; rfl)
    exact ⟨final, .cons reading readings⟩

theorem mirror_effectively_once (lawful : directory.Lawful)
    (weather : Weather isTransientHttpError fates) (calls : List MirrorCall) (t : Tried σ) :
    (∀ done c rest, calls = done ++ c :: rest → ∀ before outcome after,
      before = (mirrorRun (googleGroupSync (retriedDirectory fates directory)) done t).2 →
      (googleGroupSync (retriedDirectory fates directory)).perform c before = (outcome, after) →
      after.tries ≤ before.tries + 6 ∧
        (Relayed ((googleGroupSync directory).perform c before.world) outcome after.world ∨
          StruckSix fates before.tries ∧ outcome = .failed ∧
            (after.world = before.world ∨
              after.world = ((googleGroupSync directory).perform c before.world).2))) ∧
      ((∀ done c rest, calls = done ++ c :: rest →
          ¬StruckSix fates (mirrorRun (googleGroupSync (retriedDirectory fates directory)) done
            t).2.tries) →
        (mirrorRun (googleGroupSync (retriedDirectory fates directory)) calls t).2.world =
            (mirrorRun (googleGroupSync directory) calls t.world).2 ∧
          List.Forall₂ SameReading (mirrorRun (googleGroupSync directory) calls t.world).1
            (mirrorRun (googleGroupSync (retriedDirectory fates directory)) calls t).1) :=
  ⟨fun _ c _ _ before _ _ _ asked => perform_retried lawful weather c before asked,
    mirrorRun_retried lawful weather calls t⟩

end

/-! ### An insert whose answer is lost -/

/-- A directory of one group. -/
def rollDirectory : Directory (List Email) where
  insertMember := fun _ address roll =>
    if address ∈ roll then (.error ⟨409, [some (str "duplicate")]⟩, roll)
      else (.ok (), roll ++ [address])
  deleteMember := fun _ address roll =>
    if address ∈ roll then (.ok (), roll.filter (· ≠ address))
      else (.error ⟨404, [some (str "notFound")]⟩, roll)
  listMembers := fun _ roll =>
    (.ok (roll.map fun address => ⟨address, .member, none, some (str "USER")⟩), roll)
  getGroup := fun _ roll => (.ok (), roll)

theorem rollDirectory_lawful : rollDirectory.Lawful where
  inserts :=
    { again := by
        intro _ address roll done
        by_cases held : address ∈ roll
        · simp [rollDirectory, held] at done
        · exact ⟨⟨409, [some (str "duplicate")]⟩, by simp [rollDirectory, held], rfl⟩
      refused := by
        intro _ address roll error refusal
        by_cases held : address ∈ roll
        · simp only [rollDirectory, held, if_true, Except.error.injEq] at refusal ⊢
          exact ⟨trivial, refusal ▸ by decide⟩
        · simp [rollDirectory, held] at refusal }
  deletes :=
    { again := by
        intro _ address roll done
        by_cases held : address ∈ roll
        · exact ⟨⟨404, [some (str "notFound")]⟩, by simp [rollDirectory, held], rfl⟩
        · simp [rollDirectory, held] at done
      refused := by
        intro _ address roll error refusal
        by_cases held : address ∈ roll
        · simp [rollDirectory, held] at refusal
        · simp only [rollDirectory, held, if_false, Except.error.injEq] at refusal ⊢
          exact ⟨trivial, refusal ▸ by decide⟩ }

/-- The first try is performed, and its answer lost to a 503. -/
def lostAnswer (n : Nat) : Delivery HttpError := if n = 0 then .struck true ⟨503, []⟩ else .answered

theorem lostAnswer_weather : Weather isTransientHttpError lostAnswer := by
  intro n performed error struck
  rw [lostAnswer] at struck
  split at struck
  · cases struck
    decide
  · cases struck

def lateAdd : List MirrorCall := [⟨true, some (str "all@pdx.org"), str "nora@pdx.org"⟩]

theorem mirror_effectively_once_lost :
    (mirrorRun (googleGroupSync (retriedDirectory lostAnswer rollDirectory)) lateAdd
      ⟨[], 0⟩).2.world = (mirrorRun (googleGroupSync rollDirectory) lateAdd []).2 ∧
      (mirrorRun (googleGroupSync (retriedDirectory lostAnswer rollDirectory)) lateAdd ⟨[], 0⟩).1 =
        [.alreadyConverged] := by
  have passes : ∀ n, ¬StruckSix lostAnswer n := by
    intro n struck
    exact absurd (struck 1 (by decide)) (by simp [lostAnswer, Delivery.answers])
  exact ⟨((mirror_effectively_once rollDirectory_lawful lostAnswer_weather lateAdd ⟨[], 0⟩).2
    fun _ _ _ _ => passes _).1, by decide⟩

end Rosadmin
