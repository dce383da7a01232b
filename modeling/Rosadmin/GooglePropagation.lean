import Mathlib.Logic.Function.Basic
import Rosadmin.Foundation.Lagging
import Rosadmin.Foundation.Polling
import Rosadmin.GoogleGroup
import Rosadmin.GoogleRetries

/-!
# Waiting for a change to show

The directory answers at once what it has done, and the two other services some
time later: a read of theirs shows the groups as they were a while ago. Creating
a group therefore polls until both have caught up.
-/

namespace Rosadmin.Propagation
open Foundation

/-- Google as one run meets it. -/
structure ReplicatedCalls where
  /-- the error that strikes a call, and whether it was performed first -/
  fates : Nat → Option (Bool × HttpError)
  /-- how old what a call would be shown is -/
  settingsDelay : Nat → Nat
  labelsDelay : Nat → Nat
  took : Nat → Nat
  freshSettings : Dict Str Str
  freshLabels : Dict Str Str

/-- `generation` counts the groups an address has had: with the address it stands for a group's
id. -/
structure Held where
  groups : Groups
  generation : Email → Nat

/-- Times are in milliseconds. -/
structure Replicated where
  /-- what the directory held -/
  history : History Held
  calls : Nat
  clock : Nat

namespace Replicated

def held (g : Replicated) : Held := g.history.current

def groups (g : Replicated) : Groups := g.held.groups

def write (held : Held) (g : Replicated) : Replicated :=
  { g with history := g.history.write g.clock held }

def sleep (t : Nat) (g : Replicated) : Replicated := { g with clock := g.clock + t }

end Replicated

/-! ### Reading -/

def idOf (email : Email) (h : Held) : Except HttpError Nat :=
  (getGroup email h.groups).1.map fun _ => h.generation email

def settingsOf (email : Email) (h : Held) : Except HttpError (Dict Str Str) :=
  (getGroup email h.groups).1.map RemoteGroup.settings

/-- Labels are asked for by the group's id. -/
def labelsOf (email : Email) (id : Nat) (h : Held) : Except HttpError (Dict Str Str) :=
  if h.generation email = id then (getGroup email h.groups).1.map RemoteGroup.labels
    else .error ⟨404, []⟩

/-! ### Writing -/

/-- Inserting gives the new group's id. -/
def insertNew (freshSettings freshLabels : Dict Str Str) (b : GoogleGroupBuilder) (h : Held) :
    Except HttpError Nat × Held :=
  match insertGroup ⟨fun _ => .answered, freshSettings, freshLabels⟩ b h.groups with
  | (.ok (), groups) =>
    (.ok (h.generation b.email + 1),
      ⟨groups, Function.update h.generation b.email (h.generation b.email + 1)⟩)
  | (.error error, groups) => (.error error, ⟨groups, h.generation⟩)

def onGroups (perform : Groups → Except HttpError Unit × Groups) (h : Held) :
    Except HttpError Unit × Held :=
  ((perform h.groups).1, ⟨(perform h.groups).2, h.generation⟩)

section
variable (google : ReplicatedCalls)

def Replicated.called (g : Replicated) : Replicated :=
  { g with calls := g.calls + 1, clock := g.clock + google.took g.calls }

def ask {α : Type} (view : Replicated → Held) (read : Held → Except HttpError α) (g : Replicated) :
    Except HttpError α × Replicated :=
  match google.fates g.calls with
  | none => (read (view g), g.called google)
  | some (_, error) => (.error error, g.called google)

def change {α : Type} (perform : Held → Except HttpError α × Held) (g : Replicated) :
    Except HttpError α × Replicated :=
  match google.fates g.calls with
  | none => ((perform g.held).1, (g.called google).write (perform g.held).2)
  | some (performed, error) =>
    (.error error, if performed then (g.called google).write (perform g.held).2
      else g.called google)

def rawGetId (email : Email) : Replicated → Except HttpError Nat × Replicated :=
  ask google Replicated.held (idOf email)

def rawGetSettings (email : Email) : Replicated → Except HttpError (Dict Str Str) × Replicated :=
  ask google (fun g => g.history.asOf (google.settingsDelay g.calls) g.clock) (settingsOf email)

def rawGetLabels (email : Email) (id : Nat) : Replicated →
    Except HttpError (Dict Str Str) × Replicated :=
  ask google (fun g => g.history.asOf (google.labelsDelay g.calls) g.clock) (labelsOf email id)

/-! ### What is polled -/

def creationVisible (email : Email) (id : Nat) (g : Replicated) :
    Except HttpError Bool × Replicated :=
  match andThen (rawGetSettings google email g) fun _ => rawGetLabels google email id with
  | (.ok _, g) => (.ok true, g)
  | (.error error, g) => if error.statusCode = 404 then (.ok false, g) else (.error error, g)

def groupGone (email : Email) (g : Replicated) : Except HttpError Bool × Replicated :=
  match rawGetId google email g with
  | (.ok _, g) => (.ok false, g)
  | (.error error, g) => if error.statusCode = 404 then (.ok true, g) else (.error error, g)

/-- `all(remote.get(k) == v for k, v in patch.items())` -/
def agreesOn (patch remote : Dict Str Str) : Bool :=
  patch.items.all fun e => remote.get? e.1 = some e.2

def settingsMatch (b : GoogleGroupBuilder) (id : Nat) (g : Replicated) :
    Except HttpError Bool × Replicated :=
  andThen (rawGetSettings google b.email g) fun settings g =>
    if !agreesOn b.settings settings then (.ok false, g)
    else andThen (rawGetLabels google b.email id g) fun labels g =>
      -- two dictionaries are equal as soon as each holds the other's items
      (.ok (agreesOn b.labels labels && agreesOn labels b.labels), g)

def polling (visible : Replicated → Except HttpError Bool × Replicated) :
    Polling Replicated HttpError where
  visible := visible
  transient := isTransientHttpError
  clock := Replicated.clock
  sleep := Replicated.sleep
  interval := 2000
  ceiling := 60000

def pollFailure : PollError HttpError → Failure
  | .raised error => .http error
  | .timedOut => .propagationTimeout

def poll (visible : Replicated → Except HttpError Bool × Replicated) (g : Replicated) :
    Except Failure Unit × Replicated :=
  let polled := (polling visible).pollUntil g
  (polled.1.mapError pollFailure, polled.2)

/-! ### A group's life -/

def raises {α : Type} (answered : Except HttpError α × Replicated) :
    Except Failure α × Replicated :=
  (answered.1.mapError .http, answered.2)

def rawCreate (b : GoogleGroupBuilder) (g : Replicated) : Except Failure Nat × Replicated :=
  andThen (raises (change google (insertNew google.freshSettings google.freshLabels b) g))
    fun id g =>
    andThen (poll (creationVisible google b.email id) g) fun _ g => (.ok id, g)

def rawConfigure (b : GoogleGroupBuilder) (id : Nat) (g : Replicated) :
    Except Failure Unit × Replicated :=
  andThen (raises (change google (onGroups (patchLabels b.email b.labels)) g)) fun _ g =>
    andThen (raises (change google (onGroups (patchSettings b.email b.settings)) g)) fun _ =>
      poll (settingsMatch google b id)

/-- `missing_ok=True` -/
def missingOk {σ : Type} : Except Failure Unit × σ → Except Failure Unit × σ
  | (.error (.http error), g) => if error.statusCode = 404 then (.ok (), g)
      else (.error (.http error), g)
  | other => other

def rawDelete (email : Email) (g : Replicated) : Except Failure Unit × Replicated :=
  missingOk (andThen (raises (rawGetId google email g)) fun _ g =>
    andThen (raises (change google (onGroups (deleteGroup email)) g)) fun _ =>
      poll (groupGone google email))

def rawFetch (email : Email) (g : Replicated) : Except Failure ProvisionedGroup × Replicated :=
  andThen (raises (rawGetId google email g)) fun id g =>
    andThen (raises (rawGetSettings google email g)) fun settings g =>
      andThen (raises (rawGetLabels google email id g)) fun labels g => (.ok ⟨settings, labels⟩, g)

def afterCreate (b : GoogleGroupBuilder) : Except Failure Nat → Replicated →
    Except Failure ProvisionedGroup × Replicated
  | .error (.http error), g =>
    if b.existsBehavior = .link ∧ error.statusCode = 409 then rawFetch google b.email g
      else (.error (.http error), g)
  | .error .propagationTimeout, g => (.error .propagationTimeout, g)
  | .ok id, g => andThen (rawConfigure google b id g) fun _ g => (.ok ⟨b.settings, b.labels⟩, g)

def buildRemote (b : GoogleGroupBuilder) (g : Replicated) :
    Except Failure ProvisionedGroup × Replicated :=
  andThen (if b.existsBehavior = .replace then rawDelete google b.email g
    else (.ok (), g)) fun _ g =>
    let created := rawCreate google b g
    afterCreate google b created.1 created.2

end

/-! ### What reading keeps -/

@[simp] theorem groups_called (google : ReplicatedCalls) (g : Replicated) :
    (g.called google).groups = g.groups := rfl

@[simp] theorem groups_write (held : Held) (g : Replicated) :
    (g.write held).groups = held.groups := rfl

section
variable {α : Type} {google : ReplicatedCalls} {email : Email} {id : Nat} {b : GoogleGroupBuilder}
  {g : Replicated}

theorem ask_snd (view : Replicated → Held) (read : Held → Except HttpError α) (g : Replicated) :
    (ask google view read g).2 = g.called google := by
  unfold ask
  split <;> rfl

theorem ask_keeps (inv : Replicated → Prop) (called : ∀ g, inv g → inv (g.called google))
    (here : inv g) (view : Replicated → Held) (read : Held → Except HttpError α) :
    inv (ask google view read g).2 := by
  rw [ask_snd]
  exact called g here

theorem creationVisible_keeps (inv : Replicated → Prop)
    (called : ∀ g, inv g → inv (g.called google)) (here : inv g) :
    inv (creationVisible google email id g).2 := by
  have asked : inv (andThen (rawGetSettings google email g) fun _ =>
      rawGetLabels google email id).2 :=
    andThen_keeps inv (ask_keeps inv called here _ _) fun _ _ there =>
      ask_keeps inv called there _ _
  unfold creationVisible
  split
  · rename_i answered
    rwa [answered] at asked
  · rename_i answered
    rw [answered] at asked
    split <;> exact asked

theorem groupGone_keeps (inv : Replicated → Prop) (called : ∀ g, inv g → inv (g.called google))
    (here : inv g) : inv (groupGone google email g).2 := by
  have asked : inv (rawGetId google email g).2 := ask_keeps inv called here _ _
  unfold groupGone
  split
  · rename_i answered
    rwa [answered] at asked
  · rename_i answered
    rw [answered] at asked
    split <;> exact asked

theorem settingsMatch_keeps (inv : Replicated → Prop) (called : ∀ g, inv g → inv (g.called google))
    (here : inv g) : inv (settingsMatch google b id g).2 := by
  refine andThen_keeps inv (ask_keeps inv called here _ _) ?_
  intro settings g' there
  split
  · exact there
  · exact andThen_keeps inv (ask_keeps inv called there _ _) fun _ _ last => last

end

/-! ### What an end says -/

section
variable {α β : Type} {google : ReplicatedCalls} {email : Email} {b : GoogleGroupBuilder}
    {g : Replicated} {visible : Replicated → Except HttpError Bool × Replicated}

theorem polling_timed (forward : ∀ t g, t ≤ g.clock → t ≤ (visible g).2.clock) :
    (polling visible).Timed :=
  ⟨fun s => forward _ s (Nat.le_refl _), fun _ _ => rfl, Nat.zero_lt_succ 1999⟩

/-- A poll that ends well saw what it was waiting for last. -/
theorem poll_shown (inv : Replicated → Prop)
    (forward : ∀ t g, t ≤ g.clock → t ≤ (visible g).2.clock)
    (asking : ∀ s, inv s → inv (visible s).2) (sleeping : ∀ t s, inv s → inv (s.sleep t))
    (here : inv g) :
    (poll visible g).1 = .ok () → ∃ s, inv s ∧ visible s = (.ok true, (poll visible g).2) := by
  have ends := Polling.pollUntil_ends (polling_timed forward) inv asking sleeping here
  unfold poll
  revert ends
  generalize (polling visible).pollUntil g = result
  intro ends
  cases ends with
  | @shown s there done => exact fun _ => ⟨s, there, Prod.ext done rfl⟩
  | raised => exact fun polled => nomatch polled
  | timedOut => exact fun polled => nomatch polled

/-- Time goes on, and a timeout is a minute's. -/
structure Punctual (g : Replicated) (result : Except Failure α × Replicated) : Prop where
  forward : g.clock ≤ result.2.clock
  late : result.1 = .error .propagationTimeout → g.clock + 60000 ≤ result.2.clock

theorem Punctual.andThen {result : Except Failure α × Replicated}
    {rest : α → Replicated → Except Failure β × Replicated} (first : Punctual g result)
    (second : ∀ a s, Punctual s (rest a s)) :
    Punctual g (Foundation.andThen result rest) := by
  rcases result with ⟨failure | a, s⟩
  · exact ⟨first.forward, fun late => first.late (by cases late; rfl)⟩
  · have next := second a s
    exact ⟨Nat.le_trans first.forward next.forward, fun late =>
      Nat.le_trans (Nat.add_le_add_right first.forward _) (next.late late)⟩

theorem poll_punctual (forward : ∀ t g, t ≤ g.clock → t ≤ (visible g).2.clock) (g : Replicated) :
    Punctual g (poll visible g) where
  forward := (polling visible).attempts_keeps (fun h => g.clock ≤ h.clock) (fun s here =>
    forward _ s here)
    (fun t s here => Nat.le_trans here (Nat.le_add_right s.clock t)) (Nat.le_refl _)
  late := by
    have ends := Polling.pollUntil_ends (polling_timed forward) (g.clock ≤ ·.clock) (fun s here =>
      forward _ s here)
      (fun t s here => Nat.le_trans here (Nat.le_add_right s.clock t)) (Nat.le_refl g.clock)
    unfold poll
    revert ends
    generalize (polling visible).pollUntil g = result
    intro ends
    cases ends with
    | shown => exact fun late => nomatch late
    | raised => exact fun late => nomatch late
    | timedOut there again past => exact fun _ => past

theorem called_clock (google : ReplicatedCalls) {t : Nat} (g : Replicated) (here : t ≤ g.clock) :
    t ≤ (g.called google).clock :=
  Nat.le_trans here (Nat.le_add_right _ _)

theorem ask_punctual (view : Replicated → Held) (read : Held → Except HttpError α)
    (g : Replicated) : Punctual g (raises (ask google view read g)) where
  forward := ask_keeps (g.clock ≤ ·.clock) (called_clock google) (Nat.le_refl _) view read
  late := by
    unfold raises
    cases (ask google view read g).1 with
    | ok => exact fun late => nomatch late
    | error => exact fun late => nomatch late

theorem change_punctual (perform : Held → Except HttpError α × Held) (g : Replicated) :
    Punctual g (raises (change google perform g)) where
  forward := by
    have called := called_clock google g (Nat.le_refl g.clock)
    unfold raises change
    split
    · exact called
    · split <;> exact called
  late := by
    unfold raises
    cases (change google perform g).1 with
    | ok => exact fun late => nomatch late
    | error => exact fun late => nomatch late

theorem Punctual.missingOk {result : Except Failure Unit × Replicated}
    (punctual : Punctual g result) : Punctual g (Propagation.missingOk result) := by
  unfold Propagation.missingOk
  split
  · split
    · exact ⟨punctual.forward, fun late => nomatch late⟩
    · exact punctual
  · exact punctual

theorem punctual_done (a : α) (g : Replicated) : Punctual g (.ok a, g) :=
  ⟨Nat.le_refl _, fun late => nomatch late⟩

theorem creationVisible_punctual (id : Nat) (g : Replicated) :
    Punctual g (poll (creationVisible google email id) g) :=
  poll_punctual (fun t _ here => creationVisible_keeps (t ≤ ·.clock) (called_clock google) here) g

theorem settingsMatch_punctual (b : GoogleGroupBuilder) (id : Nat) (g : Replicated) :
    Punctual g (poll (settingsMatch google b id) g) :=
  poll_punctual (fun t _ here => settingsMatch_keeps (t ≤ ·.clock) (called_clock google) here) g

theorem groupGone_punctual (g : Replicated) : Punctual g (poll (groupGone google email) g) :=
  poll_punctual (fun t _ here => groupGone_keeps (t ≤ ·.clock) (called_clock google) here) g

theorem rawCreate_punctual (b : GoogleGroupBuilder) (g : Replicated) :
    Punctual g (rawCreate google b g) :=
  (change_punctual _ g).andThen fun id _ => (creationVisible_punctual id _).andThen fun _ _ =>
    punctual_done _ _

theorem rawConfigure_punctual (b : GoogleGroupBuilder) (id : Nat) (g : Replicated) :
    Punctual g (rawConfigure google b id g) :=
  (change_punctual _ g).andThen fun _ _ => (change_punctual _ _).andThen fun _ _ =>
    settingsMatch_punctual b id _

theorem rawDelete_punctual (email : Email) (g : Replicated) :
    Punctual g (rawDelete google email g) :=
  Punctual.missingOk ((ask_punctual _ _ g).andThen fun _ _ =>
    (change_punctual _ _).andThen fun _ _ => groupGone_punctual _)

theorem rawFetch_punctual (email : Email) (g : Replicated) : Punctual g (rawFetch google email g) :=
  (ask_punctual _ _ g).andThen fun _ _ => (ask_punctual _ _ _).andThen fun _ _ =>
    (ask_punctual _ _ _).andThen fun _ _ =>
    punctual_done _ _

theorem buildRemote_punctual (b : GoogleGroupBuilder) (g : Replicated) :
    Punctual g (buildRemote google b g) := by
  have cleared : Punctual g (if b.existsBehavior = .replace then rawDelete google b.email g
      else (.ok (), g)) := by
    split
    · exact rawDelete_punctual b.email g
    · exact punctual_done _ g
  refine cleared.andThen fun _ s => ?_
  have created : Punctual s (rawCreate google b s) := rawCreate_punctual b s
  revert created
  rcases rawCreate google b s with ⟨(error | _) | id, s'⟩ <;> intro created
  · unfold afterCreate
    dsimp only
    split
    · exact ⟨Nat.le_trans created.forward (rawFetch_punctual b.email s').forward, fun late =>
        Nat.le_trans (Nat.add_le_add_right created.forward _)
          ((rawFetch_punctual b.email s').late late)⟩
    · exact ⟨created.forward, fun late => nomatch late⟩
  · exact ⟨created.forward, fun _ => created.late rfl⟩
  · exact created.andThen fun id s => (rawConfigure_punctual b id s).andThen fun _ _ =>
      punctual_done _ _

end

end Rosadmin.Propagation
