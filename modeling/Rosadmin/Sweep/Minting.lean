import Rosadmin.Foundation.Runs
import Rosadmin.Sweep.Provision

/-!
# Groups the sweep mints

A later run adopts whatever group an earlier one left behind. So the groups that
exist now and did not at the start are all secured exactly as long as no run is
struck between an insert that Google performed and the patch of its settings.
-/

namespace Rosadmin
open Foundation

structure RemoteGroup.Secured (group : RemoteGroup) : Prop where
  labels : group.labels = securityLabel
  settings : ∀ e ∈ secureSettings.items, group.settings.get? e.1 = some e.2

theorem get?_foldl_set {items : List (Str × Str)} {d : Dict Str Str} {key : Str}
    (other : key ∉ items.map (·.1)) :
    (items.foldl (fun d e => d.set e.1 e.2) d).get? key = d.get? key := by
  induction items generalizing d with
  | nil => rfl
  | cons e items ih =>
    rw [List.map_cons, List.mem_cons, not_or] at other
    rw [List.foldl_cons, ih other.2, Dict.get?_set, if_neg other.1]

theorem get?_patched {settings patch : Dict Str Str} {e : Str × Str} (member : e ∈ patch.items) :
    (patched settings patch).get? e.1 = some e.2 := by
  obtain ⟨items, distinct⟩ := patch
  unfold patched
  dsimp only at member ⊢
  induction items generalizing settings with
  | nil => cases member
  | cons first items ih =>
    obtain ⟨apart, rest⟩ := List.nodup_cons.mp distinct
    rw [List.foldl_cons]
    rcases List.mem_cons.mp member with rfl | later
    · rw [get?_foldl_set apart, Dict.get?_set, if_pos rfl]
    · exact ih rest later

section
variable {google : GoogleCalls} {g : Google} {email : Email} {name : Str}

/-! ### One call -/

theorem call_answered {α : Type} {perform : Groups → Except HttpError α × Groups}
    (answered : google.fates g.calls = .answered) :
    call google perform g = ((perform g.groups).1.mapError .http,
      ⟨(perform g.groups).2, g.calls + 1⟩) := by
  unfold call
  rw [answered]

theorem call_performed {α : Type} {perform : Groups → Except HttpError α × Groups}
    (performed : (google.fates g.calls).performed = true) :
    (call google perform g).2.groups = (perform g.groups).2 := by
  unfold call
  cases fate : google.fates g.calls with
  | answered => rfl
  | struck landed failure =>
    rw [fate] at performed
    exact if_pos performed

theorem call_quiet {α : Type} {perform : Groups → Except HttpError α × Groups}
    (quiet : (perform g.groups).2 = g.groups) : (call google perform g).2.groups = g.groups := by
  unfold call
  split
  · exact quiet
  · dsimp only
    split
    · exact quiet
    · rfl

theorem andThen_groups {α β : Type} {x : Except Failure α × Google}
    {next : α → Google → Except Failure β × Google} {groups : Groups} (first : x.2.groups = groups)
    (rest : ∀ a g, g.groups = groups → (next a g).2.groups = groups) :
    (andThen x next).2.groups = groups := by
  obtain ⟨result, g⟩ := x
  cases result with
  | error e => exact first
  | ok a => exact rest a g first

theorem getGroup_quiet (groups : Groups) : (getGroup email groups).2 = groups := by
  unfold getGroup
  split <;> rfl

theorem rawFetch_groups (g : Google) : (rawFetch google email g).2.groups = g.groups := by
  have reads : ∀ g : Google, (call google (getGroup email) g).2.groups = g.groups :=
    fun g => call_quiet (getGroup_quiet g.groups)
  apply andThen_groups (reads g)
  intro _ g₁ same₁
  apply andThen_groups ((reads g₁).trans same₁)
  intro _ g₂ same₂
  exact andThen_groups ((reads g₂).trans same₂) fun _ _ same₃ => same₃

theorem poll_groups (g : Google) : (poll google g).2.groups = g.groups := call_quiet rfl

/-! ### Ensuring one group -/

/-- A creation that starts at the `n`-th call either is not performed or gets as far as the patch of
its settings. -/
def finishes (fates : Nat → Fate) (n : Nat) : Bool :=
  match fates n with
  | .struck performed _ => !performed
  | .answered => fates (n + 1) = .answered && fates (n + 2) = .answered && (fates (n + 3)).performed

theorem ensure_failed {failure : Failure}
    (failed : (rawCreate google (secureBuilder email name) g).1 = .error failure) :
    (buildRemote google (secureBuilder email name) g).2.groups =
      (rawCreate google (secureBuilder email name) g).2.groups := by
  show (afterCreate google (secureBuilder email name)
    (rawCreate google (secureBuilder email name) g).1 _).2.groups = _
  rw [failed]
  cases failure with
  | propagationTimeout => rfl
  | http error =>
    show (if _ then _ else _ : Except Failure ProvisionedGroup × Google).2.groups = _
    split
    · exact rawFetch_groups _
    · rfl

theorem ensure_existing (there : email ∈ g.groups) :
    (buildRemote google (secureBuilder email name) g).2.groups = g.groups := by
  have taken : insertGroup google (secureBuilder email name) g.groups =
    (.error ⟨409, []⟩, g.groups) := if_pos there
  have refused : ∃ failure after, call google (insertGroup google (secureBuilder email name)) g =
      (.error failure, after) ∧ after.groups = g.groups := by
    unfold call
    cases google.fates g.calls with
    | answered => exact ⟨.http ⟨409, []⟩, ⟨g.groups, g.calls + 1⟩, by rw [taken]; rfl, rfl⟩
    | struck performed failure =>
      exact ⟨failure, ⟨g.groups, g.calls + 1⟩, by rw [taken]; cases performed <;> rfl, rfl⟩
  obtain ⟨failure, after, refused, same⟩ := refused
  have ends : rawCreate google (secureBuilder email name) g = (.error failure, after) := by
    unfold rawCreate
    rw [refused]
    rfl
  rw [ensure_failed (congrArg Prod.fst ends), ends, same]

def configured (google : GoogleCalls) (name : Str) : RemoteGroup :=
  ⟨name, provisionDescription, patched google.freshSettings secureSettings, securityLabel⟩

theorem configured_secured : (configured google name).Secured :=
  ⟨rfl, fun _ member => get?_patched member⟩

theorem rawConfigure_groups {b : GoogleGroupBuilder} {group : RemoteGroup}
    (there : g.groups.get? b.email = some group) (labelled : google.fates g.calls = .answered)
    (patches : (google.fates (g.calls + 1)).performed = true) (other : Email) :
    (rawConfigure google b g).2.groups.get? other =
      if other = b.email then some { group with
        labels := b.labels, settings := patched group.settings b.settings }
      else g.groups.get? other := by
  have label : patchLabels b.email b.labels g.groups =
      (.ok (), g.groups.set b.email { group with labels := b.labels }) := by
    unfold patchLabels
    rw [there]
  unfold rawConfigure
  rw [call_answered labelled, label]
  dsimp only [Except.mapError, andThen]
  let here : Google := ⟨g.groups.set b.email { group with labels := b.labels }, g.calls + 1⟩
  have patch : (call google (patchSettings b.email b.settings) here).2.groups =
      (patchSettings b.email b.settings here.groups).2 := call_performed patches
  have settled : (andThen (call google (patchSettings b.email b.settings) here) fun _ =>
      poll google).2.groups = (patchSettings b.email b.settings here.groups).2 :=
    andThen_groups patch fun _ after same => (poll_groups after).trans same
  unfold andThen at settled
  have written : here.groups = g.groups.set b.email { group with labels := b.labels } := rfl
  rw [settled, written, patchSettings, Dict.get?_set, if_pos rfl]
  simp only [Dict.get?_set]
  split <;> rfl

/-- A creation that is not cut short leaves no group, or a secured one. -/
theorem ensure_missing (name : Str) (absent : email ∉ g.groups)
    (finished : finishes google.fates g.calls = true) :
    (buildRemote google (secureBuilder email name) g).2.groups = g.groups ∨
      ∀ other, (buildRemote google (secureBuilder email name) g).2.groups.get? other =
        if other = email then some (configured google name) else g.groups.get? other := by
  unfold finishes at finished
  cases first : google.fates g.calls with
  | struck performed failure =>
    rw [first] at finished
    have unperformed : performed = false := by simpa using finished
    have failed : rawCreate google (secureBuilder email name) g =
        (.error failure, ⟨g.groups, g.calls + 1⟩) := by
      unfold rawCreate call
      rw [first, unperformed]
      rfl
    rw [ensure_failed (congrArg Prod.fst failed), failed]
    exact Or.inl rfl
  | answered =>
    simp only [first, Bool.and_eq_true, decide_eq_true_eq] at finished
    obtain ⟨⟨visible, labelled⟩, patches⟩ := finished
    have created : rawCreate google (secureBuilder email name) g = (.ok (), ⟨g.groups.set email
        ⟨name, provisionDescription, google.freshSettings, google.freshLabels⟩, g.calls + 2⟩) := by
      unfold rawCreate poll
      rw [call_answered first, show insertGroup google (secureBuilder email name) g.groups =
        _ from if_neg absent]
      dsimp only [Except.mapError, andThen]
      rw [call_answered visible]
      rfl
    apply Or.inr
    intro other
    show (afterCreate google (secureBuilder email name)
      (rawCreate google (secureBuilder email name) g).1
      (rawCreate google (secureBuilder email name) g).2).2.groups.get? other = _
    rw [created]
    show (andThen (rawConfigure google (secureBuilder email name) _) fun _ g => (.ok _,
      g)).2.groups.get? other = _
    rw [andThen_groups rfl fun _ _ same => same, rawConfigure_groups (b := secureBuilder email name)
      (by rw [secureBuilder, Dict.get?_set, if_pos rfl]) labelled patches]
    by_cases here : other = email
    · simp only [secureBuilder, here, if_true, configured]
    · simp only [secureBuilder, here, if_false, Dict.get?_set]

end

/-! ### One run -/

/-- Whatever group is there now and was not at the start is secured. -/
def MintedSecured (initial groups : Groups) : Prop :=
  ∀ email group, groups.get? email = some group → email ∉ initial → group.Secured

section
variable {google : GoogleCalls} {initial : Groups}

def Uncut (google : GoogleCalls) (m : Minting Google) (group : PlannedGroup) : Prop :=
  group.email ∉ m.port.groups → finishes google.fates m.port.calls = true

theorem groupExists_groups (email : Email) (g : Google) :
    (groupExists google email g).2.groups = g.groups := by
  have read : (call google (getGroup email) g).2.groups = g.groups :=
    call_quiet (getGroup_quiet g.groups)
  unfold groupExists
  split
  · rename_i result
    rw [result] at read
    exact read
  · rename_i result
    rw [result] at read
    split <;> exact read
  · rename_i result
    rw [result] at read
    exact read

theorem missingGroups_groups (groups : List PlannedGroup) (g : Google) :
    (missingGroups (googleGroupProvisioner google) groups g).2.groups = g.groups := by
  induction groups generalizing g with
  | nil => rfl
  | cons group groups ih =>
    apply andThen_groups (groupExists_groups group.email g)
    intro found g₁ same₁
    exact andThen_groups ((ih g₁).trans same₁) fun rest g₂ same₂ => same₂

theorem mintGroup_port {σ : Type} (provisioner : GroupProvisioner σ) (creating : List Email)
    (m : Minting σ) (group : PlannedGroup) :
    (mintGroup provisioner creating m group).port =
      (provisioner.ensure group.email group.name m.port).2 := by
  unfold mintGroup
  split
  · rename_i result
    rw [result]
  · rename_i result
    rw [result]
    dsimp only
    split <;> split <;> rfl

/-- Where a run leaves its port: after the existence reads, and the ensures unless it stops
there. -/
theorem provision_port {σ : Type} (provisioner : GroupProvisioner σ) (locale : Locale)
    (config : ProvisionConfig) (mainEmail : Email) (dryRun : Bool) (db : Database)
    (bootstrapped : Bool) (port : σ) :
    let pending := planPending config mainEmail (db.allBodies locale)
    let sized := missingGroups provisioner pending.1 port
    (provision provisioner locale config mainEmail dryRun db bootstrapped port).port =
      match sized.1 with
      | .error _ => sized.2
      | .ok toCreate =>
        if tripwireRefuses bootstrapped toCreate.length config.massCreationTripwire then sized.2
        else (pending.1.foldl (mintGroup provisioner (toCreate.map (·.email)))
          (.start pending.2 sized.2)).port := by
  dsimp only
  unfold provision
  dsimp only
  generalize missingGroups provisioner _ port = sized
  obtain ⟨verdict, port⟩ := sized
  cases verdict with
  | error failure => rfl
  | ok toCreate =>
    dsimp only
    split <;> rfl

theorem mintGroup_secured {creating : List Email} {m : Minting Google} {group : PlannedGroup}
    (secured : MintedSecured initial m.port.groups) (uncut : Uncut google m group) :
    MintedSecured initial (mintGroup (googleGroupProvisioner google) creating m
      group).port.groups := by
  rw [mintGroup_port]
  show MintedSecured initial (buildRemote google (secureBuilder group.email group.name)
    m.port).2.groups
  by_cases there : group.email ∈ m.port.groups
  · rw [ensure_existing there]
    exact secured
  rcases ensure_missing group.name there (uncut there) with same | created
  · rw [same]
    exact secured
  · intro email found here new
    rw [created] at here
    split at here
    · obtain rfl := Option.some.inj here
      exact configured_secured
    · exact secured email found here new

end

/-- One run of the sweep's provisioning: what it was configured with and how Google treated its
calls. -/
structure ProvisionRun where
  locale : Locale
  config : ProvisionConfig
  mainEmail : Email
  google : GoogleCalls

structure World where
  db : Database
  bootstrapped : Bool
  groups : Groups

inductive ProvisionEvent where
  | provision (run : ProvisionRun)
  /-- Anybody else changes the tables. -/
  | records (db : Database)

namespace ProvisionRun
variable (run : ProvisionRun) (w : World)

def provisioned : Provisioned Google :=
  provision (googleGroupProvisioner run.google) run.locale run.config run.mainEmail false w.db
    w.bootstrapped ⟨w.groups, 0⟩

def pending : List PlannedGroup × Nat :=
  planPending run.config run.mainEmail (w.db.allBodies run.locale)

def sized : Except Failure (List PlannedGroup) × Google :=
  missingGroups (googleGroupProvisioner run.google) (run.pending w).1 ⟨w.groups, 0⟩

def Uncut : Prop :=
  ∀ toCreate, (run.sized w).1 = .ok toCreate →
    tripwireRefuses w.bootstrapped toCreate.length run.config.massCreationTripwire = false →
    Guarded (mintGroup (googleGroupProvisioner run.google) (toCreate.map (·.email)))
      (Rosadmin.Uncut run.google)
      (.start (run.pending w).2 (run.sized w).2) (run.pending w).1

end ProvisionRun

def provisionStep (w : World) : ProvisionEvent → World
  | .provision run => ⟨(run.provisioned w).db, (run.provisioned w).bootstrapped,
      (run.provisioned w).port.groups⟩
  | .records db => { w with db }

def UncutEvent (w : World) : ProvisionEvent → Prop
  | .provision run => run.Uncut w
  | .records _ => True

section
variable {initial : Groups}

theorem provisioned_port (run : ProvisionRun) (w : World) :
    (run.provisioned w).port = match (run.sized w).1 with
    | .error _ => (run.sized w).2
    | .ok toCreate =>
      if tripwireRefuses w.bootstrapped toCreate.length run.config.massCreationTripwire
        then (run.sized w).2
      else ((run.pending w).1.foldl (mintGroup (googleGroupProvisioner run.google)
        (toCreate.map (·.email))) (.start (run.pending w).2 (run.sized w).2)).port :=
  provision_port _ _ _ _ _ _ _ _

theorem provisionStep_secured (w : World) (event : ProvisionEvent)
    (secured : MintedSecured initial w.groups) (uncut : UncutEvent w event) :
    MintedSecured initial (provisionStep w event).groups := by
  cases event with
  | records db => exact secured
  | provision run =>
    have sized : (run.sized w).2.groups = w.groups := missingGroups_groups _ _
    show MintedSecured initial (run.provisioned w).port.groups
    rw [provisioned_port]
    cases verdict : (run.sized w).1 with
    | error failure => exact sized ▸ secured
    | ok toCreate =>
      dsimp only
      split
      · exact sized ▸ secured
      · rename_i allowed
        have step : ∀ m group, MintedSecured initial m.port.groups → Uncut run.google m group →
            MintedSecured initial
              (mintGroup (googleGroupProvisioner run.google)
                (toCreate.map (·.email)) m group).port.groups :=
          fun _ _ => mintGroup_secured
        have start : MintedSecured initial
            (Minting.start (run.pending w).2 (run.sized w).2).port.groups :=
          sized ▸ secured
        exact run_invariant step start (uncut toCreate verdict (eq_false_of_ne_true allowed))

/-- Every body that is linked to a group that was not there at the start is linked to a secured
one. -/
def LinkedSecured (initial : Groups) (w : World) : Prop :=
  ∀ body ∈ w.db.leadershipBodies, ∀ email, body.leaderGoogleGroupEmail = some email ∨
    body.memberGoogleGroupEmail = some email →
    ∀ group, w.groups.get? email = some group → email ∉ initial → group.Secured

/-- As long as no run is cut short, no body is linked to a group the sweep minted and did not
secure. -/
theorem minted_secured {start : World} {events : List ProvisionEvent}
    (uncut : Guarded provisionStep UncutEvent start events) :
    ∀ reached, reached <+: events →
      LinkedSecured start.groups (reached.foldl provisionStep start) := by
  intro reached early body _ email _ group there new
  have untouched : MintedSecured start.groups start.groups :=
    fun email group there new => absurd (Dict.mem_of_get? there) new
  exact run_invariant provisionStep_secured untouched
    (guarded_of_early early uncut) email group there new

end

/-! ### A run that stops between the insert and the configuration -/

def steering : World where
  db := { Database.empty with leadershipBodies :=
    [⟨0, str "Steering", str "Committee", none, none⟩], nextId := 1 }
  bootstrapped := false
  groups := Dict.empty

/-- A run in which only the call `n` is not answered: the poll there gives up. -/
def givingUpAt (n : Option Nat) : ProvisionRun where
  locale := ⟨lower, fun a b => a ≤ b⟩
  config := ⟨str "pdx.org", str "Everyone", 10⟩
  mainEmail := str "everyone@pdx.org"
  google :=
    { fates := fun i => if n = some i then .struck false .propagationTimeout else .answered
      freshSettings := Dict.empty
      freshLabels := Dict.empty }

theorem answered_uncut (w : World) : (givingUpAt none).Uncut w := by
  intro toCreate _ _
  refine guarded_of_forall (fun m group _ => ?_) _ _
  simp [finishes, givingUpAt, Fate.performed]

theorem minted_secured_answered :
    LinkedSecured steering.groups
      ([ProvisionEvent.provision (givingUpAt none)].foldl provisionStep steering) := by
  have uncut : Guarded provisionStep UncutEvent steering [.provision (givingUpAt none)] :=
    ⟨answered_uncut steering, trivial⟩
  exact minted_secured uncut _ (List.prefix_refl _)

/-- The poll after the insert of the leaders group gives up, and the next run links the group as it
is. -/
theorem adopted_unsecured :
    ¬LinkedSecured steering.groups
      ([ProvisionEvent.provision (givingUpAt (some 9)),
        .provision (givingUpAt none)].foldl provisionStep steering) := by
  intro secured
  have linked : ([ProvisionEvent.provision (givingUpAt (some 9)),
      .provision (givingUpAt none)].foldl provisionStep
        steering).db.leadershipBodies = [⟨0, str "Steering", str "Committee",
          some (str "steering-committee-leaders@pdx.org"),
            some (str "steering-committee-editors@pdx.org")⟩] := by
    decide +kernel
  have bare : (([ProvisionEvent.provision (givingUpAt (some 9)),
      .provision (givingUpAt none)].foldl provisionStep
        steering).groups.get? (str "steering-committee-leaders@pdx.org")).map (·.labels.items) =
          some [] := by
    decide +kernel
  obtain ⟨group, there, unlabelled⟩ := Option.map_eq_some_iff.mp bare
  have labels := (secured _ (by rw [linked]; exact List.mem_singleton_self _) _ (Or.inl rfl)
    group there (Dict.not_mem_empty _)).labels
  rw [labels] at unlabelled
  cases unlabelled

end Rosadmin
