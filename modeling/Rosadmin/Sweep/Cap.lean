import Rosadmin.Sweep.Minting

/-!
# The creation cap

An armed run creates at most as many groups as it found missing, and the cap
bounds these. A run that is not armed creates as many as Google performs inserts,
and arms the marker by the ensures that returned. So the cap is waived once, as
long as a run that creates more than the cap has one of its creations return.
-/

namespace Rosadmin
open Foundation

/-- How many groups are there afterwards and were not before. -/
def newGroups (before after : Groups) : Nat := after.keys.countP fun email =>
    !before.keys.contains email

section
variable (google : GoogleCalls)

def ensured (g : Google) (group : PlannedGroup) : Google :=
  ((googleGroupProvisioner google).ensure group.email group.name g).2

/-- Whether Google performs the insert of a group that is not there. -/
def inserts (g : Google) (group : PlannedGroup) : Bool :=
  !g.groups.keys.contains group.email && (google.fates g.calls).performed

def insertions : Google → List PlannedGroup → List Email
  | _, [] => []
  | g, group :: rest => (if inserts google g group then [group.email] else []) ++
      insertions (ensured google g group) rest

/-- Whether the ensure of one of the groups that were missing returns. -/
def creationReturns (missing : List Email) : Google → List PlannedGroup → Bool
  | _, [] => false
  | g, group :: rest =>
    missing.contains group.email &&
      ((googleGroupProvisioner google).ensure group.email group.name g).1.isOk ||
      creationReturns missing (ensured google g group) rest

end

section
variable {google : GoogleCalls} {g : Google} {email : Email} {b : GoogleGroupBuilder}

/-! ### What one ensure adds -/

theorem keys_set_new {groups : Groups} (absent : email ∉ groups) (group : RemoteGroup) :
    (groups.set email group).keys = groups.keys ++ [email] :=
  (updateItems_keys email (fun _ => group) groups.items).trans (if_neg absent)

theorem keys_set_existing {groups : Groups} (there : email ∈ groups) (group : RemoteGroup) :
    (groups.set email group).keys = groups.keys :=
  (updateItems_keys email (fun _ => group) groups.items).trans (if_pos there)

theorem call_keys {α : Type} {perform : Groups → Except HttpError α × Groups}
    (keeps : (perform g.groups).2.keys = g.groups.keys) :
    (call google perform g).2.groups.keys = g.groups.keys := by
  unfold call
  split
  · exact keeps
  · dsimp only
    split
    · exact keeps
    · rfl

theorem andThen_keys {α β : Type} {x : Except Failure α × Google}
    {next : α → Google → Except Failure β × Google} {keys : List Email}
    (first : x.2.groups.keys = keys)
    (rest : ∀ a g, g.groups.keys = keys → (next a g).2.groups.keys = keys) :
    (andThen x next).2.groups.keys = keys := by
  obtain ⟨result, g⟩ := x
  cases result with
  | error e => exact first
  | ok a => exact rest a g first

theorem patchLabels_keys (labels : Dict Str Str) (groups : Groups) :
    (patchLabels email labels groups).2.keys = groups.keys := by
  unfold patchLabels
  split
  · rename_i found
    exact keys_set_existing (Dict.mem_of_get? found) _
  · rfl

theorem patchSettings_keys (settings : Dict Str Str) (groups : Groups) :
    (patchSettings email settings groups).2.keys = groups.keys := by
  unfold patchSettings
  split
  · rename_i found
    exact keys_set_existing (Dict.mem_of_get? found) _
  · rfl

theorem rawConfigure_keys : (rawConfigure google b g).2.groups.keys = g.groups.keys := by
  unfold rawConfigure
  apply andThen_keys (call_keys (patchLabels_keys b.labels g.groups))
  intro _ g₁ same₁
  apply andThen_keys ((call_keys (patchSettings_keys b.settings g₁.groups)).trans same₁)
  intro _ g₂ same₂
  exact (congrArg Dict.keys (poll_groups g₂)).trans same₂

theorem afterCreate_keys (result : Except Failure Unit) :
    (afterCreate google b result g).2.groups.keys = g.groups.keys := by
  match result with
  | .error (.http error) =>
    show (if _ then _ else _ : Except Failure ProvisionedGroup × Google).2.groups.keys = _
    split
    · exact congrArg Dict.keys (rawFetch_groups g)
    · rfl
  | .error .propagationTimeout => rfl
  | .ok () => exact andThen_keys rawConfigure_keys fun _ _ same => same

theorem insert_keys (b : GoogleGroupBuilder) (g : Google) :
    (call google (insertGroup google b) g).2.groups.keys = g.groups.keys ++
      if !g.groups.keys.contains b.email && (google.fates g.calls).performed then [b.email]
        else [] := by
  by_cases there : b.email ∈ g.groups.keys
  · have taken : insertGroup google b g.groups = (.error ⟨409, []⟩, g.groups) := if_pos there
    rw [call_quiet (congrArg Prod.snd taken), List.contains_iff_mem.mpr there]
    simp
  · have added : insertGroup google b g.groups = _ := if_neg there
    have absent : g.groups.keys.contains b.email = false := by simpa using there
    cases performed : (google.fates g.calls).performed with
    | true => rw [call_performed performed, added, keys_set_new there, absent]; rfl
    | false =>
      have unperformed : (call google (insertGroup google b) g).2.groups = g.groups := by
        unfold call
        cases fate : google.fates g.calls with
        | answered => rw [fate] at performed; cases performed
        | struck landed failure =>
          rw [fate] at performed; exact if_neg (by simpa [Fate.performed] using performed)
      rw [unperformed, Bool.and_false]
      simp

/-- An ensure adds the group if it is missing and Google performs the insert, whatever else goes
wrong. -/
theorem ensured_keys (g : Google) (group : PlannedGroup) :
    (ensured google g group).groups.keys = g.groups.keys ++
      if inserts google g group then [group.email] else [] := by
  let b := secureBuilder group.email group.name
  have created : (rawCreate google b g).2.groups.keys =
      (call google (insertGroup google b) g).2.groups.keys :=
    andThen_keys rfl fun _ g same => (congrArg Dict.keys (poll_groups g)).trans same
  have built : (ensured google g group).groups.keys = (rawCreate google b g).2.groups.keys :=
    afterCreate_keys _
  rw [built, created]
  exact insert_keys b g

theorem foldl_ensured_keys (g : Google) (groups : List PlannedGroup) :
    (groups.foldl (ensured google) g).groups.keys = g.groups.keys ++
      insertions google g groups := by
  induction groups generalizing g with
  | nil => exact (List.append_nil _).symm
  | cons group groups ih => rw [List.foldl_cons, ih, ensured_keys, insertions, List.append_assoc]

theorem newGroups_append {before after : Groups} {added : List Email}
    (grown : after.keys = before.keys ++ added) : newGroups before after = added.length := by
  have nodup : (before.keys ++ added).Nodup := grown ▸ after.nodup
  have apart := (List.nodup_append.mp nodup).2.2
  have old : before.keys.countP (fun email => !before.keys.contains email) = 0 :=
    List.countP_eq_zero.mpr fun email member => by simp [member]
  have new : added.countP (fun email => !before.keys.contains email) = added.length :=
    List.countP_eq_length.mpr fun email member => by
      simp only [Bool.not_eq_true', List.contains_eq_mem, decide_eq_false_iff_not]
      exact fun there => apart email there email member rfl
  rw [newGroups, grown, List.countP_append, old, new, Nat.zero_add]

theorem insertions_le {initial : Groups} (groups : List PlannedGroup)
    (grown : initial.keys ⊆ g.groups.keys) :
    (insertions google g groups).length ≤ groups.countP fun group =>
      !initial.keys.contains group.email := by
  induction groups generalizing g with
  | nil => exact Nat.le_refl 0
  | cons group groups ih =>
    have later : initial.keys ⊆ (ensured google g group).groups.keys := by
      rw [ensured_keys]
      exact fun email member => List.mem_append_left _ (grown member)
    rw [insertions, List.length_append, List.countP_cons, Nat.add_comm]
    refine Nat.add_le_add (ih later) ?_
    split
    · rename_i performs
      have absent : group.email ∉ g.groups.keys := by
        simp only [inserts, Bool.and_eq_true, Bool.not_eq_true', List.contains_eq_mem,
          decide_eq_false_iff_not] at performs
        exact performs.1
      rw [if_pos (by simpa using fun there => absent (grown there))]
      exact Nat.le_refl 1
    · exact Nat.zero_le _

/-! ### One run -/

/-- No group that is missing escapes an existence read that is answered. -/
theorem groupExists_absent (absent : email ∉ g.groups) :
    (groupExists google email g).1 ≠ .ok true := by
  have none : g.groups.get? email = none := by
    cases found : g.groups.get? email with
    | none => rfl
    | some group => exact absurd (Dict.mem_of_get? found) absent
  have read : ∀ group, (call google (getGroup email) g).1 ≠ .ok group := by
    intro group
    unfold call
    split
    · rw [getGroup, none]
      exact fun same => nomatch same
    · exact fun same => nomatch same
  unfold groupExists
  split
  · rename_i result
    exact fun _ => read _ (congrArg Prod.fst result)
  · split
    · exact fun same => nomatch same
    · exact fun same => nomatch same
  · exact fun same => nomatch same

theorem missingGroups_absent {groups toCreate : List PlannedGroup}
    (sized : (missingGroups (googleGroupProvisioner google) groups g).1 = .ok toCreate) :
    (groups.countP fun group => !g.groups.keys.contains group.email) ≤ toCreate.length := by
  induction groups generalizing g toCreate with
  | nil => exact Nat.zero_le _
  | cons group groups ih =>
    unfold missingGroups andThen at sized
    have same : (groupExists google group.email g).2.groups = g.groups :=
      groupExists_groups group.email g
    have absence : group.email ∉ g.groups → (groupExists google group.email g).1 ≠ .ok true :=
      groupExists_absent
    generalize read : groupExists google group.email g = answer at same absence
    rw [show (googleGroupProvisioner google).groupExists group.email g = answer from read] at sized
    obtain ⟨found, after⟩ := answer
    cases found with
    | error failure => cases sized
    | ok found =>
      dsimp only at sized same absence
      generalize others : missingGroups (googleGroupProvisioner google) groups after =
        answer at sized
      obtain ⟨rest, last⟩ := answer
      cases rest with
      | error failure => cases sized
      | ok rest =>
        have fewer := ih (congrArg Prod.fst others)
        rw [same] at fewer
        obtain rfl := Except.ok.inj sized
        rw [List.countP_cons]
        cases found with
        | true =>
          have there : group.email ∈ g.groups := by
            by_contra absent
            exact absence absent rfl
          have contained : g.groups.keys.contains group.email = true :=
            List.contains_iff_mem.mpr there
          rw [contained]
          exact fewer
        | false =>
          refine Nat.add_le_add fewer ?_
          split
          · exact Nat.le_refl 1
          · exact Nat.zero_le 1

theorem minted_port (creating : List Email) (m : Minting Google) (groups : List PlannedGroup) :
    (groups.foldl (mintGroup (googleGroupProvisioner google) creating) m).port =
      groups.foldl (ensured google) m.port := by
  induction groups generalizing m with
  | nil => rfl
  | cons group groups ih => rw [List.foldl_cons, ih, mintGroup_port]; rfl

theorem created_mono (creating : List Email) (m : Minting Google) (group : PlannedGroup) :
    m.created ≤ (mintGroup (googleGroupProvisioner google) creating m group).created := by
  unfold mintGroup
  split
  · exact Nat.le_refl _
  · dsimp only
    split <;> split <;> first | exact Nat.le_succ _ | exact Nat.le_refl _

theorem created_counted {creating : List Email} {m : Minting Google} {group : PlannedGroup}
    (missing : group.email ∈ creating)
    (returned :
      ((googleGroupProvisioner google).ensure group.email group.name m.port).1.isOk = true) :
    0 < (mintGroup (googleGroupProvisioner google) creating m group).created := by
  unfold mintGroup
  split
  · rename_i result
    rw [result] at returned
    cases returned
  · rw [if_pos missing]
    dsimp only
    split <;> exact Nat.succ_pos _

theorem creationReturns_counted {creating : List Email} {m : Minting Google}
    {groups : List PlannedGroup} (returns : creationReturns google creating m.port groups = true) :
    0 < (groups.foldl (mintGroup (googleGroupProvisioner google) creating) m).created := by
  induction groups generalizing m with
  | nil => cases returns
  | cons group groups ih =>
    rw [creationReturns, Bool.or_eq_true, Bool.and_eq_true] at returns
    rcases returns with ⟨missing, returned⟩ | later
    · have grows : ∀ m group, 0 < m.created →
          0 < (mintGroup (googleGroupProvisioner google) creating m group).created :=
        fun m group positive => Nat.lt_of_lt_of_le positive (created_mono creating m group)
      exact invariant_of_forall grows (created_counted (List.contains_iff_mem.mp missing) returned)
        groups
    · apply ih
      rw [mintGroup_port]
      exact later

end

namespace ProvisionRun
variable (run : ProvisionRun) (w : World)

def exceeds : Bool :=
  run.config.massCreationTripwire < (newGroups w.groups (run.provisioned w).port.groups : Int)

def minted (toCreate : List PlannedGroup) : Minting Google :=
  (run.pending w).1.foldl (mintGroup (googleGroupProvisioner run.google) (toCreate.map (·.email)))
    (.start (run.pending w).2 (run.sized w).2)

/-- The inserts Google performs for a run. -/
def inserted : List Email :=
  match (run.sized w).1 with
  | .error _ => []
  | .ok toCreate =>
    if tripwireRefuses w.bootstrapped toCreate.length run.config.massCreationTripwire then []
    else insertions run.google (run.sized w).2 (run.pending w).1

def creationReturns : Bool :=
  match (run.sized w).1 with
  | .error _ => false
  | .ok toCreate => Rosadmin.creationReturns run.google (toCreate.map (·.email)) (run.sized w).2
      (run.pending w).1

end ProvisionRun

section
variable {run : ProvisionRun} {w : World}

theorem sized_groups (run : ProvisionRun) (w : World) : (run.sized w).2.groups = w.groups :=
  missingGroups_groups _ _

theorem provisioned_creates (run : ProvisionRun) (w : World) :
    newGroups w.groups (run.provisioned w).port.groups = (run.inserted w).length := by
  have idle : (run.sized w).2.groups.keys = w.groups.keys ++ [] :=
    by rw [sized_groups, List.append_nil]
  apply newGroups_append
  rw [provisioned_port, ProvisionRun.inserted]
  cases (run.sized w).1 with
  | error failure => exact idle
  | ok toCreate =>
    dsimp only
    split
    · exact idle
    · rw [minted_port, foldl_ensured_keys]
      exact congrArg (Dict.keys · ++ _) (sized_groups run w)

theorem armed_capped (armed : w.bootstrapped = true)
    (counts : 0 ≤ run.config.massCreationTripwire) :
    ((run.inserted w).length : Int) ≤ run.config.massCreationTripwire := by
  unfold ProvisionRun.inserted
  split
  · exact counts
  · rename_i toCreate sized
    split
    · exact counts
    · rename_i allowed
      have capped : (toCreate.length : Int) ≤ run.config.massCreationTripwire := by
        rw [tripwireRefuses, armed, Bool.true_and, decide_eq_true_eq] at allowed
        exact Int.not_lt.mp allowed
      have missing : ((run.pending w).1.countP fun group => !w.groups.keys.contains group.email) ≤
          toCreate.length :=
        missingGroups_absent sized
      have performed : (insertions run.google (run.sized w).2 (run.pending w).1).length ≤ _ :=
        insertions_le (run.pending w).1 (List.Subset.refl (run.sized w).2.groups.keys)
      rw [sized_groups] at performed
      exact Int.le_trans (Int.ofNat_le.mpr (Nat.le_trans performed missing)) capped

theorem exceeds_iff : run.exceeds w = true ↔
    run.config.massCreationTripwire < ((run.inserted w).length : Int) := by
  rw [ProvisionRun.exceeds, provisioned_creates, decide_eq_true_eq]

theorem minted_sized {toCreate : List PlannedGroup} {port : Google}
    (sized : run.sized w = (.ok toCreate, port)) : run.minted w toCreate = (run.pending w).1.foldl
      (mintGroup (googleGroupProvisioner run.google) (toCreate.map (·.email)))
        (.start (run.pending w).2 port) := by
  rw [ProvisionRun.minted, sized]

theorem provisioned_sized (run : ProvisionRun) (w : World) : run.provisioned w =
    match run.sized w with
    | (.error failure, port) => ⟨.error failure, w.db, w.bootstrapped, port⟩
    | (.ok toCreate, port) =>
      if tripwireRefuses w.bootstrapped toCreate.length run.config.massCreationTripwire then
        ⟨.ok ⟨0, 0, (w.db.allBodies run.locale).countP isLinked, 0, toCreate.length,
          (run.pending w).2⟩, w.db, w.bootstrapped, port⟩
      else
        let minted := run.minted w toCreate
        let linked := minted.bodyLinks.items.foldl (linkBody false) (minted.failed, w.db)
        ⟨.ok ⟨minted.created, minted.adopted, (w.db.allBodies run.locale).countP isLinked,
          minted.diverged, 0, linked.1⟩,
          linked.2, w.bootstrapped || 0 < minted.created, minted.port⟩ := by
  have stages : run.sized w = missingGroups (googleGroupProvisioner run.google)
      (planPending run.config run.mainEmail (w.db.allBodies run.locale)).1 ⟨w.groups, 0⟩ := rfl
  unfold ProvisionRun.provisioned provision
  dsimp only
  rcases whole : run.sized w with ⟨verdict, port⟩
  rw [← stages, whole]
  cases verdict with
  | error failure => rfl
  | ok toCreate =>
    dsimp only
    rw [minted_sized whole, Bool.not_false, Bool.and_true]
    rfl

/-- A run that has sized its creations and may go on mints the groups and writes the links. -/
theorem provisioned_minted {toCreate : List PlannedGroup} (sized : (run.sized w).1 = .ok toCreate)
    (allowed :
      tripwireRefuses w.bootstrapped toCreate.length run.config.massCreationTripwire = false) :
    let minted := run.minted w toCreate
    let linked := minted.bodyLinks.items.foldl (linkBody false) (minted.failed, w.db)
    run.provisioned w =
      ⟨.ok ⟨minted.created, minted.adopted, (w.db.allBodies run.locale).countP isLinked,
        minted.diverged, 0, linked.1⟩,
        linked.2, w.bootstrapped || 0 < minted.created, minted.port⟩ := by
  have whole : run.sized w = (.ok toCreate, (run.sized w).2) := Prod.ext sized rfl
  dsimp only
  rw [provisioned_sized, whole]
  dsimp only
  rw [if_neg (Bool.eq_false_iff.mp allowed)]

theorem armed_stays (armed : w.bootstrapped = true) : (run.provisioned w).bootstrapped = true := by
  unfold ProvisionRun.provisioned provision
  dsimp only
  split
  · exact armed
  · split
    · exact armed
    · rw [armed, Bool.true_or]

theorem creation_arms (unarmed : w.bootstrapped = false) (returns : run.creationReturns w = true) :
    (run.provisioned w).bootstrapped = true := by
  unfold ProvisionRun.creationReturns at returns
  split at returns
  · cases returns
  · rename_i toCreate sized
    have allowed : tripwireRefuses w.bootstrapped toCreate.length run.config.massCreationTripwire =
        false := by
      rw [tripwireRefuses, unarmed, Bool.false_and]
    have counted : 0 < (run.minted w toCreate).created := creationReturns_counted returns
    rw [provisioned_minted sized allowed]
    dsimp only
    rw [decide_eq_true counted, Bool.or_true]

end

/-! ### Runs in a row -/

def exceedsCap (w : World) : ProvisionEvent → Bool
  | .provision run => run.exceeds w
  | .records _ => false

/-- How many runs of the sequence create more groups than their cap. -/
def exceedingRuns (start : World) (events : List ProvisionEvent) : Nat :=
  occurrences provisionStep exceedsCap start events

/-- An armed run has a cap that counts something, and of a run that is not armed and creates more
than the cap one creation returns. -/
def CountsCreations (w : World) : ProvisionEvent → Prop
  | .provision run =>
    (w.bootstrapped = true → 0 ≤ run.config.massCreationTripwire) ∧
      (w.bootstrapped = false → run.config.massCreationTripwire < ((run.inserted w).length : Int) →
        run.creationReturns w = true)
  | .records _ => True

theorem armed_step (w : World) (e : ProvisionEvent) (armed : w.bootstrapped = true) :
    (provisionStep w e).bootstrapped = true := by
  cases e with
  | provision run => exact armed_stays armed
  | records db => exact armed

theorem armed_never_exceeds (w : World) (e : ProvisionEvent) (armed : w.bootstrapped = true)
    (counts : CountsCreations w e) : exceedsCap w e = false := by
  cases e with
  | records db => rfl
  | provision run =>
    apply eq_false_of_ne_true
    intro exceeds
    exact Int.not_lt.mpr (armed_capped armed (counts.1 armed)) (exceeds_iff.mp exceeds)

theorem exceeding_arms (w : World) (e : ProvisionEvent) (counts : CountsCreations w e)
    (exceeds : exceedsCap w e = true) : (provisionStep w e).bootstrapped = true := by
  cases e with
  | records db => cases exceeds
  | provision run =>
    cases marker : w.bootstrapped with
    | true => exact armed_stays marker
    | false => exact creation_arms marker (counts.2 marker (exceeds_iff.mp exceeds))

/-- As long as each run that is not armed has one of its creations return, the cap is waived at most
once. -/
theorem cap_waived_once {start : World} {events : List ProvisionEvent}
    (counts : Guarded provisionStep CountsCreations start events) :
    exceedingRuns start events ≤ 1 :=
  occurrences_le_one armed_step armed_never_exceeds exceeding_arms counts

/-! ### Creations that do not count -/

/-- A run with a cap of one in which the calls `givesUp` are polls that give up. -/
def cappedRun (givesUp : List Nat) : ProvisionRun :=
  let fates := fun call => if givesUp.contains call then .struck false .propagationTimeout
    else .answered
  { givingUpAt none with
    config := ⟨str "pdx.org", str "Everyone", 1⟩
    google := ⟨fates, Dict.empty, Dict.empty⟩ }

def renamed : Database :=
  { steering.db with leadershipBodies := [⟨0, str "Steering", str "Working Group", none, none⟩] }

/-- A run, a body that is renamed, and another run. -/
def renamedBetween (givesUp : List Nat) : List ProvisionEvent :=
  [.provision (cappedRun givesUp), .records renamed, .provision (cappedRun [])]

/-- One of the three polls goes well, the run arms the marker and the next one creates nothing. -/
theorem cap_waived_renamed : exceedingRuns steering (renamedBetween [4, 6]) ≤ 1 := by
  have armed : ([.provision (cappedRun [4, 6]), .records renamed].foldl provisionStep
      steering).bootstrapped = true := by
    decide +kernel
  have returns : (cappedRun [4, 6]).creationReturns steering = true := by decide +kernel
  exact cap_waived_once ⟨⟨fun _ => by decide, fun _ _ => returns⟩, trivial,
    ⟨fun _ => by decide, fun unarmed => absurd (armed.symm.trans unarmed) (by decide)⟩, trivial⟩

/-- Three groups are created and none is counted, and the next run, still not armed, creates two
more. -/
theorem cap_waived_twice : ¬exceedingRuns steering (renamedBetween [4, 6, 8]) ≤ 1 := by
  decide +kernel

end Rosadmin
