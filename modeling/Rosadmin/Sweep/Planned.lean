import Rosadmin.Db.Links
import Rosadmin.Sweep.Cap

/-!
# What a run plans and writes

The plan is the main group and the two groups of each unlinked body. When
nothing fails, the links a run collects are those of the plan, and the rows it
writes are those it collected.
-/

namespace Rosadmin
open Foundation

section
variable (config : ProvisionConfig)

def plannedEmail (body : LeadershipBodiesRow) (kind : GroupKind) : Option Email :=
  (googleGroupEmail body.name body.bodyType kind config.domain).toOption

/-- The links the naming rules give a body. -/
def plannedLinks (body : LeadershipBodiesRow) : BodyLinks :=
  ⟨plannedEmail config body .leaders, plannedEmail config body .editors⟩

/-- What a body adds to the plan. -/
def plannedGroups (body : LeadershipBodiesRow) : List PlannedGroup :=
  if isLinked body then [] else (planBody config body).toOption.getD []

def unnameable (body : LeadershipBodiesRow) : Bool := !isLinked body && !(planBody config body).isOk

theorem planPendingBody_eq (plan : List PlannedGroup × Nat) (body : LeadershipBodiesRow) :
    planPendingBody config plan body =
      (plan.1 ++ plannedGroups config body, plan.2 + if unnameable config body then 1 else 0) := by
  unfold planPendingBody plannedGroups unnameable
  cases isLinked body with
  | true => exact Prod.ext (List.append_nil _).symm rfl
  | false =>
    cases planBody config body with
    | error failure => exact Prod.ext (List.append_nil _).symm rfl
    | ok groups => rfl

theorem planPending_eq (mainEmail : Email) (bodies : List LeadershipBodiesRow) :
    planPending config mainEmail bodies =
    (⟨mainEmail, config.mainGroupName, none, none⟩ :: bodies.flatMap (plannedGroups config),
      bodies.countP (unnameable config)) := by
  have walk : ∀ plan : List PlannedGroup × Nat, bodies.foldl (planPendingBody config) plan =
      (plan.1 ++ bodies.flatMap (plannedGroups config),
        plan.2 + bodies.countP (unnameable config)) := by
    induction bodies with
    | nil => exact fun plan => Prod.ext (List.append_nil _).symm rfl
    | cons body bodies ih =>
      intro plan
      rw [List.foldl_cons, ih, planPendingBody_eq, List.flatMap_cons, List.append_assoc,
        List.countP_cons, Nat.add_assoc, Nat.add_comm (List.countP _ _)]
  rw [planPending, walk, Nat.zero_add]
  rfl

end

section
variable {config : ProvisionConfig} {body : LeadershipBodiesRow}

theorem plannedGroups_nameable (unlinked : isLinked body = false)
    (nameable : unnameable config body = false) : ∃ leaders editors leadersName editorsName,
      googleGroupEmail body.name body.bodyType .leaders config.domain = .ok leaders ∧
      googleGroupEmail body.name body.bodyType .editors config.domain = .ok editors ∧
      plannedGroups config body =
        [⟨leaders, leadersName, some body.id, some .leaders⟩,
          ⟨editors, editorsName, some body.id, some .editors⟩] := by
  unfold unnameable at nameable
  cases plan : planBody config body with
  | error failure => rw [unlinked, plan] at nameable; cases nameable
  | ok groups =>
    have grouped : plannedGroups config body = groups := by
      unfold plannedGroups
      rw [unlinked, plan]
      rfl
    unfold planBody planKind at plan
    simp only [List.mapM_cons, List.mapM_nil, bind_ok, pure_ok] at plan
    obtain ⟨_, ⟨leaders, first, leadersName, -, rfl⟩, _,
      ⟨_, ⟨editors, second, editorsName, -, rfl⟩, _, rfl, rfl⟩, rfl⟩ := plan
    exact ⟨leaders, editors, leadersName, editorsName, first, second, grouped⟩

end

/-! ### Minting without a failure -/

def noteLink (links : Dict UUID BodyLinks) (group : PlannedGroup) : Dict UUID BodyLinks :=
  match group.bodyId, group.kind with
  | some bodyId, some kind => links.update bodyId fun own =>
      (own.getD ⟨none, none⟩).put group.email kind
  | _, _ => links

section
variable {google : GoogleCalls} {g : Google} {creating : List Email} {m : Minting Google}
    {group : PlannedGroup}

theorem call_ok {α : Type} {perform : Groups → Except HttpError α × Groups} {a : α}
    (returned : (call google perform g).1 = .ok a) :
    google.fates g.calls = .answered ∧ (perform g.groups).1 = .ok a := by
  unfold call at returned
  split at returned
  · rename_i answered
    cases result : (perform g.groups).1 with
    | error e => rw [result] at returned; cases returned
    | ok b => rw [result] at returned; cases returned; exact ⟨answered, rfl⟩
  · cases returned

theorem andThen_ok {α β σ : Type} {x : Except Failure α × σ} {next : α → σ → Except Failure β × σ}
    {b : β} (returned : (andThen x next).1 = .ok b) :
    ∃ a, x.1 = .ok a ∧ (next a x.2).1 = .ok b := by
  obtain ⟨result, s⟩ := x
  cases result with
  | error e => cases returned
  | ok a => exact ⟨a, rfl, returned⟩

theorem ensured_present {seen : ProvisionedGroup}
    (returned : ((googleGroupProvisioner google).ensure group.email group.name g).1 = .ok seen) :
    group.email ∈ (ensured google g group).groups := by
  let b := secureBuilder group.email group.name
  have keys : (ensured google g group).groups.keys = _ := ensured_keys g group
  have created : (rawCreate google b g).2.groups.keys = (ensured google g group).groups.keys :=
    (afterCreate_keys _).symm
  change (afterCreate google b (rawCreate google b g).1 (rawCreate google b g).2).1 =
    .ok seen at returned
  cases verdict : (rawCreate google b g).1 with
  | ok done =>
    obtain ⟨_, inserted, -⟩ := andThen_ok verdict
    obtain ⟨answered, -⟩ := call_ok inserted
    by_cases there : group.email ∈ g.groups.keys
    · show group.email ∈ (ensured google g group).groups.keys
      rw [keys]
      exact List.mem_append_left _ there
    · have performs : inserts google g group = true := by
        unfold inserts
        rw [answered]
        simpa [Fate.performed] using there
      show group.email ∈ (ensured google g group).groups.keys
      rw [keys, if_pos performs]
      exact List.mem_append_right _ (List.mem_singleton_self _)
  | error failure =>
    rw [verdict] at returned
    cases failure with
    | propagationTimeout => cases returned
    | http error =>
      change (if _ then _ else _ : Except Failure ProvisionedGroup × Google).1 = _ at returned
      split at returned
      · obtain ⟨_, found, -⟩ := andThen_ok returned
        obtain ⟨-, there⟩ := call_ok found
        show group.email ∈ (ensured google g group).groups.keys
        rw [← created]
        unfold getGroup at there
        split at there
        · rename_i here
          exact Dict.mem_of_get? here
        · cases there
      · cases returned

theorem mintGroup_failed (google : GoogleCalls) (creating : List Email) (m : Minting Google)
    (group : PlannedGroup) :
    (mintGroup (googleGroupProvisioner google) creating m group).failed = m.failed + 1 ∨
      ((mintGroup (googleGroupProvisioner google) creating m group).failed = m.failed ∧
        (mintGroup (googleGroupProvisioner google) creating m group).bodyLinks =
          noteLink m.bodyLinks group ∧
        group.email ∈ (mintGroup (googleGroupProvisioner google) creating m
          group).port.groups) := by
  have port := mintGroup_port (googleGroupProvisioner google) creating m group
  cases answer : ((googleGroupProvisioner google).ensure group.email group.name m.port).1 with
  | error failure =>
    have whole : (googleGroupProvisioner google).ensure group.email group.name m.port =
        (.error failure, ensured google m.port group) := Prod.ext answer rfl
    refine Or.inl ?_
    unfold mintGroup
    rw [whole]
  | ok seen =>
    have whole : (googleGroupProvisioner google).ensure group.email group.name m.port =
        (.ok seen, ensured google m.port group) := Prod.ext answer rfl
    refine Or.inr ⟨?_, ?_, ?_⟩
    · unfold mintGroup
      rw [whole]
      dsimp only
      split <;> split <;> rfl
    · unfold mintGroup noteLink
      rw [whole]
      dsimp only
      split <;> split <;> simp [*]
    · rw [port]
      exact ensured_present answer

theorem ensured_keeps (g : Google) (groups : List PlannedGroup) :
    g.groups.keys ⊆ (groups.foldl (ensured google) g).groups.keys := by
  rw [foldl_ensured_keys]
  exact List.subset_append_left _ _

/-- Where the failures have not grown, every ensure returned. -/
theorem minted_clean {groups : List PlannedGroup}
    (clean : (groups.foldl (mintGroup (googleGroupProvisioner google) creating) m).failed = 0) :
    m.failed = 0 ∧
      (groups.foldl (mintGroup (googleGroupProvisioner google) creating) m).bodyLinks =
        groups.foldl noteLink m.bodyLinks ∧
      ∀ group ∈ groups, group.email ∈
        (groups.foldl (mintGroup (googleGroupProvisioner google) creating) m).port.groups := by
  induction groups generalizing m with
  | nil => exact ⟨clean, rfl, fun group member => nomatch member⟩
  | cons group groups ih =>
    obtain ⟨unfailed, links, there⟩ := ih clean
    rcases mintGroup_failed google creating m group with failed | ⟨same, noted, present⟩
    · rw [failed] at unfailed
      cases unfailed
    · refine ⟨same.symm.trans unfailed, links.trans (congrArg (groups.foldl noteLink ·) noted), ?_⟩
      intro other member
      rcases List.mem_cons.mp member with rfl | later
      · rw [List.foldl_cons, minted_port]
        exact ensured_keeps _ groups present
      · exact there other later

end

/-! ### The links collected -/

section
variable {config : ProvisionConfig}

/-- The links that stand after the groups of the unlinked bodies are ensured. -/
def collected (config : ProvisionConfig) (bodies : List LeadershipBodiesRow) :
    List (UUID × BodyLinks) :=
  (bodies.filter (!isLinked ·)).map fun body => (body.id, plannedLinks config body)

theorem collected_cons (body : LeadershipBodiesRow) (bodies : List LeadershipBodiesRow) :
    collected config (body :: bodies) = collected config [body] ++ collected config bodies := by
  unfold collected
  rw [← List.map_append, ← List.filter_append, List.singleton_append]

theorem noted_body {links : Dict UUID BodyLinks} {body : LeadershipBodiesRow}
    (nameable : unnameable config body = false) (absent : body.id ∉ links.keys) :
    ((plannedGroups config body).foldl noteLink links).items = links.items ++
      collected config [body] := by
  cases linked : isLinked body with
  | true =>
    have none : plannedGroups config body = [] := if_pos linked
    have uncollected : collected config [body] = [] := by simp [collected, linked]
    rw [none, uncollected, List.append_nil]
    rfl
  | false =>
    obtain ⟨leaders, editors, leadersName, editorsName, first, second, groups⟩ :=
      plannedGroups_nameable linked nameable
    have own : plannedLinks config body = ⟨some leaders, some editors⟩ := by
      rw [plannedLinks, plannedEmail, plannedEmail, first, second]
      rfl
    have added : collected config [body] = [(body.id, ⟨some leaders, some editors⟩)] :=
      by simp [collected, linked, own]
    rw [groups, added]
    show updateItems body.id _ (updateItems body.id _ links.items) = _
    rw [updateItems_new absent, updateItems_last absent]
    rfl

theorem noted_bodies {bodies : List LeadershipBodiesRow} {links : Dict UUID BodyLinks}
    (nameable : ∀ body ∈ bodies, unnameable config body = false) (ids : (bodies.map (·.id)).Nodup)
    (absent : ∀ body ∈ bodies, body.id ∉ links.keys) :
    ((bodies.flatMap (plannedGroups config)).foldl noteLink links).items = links.items ++
      collected config bodies := by
  induction bodies generalizing links with
  | nil => exact (List.append_nil _).symm
  | cons body bodies ih =>
    obtain ⟨other, ids⟩ := List.nodup_cons.mp ids
    have here := noted_body (nameable body List.mem_cons_self) (absent body List.mem_cons_self)
    have later : ∀ b ∈ bodies, b.id ∉ ((plannedGroups config body).foldl noteLink links).keys := by
      intro b member held
      rw [Dict.keys, here, List.map_append, List.mem_append] at held
      rcases held with old | new
      · exact absent b (List.mem_cons_of_mem _ member) old
      · obtain ⟨e, one, same⟩ := List.mem_map.mp new
        obtain ⟨c, single, rfl⟩ := List.mem_map.mp one
        obtain rfl := List.mem_singleton.mp (List.mem_filter.mp single).1
        exact other (List.mem_map.mpr ⟨b, member, same.symm⟩)
    rw [List.flatMap_cons, List.foldl_append,
      ih (fun b member => nameable b (List.mem_cons_of_mem _ member)) ids later,
      here, List.append_assoc, ← collected_cons]

end

end Rosadmin
