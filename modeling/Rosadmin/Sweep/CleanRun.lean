import Rosadmin.Sweep.Linking
import Rosadmin.Sweep.Planned

/-!
# Clean runs

A run that reports no failure and no refusal has linked every body it listed: a
linked one stays as it is and the others get the addresses of the naming rules.
It leaves nothing for a second run to create or to link.
-/

namespace Rosadmin
open Foundation

def relinkEntry (db : Database) (entry : UUID × BodyLinks) : Database :=
  db.relink entry.1 entry.2.leaders entry.2.editors

def relinkRow (body : LeadershipBodiesRow) (entry : UUID × BodyLinks) : LeadershipBodiesRow :=
  if body.id = entry.1 then linkedTo entry.2.leaders entry.2.editors body else body

section
variable {db : Database} {failed : Nat} {entries : List (UUID × BodyLinks)}

/-! ### The links written -/

theorem relink_absent {bodyId : UUID} {leader member : Option Email}
    (absent : db.leadershipBodies.any (·.id = bodyId) = false) :
    db.relink bodyId leader member = db := by
  have same : relinked bodyId leader member db.leadershipBodies = db.leadershipBodies :=
    update_self fun body there here => by
      cases absent.symm.trans (List.any_eq_true.mpr ⟨body, there, here⟩)
  rw [Database.relink, same]

theorem linkBody_failed (failed : Nat) (db : Database) (entry : UUID × BodyLinks) :
    (linkBody false (failed, db) entry).1 = failed + 1 ∨
      ((linkBody false (failed, db) entry).1 = failed ∧
        (linkBody false (failed, db) entry).2 = relinkEntry db entry ∧
        (LeadershipBodiesTable db.leadershipBodies db.nextId →
          LeadershipBodiesTable (relinkEntry db entry).leadershipBodies
            (relinkEntry db entry).nextId)) := by
  obtain ⟨bodyId, leaders, editors⟩ := entry
  unfold linkBody
  cases leaders with
  | none => exact Or.inl rfl
  | some leaders =>
    cases editors with
    | none => exact Or.inl rfl
    | some editors =>
      dsimp only
      rw [if_neg Bool.false_ne_true]
      cases set : db.setBodyLink bodyId leaders editors with
      | none => exact Or.inl rfl
      | some answer =>
        obtain ⟨matched, after⟩ := answer
        rcases setBodyLink_some.mp set with ⟨-, relinks⟩ | ⟨-, absent, rfl⟩
        · have same : relinkEntry db (bodyId, ⟨some leaders, some editors⟩) = after :=
            relinks.after.symm
          exact Or.inr ⟨rfl, same.symm, fun table => same.symm ▸ relinks.table table⟩
        · have same : relinkEntry after (bodyId, ⟨some leaders, some editors⟩) = after :=
            relink_absent absent
          exact Or.inr ⟨rfl, same.symm, fun table => same.symm ▸ table⟩

theorem linked_clean (clean : (entries.foldl (linkBody false) (failed, db)).1 = 0) :
    failed = 0 ∧ (entries.foldl (linkBody false) (failed, db)).2 = entries.foldl relinkEntry db ∧
      (LeadershipBodiesTable db.leadershipBodies db.nextId →
        LeadershipBodiesTable (entries.foldl relinkEntry db).leadershipBodies
          (entries.foldl relinkEntry db).nextId) := by
  induction entries generalizing failed db with
  | nil => exact ⟨clean, rfl, id⟩
  | cons entry entries ih =>
    have step := linkBody_failed failed db entry
    rw [List.foldl_cons] at clean ⊢
    generalize linkBody false (failed, db) entry = next at step clean ⊢
    obtain ⟨count, after⟩ := next
    obtain ⟨unfailed, linked, table⟩ := ih clean
    rcases step with more | ⟨same, here, kept⟩
    · cases more.symm.trans unfailed
    · obtain rfl : after = relinkEntry db entry := here
      exact ⟨same.symm.trans unfailed, linked, fun valid => table (kept valid)⟩

theorem foldl_relinkEntry (entries : List (UUID × BodyLinks)) (db : Database) :
    entries.foldl relinkEntry db =
      { db with leadershipBodies := db.leadershipBodies.map fun body =>
        entries.foldl relinkRow body } := by
  induction entries generalizing db with
  | nil => simp
  | cons entry entries ih =>
    rw [List.foldl_cons, ih]
    unfold relinkEntry Database.relink relinked update
    rw [List.map_map]
    simp only [List.foldl_cons, relinkRow, Function.comp_def, decide_eq_true_eq]

theorem foldl_relinkRow {body : LeadershipBodiesRow} {links : BodyLinks}
    (agree : ∀ entry ∈ entries, entry.1 = body.id → entry.2 = links) :
    entries.foldl relinkRow body =
      if entries.any (·.1 = body.id) then linkedTo links.leaders links.editors body else body := by
  induction entries generalizing body with
  | nil => rfl
  | cons entry entries ih =>
    have later : ∀ e ∈ entries, e.1 = body.id → e.2 = links :=
      fun e member => agree e (List.mem_cons_of_mem _ member)
    by_cases here : entry.1 = body.id
    · have own : relinkRow body entry = linkedTo links.leaders links.editors body := by
        rw [relinkRow, if_pos here.symm, agree entry List.mem_cons_self here]
      have rest : entries.foldl relinkRow (linkedTo links.leaders links.editors body) = _ :=
        ih later
      rw [List.foldl_cons, own, rest, List.any_cons, decide_eq_true here, Bool.true_or, if_pos rfl]
      split <;> rfl
    · have other : relinkRow body entry = body := if_neg (Ne.symm here)
      rw [List.foldl_cons, other, ih later, List.any_cons, decide_eq_false here, Bool.false_or]

end

/-- What a clean run makes of a body. -/
def settledBody (config : ProvisionConfig) (body : LeadershipBodiesRow) : LeadershipBodiesRow :=
  if isLinked body then body else linkedTo (plannedEmail config body .leaders)
    (plannedEmail config body .editors) body

section
variable {config : ProvisionConfig} {db : Database} {locale : Locale}

theorem allBodies_perm (locale : Locale) (db : Database) :
    (db.allBodies locale).Perm db.leadershipBodies :=
  List.mergeSort_perm _ _

theorem relinkRow_collected {bodies : List LeadershipBodiesRow} (ids : (bodies.map (·.id)).Nodup)
    {body : LeadershipBodiesRow} (there : body ∈ bodies) :
    (collected config bodies).foldl relinkRow body = settledBody config body := by
  have own : ∀ entry ∈ collected config bodies, entry.1 = body.id →
      entry.2 = plannedLinks config body ∧ isLinked body = false := by
    intro entry member here
    obtain ⟨other, unlinked, rfl⟩ := List.mem_map.mp member
    obtain ⟨there', unlinked⟩ := List.mem_filter.mp unlinked
    obtain rfl := List.inj_on_of_nodup_map ids there' there here
    exact ⟨rfl, by simpa using unlinked⟩
  rw [foldl_relinkRow fun entry member here => (own entry member here).1, settledBody]
  cases linked : isLinked body with
  | true =>
    have none : (collected config bodies).any (·.1 = body.id) = false := by
      apply List.any_eq_false.mpr
      intro entry member here
      cases linked.symm.trans (own entry member (of_decide_eq_true here)).2
    rw [none]
    rfl
  | false =>
    have one : (collected config bodies).any (·.1 = body.id) = true :=
      List.any_eq_true.mpr ⟨_, List.mem_map_of_mem
        (List.mem_filter.mpr ⟨there, by rw [linked]; rfl⟩), decide_eq_true rfl⟩
    rw [one]
    rfl

end

section
variable {run : ProvisionRun} {w : World} {report : ProvisionReport}

/-- A run that reports no failure and no refusal: what it did, as a whole. -/
structure CleanRun (run : ProvisionRun) (w : World) : Prop where
  db : (run.provisioned w).db =
    { w.db with leadershipBodies := w.db.leadershipBodies.map (settledBody run.config) }
  table : LeadershipBodiesTable (run.provisioned w).db.leadershipBodies
    (run.provisioned w).db.nextId
  nameable : ∀ body ∈ w.db.leadershipBodies, unnameable run.config body = false
  main : run.mainEmail ∈ (run.provisioned w).port.groups

theorem minted_collected {toCreate : List PlannedGroup}
    (ids : ((w.db.allBodies run.locale).map (·.id)).Nodup)
    (clean : (run.minted w toCreate).failed = 0) :
    (∀ body ∈ w.db.allBodies run.locale, unnameable run.config body = false) ∧
      (run.minted w toCreate).bodyLinks.items = collected run.config (w.db.allBodies run.locale) ∧
      run.mainEmail ∈ (run.minted w toCreate).port.groups := by
  obtain ⟨named, links, there⟩ := minted_clean clean
  have plan : run.pending w = _ :=
    planPending_eq run.config run.mainEmail (w.db.allBodies run.locale)
  have nameable : ∀ body ∈ w.db.allBodies run.locale, unnameable run.config body = false := by
    have none : (run.pending w).2 = 0 := named
    rw [plan] at none
    exact fun body member => eq_false_of_ne_true (List.countP_eq_zero.mp none body member)
  have noted : (run.minted w toCreate).bodyLinks = (run.pending w).1.foldl noteLink Dict.empty :=
    links
  refine ⟨nameable, ?_, there _ (by rw [plan]; exact List.mem_cons_self)⟩
  rw [noted, plan]
  exact noted_bodies nameable ids fun _ _ => Dict.not_mem_empty _

theorem clean_run (table : LeadershipBodiesTable w.db.leadershipBodies w.db.nextId)
    (cap : 0 ≤ run.config.massCreationTripwire) (returned : (run.provisioned w).report = .ok report)
    (unfailed : report.failed = 0) (unrefused : report.refusedOverCap = 0) : CleanRun run w := by
  have stages := provisioned_sized run w
  rcases sized : run.sized w with ⟨verdict, port⟩
  rw [sized] at stages
  cases verdict with
  | error failure =>
    rw [stages] at returned
    cases returned
  | ok toCreate =>
    dsimp only at stages
    split at stages
    · rename_i refuses
      rw [stages] at returned
      obtain rfl := Except.ok.inj returned
      rw [tripwireRefuses, Bool.and_eq_true, decide_eq_true_eq,
        show toCreate.length = 0 from unrefused] at refuses
      exact absurd refuses.2 (Int.not_lt.mpr cap)
    · rw [stages] at returned
      obtain rfl := Except.ok.inj returned
      have listed : ∀ body, body ∈ w.db.leadershipBodies → body ∈ w.db.allBodies run.locale :=
        fun body => (allBodies_perm run.locale w.db).mem_iff.mpr
      have ids : ((w.db.allBodies run.locale).map (·.id)).Nodup :=
        ((allBodies_perm run.locale w.db).map (·.id)).nodup_iff.mpr table.ids
      obtain ⟨minting, rows, kept⟩ := linked_clean unfailed
      obtain ⟨nameable, entries, main⟩ := minted_collected ids minting
      rw [← rows] at kept
      rw [entries, foldl_relinkEntry] at rows
      have settled : w.db.leadershipBodies.map (fun body =>
          (collected run.config (w.db.allBodies run.locale)).foldl
            relinkRow body) = w.db.leadershipBodies.map (settledBody run.config) :=
        List.map_congr_left fun body member => relinkRow_collected ids (listed body member)
      rw [settled] at rows
      constructor
      · rw [stages, entries]
        exact rows
      · rw [stages]
        exact kept table
      · exact fun body member => nameable body (listed body member)
      · rw [stages]
        exact main

theorem settledBody_named {body : LeadershipBodiesRow} {config : ProvisionConfig}
    (unlinked : isLinked body = false) (nameable : unnameable config body = false) :
    ∃ leaders editors,
      googleGroupEmail body.name body.bodyType .leaders config.domain = .ok leaders ∧
      googleGroupEmail body.name body.bodyType .editors config.domain = .ok editors ∧
      settledBody config body = linkedTo (some leaders) (some editors) body := by
  obtain ⟨leaders, editors, -, -, first, second, -⟩ := plannedGroups_nameable unlinked nameable
  refine ⟨leaders, editors, first, second, ?_⟩
  rw [settledBody, unlinked, plannedEmail, plannedEmail, first, second]
  rfl

theorem settledBody_linked {body : LeadershipBodiesRow} {config : ProvisionConfig}
    (nameable : unnameable config body = false) : isLinked (settledBody config body) = true := by
  cases linked : isLinked body with
  | true =>
    have same : settledBody config body = body := if_pos linked
    exact same.symm ▸ linked
  | false =>
    obtain ⟨leaders, editors, -, -, settled⟩ := settledBody_named linked nameable
    rw [settled]
    rfl

theorem CleanRun.bodyLink (clean : CleanRun run w) {body : LeadershipBodiesRow}
    (listed : body ∈ w.db.allBodies run.locale) :
    (run.provisioned w).db.bodyLink body.id = some (settledBody run.config body) := by
  have there : settledBody run.config body ∈ (run.provisioned w).db.leadershipBodies := by
    rw [clean.db]
    exact List.mem_map_of_mem ((allBodies_perm run.locale w.db).mem_iff.mp listed)
  have same : (settledBody run.config body).id = body.id := by
    unfold settledBody
    split <;> rfl
  exact same ▸ find?_key clean.table.ids there

/-- Every body the run listed is linked: as it was before, or to the addresses of the naming
rules. -/
structure LinksListed (run : ProvisionRun) (before after : Database) : Prop where
  linked : ∀ body ∈ before.allBodies run.locale, ∃ row, after.bodyLink body.id = some row ∧
    isLinked row = true
  kept : ∀ body ∈ before.allBodies run.locale, isLinked body = true →
    after.bodyLink body.id = some body
  named : ∀ body ∈ before.allBodies run.locale, isLinked body = false → ∃ leaders editors,
    googleGroupEmail body.name body.bodyType .leaders run.config.domain = .ok leaders ∧
    googleGroupEmail body.name body.bodyType .editors run.config.domain = .ok editors ∧
    after.bodyLink body.id = some (linkedTo (some leaders) (some editors) body)
  leaderGroupEmails : (after.leadershipBodies.filterMap (·.leaderGoogleGroupEmail)).Nodup
  memberGroupEmails : (after.leadershipBodies.filterMap (·.memberGoogleGroupEmail)).Nodup

theorem CleanRun.links (clean : CleanRun run w) : LinksListed run w.db (run.provisioned w).db where
  linked := by
    intro body listed
    have nameable := clean.nameable body ((allBodies_perm run.locale w.db).mem_iff.mp listed)
    exact ⟨_, clean.bodyLink listed, settledBody_linked nameable⟩
  kept := by
    intro body listed linked
    rw [clean.bodyLink listed, settledBody, if_pos linked]
  named := by
    intro body listed unlinked
    have nameable := clean.nameable body ((allBodies_perm run.locale w.db).mem_iff.mp listed)
    obtain ⟨leaders, editors, first, second, settled⟩ := settledBody_named unlinked nameable
    exact ⟨leaders, editors, first, second, settled ▸ clean.bodyLink listed⟩
  leaderGroupEmails := clean.table.leaderGroupEmails
  memberGroupEmails := clean.table.memberGroupEmails

/-! ### The second run -/

/-- There is nothing to create or to link: every body is linked and the main group exists. -/
structure NothingLeft (run : ProvisionRun) (w : World) : Prop where
  linked : ∀ body ∈ w.db.leadershipBodies, isLinked body = true
  main : run.mainEmail ∈ w.groups

theorem CleanRun.nothingLeft (clean : CleanRun run w) :
    NothingLeft run (provisionStep w (.provision run)) where
  linked := by
    intro body there
    change body ∈ (run.provisioned w).db.leadershipBodies at there
    rw [clean.db] at there
    obtain ⟨old, member, rfl⟩ := List.mem_map.mp there
    exact settledBody_linked (clean.nameable old member)
  main := clean.main

theorem NothingLeft.pending (idle : NothingLeft run w) :
    run.pending w = ([⟨run.mainEmail, run.config.mainGroupName, none, none⟩], 0) := by
  have linked : ∀ body ∈ w.db.allBodies run.locale, isLinked body = true :=
    fun body listed => idle.linked body ((allBodies_perm run.locale w.db).mem_iff.mp listed)
  have none : (w.db.allBodies run.locale).flatMap (plannedGroups run.config) = [] :=
    List.flatMap_eq_nil_iff.mpr fun body listed => if_pos (linked body listed)
  have named : (w.db.allBodies run.locale).countP (unnameable run.config) = 0 :=
    List.countP_eq_zero.mpr fun body listed => by
      rw [unnameable, linked body listed]; exact Bool.false_ne_true
  rw [ProvisionRun.pending, planPending_eq, none, named]

theorem NothingLeft.creates (idle : NothingLeft run w) :
    newGroups w.groups (run.provisioned w).port.groups = 0 := by
  rw [provisioned_creates, ProvisionRun.inserted]
  split
  · rfl
  · split
    · rfl
    · have performed : (insertions run.google (run.sized w).2 (run.pending w).1).length ≤ _ :=
        insertions_le (run.pending w).1 (List.Subset.refl (run.sized w).2.groups.keys)
      have contained : w.groups.keys.contains run.mainEmail = true :=
        List.contains_iff_mem.mpr idle.main
      rw [idle.pending, sized_groups, List.countP_singleton, contained] at performed
      rw [idle.pending]
      exact Nat.le_zero.mp performed

theorem NothingLeft.unlinked (idle : NothingLeft run w) (toCreate : List PlannedGroup) :
    (run.minted w toCreate).bodyLinks = Dict.empty := by
  rw [ProvisionRun.minted, idle.pending]
  show (mintGroup _ _ _ _).bodyLinks = _
  unfold mintGroup
  split
  · rfl
  · dsimp only
    split <;> rfl

theorem NothingLeft.db (idle : NothingLeft run w) : (run.provisioned w).db = w.db := by
  rw [provisioned_sized]
  split
  · rfl
  · split
    · rfl
    · dsimp only
      rw [idle.unlinked]
      rfl

end

/-! ### Calls that are all answered -/

def GoogleCalls.Answers (google : GoogleCalls) : Prop := ∀ n, google.fates n = .answered

section
variable {google : GoogleCalls} {g : Google} {email : Email}

theorem getGroup_there (there : email ∈ g.groups) :
    ∃ group, getGroup email g.groups = (.ok group, g.groups) := by
  obtain ⟨group, item⟩ := Dict.mem_iff_item.mp there
  refine ⟨group, ?_⟩
  rw [getGroup, Dict.get?_eq_some_iff.mpr item]

theorem getGroup_answered (answers : google.Answers) (there : email ∈ g.groups) :
    ∃ group, call google (getGroup email) g = (.ok group, ⟨g.groups, g.calls + 1⟩) := by
  obtain ⟨group, found⟩ := getGroup_there there
  refine ⟨group, ?_⟩
  rw [call_answered (answers g.calls), found]
  rfl

theorem groupExists_answered (answers : google.Answers) (there : email ∈ g.groups) :
    groupExists google email g = (.ok true, ⟨g.groups, g.calls + 1⟩) := by
  obtain ⟨group, found⟩ := getGroup_answered answers there
  rw [groupExists, found]

theorem rawFetch_answered (answers : google.Answers) (there : email ∈ g.groups) :
    ∃ seen, (rawFetch google email g).1 = .ok seen := by
  obtain ⟨first, found⟩ := getGroup_answered answers there
  let g₁ : Google := ⟨g.groups, g.calls + 1⟩
  obtain ⟨second, found₁⟩ := getGroup_answered (g := g₁) answers there
  let g₂ : Google := ⟨g.groups, g.calls + 2⟩
  obtain ⟨third, found₂⟩ := getGroup_answered (g := g₂) answers there
  refine ⟨⟨second.settings, third.labels⟩, ?_⟩
  rw [rawFetch, found]
  show (andThen (call google (getGroup email) g₁) _).1 = _
  rw [found₁]
  show (andThen (call google (getGroup email) g₂) _).1 = _
  rw [found₂]
  rfl

theorem ensure_adopts (answers : google.Answers) (name : Str) (there : email ∈ g.groups) :
    ∃ seen, ((googleGroupProvisioner google).ensure email name g).1 = .ok seen := by
  have taken : insertGroup google (secureBuilder email name) g.groups =
    (.error ⟨409, []⟩, g.groups) := if_pos there
  have refused : rawCreate google (secureBuilder email name) g = (.error (.http ⟨409, []⟩),
      ⟨g.groups, g.calls + 1⟩) := by
    rw [rawCreate, call_answered (answers g.calls), taken]
    rfl
  show ∃ seen, (afterCreate google (secureBuilder email name)
    (rawCreate google (secureBuilder email name) g).1
    (rawCreate google (secureBuilder email name) g).2).1 = .ok seen
  rw [refused]
  exact rawFetch_answered answers there

end

section
variable {run : ProvisionRun} {w : World} {report : ProvisionReport}

theorem NothingLeft.reports (idle : NothingLeft run w) (cap : 0 ≤ run.config.massCreationTripwire)
    (answers : run.google.Answers) :
    ∃ report, (run.provisioned w).report = .ok report ∧ report.created = 0 ∧ report.failed = 0 := by
  have sized : run.sized w = (.ok [], ⟨w.groups, 1⟩) := by
    rw [ProvisionRun.sized, idle.pending]
    show andThen (groupExists run.google run.mainEmail ⟨w.groups, 0⟩) _ = _
    rw [groupExists_answered answers idle.main]
    rfl
  have allowed : tripwireRefuses w.bootstrapped 0 run.config.massCreationTripwire = false := by
    have quiet : decide (run.config.massCreationTripwire < ((0 : Nat) : Int)) = false :=
      decide_eq_false (Int.not_lt.mpr cap)
    rw [tripwireRefuses, quiet, Bool.and_false]
  obtain ⟨seen, adopted⟩ :=
    ensure_adopts (g := ⟨w.groups, 1⟩) answers run.config.mainGroupName idle.main
  have minted : (run.minted w []).created = 0 ∧ (run.minted w []).failed = 0 := by
    rw [ProvisionRun.minted, idle.pending, sized]
    show (mintGroup _ _ _ _).created = 0 ∧ (mintGroup _ _ _ _).failed = 0
    have whole : (googleGroupProvisioner run.google).ensure run.mainEmail run.config.mainGroupName
        ⟨w.groups, 1⟩ =
          (.ok seen, ensured run.google ⟨w.groups, 1⟩ ⟨run.mainEmail, run.config.mainGroupName,
            none, none⟩) :=
      Prod.ext adopted rfl
    unfold mintGroup
    dsimp only [Minting.start]
    rw [whole]
    exact ⟨rfl, rfl⟩
  rw [provisioned_minted (congrArg Prod.fst sized) allowed]
  dsimp only
  rw [idle.unlinked]
  exact ⟨_, rfl, minted⟩

/-- A run that reports no failure and no refusal has linked every body it listed, and the next run
creates no group and changes no link, and reports so where Google answers it. -/
theorem clean_run_links (table : LeadershipBodiesTable w.db.leadershipBodies w.db.nextId)
    (cap : 0 ≤ run.config.massCreationTripwire) (returned : (run.provisioned w).report = .ok report)
    (unfailed : report.failed = 0) (unrefused : report.refusedOverCap = 0) :
    LinksListed run w.db (run.provisioned w).db ∧
      let after := provisionStep w (.provision run)
      ∀ google, let again := { run with google }
        newGroups after.groups (again.provisioned after).port.groups = 0 ∧
          (again.provisioned after).db = after.db ∧
        (google.Answers →
          ∃ report, (again.provisioned after).report = .ok report ∧ report.created = 0 ∧
            report.failed = 0) := by
  have clean := clean_run table cap returned unfailed unrefused
  refine ⟨clean.links, fun google => ?_⟩
  have idle : NothingLeft { run with google } (provisionStep w (.provision run)) :=
    ⟨clean.nothingLeft.linked, clean.nothingLeft.main⟩
  exact ⟨idle.creates, idle.db, idle.reports cap⟩

/-- The bodies are linked just so where the run is taken step by step. -/
theorem clean_run_steering :
    (LinksListed (givingUpAt none) steering.db ((givingUpAt none).provisioned steering).db ∧
      let after := provisionStep steering (.provision (givingUpAt none))
      ∀ google, let again := { givingUpAt none with google }
        newGroups after.groups (again.provisioned after).port.groups = 0 ∧
          (again.provisioned after).db = after.db ∧
        (google.Answers →
          ∃ report, (again.provisioned after).report = .ok report ∧ report.created = 0 ∧
            report.failed = 0)) ∧
    ∃ writes, LinksListed (givingUpAt none) steering.db
      (([LinkEvent.list (givingUpAt none), .mint] ++ List.replicate writes LinkEvent.write ++
        [LinkEvent.close]).foldl linkStep steering.idle).db := by
  have table : LeadershipBodiesTable steering.db.leadershipBodies steering.db.nextId :=
    by constructor <;> decide
  have returned : ((givingUpAt none).provisioned steering).report = .ok ⟨3, 0, 0, 0, 0, 0⟩ :=
    by decide +kernel
  have clean := clean_run_links table (by decide) returned rfl rfl
  obtain ⟨writes, stepped⟩ := uninterrupted_provision (givingUpAt none) steering
  refine ⟨clean, writes, ?_⟩
  rw [stepped]
  exact clean.1

end

end Rosadmin
