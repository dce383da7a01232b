import Rosadmin.Db.Links
import Rosadmin.Sweep.Cap

/-!
# Provisioning beside an operator

A run lists the bodies, works with Google for minutes and then writes the links
one by one, by updates that do not look at what they replace. The operator's
requests fall in between. A linked body is repointed exactly where the run comes
to link one that has been linked to other addresses meanwhile.
-/

namespace Rosadmin
open Foundation

inductive LinkRequest where
  | link (bodyId : UUID) (leaderEmail memberEmail : Email)
  | unlink (bodyId : UUID)

def LinkRequest.handle (db : Database) : LinkRequest → Except Nat Database
  | link bodyId leaderEmail memberEmail => adminLink bodyId leaderEmail memberEmail db
  | unlink bodyId => adminUnlink bodyId db

/-- A run that is under way: it has listed the bodies, or has the links left to write and the
failures so far. -/
inductive RunStage where
  | listed (run : ProvisionRun) (bodies : List LeadershipBodiesRow)
  | linking (alreadyLinked : Nat) (minted : Minting Google) (rest : List (UUID × BodyLinks))
      (failed : Nat)

structure LinkWorld extends World where
  stage : Option RunStage
  reports : List (Except Failure ProvisionReport)

inductive LinkEvent where
  | request (request : LinkRequest)
  | list (run : ProvisionRun)
  | mint
  | write
  | close

namespace LinkWorld
variable (w : LinkWorld)

def handle (request : LinkRequest) : LinkWorld :=
  match request.handle w.db with
  | .ok db => { w with db }
  | .error _ => w

/-- While a run holds the lock another one does nothing. -/
def list (run : ProvisionRun) : LinkWorld :=
  match w.stage with
  | none => { w with stage := some (.listed run (w.db.allBodies run.locale)) }
  | some _ => w

def finish (report : Except Failure ProvisionReport) : LinkWorld :=
  { w with stage := none, reports := w.reports ++ [report] }

/-- Everything between the list and the links: the existence reads, the tripwire and the ensures. -/
def mint : LinkWorld :=
  match w.stage with
  | some (.listed run bodies) =>
    let provisioner := googleGroupProvisioner run.google
    let alreadyLinked := bodies.countP isLinked
    let pending := planPending run.config run.mainEmail bodies
    match missingGroups provisioner pending.1 ⟨w.groups, 0⟩ with
    | (.error failure, port) =>
      let w := { w with groups := port.groups }
      w.finish (.error failure)
    | (.ok toCreate, port) =>
      if tripwireRefuses w.bootstrapped toCreate.length run.config.massCreationTripwire then
        let w := { w with groups := port.groups }
        w.finish (.ok ⟨0, 0, alreadyLinked, 0, toCreate.length, pending.2⟩)
      else
        let minted := pending.1.foldl (mintGroup provisioner (toCreate.map (·.email)))
          (.start pending.2 port)
        { w with
          groups := minted.port.groups
          stage := some (.linking alreadyLinked minted minted.bodyLinks.items minted.failed) }
  | _ => w

/-- The next of the links. -/
def write : LinkWorld :=
  match w.stage with
  | some (.linking alreadyLinked minted (entry :: rest) failed) =>
    let linked := linkBody false (failed, w.db) entry
    { w with db := linked.2, stage := some (.linking alreadyLinked minted rest linked.1) }
  | _ => w

def close : LinkWorld :=
  match w.stage with
  | some (.linking alreadyLinked minted [] failed) =>
    let w := { w with bootstrapped := w.bootstrapped || 0 < minted.created }
    w.finish (.ok ⟨minted.created, minted.adopted, alreadyLinked, minted.diverged, 0, failed⟩)
  | _ => w

end LinkWorld

def linkStep (w : LinkWorld) : LinkEvent → LinkWorld
  | .request request => w.handle request
  | .list run => w.list run
  | .mint => w.mint
  | .write => w.write
  | .close => w.close

/-- The link the run writes next, if both sides of that body were provisioned. -/
def LinkWorld.next (w : LinkWorld) : Option (UUID × Email × Email) :=
  match w.stage with
  | some (.linking _ _ ((bodyId, ⟨some leaders, some editors⟩) :: _) _) =>
      some (bodyId, leaders, editors)
  | _ => none

/-! ### The writes -/

section
variable {w : LinkWorld} {bodyId : UUID} {leaders editors : Email} {after : Database}

theorem write_relinks (due : w.next = some (bodyId, leaders, editors))
    (relinks : Relinks w.db bodyId leaders editors after) : w.write.db = after := by
  unfold LinkWorld.next at due
  split at due
  · rename_i stage
    cases due
    unfold LinkWorld.write
    rw [stage]
    have set : w.db.setBodyLink bodyId leaders editors = some (true, after) :=
      setBodyLink_some.mpr (Or.inl ⟨rfl, relinks⟩)
    show (linkBody false (_, w.db) (bodyId, ⟨some leaders, some editors⟩)).2 = after
    simp [linkBody, set]
  · cases due

theorem write_quiet (refused : ∀ bodyId leaders editors after,
    w.next = some (bodyId, leaders, editors) →
    ¬Relinks w.db bodyId leaders editors after) : w.write.db = w.db := by
  unfold LinkWorld.write
  split
  · rename_i alreadyLinked minted entry rest failed stage
    obtain ⟨bodyId, leaders, editors⟩ := entry
    show (linkBody false (failed, w.db) (bodyId, ⟨leaders, editors⟩)).2 = w.db
    unfold linkBody
    dsimp only
    split
    · rename_i leaders editors
      have due : w.next = some (bodyId, leaders, editors) := by
        unfold LinkWorld.next
        rw [stage]
      rw [if_neg Bool.false_ne_true]
      split
      · rename_i matched after set
        rcases setBodyLink_some.mp set with ⟨-, relinks⟩ | ⟨-, -, same⟩
        · exact absurd relinks (refused bodyId leaders editors after due)
        · exact same
      · rfl
    · rfl
  · rfl

/-- A write links the body that is due, or leaves the tables alone. -/
theorem write_cases (w : LinkWorld) :
    (∃ bodyId leaders editors, w.next = some (bodyId, leaders, editors) ∧
      Relinks w.db bodyId leaders editors w.write.db) ∨
      (w.write.db = w.db ∧ ∀ bodyId leaders editors, w.next = some (bodyId, leaders, editors) →
        ∀ after, ¬Relinks w.db bodyId leaders editors after) := by
  by_cases writes : ∃ bodyId leaders editors after, w.next = some (bodyId, leaders, editors) ∧
      Relinks w.db bodyId leaders editors after
  · obtain ⟨bodyId, leaders, editors, after, due, relinks⟩ := writes
    obtain rfl := write_relinks due relinks
    exact Or.inl ⟨bodyId, leaders, editors, due, relinks⟩
  · have refused : ∀ bodyId leaders editors after, w.next = some (bodyId, leaders, editors) →
        ¬Relinks w.db bodyId leaders editors after :=
      fun bodyId leaders editors after due relinks =>
        writes ⟨bodyId, leaders, editors, after, due, relinks⟩
    exact Or.inr ⟨write_quiet refused, fun bodyId leaders editors due after =>
      refused bodyId leaders editors after due⟩

theorem mint_db (w : LinkWorld) : w.mint.db = w.db := by
  unfold LinkWorld.mint
  split
  · dsimp only
    split
    · rfl
    · split <;> rfl
  · rfl

theorem list_db (w : LinkWorld) (run : ProvisionRun) : (w.list run).db = w.db := by
  unfold LinkWorld.list
  split <;> rfl

theorem close_db (w : LinkWorld) : w.close.db = w.db := by
  unfold LinkWorld.close
  split <;> rfl

/-! ### Linked bodies -/

/-- Every body that has both addresses keeps them. -/
def KeepsLinked (before after : Database) : Prop :=
  ∀ id body, before.bodyLink id = some body → isLinked body = true → after.bodyLink id = some body

def LinkEvent.ofRun : LinkEvent → Bool
  | request _ => false
  | list _ | mint | write | close => true

/-- No step of a run repoints a linked body, whatever the operator does in between. -/
def NeverRepoints (start : LinkWorld) (events : List LinkEvent) : Prop :=
  ∀ reached e, reached ++ [e] <+: events → e.ofRun = true →
    KeepsLinked (reached.foldl linkStep start).db (linkStep (reached.foldl linkStep start) e).db

/-- The body whose link the run writes next is not linked, or already to the addresses the run has
for it; or one of these is taken, and the write is refused. -/
def LinkWorld.Unlinked (w : LinkWorld) : LinkEvent → Prop
  | .write => ∀ bodyId leaders editors, w.next = some (bodyId, leaders, editors) →
      ∀ body, w.db.bodyLink bodyId = some body → isLinked body = true →
        w.db.linkTaken bodyId leaders editors = true ∨
          body.leaderGoogleGroupEmail = some leaders ∧ body.memberGoogleGroupEmail = some editors
  | _ => True

theorem keepsLinked_same (same : after = w.db) : KeepsLinked w.db after := by
  rw [same]
  exact fun _ _ found _ => found

theorem keepsLinked_relinks (relinks : Relinks w.db bodyId leaders editors after) :
    KeepsLinked w.db after ↔ ∀ body, w.db.bodyLink bodyId = some body → isLinked body = true →
      body.leaderGoogleGroupEmail = some leaders ∧ body.memberGoogleGroupEmail = some editors := by
  have moved : ∀ id, after.bodyLink id = (w.db.bodyLink id).map fun b =>
      if id = bodyId then linkedTo (some leaders) (some editors) b else b :=
        fun id => relinks.after ▸ bodyLink_relink id
  have unmoved : ∀ body, linkedTo (some leaders) (some editors) body = body ↔
      body.leaderGoogleGroupEmail = some leaders ∧ body.memberGoogleGroupEmail = some editors := by
    intro body
    obtain ⟨id, name, bodyType, leader, member⟩ := body
    simp [linkedTo, eq_comm]
  constructor
  · intro kept body found linked
    have same := kept bodyId body found linked
    rw [moved, found, Option.map_some, if_pos rfl] at same
    exact (unmoved body).mp (Option.some.inj same)
  · intro own id body found linked
    rw [moved, found, Option.map_some]
    split
    · rename_i here
      rw [(unmoved body).mpr (own body (here ▸ found) linked)]
    · rfl

theorem present_of_bodyLink {body : LeadershipBodiesRow}
    (found : w.db.bodyLink bodyId = some body) :
    w.db.leadershipBodies.any (·.id = bodyId) = true := by
  unfold Database.bodyLink at found
  have here := List.find?_some found
  exact List.any_eq_true.mpr ⟨body, List.mem_of_find?_eq_some found, here⟩

theorem write_keepsLinked (w : LinkWorld) : KeepsLinked w.db w.write.db ↔ w.Unlinked .write := by
  rcases write_cases w with ⟨bodyId, leaders, editors, due, relinks⟩ | ⟨same, refused⟩
  · rw [keepsLinked_relinks relinks]
    constructor
    · intro own id l e due' body found linked
      cases due.symm.trans due'
      exact Or.inr (own body found linked)
    · intro fits body found linked
      have free := relinks.free
      refine (fits bodyId leaders editors due body found linked).resolve_left fun taken => ?_
      cases taken.symm.trans free
  · refine iff_of_true (keepsLinked_same same) fun bodyId leaders editors due body found _ =>
      Or.inl ?_
    by_contra free
    exact refused bodyId leaders editors due _ ⟨present_of_bodyLink found,
      eq_false_of_ne_true free, rfl⟩

theorem step_keepsLinked (w : LinkWorld) (e : LinkEvent) :
    (e.ofRun = true → KeepsLinked w.db (linkStep w e).db) ↔ w.Unlinked e := by
  cases e with
  | request request => exact iff_of_true (fun ofRun => by cases ofRun) trivial
  | list run => exact iff_of_true (fun _ => keepsLinked_same (list_db w run)) trivial
  | mint => exact iff_of_true (fun _ => keepsLinked_same (mint_db w)) trivial
  | close => exact iff_of_true (fun _ => keepsLinked_same (close_db w)) trivial
  | write => exact ⟨fun kept => (write_keepsLinked w).mp (kept rfl), fun fits _ =>
      (write_keepsLinked w).mpr fits⟩

/-- The runs never repoint a linked body exactly if each body is still unlinked when its turn
comes. -/
theorem never_repoints_iff (start : LinkWorld) (events : List LinkEvent) :
    NeverRepoints start events ↔ Guarded linkStep LinkWorld.Unlinked start events := by
  rw [← guarded_congr step_keepsLinked, guarded_iff_steps]
  rfl

/-! ### One address, one role of one body -/

/-- A link that goes through, the operator's or the run's, gives the body two addresses, neither of
which stands in the other column of another body. -/
def LinkWorld.Apart (w : LinkWorld) : LinkEvent → Prop
  | .request (.link bodyId leaders editors) => ∀ after,
      adminLink bodyId leaders editors w.db = .ok after →
      w.db.crosses bodyId leaders editors = false
  | .write => ∀ bodyId leaders editors, w.next = some (bodyId, leaders, editors) →
      ∀ after, Relinks w.db bodyId leaders editors after →
        w.db.crosses bodyId leaders editors = false
  | _ => True

/-- What a step does to the links: nothing, one link that went through, or one taken away. -/
inductive LinkEffect (w : LinkWorld) (e : LinkEvent) : Prop
  | kept (same : (linkStep w e).db = w.db) (apart : w.Apart e)
  | linked (bodyId : UUID) (leaders editors : Email)
      (relinks : Relinks w.db bodyId leaders editors (linkStep w e).db)
      (apart : w.Apart e ↔ w.db.crosses bodyId leaders editors = false)
  | cleared (bodyId : UUID) (same : (linkStep w e).db = w.db.relink bodyId none none)
      (apart : w.Apart e)

theorem write_effect (w : LinkWorld) : LinkEffect w .write := by
  rcases write_cases w with ⟨bodyId, leaders, editors, due, relinks⟩ | ⟨same, refused⟩
  · refine .linked bodyId leaders editors relinks ⟨fun apart => apart _ _ _ due _ relinks,
      fun apart id l e due' => ?_⟩
    cases due.symm.trans due'
    exact fun _ _ => apart
  · exact .kept same fun bodyId leaders editors due after relinks =>
      absurd relinks (refused bodyId leaders editors due after)

theorem request_effect (w : LinkWorld) (request : LinkRequest) :
    LinkEffect w (.request request) := by
  have handled : ∀ after, request.handle w.db = .ok after →
      (linkStep w (.request request)).db = after := by
    intro after answer
    show (w.handle request).db = after
    rw [LinkWorld.handle, answer]
  have refused : ∀ status, request.handle w.db = .error status →
      (linkStep w (.request request)).db = w.db := by
    intro status answer
    show (w.handle request).db = w.db
    rw [LinkWorld.handle, answer]
  cases answer : request.handle w.db with
  | error status =>
    refine .kept (refused status answer) ?_
    cases request with
    | link bodyId leaders editors => exact fun after accepted => by cases answer.symm.trans accepted
    | unlink bodyId => trivial
  | ok after =>
    cases request with
    | link bodyId leaders editors =>
      refine .linked bodyId leaders editors (handled after answer ▸ adminLink_ok answer) ?_
      exact ⟨fun apart => apart after answer, fun apart _ _ => apart⟩
    | unlink bodyId =>
      exact .cleared bodyId ((handled after answer).trans (adminUnlink_ok answer)) trivial

theorem link_effect (w : LinkWorld) (e : LinkEvent) : LinkEffect w e := by
  cases e with
  | request request => exact request_effect w request
  | list run => exact .kept (list_db w run) trivial
  | mint => exact .kept (mint_db w) trivial
  | write => exact write_effect w
  | close => exact .kept (close_db w) trivial

theorem linkStep_table (w : LinkWorld) (e : LinkEvent)
    (table : LeadershipBodiesTable w.db.leadershipBodies w.db.nextId) :
    LeadershipBodiesTable (linkStep w e).db.leadershipBodies (linkStep w e).db.nextId := by
  cases link_effect w e with
  | kept same => exact same.symm ▸ table
  | linked bodyId leaders editors relinks => exact relinks.table table
  | cleared bodyId same => exact same.symm ▸ table_unlinked table

theorem linkStep_unique (w : LinkWorld) (e : LinkEvent)
    (table : LeadershipBodiesTable w.db.leadershipBodies w.db.nextId)
    (unique : w.db.AddressesUnique) : (linkStep w e).db.AddressesUnique ↔ w.Apart e := by
  cases link_effect w e with
  | kept same apart => exact iff_of_true (same.symm ▸ unique) apart
  | linked bodyId leaders editors relinks apart =>
      exact (relinks.unique_iff table unique).trans apart.symm
  | cleared bodyId same apart => exact iff_of_true (same.symm ▸ unique_unlinked table unique) apart

/-- Each address stays one role of one body exactly if each link that goes through keeps the columns
apart. -/
theorem addresses_unique_iff {start : LinkWorld} (events : List LinkEvent)
    (table : LeadershipBodiesTable start.db.leadershipBodies start.db.nextId)
    (unique : start.db.AddressesUnique) :
    (∀ reached, reached <+: events → (reached.foldl linkStep start).db.AddressesUnique) ↔
      Guarded linkStep LinkWorld.Apart start events :=
  guarded_iff linkStep_table linkStep_unique events table unique

end

/-! ### A run on its own -/

def World.idle (w : World) : LinkWorld := { w with stage := none, reports := [] }

theorem foldl_writes {w : LinkWorld} {alreadyLinked failed : Nat} {minted : Minting Google}
    {entries : List (UUID × BodyLinks)}
    (stage : w.stage = some (.linking alreadyLinked minted entries failed)) :
    let linked := entries.foldl (linkBody false) (failed, w.db)
    (List.replicate entries.length LinkEvent.write).foldl linkStep w =
      { w with db := linked.2, stage := some (.linking alreadyLinked minted [] linked.1) } := by
  induction entries generalizing w failed with
  | nil =>
    obtain ⟨world, _, reports⟩ := w
    cases stage
    rfl
  | cons entry entries ih =>
    let linked := linkBody false (failed, w.db) entry
    have written : linkStep w .write =
        { w with db := linked.2, stage := some (.linking alreadyLinked minted entries linked.1) } := by
      show w.write = _
      rw [LinkWorld.write, stage]
    have rest := ih (congrArg LinkWorld.stage written)
    rw [written] at rest
    rw [List.length_cons, List.replicate_succ, List.foldl_cons, List.foldl_cons, written]
    exact rest

def World.listing (run : ProvisionRun) (w : World) : LinkWorld :=
  { w with stage := some (.listed run (w.db.allBodies run.locale)), reports := [] }

/-- The run sizes its creations and mints, or is refused. -/
theorem mint_listing (run : ProvisionRun) (w : World) : (w.listing run).mint =
    match run.sized w with
    | (.error failure, port) => ⟨⟨w.db, w.bootstrapped, port.groups⟩, none, [.error failure]⟩
    | (.ok toCreate, port) =>
      let alreadyLinked := (w.db.allBodies run.locale).countP isLinked
      if tripwireRefuses w.bootstrapped toCreate.length run.config.massCreationTripwire then
        ⟨⟨w.db, w.bootstrapped, port.groups⟩, none,
          [.ok ⟨0, 0, alreadyLinked, 0, toCreate.length, (run.pending w).2⟩]⟩
      else
        let m := run.minted w toCreate
        ⟨⟨w.db, w.bootstrapped, m.port.groups⟩,
          some (.linking alreadyLinked m m.bodyLinks.items m.failed), []⟩ := by
  have reads : missingGroups (googleGroupProvisioner run.google)
      (planPending run.config run.mainEmail (w.db.allBodies run.locale)).1 ⟨w.groups, 0⟩ =
        run.sized w := rfl
  unfold LinkWorld.mint
  dsimp only [World.listing]
  rw [reads]
  rcases sized : run.sized w with ⟨verdict, port⟩
  cases verdict with
  | error failure => rfl
  | ok toCreate =>
    dsimp only
    rw [minted_sized sized]
    rfl

/-- A run that nobody interrupts does in steps what it does at once. -/
theorem uninterrupted_provision (run : ProvisionRun) (w : World) : ∃ writes,
    ([LinkEvent.list run, .mint] ++ List.replicate writes LinkEvent.write ++
      [LinkEvent.close]).foldl linkStep w.idle =
      { provisionStep w (.provision run) with
        stage := none, reports := [(run.provisioned w).report] } := by
  have stages := provisioned_sized run w
  have minted := mint_listing run w
  have first : [LinkEvent.list run, LinkEvent.mint].foldl linkStep w.idle = (w.listing run).mint :=
    rfl
  rcases sized : run.sized w with ⟨verdict, port⟩
  rw [sized] at stages minted
  cases verdict with
  | error failure =>
    refine ⟨0, ?_⟩
    rw [List.replicate_zero, List.append_nil, List.foldl_append, first, minted,
      provisionStep, stages]
    rfl
  | ok toCreate =>
    dsimp only at stages minted
    split at stages
    · rename_i refuses
      rw [if_pos refuses] at minted
      refine ⟨0, ?_⟩
      rw [List.replicate_zero, List.append_nil, List.foldl_append, first, minted,
        provisionStep, stages]
      rfl
    · rename_i allowed
      rw [if_neg allowed] at minted
      refine ⟨(run.minted w toCreate).bodyLinks.items.length, ?_⟩
      rw [List.foldl_append, List.foldl_append, first, minted, foldl_writes rfl,
        provisionStep, stages]
      rfl

/-! ### An operator at the wrong moment -/

def linkedMeanwhile : List LinkEvent :=
  [.list (givingUpAt none),
    .request (.link 0 (str "hand-leaders@pdx.org") (str "hand-editors@pdx.org")), .mint]

/-- The operator links the body after the run has listed it, and the run writes its own addresses
over that. -/
theorem linked_body_repointed : ¬NeverRepoints steering.idle (linkedMeanwhile ++ [.write]) := by
  intro never
  have linked : (linkedMeanwhile.foldl linkStep steering.idle).db.bodyLink 0 =
      some ⟨0, str "Steering", str "Committee", some (str "hand-leaders@pdx.org"),
        some (str "hand-editors@pdx.org")⟩ := by
    decide +kernel
  have moved : ((linkedMeanwhile ++ [LinkEvent.write]).foldl linkStep steering.idle).db.bodyLink 0 =
      some ⟨0, str "Steering", str "Committee", some (str "steering-committee-leaders@pdx.org"),
        some (str "steering-committee-editors@pdx.org")⟩ := by
    decide +kernel
  have kept := never linkedMeanwhile .write (List.prefix_refl _) rfl 0 _ linked rfl
  rw [List.foldl_append] at moved
  exact absurd (kept.symm.trans moved) (by decide)

def twoBodies : LinkWorld :=
  let bodies : List LeadershipBodiesRow :=
    [⟨0, str "Steering", str "Committee", none, none⟩,
      ⟨1, str "Labor", str "Working Group", none, none⟩]
  World.idle { steering with db := { Database.empty with leadershipBodies := bodies, nextId := 2 } }

def crossedLinks : List LinkEvent :=
  [.request (.link 0 (str "leads@pdx.org") (str "both@pdx.org")),
    .request (.link 1 (str "both@pdx.org") (str "labor@pdx.org"))]

/-- One address is the editors' of one body and the leaders' of another. -/
theorem addresses_shared :
    ¬∀ reached, reached <+: crossedLinks →
      (reached.foldl linkStep twoBodies).db.AddressesUnique := by
  intro always
  have unique := always crossedLinks (List.prefix_refl _)
  have shared : groupAddresses (crossedLinks.foldl linkStep twoBodies).db.leadershipBodies =
      [str "leads@pdx.org", str "both@pdx.org", str "both@pdx.org", str "labor@pdx.org"] := by
    decide +kernel
  rw [Database.AddressesUnique, shared] at unique
  exact absurd unique (by decide)

def separateLinks : List LinkEvent :=
  [.request (.link 0 (str "leads@pdx.org") (str "edits@pdx.org")), .request (.unlink 0),
    .request (.link 1 (str "leads@pdx.org") (str "edits@pdx.org"))]

theorem addresses_unique_separate : Guarded linkStep LinkWorld.Apart twoBodies separateLinks ∧
    ((∀ reached, reached <+: separateLinks →
      (reached.foldl linkStep twoBodies).db.AddressesUnique) ↔
      Guarded linkStep LinkWorld.Apart twoBodies separateLinks) := by
  have table : LeadershipBodiesTable twoBodies.db.leadershipBodies twoBodies.db.nextId := by
    constructor <;> decide
  have guarded : Guarded linkStep LinkWorld.Apart twoBodies separateLinks :=
    ⟨fun _ _ => by decide +kernel, trivial, fun _ _ => by decide +kernel, trivial⟩
  have unique : (groupAddresses twoBodies.db.leadershipBodies).Nodup := by decide
  exact ⟨guarded, addresses_unique_iff separateLinks table unique⟩

end Rosadmin
