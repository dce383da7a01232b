import Rosadmin.Db.Directory

/-!
# Links of bodies to groups

Both addresses of a body are written by one update. The columns are unique one
by one, so a link is refused when it repeats an address in its own column; in the
other column it may stand already.
-/

namespace Rosadmin
open Foundation

def linkedTo (leader member : Option Email) (body : LeadershipBodiesRow) : LeadershipBodiesRow :=
  { body with leaderGoogleGroupEmail := leader, memberGoogleGroupEmail := member }

def relinked (bodyId : UUID) (leader member : Option Email) (bodies : List LeadershipBodiesRow) :
    List LeadershipBodiesRow :=
  update (·.id = bodyId) (linkedTo leader member) bodies

namespace Database

def relink (db : Database) (bodyId : UUID) (leader member : Option Email) : Database :=
  { db with leadershipBodies := relinked bodyId leader member db.leadershipBodies }

/-- `set_body_link` with two nulls: a null clashes with nothing. -/
def clearBodyLink (db : Database) (bodyId : UUID) : Bool × Database :=
  if db.leadershipBodies.any (·.id = bodyId) then (true, db.relink bodyId none none)
    else (false, db)

theorem setBodyLink_eq (db : Database) (bodyId : UUID) (leaderEmail memberEmail : Email) :
    db.setBodyLink bodyId leaderEmail memberEmail =
      if db.leadershipBodies.any (·.id = bodyId) then
        if db.linkTaken bodyId leaderEmail memberEmail then none
        else some (true, db.relink bodyId (some leaderEmail) (some memberEmail))
      else some (false, db) := by
  have same : (fun b : LeadershipBodiesRow => if b.id = bodyId then
        { b with leaderGoogleGroupEmail := some leaderEmail, memberGoogleGroupEmail := some memberEmail } else b) =
      fun b => if decide (b.id = bodyId) = true then linkedTo (some leaderEmail)
        (some memberEmail) b else b := by
    funext b
    simp only [decide_eq_true_eq]
    rfl
  unfold setBodyLink relink relinked update
  rw [same]

end Database

/-! ### The operator's requests -/

/-- `POST /admin/bodies/:id/link`. The error is the status of the answer. -/
def adminLink (bodyId : UUID) (leaderEmail memberEmail : Email) (db : Database) :
    Except Nat Database :=
  if leaderEmail.isEmpty || memberEmail.isEmpty then .error 400
  else if !(sendable leaderEmail && sendable memberEmail) then .error 500
  else match db.setBodyLink bodyId leaderEmail memberEmail with
    | none => .error 409
    | some (matched, db) => if matched then .ok db else .error 404

/-- `DELETE /admin/bodies/:id/link` -/
def adminUnlink (bodyId : UUID) (db : Database) : Except Nat Database :=
  let cleared := db.clearBodyLink bodyId
  if cleared.1 then .ok cleared.2 else .error 404

section
variable {db after : Database} {bodyId : UUID} {leader member : Email}

/-- An update that went through: the body is there and no column repeats an address. -/
structure Relinks (db : Database) (bodyId : UUID) (leader member : Email) (after : Database) :
    Prop where
  present : db.leadershipBodies.any (·.id = bodyId) = true
  free : db.linkTaken bodyId leader member = false
  after : after = db.relink bodyId (some leader) (some member)

theorem setBodyLink_some {matched : Bool} :
    db.setBodyLink bodyId leader member = some (matched, after) ↔
    (matched = true ∧ Relinks db bodyId leader member after) ∨
      (matched = false ∧ db.leadershipBodies.any (·.id = bodyId) = false ∧ after = db) := by
  rw [Database.setBodyLink_eq]
  constructor
  · intro set
    split at set
    · rename_i present
      split at set
      · cases set
      · rename_i free
        cases set
        exact Or.inl ⟨rfl, ⟨present, eq_false_of_ne_true free, rfl⟩⟩
    · rename_i absent
      cases set
      exact Or.inr ⟨rfl, eq_false_of_ne_true absent, rfl⟩
  · rintro (⟨rfl, present, free, rfl⟩ | ⟨rfl, absent, rfl⟩)
    · rw [if_pos present, if_neg (by rw [free]; exact Bool.false_ne_true)]
    · rw [if_neg (by rw [absent]; exact Bool.false_ne_true)]

theorem adminLink_ok (accepted : adminLink bodyId leader member db = .ok after) :
    Relinks db bodyId leader member after := by
  unfold adminLink at accepted
  split at accepted
  · cases accepted
  split at accepted
  · cases accepted
  split at accepted
  · cases accepted
  · rename_i matched next set
    split at accepted
    · rename_i yes
      cases accepted
      rcases setBodyLink_some.mp set with ⟨-, relinks⟩ | ⟨no, -⟩
      · exact relinks
      · rw [no] at yes
        cases yes
    · cases accepted

theorem adminUnlink_ok (accepted : adminUnlink bodyId db = .ok after) :
    after = db.relink bodyId none none := by
  unfold adminUnlink Database.clearBodyLink at accepted
  cases present : db.leadershipBodies.any (·.id = bodyId) with
  | false =>
    rw [present] at accepted
    cases accepted
  | true =>
    rw [present] at accepted
    exact (Except.ok.inj accepted).symm

theorem bodyLink_relink {leader member : Option Email} (id : UUID) :
    (db.relink bodyId leader member).bodyLink id =
      (db.bodyLink id).map fun b => if id = bodyId then linkedTo leader member b else b := by
  unfold Database.bodyLink Database.relink relinked update
  dsimp only
  rw [List.find?_map]
  have same : (fun b : LeadershipBodiesRow => decide (b.id = id)) ∘
      (fun b => if decide (b.id = bodyId) = true then linkedTo leader member b else b) = fun b =>
        decide (b.id = id) := by
    funext b
    show decide ((if decide (b.id = bodyId) = true then linkedTo leader member b else b).id = id) =
      _
    split <;> rfl
  rw [same]
  cases found : db.leadershipBodies.find? (fun b => decide (b.id = id)) with
  | none => rfl
  | some b =>
    have here : b.id = id := by simpa using List.find?_some found
    simp only [Option.map_some, here, decide_eq_true_eq]

/-! ### The constraints -/

theorem linkTaken_false : db.linkTaken bodyId leader member = false ↔
    ∀ b ∈ db.leadershipBodies, b.id ≠ bodyId →
      b.leaderGoogleGroupEmail ≠ some leader ∧ b.memberGoogleGroupEmail ≠ some member := by
  unfold Database.linkTaken
  rw [List.any_eq_false]
  simp only [Bool.and_eq_true, bne_iff_ne, ne_eq, Bool.or_eq_true, decide_eq_true_eq,
    not_and, not_or]

theorem relinked_same {leader member : Option Email} {α : Type} {column : LeadershipBodiesRow → α}
    (bodies : List LeadershipBodiesRow) (kept : ∀ b, column (linkedTo leader member b) = column b) :
    (relinked bodyId leader member bodies).map column = bodies.map column := by
  unfold relinked update
  rw [List.map_map]
  refine List.map_congr_left fun b _ => ?_
  show column (if decide (b.id = bodyId) = true then linkedTo leader member b else b) = column b
  split
  · exact kept b
  · rfl

/-- A column stays unique if no other body holds the new value of it. -/
theorem nodup_relinked {leader member value : Option Email}
    {column : LeadershipBodiesRow → Option Email} {bodies : List LeadershipBodiesRow}
    (ids : (bodies.map (·.id)).Nodup) (unique : (bodies.filterMap column).Nodup)
    (new : ∀ b, column (linkedTo leader member b) = value)
    (apart : ∀ b ∈ bodies, b.id ≠ bodyId → ∀ email, value = some email → column b ≠ some email) :
    ((relinked bodyId leader member bodies).filterMap column).Nodup := by
  refine List.pairwise_filterMap.mpr (pairwise_update ?_ ids (List.pairwise_filterMap.mp unique) ?_)
  · exact fun a b distinct x here y there => (distinct y there x here).symm
  · rintro a - b there - other x here y held rfl
    exact apart b there other x ((new a).symm.trans here) held

theorem table_relinked {leader member : Option Email} {bodies : List LeadershipBodiesRow}
    {nextId : UUID}
    (table : LeadershipBodiesTable bodies nextId) (pair : leader.isNone = member.isNone)
    (apart : ∀ b ∈ bodies, b.id ≠ bodyId →
      (∀ email, leader = some email → b.leaderGoogleGroupEmail ≠ some email) ∧
      ∀ email, member = some email → b.memberGoogleGroupEmail ≠ some email) :
    LeadershipBodiesTable (relinked bodyId leader member bodies) nextId where
  ids := by
    rw [relinked_same bodies fun _ => rfl]
    exact table.ids
  names := by
    rw [relinked_same bodies fun _ => rfl]
    exact table.names
  linkedPair := by
    intro b there
    rcases mem_update.mp there with ⟨old, -, -, rfl⟩ | ⟨there, -⟩
    · exact pair
    · exact table.linkedPair b there
  leaderGroupEmails := nodup_relinked table.ids table.leaderGroupEmails (fun _ => rfl)
    fun b there other => (apart b there other).1
  memberGroupEmails := nodup_relinked table.ids table.memberGroupEmails (fun _ => rfl)
    fun b there other => (apart b there other).2
  fresh := by
    intro b there
    rcases mem_update.mp there with ⟨old, present, -, rfl⟩ | ⟨there, -⟩
    · exact table.fresh old present
    · exact table.fresh b there

theorem Relinks.table (relinks : Relinks db bodyId leader member after)
    (table : LeadershipBodiesTable db.leadershipBodies db.nextId) :
    LeadershipBodiesTable after.leadershipBodies after.nextId := by
  rw [relinks.after]
  refine table_relinked table rfl fun b there other => ?_
  obtain ⟨apart, apart'⟩ := linkTaken_false.mp relinks.free b there other
  exact ⟨fun email same => Option.some.inj same ▸ apart, fun email same =>
    Option.some.inj same ▸ apart'⟩

theorem table_unlinked (table : LeadershipBodiesTable db.leadershipBodies db.nextId) :
    LeadershipBodiesTable (db.relink bodyId none none).leadershipBodies
      (db.relink bodyId none none).nextId :=
  table_relinked table rfl fun _ _ _ => ⟨nofun, nofun⟩

/-! ### One address, one role of one body -/

def groupAddresses (bodies : List LeadershipBodiesRow) : List Email :=
  bodies.filterMap (·.leaderGoogleGroupEmail) ++ bodies.filterMap (·.memberGoogleGroupEmail)

def Database.AddressesUnique (db : Database) : Prop := (groupAddresses db.leadershipBodies).Nodup

/-- The link gives the body one address twice, or one that another body holds in the other
column. -/
def Database.crosses (db : Database) (bodyId : UUID) (leaderEmail memberEmail : Email) : Bool :=
  leaderEmail = memberEmail || db.leadershipBodies.any fun b =>
    b.id != bodyId && (b.memberGoogleGroupEmail = some leaderEmail ||
      b.leaderGoogleGroupEmail = some memberEmail)

/-- Given the constraints, an address can only be shared across the columns. -/
theorem addressesUnique_iff (table : LeadershipBodiesTable db.leadershipBodies db.nextId) :
    db.AddressesUnique ↔
    ∀ b ∈ db.leadershipBodies, ∀ c ∈ db.leadershipBodies, ∀ email,
      b.leaderGoogleGroupEmail = some email → c.memberGoogleGroupEmail ≠ some email := by
  unfold Database.AddressesUnique groupAddresses
  rw [List.nodup_append]
  constructor
  · rintro ⟨-, -, apart⟩ b there c there' email mine theirs
    exact apart email (List.mem_filterMap.mpr ⟨b, there, mine⟩) email
      (List.mem_filterMap.mpr ⟨c, there', theirs⟩) rfl
  · refine fun apart => ⟨table.leaderGroupEmails, table.memberGroupEmails, ?_⟩
    rintro email held _ held' rfl
    obtain ⟨b, there, mine⟩ := List.mem_filterMap.mp held
    obtain ⟨c, there', theirs⟩ := List.mem_filterMap.mp held'
    exact apart b there c there' email mine theirs

theorem crosses_false : db.crosses bodyId leader member = false ↔ leader ≠ member ∧
    ∀ b ∈ db.leadershipBodies, b.id ≠ bodyId →
      b.memberGoogleGroupEmail ≠ some leader ∧ b.leaderGoogleGroupEmail ≠ some member := by
  unfold Database.crosses
  rw [Bool.or_eq_false_iff, decide_eq_false_iff_not, List.any_eq_false]
  simp only [Bool.and_eq_true, bne_iff_ne, ne_eq, Bool.or_eq_true, decide_eq_true_eq,
    not_and, not_or]

theorem Relinks.unique_iff (relinks : Relinks db bodyId leader member after)
    (table : LeadershipBodiesTable db.leadershipBodies db.nextId) (unique : db.AddressesUnique) :
    after.AddressesUnique ↔ db.crosses bodyId leader member = false := by
  rw [addressesUnique_iff (relinks.table table), crosses_false]
  have old := (addressesUnique_iff table).mp unique
  obtain ⟨present, -, rfl⟩ := relinks
  obtain ⟨own, there, here⟩ := List.any_eq_true.mp present
  have linked : linkedTo (some leader) (some member) own ∈
      (db.relink bodyId (some leader) (some member)).leadershipBodies :=
    mem_update.mpr (Or.inl ⟨own, there, here, rfl⟩)
  have others : ∀ b ∈ db.leadershipBodies, b.id ≠ bodyId →
      b ∈ (db.relink bodyId (some leader) (some member)).leadershipBodies :=
    fun b there other => mem_update.mpr (Or.inr ⟨there, decide_eq_false other⟩)
  constructor
  · intro apart
    refine ⟨fun same => apart _ linked _ linked leader rfl (congrArg some same.symm),
      fun b there other => ?_⟩
    exact ⟨apart _ linked b (others b there other) leader rfl,
      fun mine => apart b (others b there other) _ linked member mine rfl⟩
  · rintro ⟨distinct, apart⟩ b there c there' email mine theirs
    rcases mem_update.mp there with ⟨_, -, -, rfl⟩ | ⟨there, other⟩
    · obtain rfl := Option.some.inj mine
      rcases mem_update.mp there' with ⟨_, -, -, rfl⟩ | ⟨there', other⟩
      · exact distinct (Option.some.inj theirs).symm
      · exact (apart c there' (of_decide_eq_false other)).1 theirs
    · rcases mem_update.mp there' with ⟨_, -, -, rfl⟩ | ⟨there', -⟩
      · obtain rfl := Option.some.inj theirs
        exact (apart b there (of_decide_eq_false other)).2 mine
      · exact old b there c there' email mine theirs

theorem unique_unlinked (table : LeadershipBodiesTable db.leadershipBodies db.nextId)
    (unique : db.AddressesUnique) : (db.relink bodyId none none).AddressesUnique := by
  refine (addressesUnique_iff (table_unlinked table)).mpr fun b there c there' email mine theirs =>
    ?_
  rcases mem_update.mp there with ⟨_, -, -, rfl⟩ | ⟨there, -⟩
  · cases mine
  rcases mem_update.mp there' with ⟨_, -, -, rfl⟩ | ⟨there', -⟩
  · cases theirs
  exact (addressesUnique_iff table).mp unique b there c there' email mine theirs

end

end Rosadmin
