import Rosadmin.Roster.Again
import Rosadmin.Roster.Attached

/-!
# Ids through a pull

A turn folds away the duplicates it merges, the one it re-keys apart. Nothing is
folded twice and no survivor is folded later, so a pull sends each id to the row
its account goes on under.
-/

namespace Rosadmin
open Foundation

/-- The folds of one turn, of all its duplicates but the row taken over. -/
def foldsInto (id : UUID) (duplicates : List UUID) : List Fold :=
  (duplicates.filter (· ≠ id)).map (⟨id, ·⟩)

/-- The row a merge folds into: the member's own, or the first duplicate's. -/
def Database.mergeTarget (db : Database) (stId : Int) (duplicates : List MembersRow) :
    Option UUID :=
  match db.members.find? (·.stId = stId) with
  | some survivor => some survivor.id
  | none => duplicates.head?.map (·.id)

section
variable {db : Database} {stId : Int} {duplicates : List MembersRow}

theorem foldAll_attached (into : UUID) (db : Database) (duplicates : List MembersRow) :
    (duplicates.foldl (fun db d => db.foldInto into d.id) db).attached =
      db.attached.foldAll (duplicates.map (fun d => ⟨into, d.id⟩)) := by
  induction duplicates generalizing db with
  | nil => rfl
  | cons d rest ih =>
    rw [List.foldl_cons, ih, attached_foldInto]
    rfl

theorem foldsInto_other {id : UUID} (others : ∀ d ∈ duplicates, d.id ≠ id) :
    foldsInto id (duplicates.map (·.id)) = duplicates.map (fun d => ⟨id, d.id⟩) := by
  have all : (duplicates.map (·.id)).filter (· ≠ id) = duplicates.map (·.id) :=
    List.filter_eq_self.mpr (List.forall_mem_map.mpr fun d listed =>
      decide_eq_true (others d listed))
  rw [foldsInto, all, List.map_map]
  rfl

theorem mergeInto_attached (table : MembersTable db.members db.nextId) (distinct : duplicates.Nodup)
    (present : ∀ d ∈ duplicates, d ∈ db.members ∧ d.stId ≠ stId) (some : duplicates ≠ []) :
    ∃ into, (mergeInto stId duplicates db).attached = db.attached.foldAll
      (foldsInto into (duplicates.map (·.id))) ∧
      (∃ row ∈ (mergeInto stId duplicates db).members, row.stId = stId ∧ row.id = into) ∧
      db.mergeTarget stId duplicates = .some into := by
  have folded := mergeInto_folded table present
  cases found : db.members.find? (·.stId = stId) with
  | some survivor =>
    have there := List.mem_of_find?_eq_some found
    have own : survivor.stId = stId := by simpa using List.find?_some found
    have others : ∀ d ∈ duplicates, d.id ≠ survivor.id := fun d listed same =>
      (present d listed).2 (table.row_of_id (present d listed).1 there same ▸ own)
    have merged : mergeInto stId duplicates db = duplicates.foldl
        (fun db d => db.foldInto survivor.id d.id) db := by
      simp only [mergeInto, found]
    refine ⟨survivor.id, ?_, ⟨survivor, folded.own survivor there own, own, rfl⟩,
      by rw [Database.mergeTarget, found]⟩
    rw [merged, foldAll_attached, foldsInto_other others]
  | none =>
    cases duplicates with
    | nil => exact absurd rfl some
    | cons first rest =>
      have merged : mergeInto stId (first :: rest) db =
          rest.foldl (fun db d => db.foldInto first.id d.id) (db.rekeyMember first.id stId) := by
        simp only [mergeInto, found]
      have others : ∀ d ∈ rest, d.id ≠ first.id := fun d listed same =>
        (List.nodup_cons.mp distinct).1
          (table.row_of_id (present d (List.mem_cons_of_mem _ listed)).1
            (present first List.mem_cons_self).1 same ▸ listed)
      refine ⟨first.id, ?_, ⟨{ first with stId }, ?_, rfl, rfl⟩, ?_⟩
      · have rest : foldsInto first.id ((first :: rest).map (·.id)) =
            rest.map (fun d => ⟨first.id, d.id⟩) := by
          rw [← foldsInto_other others, foldsInto, foldsInto, List.map_cons,
            List.filter_cons_of_neg (by simp)]
        rw [merged, foldAll_attached, rest]
        rfl
      · rw [merged, Database.foldAll_members, List.mem_filter, Database.rekeyMember, mem_update]
        refine ⟨Or.inl ⟨first, (present first List.mem_cons_self).1, decide_eq_true rfl, rfl⟩,
          decide_eq_true ?_⟩
        intro folded
        obtain ⟨d, listed, same⟩ := List.mem_map.mp folded
        exact others d listed same
      · rw [Database.mergeTarget, found]
        rfl

end

section
variable {server : Server} {roster : List Int} {completeMerges : Bool} {member : Member}
    {memberId : UUID} {s t : PullState} {work work' : PullWork}

theorem upsertMember_attached {db after : Database} {cols : MemberColumns}
    (upserted : db.upsertMember cols = .ok (memberId, after)) : after.attached = db.attached := by
  obtain ⟨_, -, upserted⟩ := bind_ok.mp upserted
  split at upserted <;> cases upserted <;> rfl

theorem pairLeadership_attached {leadership : Leadership}
    (paired : pairLeadership server memberId work leadership = .ok work') :
    work'.db.attached = work.db.attached := by
  obtain ⟨⟨id, u⟩, found, paired⟩ := bind_ok.mp paired
  cases pure_ok.mp paired
  rw [bodyIdOf] at found
  split at found
  · cases found
    rfl
  · obtain ⟨name, -, found⟩ := bind_ok.mp found
    cases pure_ok.mp found
    show (work.db.upsertBody name leadership.bodyType.value).2.attached = _
    rw [Database.upsertBody]
    split <;> rfl

theorem upsertOne_attached {stored : UUID × LeadershipAssessment}
    (upserted : upsertOne server member work = .ok (stored, work')) :
    work'.db.attached = work.db.attached := by
  obtain ⟨cols, -, upserted⟩ := bind_ok.mp upserted
  obtain ⟨⟨id, db⟩, wrote, upserted⟩ := bind_ok.mp upserted
  obtain ⟨u, paired, upserted⟩ := bind_ok.mp upserted
  cases pure_ok.mp upserted
  have keeps : ∀ leadership ∈ member.leads, ∀ s t : PullWork, s.db.attached = db.attached →
      pairLeadership server id s leadership = .ok t → t.db.attached = db.attached :=
    fun _ _ _ _ same paired => (pairLeadership_attached paired).trans same
  have kept := foldlM_keeps keeps (rfl : ({ work with db } : PullWork).db.attached = db.attached)
    paired
  exact kept.trans (upsertMember_attached wrote)

/-- What a turn that stores its member leaves of the memberships and the bans. -/
structure Sent (roster : List Int) (cols : MemberColumns) (id : UUID) (duplicates : List MembersRow)
    (before after : PullState) : Prop where
  attached : after.db.attached = before.db.attached.foldAll (foldsInto id (duplicates.map (·.id)))
  target : duplicates = [] ∨ before.db.mergeTarget cols.stId
    (before.db.mergeDuplicatesOf (some cols.email) cols.discordUserId roster) = some id

theorem merges_ids {stId : Int} {first second : List MembersRow}
    (same : first.map (fun d => (⟨stId, d.stId, d.id⟩ : AccountMerge)) =
      second.map (fun d => ⟨stId, d.stId, d.id⟩)) :
    first.map (·.id) = second.map (·.id) := by
  have ids := congrArg (List.map AccountMerge.duplicateMemberId) same
  simpa [List.map_map, Function.comp_def] using ids

/-- The merge and the retry, where the turn notes the id stored and the duplicates in its way. -/
theorem sent_of_retry {cols : MemberColumns} {id : UUID} {duplicates : List MembersRow}
    {stored : Stored × PullWork} (table : MembersTable s.db.members s.db.nextId)
    (own : cols.stId ∈ roster) (bound : bindMember server member = .ok cols)
    (retried : mergeAndRetry server roster member s.toPullWork = .ok stored)
    (same : stored.1.memberId = id)
    (merges : stored.1.merges = duplicates.map (fun d => ⟨cols.stId, d.stId, d.id⟩)) :
    Sent roster cols id duplicates s (noteStored s stored.1 stored.2) := by
  obtain ⟨merged, folding, retried⟩ := bind_ok.mp retried
  obtain ⟨⟨⟨memberId, assessment⟩, work⟩, upserted, retried⟩ := bind_ok.mp retried
  cases pure_ok.mp retried
  obtain ⟨-, rfl⟩ := (mergeDuplicates_ok bound).mp folding
  have ids : (s.db.mergeDuplicatesOf (some cols.email) cols.discordUserId roster).map (·.id) =
      duplicates.map (·.id) :=
    merges_ids merges
  have present : ∀ d ∈ s.db.mergeDuplicatesOf (some cols.email) cols.discordUserId roster,
      d ∈ s.db.members ∧ d.stId ≠ cols.stId := by
    intro d listed
    obtain ⟨there, -, absent⟩ := Database.mem_mergeDuplicatesOf.mp listed
    exact ⟨there, fun mine => absent (mine ▸ own)⟩
  have attached := upsertOne_attached upserted
  by_cases none : s.db.mergeDuplicatesOf (some cols.email) cols.discordUserId roster = []
  · rw [none] at ids
    have none' : duplicates = [] := List.map_eq_nil_iff.mp ids.symm
    rw [none] at attached
    subst none'
    refine ⟨attached.trans ?_, Or.inl rfl⟩
    show (mergeInto cols.stId [] s.db).attached = s.db.attached
    cases found : s.db.members.find? (·.stId = cols.stId) <;>
      simp only [mergeInto, found, List.foldl_nil]
  · obtain ⟨into, moved, ⟨row, there, mine, rowId⟩, target⟩ :=
      mergeInto_attached table (Database.nodup_mergeDuplicatesOf table) present none
    obtain ⟨cols', _, bound', -, -, wrote, -⟩ :=
      upsertOne_ok (mergeInto_folded table present).table upserted
    cases bound.symm.trans bound'
    have into : into = id := rowId.symm.trans ((wrote.own row there mine).trans same)
    subst into
    exact ⟨attached.trans (ids ▸ moved), Or.inr target⟩

theorem pullMember_sent (table : MembersTable s.db.members s.db.nextId) (own : member.stId ∈ roster)
    (turn : pullMember server roster completeMerges s member = .ok t) :
    t = { s with skippedStIds := s.skippedStIds ++ [member.stId] } ∨ ∃ cols id duplicates,
      Taken server roster completeMerges member cols id duplicates s t ∧
        Sent roster cols id duplicates s t := by
  rcases pullMember_cases table own turn with ⟨_, -, rfl⟩ | ⟨cols, id, duplicates, taken⟩
  · exact Or.inl rfl
  refine Or.inr ⟨cols, id, duplicates, taken, ?_⟩
  have stId := (bindMember_ok taken.bound).2.stId
  have same := taken.present
  have merges := taken.merges
  rw [pullMember] at turn
  split at turn
  · rename_i stored attempt
    cases turn
    have same : stored.1.memberId = id := by simpa [noteStored] using same
    have merges : stored.1.merges = duplicates.map (fun d => ⟨member.stId, d.stId, d.id⟩) :=
      List.append_cancel_left merges
    rw [storeMember] at attempt
    split at attempt
    · -- stored at once, so nothing was in the way
      rename_i upserted first
      cases attempt
      have none : duplicates = [] := List.map_eq_nil_iff.mp merges.symm
      subst none
      exact ⟨upsertOne_attached first, Or.inl rfl⟩
    · split at attempt
      · exact sent_of_retry table (stId ▸ own) taken.bound attempt same (stId ▸ merges)
      · cases attempt
    · cases attempt
  · cases turn
    simp at same
  · cases turn

end

end Rosadmin
