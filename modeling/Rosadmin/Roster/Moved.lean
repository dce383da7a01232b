import Rosadmin.Roster.Identity
import Rosadmin.Roster.Turns

/-!
# Where a pull leaves each id

No survivor of a merge is folded later in its pull, and no id is given out
twice. So each id a pull folds away goes on as the id of a row of its roster,
and every other id stays.
-/

namespace Rosadmin
open Foundation

/-- The folds of the turns so far, and what the tables and the merges noted make of them. -/
structure Moved (roster : List Int) (db : Database) (s : PullState) (folds : List Fold) : Prop where
  table : MembersTable s.db.members s.db.nextId
  grown : db.nextId ≤ s.db.nextId
  attached : s.db.attached = db.attached.foldAll folds
  tidy : Tidy folds
  survivors : ∀ f ∈ folds, ∃ row ∈ s.db.members, row.id = f.into ∧ row.stId ∈ roster
  gone : ∀ f ∈ folds, f.source ∈ db.members.map (·.id) ∧ f.source ∉ s.db.members.map (·.id)
  originals : ∀ row ∈ s.db.members, row.stId ∉ roster → row ∈ db.members
  kept : ∀ row ∈ db.members, row.id ∈ s.db.members.map (·.id) ∨ row.id ∈ folds.map (·.source)
  own : ∀ row ∈ db.members, row.stId ∈ roster → ∃ now ∈ s.db.members,
    now.id = row.id ∧ now.stId = row.stId
  merged : ∀ merge ∈ s.merges, merge.duplicateMemberId ∈ db.members.map (·.id) ∧
    ∃ row ∈ s.db.members, row.stId = merge.survivorStId ∧ row.stId ∈ roster ∧
      row.id = names folds merge.duplicateMemberId ∧ row.id ∈ s.presentMemberIds
  named : ∀ f ∈ folds, ∃ merge ∈ s.merges, merge.duplicateMemberId = f.source

section
variable {server : Server} {roster : List Int} {completeMerges : Bool} {member : Member}
  {cols : MemberColumns} {id : UUID} {duplicates : List MembersRow} {db : Database}
  {s t : PullState} {folds : List Fold}

theorem mem_foldsInto {f : Fold} : f ∈ foldsInto id (duplicates.map (·.id)) ↔
    f.into = id ∧ f.source ≠ id ∧ ∃ d ∈ duplicates, d.id = f.source := by
  simp only [foldsInto, List.mem_map, List.mem_filter, decide_eq_true_iff]
  constructor
  · rintro ⟨source, ⟨⟨d, listed, rfl⟩, other⟩, rfl⟩
    exact ⟨rfl, other, d, listed, rfl⟩
  · rintro ⟨rfl, other, d, listed, same⟩
    exact ⟨f.source, ⟨⟨d, listed, same⟩, other⟩, rfl⟩

theorem foldsInto_sources : (foldsInto id (duplicates.map (·.id))).map (·.source) =
    (duplicates.map (·.id)).filter (· ≠ id) := by
  rw [foldsInto, List.map_map]
  exact List.map_id _

/-- A row of the roster goes on under its id and its st_id. -/
theorem Taken.follows (taken : Taken server roster completeMerges member cols id duplicates s t)
    {row : MembersRow} (present : row ∈ s.db.members) (rostered : row.stId ∈ roster) :
    ∃ now ∈ t.db.members, now.id = row.id ∧ now.stId = row.stId := by
  by_cases same : row.stId = member.stId
  · have stId : cols.stId = member.stId := (bindMember_ok taken.bound).2.stId
    exact ⟨⟨cols, id⟩, taken.written, (taken.own row present same).symm, stId.trans same.symm⟩
  · exact ⟨row, taken.kept present rostered same, rfl, rfl⟩

theorem Moved.start (table : MembersTable db.members db.nextId) :
    Moved roster db (.start db) [] where
  table := table
  grown := le_refl _
  attached := rfl
  tidy := Tidy.nil
  survivors := List.forall_mem_nil _
  gone := List.forall_mem_nil _
  originals := fun _ present _ => present
  kept := fun _ present => Or.inl (List.mem_map_of_mem present)
  own := fun row present _ => ⟨row, present, rfl, rfl⟩
  merged := List.forall_mem_nil _
  named := List.forall_mem_nil _

section
variable (moved : Moved roster db s folds)
include moved

theorem Moved.skip : Moved roster db { s with skippedStIds := s.skippedStIds ++
    [member.stId] } folds :=
  ⟨moved.table, moved.grown, moved.attached, moved.tidy, moved.survivors, moved.gone,
    moved.originals, moved.kept, moved.own, moved.merged, moved.named⟩

theorem Moved.rostered_kept {row d : MembersRow}
    (taken : Taken server roster completeMerges member cols id duplicates s t)
    (present : row ∈ s.db.members) (rostered : row.stId ∈ roster) (folded : d ∈ duplicates) :
    row.id ≠ d.id := by
  intro same
  obtain ⟨there, lost⟩ := taken.duplicate d folded
  exact lost (moved.table.row_of_id present there same ▸ rostered)

theorem Moved.stored_fresh (valid : MembersTable db.members db.nextId)
    (taken : Taken server roster completeMerges member cols id duplicates s t) :
    id ∉ folds.map (·.source) := by
  intro folded
  obtain ⟨f, listed, same⟩ := List.mem_map.mp folded
  obtain ⟨before, gone⟩ := moved.gone f listed
  obtain ⟨row, present, named⟩ := List.mem_map.mp before
  rcases taken.source with old | new
  · exact gone (same ▸ old)
  · have reached := lt_of_lt_of_le (valid.fresh row present) moved.grown
    exact reached.ne (named.trans (same.trans new))

theorem Moved.tidy_take (valid : MembersTable db.members db.nextId)
    (taken : Taken server roster completeMerges member cols id duplicates s t) :
    Tidy (folds ++ foldsInto id (duplicates.map (·.id))) := by
  have fresh := moved.stored_fresh valid taken
  constructor
  · intro f here g there
    rcases List.mem_append.mp here with old | new
    · obtain ⟨row, present, into, rostered⟩ := moved.survivors f old
      rcases List.mem_append.mp there with earlier | now
      · exact moved.tidy.apart f old g earlier
      · obtain ⟨-, -, d, folded, source⟩ := mem_foldsInto.mp now
        exact into ▸ source ▸ moved.rostered_kept taken present rostered folded
    · obtain ⟨into, -⟩ := mem_foldsInto.mp new
      rcases List.mem_append.mp there with earlier | now
      · exact fun same => fresh (into ▸ same ▸ List.mem_map_of_mem earlier)
      · exact fun same => (mem_foldsInto.mp now).2.1 (same.symm.trans into)
  · rw [List.map_append, foldsInto_sources]
    refine List.nodup_append.mpr ⟨moved.tidy.once, List.Nodup.filter _ ?_, ?_⟩
    · refine (List.nodup_map_iff_inj_on taken.distinct).mpr fun a first b second same => ?_
      exact moved.table.row_of_id (taken.duplicate a first).1 (taken.duplicate b second).1 same
    · rintro _ earlier _ now rfl
      obtain ⟨f, old, rfl⟩ := List.mem_map.mp earlier
      obtain ⟨d, folded, same⟩ := List.mem_map.mp (List.mem_of_mem_filter now)
      exact (moved.gone f old).2 (same ▸ List.mem_map_of_mem (taken.duplicate d folded).1)

/-- Where a duplicate of the turn goes on. -/
theorem Moved.names_duplicate (tidy : Tidy (folds ++ foldsInto id (duplicates.map (·.id))))
    {d : MembersRow} (there : d ∈ s.db.members) (folded : d ∈ duplicates) :
    names (folds ++ foldsInto id (duplicates.map (·.id))) d.id = id := by
  by_cases same : d.id = id
  · have other : d.id ∉ (folds ++ foldsInto id (duplicates.map (·.id))).map (·.source) := by
      rw [List.map_append, foldsInto_sources, List.mem_append, not_or]
      refine ⟨fun earlier => ?_, fun now => of_decide_eq_true (List.mem_filter.mp now).2 same⟩
      obtain ⟨f, old, source⟩ := List.mem_map.mp earlier
      exact (moved.gone f old).2 (source ▸ List.mem_map_of_mem there)
    rw [names_other other, same]
  · have listed : (⟨id, d.id⟩ : Fold) ∈ folds ++ foldsInto id (duplicates.map (·.id)) :=
      List.mem_append_right _ (mem_foldsInto.mpr ⟨rfl, same, d, folded, rfl⟩)
    exact names_source tidy listed

variable (taken : Taken server roster completeMerges member cols id duplicates s t)
include taken

theorem Moved.take_survivors (own : member.stId ∈ roster) :
    ∀ f ∈ folds ++ foldsInto id (duplicates.map (·.id)), ∃ row ∈ t.db.members,
      row.id = f.into ∧ row.stId ∈ roster := by
  intro f listed
  rcases List.mem_append.mp listed with old | new
  · obtain ⟨row, present, into, rostered⟩ := moved.survivors f old
    obtain ⟨now, there, ids, stIds⟩ := taken.follows present rostered
    exact ⟨now, there, ids.trans into, stIds ▸ rostered⟩
  · have rostered : cols.stId ∈ roster := (bindMember_ok taken.bound).2.stId ▸ own
    exact ⟨⟨cols, id⟩, taken.written, (mem_foldsInto.mp new).1.symm, rostered⟩

theorem Moved.take_gone (valid : MembersTable db.members db.nextId) :
    ∀ f ∈ folds ++ foldsInto id (duplicates.map (·.id)),
      f.source ∈ db.members.map (·.id) ∧ f.source ∉ t.db.members.map (·.id) := by
  intro f listed
  rcases List.mem_append.mp listed with old | new
  · obtain ⟨before, gone⟩ := moved.gone f old
    refine ⟨before, fun again => ?_⟩
    obtain ⟨row, there, same⟩ := List.mem_map.mp again
    rcases (taken.rows row).mp there with rfl | ⟨present, -⟩
    · have folded : id ∈ folds.map (·.source) := List.mem_map.mpr ⟨f, old, same.symm⟩
      exact moved.stored_fresh valid taken folded
    · exact gone (same ▸ List.mem_map_of_mem present)
  · obtain ⟨-, other, d, folded, source⟩ := mem_foldsInto.mp new
    obtain ⟨present, lost⟩ := taken.duplicate d folded
    refine ⟨source ▸ List.mem_map_of_mem (moved.originals d present lost), fun again => ?_⟩
    obtain ⟨row, there, same⟩ := List.mem_map.mp again
    rcases (taken.rows row).mp there with rfl | ⟨still, -, unfolded⟩
    · exact other same.symm
    · exact unfolded (moved.table.row_of_id still present (same.trans source.symm) ▸ folded)

theorem Moved.take_kept : ∀ row ∈ db.members, row.id ∈ t.db.members.map (·.id) ∨
    row.id ∈ (folds ++ foldsInto id (duplicates.map (·.id))).map (·.source) := by
  intro row present
  rw [List.map_append, List.mem_append]
  rcases moved.kept row present with still | folded
  · obtain ⟨held, there, same⟩ := List.mem_map.mp still
    by_cases mine : row.id = id
    · exact Or.inl (List.mem_map.mpr ⟨_, taken.written, mine.symm⟩)
    · by_cases folded : held ∈ duplicates
      · refine Or.inr (Or.inr (List.mem_map.mpr ⟨⟨id, row.id⟩,
          mem_foldsInto.mpr ⟨rfl, mine, held, folded, same⟩, rfl⟩))
      · have other : held.stId ≠ member.stId := fun stIds =>
          mine (same.symm.trans (taken.own held there stIds))
        exact Or.inl (List.mem_map.mpr ⟨held, (taken.rows held).mpr (Or.inr ⟨there, other, folded⟩),
          same⟩)
  · exact Or.inr (Or.inl folded)

/-- A survivor of the roster goes on under the same id. -/
theorem Moved.names_survivor {row : MembersRow} {old : UUID} (present : row ∈ s.db.members)
    (rostered : row.stId ∈ roster) (goes : row.id = names folds old) :
    names (folds ++ foldsInto id (duplicates.map (·.id))) old = row.id := by
  have unfolded : names folds old ∉ (foldsInto id (duplicates.map (·.id))).map (·.source) := by
    rw [foldsInto_sources, ← goes]
    intro now
    obtain ⟨d, folded, same⟩ := List.mem_map.mp (List.mem_of_mem_filter now)
    exact moved.rostered_kept taken present rostered folded same.symm
  rw [names_append, names_other unfolded, goes]

theorem Moved.take_merged (valid : MembersTable db.members db.nextId) (own : member.stId ∈ roster) :
    ∀ merge ∈ t.merges, merge.duplicateMemberId ∈ db.members.map (·.id) ∧
      ∃ row ∈ t.db.members, row.stId = merge.survivorStId ∧ row.stId ∈ roster ∧
        row.id = names (folds ++ foldsInto id (duplicates.map (·.id))) merge.duplicateMemberId ∧
        row.id ∈ t.presentMemberIds := by
  have stId : cols.stId = member.stId := (bindMember_ok taken.bound).2.stId
  intro merge listed
  rw [taken.merges] at listed
  rcases List.mem_append.mp listed with old | new
  · obtain ⟨before, row, present, survivor, rostered, goes, noted⟩ := moved.merged merge old
    obtain ⟨now, there, ids, stIds⟩ := taken.follows present rostered
    refine ⟨before, now, there, stIds.trans survivor, stIds ▸ rostered, ?_, ?_⟩
    · exact ids.trans (moved.names_survivor taken present rostered goes).symm
    · rw [taken.present, ids]
      exact List.mem_append_left _ noted
  · obtain ⟨d, folded, rfl⟩ := List.mem_map.mp new
    obtain ⟨present, lost⟩ := taken.duplicate d folded
    refine ⟨List.mem_map_of_mem (moved.originals d present lost), ⟨cols, id⟩, taken.written, stId,
      stId ▸ own, ?_, ?_⟩
    · exact (moved.names_duplicate (moved.tidy_take valid taken) present folded).symm
    · rw [taken.present]
      exact List.mem_append_right _ List.mem_cons_self

theorem Moved.take_named : ∀ f ∈ folds ++ foldsInto id (duplicates.map (·.id)),
    ∃ merge ∈ t.merges, merge.duplicateMemberId = f.source := by
  intro f listed
  rw [taken.merges]
  rcases List.mem_append.mp listed with old | new
  · obtain ⟨merge, noted, same⟩ := moved.named f old
    exact ⟨merge, List.mem_append_left _ noted, same⟩
  · obtain ⟨-, -, d, folded, source⟩ := mem_foldsInto.mp new
    exact ⟨_, List.mem_append_right _ (List.mem_map_of_mem folded), source⟩

theorem Moved.take (valid : MembersTable db.members db.nextId) (own : member.stId ∈ roster)
    (sent : Sent roster cols id duplicates s t) :
    Moved roster db t (folds ++ foldsInto id (duplicates.map (·.id))) where
  table := taken.table
  grown := moved.grown.trans taken.grown
  attached := by
    rw [sent.attached, moved.attached, Attached.foldAll, Attached.foldAll, Attached.foldAll,
      List.foldl_append]
  tidy := moved.tidy_take valid taken
  survivors := moved.take_survivors taken own
  gone := moved.take_gone taken valid
  originals := by
    intro row there lost
    rcases (taken.rows row).mp there with rfl | ⟨present, -⟩
    · exact absurd ((bindMember_ok taken.bound).2.stId ▸ own) lost
    · exact moved.originals row present lost
  kept := moved.take_kept taken
  own := by
    intro row present rostered
    obtain ⟨mid, there, ids, stIds⟩ := moved.own row present rostered
    obtain ⟨now, present, ids', stIds'⟩ := taken.follows there (stIds ▸ rostered)
    exact ⟨now, present, ids'.trans ids, stIds'.trans stIds⟩
  merged := moved.take_merged taken valid own
  named := moved.take_named taken

end

theorem moved_of_pullMembers {members : List Member} (valid : MembersTable db.members db.nextId)
    (own : ∀ member ∈ members, member.stId ∈ roster)
    (pulled : pullMembers server roster completeMerges members db = .ok s) :
    ∃ folds, Moved roster db s folds := by
  have step : ∀ member ∈ members, ∀ s t, (∃ folds, Moved roster db s folds) →
      pullMember server roster completeMerges s member = .ok t →
        ∃ folds, Moved roster db t folds := by
    rintro member listed s t ⟨folds, moved⟩ turn
    rcases pullMember_sent moved.table (own member listed) turn with rfl
      | ⟨cols, id, duplicates, taken, sent⟩
    · exact ⟨folds, moved.skip⟩
    · exact ⟨_, moved.take taken valid (own member listed) sent⟩
  have kept := foldlM_keeps step ⟨[], Moved.start valid⟩ pulled
  exact kept

end

end Rosadmin
