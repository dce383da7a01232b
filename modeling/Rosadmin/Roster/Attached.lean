import Rosadmin.Roster.Pull

/-!
# What hangs off a member's id

Memberships and bans hang off the ids of members, and a fold sends those of one
id to another. A list of folds sends each id to where the last of them left it;
what becomes of a row is read off that.
-/

namespace Rosadmin
open Foundation

/-- The tables keyed by a member's id. -/
structure Attached where
  memberships : List BodyMembershipsRow
  bans : List MemberBansRow

def Database.attached (db : Database) : Attached := ⟨db.bodyMemberships, db.memberBans⟩

/-- One row of `members` folded into another. -/
structure Fold where
  into : UUID
  source : UUID

def Attached.fold (a : Attached) (f : Fold) : Attached :=
  (({ Database.empty with
    bodyMemberships := a.memberships, memberBans := a.bans } : Database).foldInto
      f.into f.source).attached

theorem attached_foldInto (db : Database) (into source : UUID) :
    (db.foldInto into source).attached = db.attached.fold ⟨into, source⟩ := rfl

/-- Where a fold sends an id. -/
def Fold.redirect (f : Fold) (id : UUID) : UUID := if id = f.source then f.into else id

/-- A row under the names its ids have been sent to. -/
def BodyMembershipsRow.rename (row : BodyMembershipsRow) (names : UUID → UUID) :
    BodyMembershipsRow :=
  { row with memberId := names row.memberId, addedBy := row.addedBy.map names }

section
variable {a : Attached} {f : Fold} {row : BodyMembershipsRow}

theorem redirect_source : f.redirect f.source = f.into := if_pos rfl

theorem redirect_other {id : UUID} (other : id ≠ f.source) : f.redirect id = id := if_neg other

theorem redirect_ne {id : UUID} (apart : f.into ≠ f.source) : f.redirect id ≠ f.source := by
  rw [Fold.redirect]
  split
  · exact apart
  · assumption

/-- The folded row's adds that move over, under their new member. -/
def Attached.carried (a : Attached) (f : Fold) : List BodyMembershipsRow :=
  (a.memberships.filter (fun row => row.memberId = f.source && row.role = .member &&
    !a.memberships.any (fun own => own.memberId = f.into && own.bodyId = row.bodyId))).map
      (fun row => { row with memberId := f.into })

theorem moves_iff : (row.memberId = f.source && row.role = .member &&
      !a.memberships.any (fun own => own.memberId = f.into && own.bodyId = row.bodyId)) = true ↔
    row.memberId = f.source ∧ row.role = .member ∧
      ∀ own ∈ a.memberships, own.memberId = f.into → own.bodyId ≠ row.bodyId := by
  simp only [Bool.and_eq_true, decide_eq_true_eq, Bool.not_eq_true', List.any_eq_false,
    not_and, and_assoc]

/-- The rows of others, then those carried over; each with its attribution sent along. -/
theorem fold_memberships (apart : f.into ≠ f.source) :
    (a.fold f).memberships = ((a.memberships ++ a.carried f).filter (·.memberId ≠ f.source)).map
      (fun row => { row with addedBy := row.addedBy.map f.redirect }) := by
  show update (·.addedBy = some f.source) (fun row => { row with addedBy := none })
      ((update (·.addedBy = some f.source) (fun row => { row with addedBy := some f.into })
        (a.memberships ++ a.carried f)).filter (·.memberId ≠ f.source)) = _
  have attributed : update (·.addedBy = some f.source) (fun row =>
    { row with addedBy := some f.into })
      (a.memberships ++ a.carried f) =
        (a.memberships ++ a.carried f).map
          (fun row => { row with addedBy := row.addedBy.map f.redirect }) := by
    apply List.map_congr_left
    rintro ⟨memberId, bodyId, role, addedBy, manuallyAddedAt⟩ _
    cases addedBy with
    | none => rfl
    | some id =>
      by_cases mine : id = f.source
      · simp [mine, redirect_source]
      · simp [mine, redirect_other mine]
  rw [attributed, List.filter_map]
  apply update_self
  intro row member held
  obtain ⟨old, -, rfl⟩ := List.mem_map.mp member
  obtain ⟨id, -, same⟩ := Option.map_eq_some_iff.mp (of_decide_eq_true held)
  exact absurd same (redirect_ne apart)

theorem mem_fold (apart : f.into ≠ f.source) :
    row ∈ (a.fold f).memberships ↔ ∃ old ∈ a.memberships, old.rename f.redirect = row ∧
      (old.memberId = f.source → old.role = .member ∧
        ∀ own ∈ a.memberships, own.memberId = f.into → own.bodyId ≠ old.bodyId) := by
  rw [fold_memberships apart, List.mem_map]
  constructor
  · rintro ⟨moved, member, rfl⟩
    obtain ⟨there, other⟩ := List.mem_filter.mp member
    have other : moved.memberId ≠ f.source := of_decide_eq_true other
    rcases List.mem_append.mp there with old | new
    · refine ⟨moved, old, ?_, fun mine => absurd mine other⟩
      rw [BodyMembershipsRow.rename, redirect_other other]
    · obtain ⟨old, carried, rfl⟩ := List.mem_map.mp new
      obtain ⟨present, fits⟩ := List.mem_filter.mp carried
      obtain ⟨mine, role, free⟩ := moves_iff.mp fits
      refine ⟨old, present, ?_, fun _ => ⟨role, free⟩⟩
      rw [BodyMembershipsRow.rename, mine, redirect_source]
  · rintro ⟨old, present, rfl, moves⟩
    by_cases mine : old.memberId = f.source
    · obtain ⟨role, free⟩ := moves mine
      have carried : { old with memberId := f.into } ∈ a.carried f :=
        List.mem_map.mpr ⟨old, List.mem_filter.mpr ⟨present, moves_iff.mpr ⟨mine, role, free⟩⟩, rfl⟩
      refine ⟨_, List.mem_filter.mpr ⟨List.mem_append_right _ carried, decide_eq_true apart⟩, ?_⟩
      rw [BodyMembershipsRow.rename, mine, redirect_source]
    · refine ⟨old, List.mem_filter.mpr ⟨List.mem_append_left _ present, decide_eq_true mine⟩, ?_⟩
      rw [BodyMembershipsRow.rename, redirect_other mine]

/-- The folded row's ban, unless the other row has its own. -/
def Attached.carriedBan (a : Attached) (f : Fold) : List MemberBansRow :=
  if (a.bans.map (·.memberId)).contains f.into then []
  else (a.bans.filter (·.memberId = f.source)).map (fun ban => { ban with memberId := f.into })

theorem fold_bans : (a.fold f).bans = (a.bans ++ a.carriedBan f).filter (·.memberId ≠ f.source) :=
  rfl

theorem banned_fold (apart : f.into ≠ f.source) {id : UUID} :
    id ∈ (a.fold f).bans.map (·.memberId) ↔ ∃ old ∈ a.bans.map (·.memberId),
      f.redirect old = id := by
  rw [fold_bans]
  constructor
  · intro banned
    obtain ⟨ban, there, rfl⟩ := List.mem_map.mp banned
    obtain ⟨there, other⟩ := List.mem_filter.mp there
    rcases List.mem_append.mp there with old | new
    · exact ⟨ban.memberId, List.mem_map_of_mem old, redirect_other (of_decide_eq_true other)⟩
    · rw [Attached.carriedBan] at new
      split at new
      · cases new
      · obtain ⟨old, moved, rfl⟩ := List.mem_map.mp new
        obtain ⟨present, mine⟩ := List.mem_filter.mp moved
        exact ⟨old.memberId, List.mem_map_of_mem present,
          (of_decide_eq_true mine) ▸ redirect_source⟩
  · rintro ⟨old, banned, rfl⟩
    obtain ⟨ban, present, rfl⟩ := List.mem_map.mp banned
    by_cases mine : ban.memberId = f.source
    · rw [mine, redirect_source]
      by_cases already : (a.bans.map (·.memberId)).contains f.into
      · obtain ⟨own, there, same⟩ := List.mem_map.mp (List.contains_iff_mem.mp already)
        refine List.mem_map.mpr ⟨own, List.mem_filter.mpr ⟨List.mem_append_left _ there, ?_⟩, same⟩
        exact decide_eq_true (same ▸ apart)
      · refine List.mem_map.mpr ⟨{ ban with memberId := f.into },
          List.mem_filter.mpr ⟨?_, decide_eq_true apart⟩, rfl⟩
        rw [Attached.carriedBan, if_neg already]
        exact List.mem_append_right _ (List.mem_map.mpr ⟨ban,
          List.mem_filter.mpr ⟨present, decide_eq_true mine⟩, rfl⟩)
    · rw [redirect_other mine]
      exact List.mem_map.mpr ⟨ban, List.mem_filter.mpr ⟨List.mem_append_left _ present,
        decide_eq_true mine⟩, rfl⟩

end

/-! ### A list of folds -/

def Attached.foldAll (a : Attached) (folds : List Fold) : Attached := folds.foldl Attached.fold a

/-- Where the folds send an id. -/
def names (folds : List Fold) (id : UUID) : UUID := folds.foldl (fun id f => f.redirect id) id

/-- What is folded away is so once, and nothing is folded into it. -/
structure Tidy (folds : List Fold) : Prop where
  apart : ∀ f ∈ folds, ∀ g ∈ folds, f.into ≠ g.source
  once : (folds.map (·.source)).Nodup

section
variable {a : Attached} {f : Fold} {folds : List Fold} {row : BodyMembershipsRow} {id : UUID}

theorem Tidy.nil : Tidy [] := ⟨List.forall_mem_nil _, List.nodup_nil⟩

theorem Tidy.tail (tidy : Tidy (f :: folds)) : Tidy folds :=
  ⟨fun g here h there => tidy.apart g (List.mem_cons_of_mem _ here) h
    (List.mem_cons_of_mem _ there), (List.nodup_cons.mp tidy.once).2⟩

theorem Tidy.head (tidy : Tidy (f :: folds)) : f.into ≠ f.source :=
  tidy.apart f List.mem_cons_self f List.mem_cons_self

theorem Tidy.head_survives (tidy : Tidy (f :: folds)) : f.into ∉ folds.map (·.source) := by
  intro folded
  obtain ⟨g, there, same⟩ := List.mem_map.mp folded
  exact tidy.apart f List.mem_cons_self g (List.mem_cons_of_mem _ there) same.symm

theorem names_cons : names (f :: folds) id = names folds (f.redirect id) := rfl

theorem names_append {more : List Fold} : names (folds ++ more) id = names more (names folds id) :=
  List.foldl_append

theorem names_other (other : id ∉ folds.map (·.source)) : names folds id = id := by
  induction folds with
  | nil => rfl
  | cons f folds ih =>
    rw [List.map_cons, List.mem_cons, not_or] at other
    rw [names_cons, redirect_other other.1]
    exact ih other.2

theorem names_source (tidy : Tidy folds) (listed : f ∈ folds) : names folds f.source = f.into := by
  induction folds with
  | nil => cases listed
  | cons g folds ih =>
    rw [names_cons]
    rcases List.mem_cons.mp listed with rfl | later
    · rw [redirect_source]
      exact names_other tidy.head_survives
    · have distinct : f.source ≠ g.source := fun same =>
        (List.nodup_cons.mp tidy.once).1 (List.mem_map.mpr ⟨f, later, same⟩)
      rw [redirect_other distinct]
      exact ih tidy.tail later

theorem rename_nil : row.rename (names []) = row := by
  obtain ⟨memberId, bodyId, role, addedBy, manuallyAddedAt⟩ := row
  cases addedBy <;> rfl

theorem rename_cons : (row.rename f.redirect).rename (names folds) =
    row.rename (names (f :: folds)) := by
  obtain ⟨memberId, bodyId, role, addedBy, manuallyAddedAt⟩ := row
  cases addedBy <;> rfl

/-- Every row left is one that was there, under its new names; of a folded row only the adds are
left. -/
theorem foldAll_traced (tidy : Tidy folds) (there : row ∈ (a.foldAll folds).memberships) :
    ∃ old ∈ a.memberships, old.rename (names folds) = row ∧
      (old.memberId ∈ folds.map (·.source) → old.role = .member) := by
  induction folds generalizing a with
  | nil => exact ⟨row, there, rename_nil, fun folded => nomatch folded⟩
  | cons f folds ih =>
    obtain ⟨mid, present, rfl, role⟩ := ih tidy.tail there
    obtain ⟨old, before, rfl, moves⟩ := (mem_fold tidy.head).mp present
    refine ⟨old, before, rename_cons.symm, fun folded => ?_⟩
    by_cases mine : old.memberId = f.source
    · exact (moves mine).1
    · refine role ?_
      show f.redirect old.memberId ∈ folds.map (·.source)
      rw [redirect_other mine]
      exact (List.mem_cons.mp folded).resolve_left mine

theorem foldAll_kept (tidy : Tidy folds) (there : row ∈ a.memberships)
    (other : row.memberId ∉ folds.map (·.source)) :
    row.rename (names folds) ∈ (a.foldAll folds).memberships := by
  induction folds generalizing a row with
  | nil => exact rename_nil.symm ▸ there
  | cons f folds ih =>
    rw [List.map_cons, List.mem_cons, not_or] at other
    have moved : row.rename f.redirect ∈ (a.fold f).memberships :=
      (mem_fold tidy.head).mpr ⟨row, there, rfl, fun mine => absurd mine other.1⟩
    have same : (row.rename f.redirect).memberId = row.memberId := redirect_other other.1
    have kept := ih tidy.tail moved (same ▸ other.2)
    exact rename_cons ▸ kept

theorem foldAll_carried_head (tidy : Tidy (f :: folds)) (there : row ∈ a.memberships)
    (role : row.role = .member) (mine : row.memberId = f.source) :
    ∃ new ∈ (a.foldAll (f :: folds)).memberships, new.memberId = f.into ∧ new.bodyId = row.bodyId ∧
      (new.role = .member ∨ ∃ own ∈ a.memberships, own.memberId = f.into ∧ own.bodyId = row.bodyId ∧
        own.role = .leader) := by
  have survives := tidy.head_survives
  by_cases free : ∀ own ∈ a.memberships, own.memberId = f.into → own.bodyId ≠ row.bodyId
  · have moved : row.rename f.redirect ∈ (a.fold f).memberships :=
      (mem_fold tidy.head).mpr ⟨row, there, rfl, fun _ => ⟨role, free⟩⟩
    have into : (row.rename f.redirect).memberId = f.into := by
      rw [BodyMembershipsRow.rename, mine, redirect_source]
    have kept := foldAll_kept tidy.tail moved (into.symm ▸ survives)
    refine ⟨_, kept, ?_, rfl, Or.inl role⟩
    show names folds (row.rename f.redirect).memberId = f.into
    rw [into, names_other survives]
  · push Not at free
    obtain ⟨own, present, into, body⟩ := free
    have other : own.memberId ∉ (f :: folds).map (·.source) := by
      rw [List.map_cons, List.mem_cons, not_or, into]
      exact ⟨tidy.head, survives⟩
    refine ⟨_, foldAll_kept tidy present other, ?_, body, ?_⟩
    · show names (f :: folds) own.memberId = f.into
      rw [names_other other, into]
    · cases held : own.role with
      | leader => exact Or.inr ⟨own, present, into, body, held⟩
      | member => exact Or.inl held

/-- An add keeps its place under its member's new id, as an add unless a leader row was there. -/
theorem foldAll_carried (tidy : Tidy folds) (there : row ∈ a.memberships)
    (role : row.role = .member) :
    ∃ new ∈ (a.foldAll folds).memberships, new.memberId = names folds row.memberId ∧
      new.bodyId = row.bodyId ∧
      (new.role = .member ∨ ∃ own ∈ a.memberships, own.memberId = names folds row.memberId ∧
        own.bodyId = row.bodyId ∧ own.role = .leader) := by
  induction folds generalizing a row with
  | nil => exact ⟨row, there, rfl, rfl, Or.inl role⟩
  | cons f folds ih =>
    by_cases mine : row.memberId = f.source
    · rw [names_cons, mine, redirect_source, names_other tidy.head_survives]
      exact foldAll_carried_head tidy there role mine
    · have moved : row.rename f.redirect ∈ (a.fold f).memberships :=
        (mem_fold tidy.head).mpr ⟨row, there, rfl, fun same => absurd same mine⟩
      obtain ⟨new, present, into, body, kind⟩ := ih tidy.tail moved role
      refine ⟨new, present, into, body, kind.imp_right ?_⟩
      rintro ⟨own, held, ids, bodies, leader⟩
      obtain ⟨old, before, rfl, moves⟩ := (mem_fold tidy.head).mp held
      have other : old.memberId ≠ f.source := by
        intro folded
        cases (moves folded).1.symm.trans leader
      exact ⟨old, before, (redirect_other other).symm.trans ids, bodies, leader⟩

theorem banned_foldAll (apart : ∀ f ∈ folds, f.into ≠ f.source) :
    id ∈ (a.foldAll folds).bans.map (·.memberId) ↔ ∃ old ∈ a.bans.map (·.memberId),
      names folds old = id := by
  induction folds generalizing a with
  | nil => simp [Attached.foldAll, names]
  | cons f folds ih =>
    have once : ∀ id, id ∈ (a.fold f).bans.map (·.memberId) ↔
        ∃ old ∈ a.bans.map (·.memberId), f.redirect old = id :=
      fun _ => banned_fold (apart f List.mem_cons_self)
    refine (ih fun g later => apart g (List.mem_cons_of_mem _ later)).trans ?_
    constructor
    · rintro ⟨mid, banned, rfl⟩
      obtain ⟨old, before, rfl⟩ := (once mid).mp banned
      exact ⟨old, before, rfl⟩
    · rintro ⟨old, before, rfl⟩
      exact ⟨f.redirect old, (once _).mpr ⟨old, before, rfl⟩, rfl⟩

end

end Rosadmin
