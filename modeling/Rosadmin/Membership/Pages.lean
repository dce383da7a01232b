import Rosadmin.Membership.Client
import Rosadmin.Membership.Shapes

/-!
# Paging the whole collection

The loop over any pages upstream may answer, and over the pages of a collection
that stays as it is. What the loop reads is said first, from the lengths and the
totals alone; what it returns is what decodes of that.
-/

namespace Rosadmin
open Foundation

/-- One answer of `/users`: a body whose data is a list, and whose total is a count or missing. -/
structure UsersPage where
  body : Json
  data : List Json
  total : Option Int
  carries : getOr body (str "data") (.arr []) = .ok (.arr data)
  counts : (body.get (str "meta") >>= fun info =>
    (if info.truthy then info else .obj []).get (str "total_count")) = .ok (total.elim .null .int)

/-- `while True`, for so many pages: `pages offset` is what the request at that offset is
answered. -/
def listLoop (pages : Nat → UsersPage) : Nat → Listing → Decoded Listing
  | 0, s => .ok s
  | turns + 1, s => if s.finished then .ok s
      else do listLoop pages turns (← listTurn (pages s.offset).body s)

/-- The page is the last one the loop asks for. -/
def UsersPage.last (page : UsersPage) (offset : Nat) : Bool :=
  page.data.length < pageSize || page.total.any (fun total : Int =>
    total ≤ (offset + pageSize : Nat))

/-- The records the loop reads from an offset on, in so many turns, and whether it ends there. -/
def reading (pages : Nat → UsersPage) (offset : Nat) : Nat → List Json × Bool
  | 0 => ([], false)
  | turns + 1 =>
    if (pages offset).last offset then ((pages offset).data, true)
    else
      let rest := reading pages (offset + pageSize) turns
      ((pages offset).data ++ rest.1, rest.2)

/-- The member of a record that decodes. -/
def decoded (raw : Json) : Option Member := (decodeUser raw).toOption

/-! ### One page -/

theorem gather_tolerated {raw : Json} (tolerated : Tolerated (decodeUser raw))
    (members : List Member) : gather members raw = .ok (members ++ (decoded raw).toList) := by
  unfold gather decoded
  cases decodes : decodeUser raw with
  | ok member => rfl
  | error failure =>
    have skipped := tolerated failure decodes
    cases failure with
    | builtin error => cases skipped
    | _ => exact congrArg Except.ok (List.append_nil members).symm

theorem gather_fails {raw : Json} (raises : ¬Tolerated (decodeUser raw)) (members : List Member) :
    ∃ failure, gather members raw = .error failure := by
  unfold gather
  cases decodes : decodeUser raw with
  | ok member => exact absurd (decodes ▸ tolerated_ok member) raises
  | error failure =>
    cases failure with
    | builtin error => exact ⟨_, rfl⟩
    | _ => exact absurd (fun other same => by cases decodes.symm.trans same; rfl) raises

/-- Records none of which raises a built-in error are each gathered or skipped. -/
theorem gathered_all {raws : List Json} (tolerated : ∀ raw ∈ raws, Tolerated (decodeUser raw))
    (members : List Member) :
    raws.foldlM gather members = .ok (members ++ raws.filterMap decoded) := by
  induction raws generalizing members with
  | nil => exact congrArg Except.ok (List.append_nil members).symm
  | cons raw raws ih =>
    have later : ∀ raw ∈ raws, Tolerated (decodeUser raw) :=
      fun r member => tolerated r (List.mem_cons_of_mem _ member)
    rw [List.foldlM_cons, gather_tolerated (tolerated raw List.mem_cons_self), ok_bind, ih later,
      List.append_assoc, List.filterMap_cons]
    cases decoded raw <;> rfl

/-- One record that raises a built-in error ends the read. -/
theorem gathered_fails {raws : List Json} {raw : Json} (there : raw ∈ raws)
    (raises : ¬Tolerated (decodeUser raw)) (members : List Member) :
    ∃ failure, raws.foldlM gather members = .error failure := by
  cases run : raws.foldlM gather members with
  | error failure => exact ⟨failure, rfl⟩
  | ok gathered =>
    obtain ⟨before, after, rfl⟩ := List.append_of_mem there
    obtain ⟨reached, -, run⟩ := foldlM_append_ok.mp run
    obtain ⟨next, step, -⟩ := foldlM_cons_ok.mp run
    obtain ⟨failure, fails⟩ := gather_fails raises reached
    cases step.symm.trans fails

theorem exhausted_users (page : UsersPage) (offset : Nat) :
    exhausted page.data.length (offset + pageSize) (page.total.elim .null .int) =
      .ok (page.last offset) := by
  unfold UsersPage.last
  cases page.total with
  | none =>
    unfold exhausted
    split
    · rename_i short
      simp [short]
    · rename_i full
      simp [full]
  | some total => exact exhausted_int _ _ total

theorem listTurn_users (page : UsersPage) (s : Listing) :
    listTurn page.body s = (page.data.foldlM gather s.members >>= fun members =>
      .ok ⟨members, s.offset + pageSize, page.last s.offset⟩) := by
  obtain ⟨info, given, total⟩ := bind_ok.mp page.counts
  unfold listTurn
  rw [page.carries, given]
  simp only [raising, ok_bind, jsonItems, total, exhausted_users]
  rfl

/-! ### The loop -/

theorem listLoop_finished (pages : Nat → UsersPage) (turns : Nat) {s : Listing}
    (finished : s.finished = true) : listLoop pages turns s = .ok s := by
  cases turns with
  | zero => rfl
  | succ turns => exact if_pos finished

/-- The loop over records none of which raises a built-in error: it returns what decodes of what it
reads. -/
theorem listLoop_reads {pages : Nat → UsersPage} {turns : Nat} {s : Listing}
    (open_ : s.finished = false)
    (tolerated : ∀ raw ∈ (reading pages s.offset turns).1, Tolerated (decodeUser raw)) :
    ∃ t, listLoop pages turns s = .ok t ∧
      t.members = s.members ++ (reading pages s.offset turns).1.filterMap decoded ∧
      t.finished = (reading pages s.offset turns).2 := by
  induction turns generalizing s with
  | zero => exact ⟨s, rfl, (List.append_nil _).symm, open_⟩
  | succ turns ih =>
    unfold listLoop
    unfold reading at tolerated ⊢
    rw [if_neg (by simp [open_]), listTurn_users]
    by_cases last : (pages s.offset).last s.offset = true
    · rw [if_pos last] at tolerated ⊢
      rw [gathered_all tolerated, ok_bind, ok_bind, listLoop_finished _ _ last]
      exact ⟨_, rfl, rfl, last⟩
    · rw [if_neg last] at tolerated ⊢
      have here : ∀ raw ∈ (pages s.offset).data, Tolerated (decodeUser raw) :=
        fun raw member => tolerated raw (List.mem_append_left _ member)
      rw [gathered_all here, ok_bind, ok_bind]
      obtain ⟨t, run, members, finished⟩ :=
        @ih ⟨_, s.offset + pageSize, _⟩ (eq_false_of_ne_true last)
        (fun raw member => tolerated raw (List.mem_append_right _ member))
      refine ⟨t, run, ?_, finished⟩
      rw [members, List.filterMap_append, List.append_assoc]

theorem listLoop_fails {pages : Nat → UsersPage} {turns : Nat} {s : Listing}
    (open_ : s.finished = false) {raw : Json} (there : raw ∈ (reading pages s.offset turns).1)
    (raises : ¬Tolerated (decodeUser raw)) :
    ∃ failure, listLoop pages turns s = .error failure := by
  induction turns generalizing s with
  | zero => cases there
  | succ turns ih =>
    unfold listLoop
    unfold reading at there
    rw [if_neg (by simp [open_]), listTurn_users]
    by_cases here : raw ∈ (pages s.offset).data
    · obtain ⟨failure, fails⟩ := gathered_fails here raises s.members
      rw [fails]
      exact ⟨failure, rfl⟩
    by_cases last : (pages s.offset).last s.offset = true
    · rw [if_pos last] at there
      exact absurd there here
    · rw [if_neg last] at there
      have later := (List.mem_append.mp there).resolve_left here
      cases (pages s.offset).data.foldlM gather s.members with
      | error failure => exact ⟨failure, rfl⟩
      | ok members =>
        rw [ok_bind, ok_bind]
        exact @ih ⟨members, s.offset + pageSize, _⟩ (eq_false_of_ne_true last) later

/-- Of the records read, exactly those that fail to decode are skipped. -/
def SkipsFailing (pages : Nat → UsersPage) (turns : Nat) : Prop :=
  ∃ t, listLoop pages turns .start = .ok t ∧ t.members = (reading pages 0 turns).1.filterMap decoded

/-- A record that fails is skipped, by itself and on whatever pages it comes, exactly where records
have the assumed shape. -/
theorem failing_skipped_iff (user : Json) (pages : Nat → UsersPage) (turns : Nat) :
    (Tolerated (decodeUser user) ↔ wellShaped user = true) ∧
      (SkipsFailing pages turns ↔ ∀ raw ∈ (reading pages 0 turns).1, wellShaped raw = true) := by
  refine ⟨decodeUser_tolerated user, ?_, fun shaped => ?_⟩
  · rintro ⟨t, run, -⟩ raw there
    by_contra misshapen
    obtain ⟨failure, fails⟩ := @listLoop_fails pages turns .start rfl raw there
      (fun tolerated => misshapen ((decodeUser_tolerated raw).mp tolerated))
    cases run.symm.trans fails
  · obtain ⟨t, run, members, -⟩ := @listLoop_reads pages turns .start rfl
      (fun raw there => (decodeUser_tolerated raw).mpr (shaped raw there))
    exact ⟨t, run, members⟩

/-- A page with its count, as the collection is served. -/
def countedPage (rows : List Json) (offset : Nat) : UsersPage where
  body := usersPage rows offset
  data := page rows offset pageSize
  total := some (rows.length : Int)
  carries := rfl
  counts := rfl

/-- A record whose membership status holds one entry that is no object. -/
def nullStatus : Json :=
  .obj [(str "email", .str (str "gus@pdx.org")), (str "id", .int 7),
    (str "custom_user_properties", .obj [(str "membership-status", .arr [.null])])]

theorem null_status_aborts :
    ¬Tolerated (decodeUser nullStatus) ∧ ¬SkipsFailing (countedPage [nullStatus]) 1 := by
  refine ⟨fun tolerated => ?_, fun ⟨t, run, _⟩ => ?_⟩
  · cases tolerated _ rfl
  · cases run

/-! ### A collection that stays as it is -/

/-- Every page is `rows[offset : offset + limit]`, under the length of the collection or no
total. -/
structure Serves (rows : List Json) (pages : Nat → UsersPage) : Prop where
  data : ∀ offset, (pages offset).data = page rows offset pageSize
  total : ∀ offset, (pages offset).total = none ∨ (pages offset).total = some (rows.length : Int)

theorem Serves.last {rows : List Json} {pages : Nat → UsersPage} (serves : Serves rows pages)
    {offset : Nat} (last : (pages offset).last offset = true) :
    page rows offset pageSize = rows.drop offset := by
  refine List.take_of_length_le ?_
  rw [List.length_drop]
  simp only [UsersPage.last, serves.data, page, List.length_take, List.length_drop, Bool.or_eq_true,
    decide_eq_true_eq] at last
  rcases last with short | counted
  · omega
  · rcases serves.total offset with none | some_
    · simp [none] at counted
    · rw [some_, Option.any_some, decide_eq_true_eq] at counted
      omega

theorem Serves.full {rows : List Json} {pages : Nat → UsersPage} (serves : Serves rows pages)
    {offset : Nat} (more : ¬(pages offset).last offset = true) :
    offset + pageSize ≤ rows.length := by
  simp only [UsersPage.last, serves.data, page, List.length_take, List.length_drop, Bool.or_eq_true,
    decide_eq_true_eq, not_or] at more
  have positive : 0 < pageSize := by decide
  omega

/-- Reading from an offset reads the rest of the collection, once there are turns for its pages. -/
theorem reading_rest {rows : List Json} {pages : Nat → UsersPage} (serves : Serves rows pages)
    {turns offset : Nat} (enough : (rows.length - offset) / pageSize < turns) :
    reading pages offset turns = (rows.drop offset, true) := by
  induction turns generalizing offset with
  | zero => exact absurd enough (Nat.not_lt_zero _)
  | succ turns ih =>
    unfold reading
    by_cases last : (pages offset).last offset = true
    · rw [if_pos last, serves.data, serves.last last]
    · have full := serves.full last
      have fewer : (rows.length - (offset + pageSize)) / pageSize < turns := by
        unfold pageSize at *
        omega
      rw [if_neg last, ih fewer, serves.data, ← List.drop_drop]
      exact congrArg (·, true) (List.take_append_drop pageSize (rows.drop offset))

/-- The listing of a fixed collection ends, and returns what decodes of it in its order. -/
theorem listing_whole {rows : List Json} {pages : Nat → UsersPage} (serves : Serves rows pages)
    (tolerated : ∀ raw ∈ rows, Tolerated (decodeUser raw)) {turns : Nat}
    (enough : rows.length / pageSize < turns) :
    ∃ t, listLoop pages turns .start = .ok t ∧ t.finished = true ∧
      t.members = rows.filterMap decoded := by
  have whole : reading pages Listing.start.offset turns = (rows, true) := reading_rest serves enough
  obtain ⟨t, run, members, finished⟩ :=
    @listLoop_reads pages turns .start rfl (by rw [whole]; exact tolerated)
  rw [whole] at members finished
  exact ⟨t, run, finished, members⟩

/-- Members in good standing and records without an email by turns, over a page and a half. -/
def alternating : List Json :=
  (List.range 75).flatMap fun i =>
    [.obj [(str "email", .str (str "ada@pdx.org")), (str "id", .int (2 * i + 1)),
        (str "custom_user_properties", .obj [(str "membership-status",
          .arr [.obj [(str "label", .str (str "Member in Good Standing"))]])])],
      .obj [(str "id", .int (2 * i + 2))]]

theorem listing_whole_two :
    (countedPage alternating 0).last 0 = false ∧
      ∃ t, listLoop (countedPage alternating) 2 .start = .ok t ∧ t.finished = true ∧
        t.members = alternating.filterMap decoded := by
  have serves : Serves alternating (countedPage alternating) := ⟨fun _ => rfl, fun _ => Or.inr rfl⟩
  refine ⟨by decide +kernel, listing_whole serves (fun raw there => ?_) (by decide +kernel)⟩
  have shaped : wellShaped raw = true := by
    obtain ⟨i, -, mine⟩ := List.mem_flatMap.mp there
    rcases List.mem_pair.mp mine with rfl | rfl <;> rfl
  exact (decodeUser_tolerated raw).mpr shaped

end Rosadmin
