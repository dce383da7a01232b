import Rosadmin.Foundation.Fallible
import Rosadmin.Membership.Decode

/-!
# The records a decode survives

A record is skipped when decoding it raises a membership error. The projections
also assume a little structure, each its own, and raise a built-in error where
the record does not have it.
-/

namespace Rosadmin
open Foundation

/-- `MalformedMember` and `DecodeError`, the errors a lenient sweep catches. -/
def DecodeFailure.membership : DecodeFailure → Bool
  | .builtin _ => false
  | _ => true

/-- A member comes out, or a membership error. -/
def Tolerated {α : Type} (result : Decoded α) : Prop :=
  ∀ failure, result = .error failure → failure.membership = true

/-! ### The shapes -/

/-- `fields.get(key)` -/
def field (fields : List (Str × Json)) (key : Str) : Json := (Json.find fields key).getD .null

/-- `int` takes the value. -/
def numberable : Json → Bool
  | .bool _ | .int _ | .float (.finite _ _) => true
  | .str s => (intOfStr s).isSome
  | _ => false

/-- The first entry of a membership status, where there is one, is an object whose label can be a
dictionary key. -/
def statusShaped (props : List (Str × Json)) : Bool :=
  match field props (str "membership-status") with
  | .arr (.obj entry :: _) => match field entry (str "label") with
    | .arr _ | .obj _ => false
    | _ => true
  | .arr (_ :: _) => false
  | _ => true

/-- The custom properties are an object, or stand for an empty one. -/
def customShaped (custom : Json) : Bool :=
  match custom with
  | .obj props => statusShaped props
  | custom => !custom.truthy

/-- A record is an object; one with an email has an id that is a number and custom properties of the
assumed shape. -/
def wellShaped : Json → Bool
  | .obj fields => !(field fields (str "email")).truthy ||
    ((Json.find fields (str "id")).any numberable &&
      customShaped (field fields (str "custom_user_properties")))
  | _ => false

/-! ### Errors through a bind -/

section
variable {α β : Type}

theorem tolerated_ok (a : α) : Tolerated (.ok a) := fun _ same => nomatch same

theorem tolerated_bind {x : Decoded α} {f : α → Decoded β} :
    Tolerated (x >>= f) ↔ Tolerated x ∧ ∀ a, x = .ok a → Tolerated (f a) := by
  cases x with
  | error failure =>
    constructor
    · intro kept
      exact ⟨fun other same => kept other (congrArg Except.error (Except.error.inj same)),
        fun a same => nomatch same⟩
    · intro kept other same
      exact kept.1 other (congrArg Except.error (Except.error.inj same))
  | ok a =>
    rw [ok_bind]
    exact ⟨fun kept => ⟨tolerated_ok a, fun b same => by cases same; exact kept⟩, fun kept =>
      kept.2 a rfl⟩

theorem tolerated_raising {r : Except BuiltinError α} : Tolerated (raising r) ↔ ∃ a, r = .ok a := by
  cases r with
  | ok a => exact iff_of_true (tolerated_ok a) ⟨a, rfl⟩
  | error error =>
    refine iff_of_false (fun kept => ?_) (fun ⟨a, same⟩ => nomatch same)
    cases kept _ rfl

end

/-! ### Each projection -/

section
variable {props : List (Str × Json)}

theorem raising_get (key : Str) : raising ((Json.obj props).get key) = .ok (field props key) := rfl

theorem toInt_tolerated {v : Json} : Tolerated (raising v.toInt) ↔ numberable v = true := by
  rw [tolerated_raising]
  cases v with
  | float x => cases x <;> simp [Json.toInt, numberable]
  | str s => cases read : intOfStr s <;> simp [Json.toInt, numberable, read]
  | _ => simp [Json.toInt, numberable]

theorem decodeAlternateEmail_ok (props : List (Str × Json)) :
    ∃ email, decodeAlternateEmail (.obj props) = .ok email := by
  unfold decodeAlternateEmail
  rw [raising_get, ok_bind]
  split
  · exact ⟨_, rfl⟩
  · exact ⟨_, rfl⟩

theorem decodeDiscordId_ok (props : List (Str × Json)) :
    ∃ discordId, decodeDiscordId (.obj props) = .ok discordId := by
  unfold decodeDiscordId
  rw [raising_get, ok_bind]
  split
  · exact ⟨_, rfl⟩
  · exact ⟨_, rfl⟩

theorem decodeChapterLeader_ok (props : List (Str × Json)) :
    ∃ leads, decodeChapterLeader (.obj props) = .ok leads := by
  unfold decodeChapterLeader
  rw [raising_get, ok_bind]
  split
  · exact ⟨_, rfl⟩
  · exact ⟨_, rfl⟩

theorem decodeLeads_ok (props : List (Str × Json)) :
    ∃ leads, decodeLeads (.obj props) = .ok leads := by
  unfold decodeLeads
  generalize ([] : List Leadership) = leads
  induction fieldBodyTypes generalizing leads with
  | nil => exact ⟨leads, rfl⟩
  | cons f rest ih =>
    rw [List.foldlM_cons, raising_get, ok_bind]
    exact ih _

theorem decodeStanding_tolerated : Tolerated (decodeStanding (.obj props)) ↔
    statusShaped props = true := by
  have missing : Tolerated (.error .standingMissing : Decoded Standing) :=
    fun failure same => by cases same; rfl
  unfold decodeStanding statusShaped
  rw [raising_get, ok_bind]
  cases field props (str "membership-status") with
  | arr entries =>
    cases entries with
    | nil => exact iff_of_true missing rfl
    | cons first rest =>
      cases first with
      | obj entry =>
        dsimp only
        rw [raising_get, ok_bind]
        cases field entry (str "label") with
        | null => exact iff_of_true missing rfl
        | str label =>
          dsimp only
          split
          · exact iff_of_true (tolerated_ok _) rfl
          · exact iff_of_true (fun failure same => by cases same; rfl) rfl
        | arr _ => exact iff_of_false (fun kept => nomatch kept _ rfl) Bool.false_ne_true
        | obj _ => exact iff_of_false (fun kept => nomatch kept _ rfl) Bool.false_ne_true
        | _ => exact iff_of_true (fun failure same => by cases same; rfl) rfl
      | _ => exact iff_of_false (fun kept => nomatch kept _ rfl) Bool.false_ne_true
  | _ => exact iff_of_true missing rfl

/-- What stands for the custom properties is an object of the assumed shape, or one that is not, or
no object. -/
theorem custom_cases (custom : Json) :
    (∃ props, (if custom.truthy then custom else .obj []) = .obj props ∧
      statusShaped props = customShaped custom) ∨
      decodeAlternateEmail (if custom.truthy then custom else .obj []) =
        .error (.builtin .attributeError) ∧ customShaped custom = false := by
  by_cases given : custom.truthy = true
  · rw [if_pos given]
    cases custom with
    | obj props => exact Or.inl ⟨props, rfl, rfl⟩
    | _ => exact Or.inr ⟨rfl, by simp [customShaped, given]⟩
  · rw [if_neg given]
    refine Or.inl ⟨[], rfl, ?_⟩
    cases custom with
    | obj props =>
      have empty : props = [] := by simpa [Json.truthy] using given
      rw [empty]
      rfl
    | _ =>
      have empty : statusShaped [] = true := rfl
      simp [customShaped, given, empty]

/-- Decoding raises no built-in error exactly on the records of the assumed shape. -/
theorem decodeUser_tolerated (user : Json) : Tolerated (decodeUser user) ↔
    wellShaped user = true := by
  cases user with
  | obj fields =>
    unfold decodeUser wellShaped
    simp only [raising_get, ok_bind]
    cases addressed : (field fields (str "email")).truthy with
    | false => exact iff_of_true (fun failure same => by cases same; rfl) rfl
    | true =>
      simp only [Bool.not_true, Bool.false_eq_true, if_false, Bool.false_or]
      cases found : Json.find fields (str "id") with
      | none =>
        have item : (Json.obj fields).item (str "id") = .error .keyError :=
          by simp [Json.item, found]
        rw [item]
        exact iff_of_false (fun kept => nomatch kept _ rfl) Bool.false_ne_true
      | some id =>
        have item : raising ((Json.obj fields).item (str "id")) = .ok id :=
          by simp [Json.item, found, raising]
        rw [item, ok_bind, tolerated_bind, toInt_tolerated, Option.any_some, Bool.and_eq_true]
        refine and_congr_right fun number => ?_
        obtain ⟨stId, read⟩ := tolerated_raising.mp (toInt_tolerated.mpr number)
        rw [read]
        simp only [raising, Except.ok.injEq, forall_eq']
        rcases custom_cases (field fields (str "custom_user_properties"))
          with ⟨props, given, shaped⟩ | ⟨fails, shaped⟩
        · obtain ⟨alternateEmail, alternate⟩ := decodeAlternateEmail_ok props
          obtain ⟨discordId, discord⟩ := decodeDiscordId_ok props
          obtain ⟨isChapterLeader, chapter⟩ := decodeChapterLeader_ok props
          obtain ⟨leads, led⟩ := decodeLeads_ok props
          rw [given, alternate, discord, chapter, led, ok_bind, ← shaped,
            ← decodeStanding_tolerated, tolerated_bind]
          exact and_iff_left fun standing _ => tolerated_ok _
        · rw [fails, shaped]
          exact iff_of_false (fun kept => nomatch kept _ rfl) Bool.false_ne_true
  | _ => exact iff_of_false (fun kept => nomatch kept _ rfl) Bool.false_ne_true

end

end Rosadmin
