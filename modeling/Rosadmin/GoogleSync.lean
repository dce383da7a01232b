import Rosadmin.Foundation.Suffix
import Rosadmin.GroupSync

/-!
# The real mirror

A membership call passes the two skip gates first, and Google's answer is then
read as an outcome.
-/

namespace Rosadmin
open Foundation

/-- The Admin Directory calls a sweep makes. -/
structure Directory (σ : Type) where
  insertMember : Email → Email → σ → Except HttpError Unit × σ
  deleteMember : Email → Email → σ → Except HttpError Unit × σ
  listMembers : Email → σ → Except HttpError (List GroupMemberEntry) × σ
  getGroup : Email → σ → Except HttpError Unit × σ

/-- The outcome to stop at, or the group to go on with. -/
def skipGate (groupEmail : Option Email) (memberEmail : Email) : Except SyncOutcome Email :=
  match groupEmail with
  | none => .error .skippedUnlinked
  | some groupEmail => if isExample memberEmail then .error .skippedExampleEmail else .ok groupEmail

/-- What Google's refusal of an insert means. -/
def addOutcome (error : HttpError) : SyncOutcome :=
  if error.statusCode = 409 then .alreadyConverged
  else if error.statusCode = 412 ∧ some (str "conditionNotMet") ∈ error.reasons
    then .noGoogleAccount
  else if error.statusCode = 404 ∧ some (str "notFound") ∈ error.reasons then .addressNotFound
  else .failed

def removeOutcome (error : HttpError) : SyncOutcome :=
  if error.statusCode = 404 then .alreadyConverged else .failed

section
variable {σ : Type} (directory : Directory σ)

def mirrored (perform : Email → Email → σ → Except HttpError Unit × σ)
    (read : HttpError → SyncOutcome) (groupEmail : Option Email) (memberEmail : Email) (port : σ) :
    SyncOutcome × σ :=
  match skipGate groupEmail memberEmail with
  | .error outcome => (outcome, port)
  | .ok gated => match perform gated memberEmail port with
    | (.ok (), port) => (.applied, port)
    | (.error error, port) => (read error, port)

def googleGroupSync : GroupSync σ where
  add := mirrored directory.insertMember addOutcome
  remove := mirrored directory.deleteMember removeOutcome

/-- A group is there unless Google answers its `get` with a 404. -/
def googleGroupLister : GroupLister σ where
  list := directory.listMembers
  groupExists := fun groupEmail port => match directory.getGroup groupEmail port with
    | (.ok (), port) => (.ok true, port)
    | (.error error, port) => (if error.statusCode = 404 then .ok false else .error error, port)

end

theorem isExample_of_casefold {address : Email} (example_ : isExample (casefold address) = true) :
    isExample address = true := by
  have ascii : ∀ x ∈ exampleDomain, x < 0x80 := by decide
  have folds : imagesOutside 0x40 exampleDomain foldSpecials foldRuns = true := by decide +kernel
  have lowers : imagesOutside 0x40 exampleDomain lowerSpecials lowerRuns = true := by decide +kernel
  exact endsWith_lower_of_casefold ascii folds lowers example_

end Rosadmin
