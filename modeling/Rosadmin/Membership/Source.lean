import Mathlib.Data.List.Dedup
import Rosadmin.Foundation.Json

/-! # The typed member a membership source yields -/

namespace Rosadmin
open Foundation

/-- Ids minted by this system. -/
abbrev UUID := Nat

abbrev Email := Str

/-- Instants, in microseconds. -/
abbrev Time := Int

inductive Standing where
  | goodStanding | lapsed
  deriving DecidableEq, Repr

inductive BodyType where
  | committee | workingGroup | branch | campaign | misc
  deriving DecidableEq, Repr

def BodyType.value : BodyType → Str
  | committee => str "Committee"
  | workingGroup => str "Working Group"
  | branch => str "Branch"
  | campaign => str "Campaign"
  | misc => str "Misc"

structure Leadership where
  bodyType : BodyType
  name : Str
  deriving DecidableEq

/-- One membership record. `email` and the names are whatever the backend served under those keys:
the decode only asks that `email` is truthy. `leads` is a frozen set. -/
structure Member where
  stId : Int
  email : Json
  alternateEmail : Option Email
  standing : Standing
  discordId : Option Int
  firstName : Json
  lastName : Json
  alternateName : Json
  isChapterLeader : Bool
  leads : List Leadership
  leadsNodup : leads.Nodup

inductive LeadershipAssessment where
  | leader | nonLeader | unmarkedLeader | emptyLeader
  deriving DecidableEq, Repr

def LeadershipAssessment.isAnomalous : LeadershipAssessment → Bool
  | unmarkedLeader | emptyLeader => true
  | leader | nonLeader => false

/-- Cross-check the raw chapter-leader flag against the derived roles. -/
def assess (isChapterLeader : Bool) (leads : List Leadership) : LeadershipAssessment :=
  let hasBodies := 0 < leads.length
  if isChapterLeader ∧ hasBodies then .leader
  else if ¬isChapterLeader ∧ ¬hasBodies then .nonLeader
  else if isChapterLeader then .emptyLeader
  else .unmarkedLeader

end Rosadmin
