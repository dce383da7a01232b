import Rosadmin.Db.Schema

/-!
# The leader-facing contract

The responses of the resource routes and the problems they raise.
-/

namespace Rosadmin.Web
open Foundation

inductive ProblemCode where
  | notAuthenticated | notFound | alreadyMember | alreadyLeader | notAMember | leaderNotRemovable
      | memberNotFound
  | memberNotEligible | forbiddenOrigin | readsNotAvailable | mutationsNotAvailable | rateLimited
  deriving DecidableEq, Repr

def ProblemCode.value : ProblemCode → Str
  | notAuthenticated => str "not_authenticated"
  | notFound => str "not_found"
  | alreadyMember => str "already_member"
  | alreadyLeader => str "already_leader"
  | notAMember => str "not_a_member"
  | leaderNotRemovable => str "leader_not_removable"
  | memberNotFound => str "member_not_found"
  | memberNotEligible => str "member_not_eligible"
  | forbiddenOrigin => str "forbidden_origin"
  | readsNotAvailable => str "reads_not_available"
  | mutationsNotAvailable => str "mutations_not_available"
  | rateLimited => str "rate_limited"

structure AppProblem where
  status : Nat
  code : ProblemCode
  title : Str
  deriving DecidableEq

/-- How a request fails: a problem it raised, or an exception no handler takes. -/
inductive Fault where
  | problem (problem : AppProblem)
  | unhandled
  deriving DecidableEq

def Fault.raise (status : Nat) (code : ProblemCode) (title : Str) : Fault :=
  .problem ⟨status, code, title⟩

structure Member where
  id : UUID
  fullName : Str
  email : Str
  deriving DecidableEq

structure GroupMember extends Member where
  role : Role
  deriving DecidableEq

structure GroupSummary where
  id : UUID
  name : Str
  bodyType : Str
  deriving DecidableEq

structure Group extends GroupSummary where
  members : List GroupMember
  deriving DecidableEq

structure MeResponse where
  displayName : Str
  groups : List GroupSummary
  deriving DecidableEq

inductive SearchMiss where
  | duesExpired | noMembershipStatus | malformed | notFound
  deriving DecidableEq, Repr

def SearchMiss.status : SearchMiss → Str
  | duesExpired => str "dues_expired"
  | noMembershipStatus => str "no_membership_status"
  | malformed => str "malformed"
  | notFound => str "not_found"

inductive SearchResponse where
  | hit (member : Member)
  | miss (miss : SearchMiss)
  deriving DecidableEq

inductive Response where
  | me (response : MeResponse)
  | groups (listed : List Group)
  | search (response : SearchResponse)
  | created (member : GroupMember)
  | noContent
  | failed (fault : Fault)
  deriving DecidableEq

/-- The response tells of some member: the caller's own record, a roster's, a hit's or an added
one's. -/
def Response.carriesRecord : Response → Bool
  | .me _ => true
  | .groups listed => listed.any (fun group => !group.members.isEmpty)
  | .search (.hit _) => true
  | .search (.miss _) => false
  | .created _ => true
  | .noContent | .failed _ => false

end Rosadmin.Web
