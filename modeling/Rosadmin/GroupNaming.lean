import Rosadmin.Foundation.Words

/-!
# Naming a body's two groups

The display label and the address, each shortened on demand to fit Google's
caps.
-/

namespace Rosadmin
open Foundation

def emailLocalCap : Nat := 64

def displayNameCap : Nat := 73

def labelStopwords : List Str := ["a", "an", "and", "the", "of", "for", "in", "to"].map str

inductive GroupKind where
  | leaders | editors
  deriving DecidableEq, Repr

def GroupKind.emailSuffix : GroupKind → Str
  | leaders => str "leaders"
  | editors => str "editors"

def GroupKind.displayWord : GroupKind → Str
  | leaders => str "Leaders"
  | editors => str "Editors"

/-- A body name that overflows a Google cap even fully initialed. -/
inductive GroupNameTooLong where
  | emailLocalPart (bodyName : Str)
  | displayName (bodyName : Str)
  deriving DecidableEq

/-- What a slug keeps of a lowercased text: `[a-z0-9]` and white space. -/
def slugChar (c : Nat) : Bool := (Nat.ble 0x61 c && Nat.ble c 0x7a) ||
    (Nat.ble 0x30 c && Nat.ble c 0x39) || isSpace c

/-- Collapsing, trimming and dashing the white space is joining the words. -/
def slugify (text : Str) : Str := join (str "-") (words ((lower text).filter slugChar))

def titleWord : Str → Str
  | [] => []
  | c :: rest => if isLowerChar c then upperChar c ++ rest else c :: rest

def titlecase (text : Str) : Str := join (str " ") ((words text).map titleWord)

def labelInitials (text : Str) : Str :=
  (words text).flatMap fun word => match word with
    | [] => []
    | c :: _ => if isAlphaChar c ∧ lower word ∉ labelStopwords then upperChar c else []

def slugShort (slug : Str) : Str := (slug.splitOn 0x2d).filterMap (·.head?)

/-- The first rung of a ladder that fits its cap. -/
def firstFitting (cap : Nat) (rungs : List Str) : Option Str := rungs.find? (·.length ≤ cap)

section
variable (bodyName bodyType : Str) (kind : GroupKind)

def googleGroupLocal : Except GroupNameTooLong Str :=
  let name := slugify bodyName
  let btype := slugify bodyType
  let rung (name btype : Str) := name ++ str "-" ++ btype ++ str "-" ++ kind.emailSuffix
  match firstFitting emailLocalCap
      [rung name btype, rung name (slugShort btype), rung (slugShort name) (slugShort btype)] with
  | some local_ => .ok local_
  | none => .error (.emailLocalPart bodyName)

def googleGroupEmail (domain : Str) : Except GroupNameTooLong Str :=
  (googleGroupLocal bodyName bodyType kind).map (fun local_ => local_ ++ str "@" ++ domain)

def googleGroupName : Except GroupNameTooLong Str :=
  let titled := titlecase bodyName
  let acronym := labelInitials bodyName ++ labelInitials bodyType
  let labelled (label : Str) := label ++ str " " ++ kind.displayWord
  match firstFitting displayNameCap
      [labelled (titled ++ str " " ++ bodyType),
        labelled (titled ++ str " " ++ labelInitials bodyType), labelled acronym] with
  | some label => .ok label
  | none => .error (.displayName bodyName)

end

end Rosadmin
