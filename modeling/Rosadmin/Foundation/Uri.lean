import Rosadmin.Foundation.Percent
import Rosadmin.Foundation.Words

/-!
# Taking a URI apart

`scheme "://" [user [":" password] "@"] host [":" port] path`, cut as RFC 3986
cuts it, each part still percent-encoded.
-/

namespace Foundation

/-! ### The parts of a URI -/

structure Uri where
  scheme : Str
  user : Option Str
  password : Option Str
  host : Str
  port : Option Str
  path : Str
  deriving DecidableEq

/-- An authority ends at the first of these. -/
def endsAuthority (c : Nat) : Bool := (str "/?#").contains c

def endsPath (c : Nat) : Bool := (str "?#").contains c

/-- The parts after the `://`: the user information ends at the last at-sign of the authority. -/
def Uri.parts (scheme rest : Str) : Uri :=
  let authority := rest.takeWhile (!endsAuthority ·)
  let userinfo := (cutLast 0x40 authority).map (·.1)
  let server := ((cutLast 0x40 authority).map (·.2)).getD authority
  { scheme
    user := userinfo.map fun info => ((cutFirst 0x3a info).map (·.1)).getD info
    password := userinfo.bind fun info => (cutFirst 0x3a info).map (·.2)
    host := ((cutLast 0x3a server).map (·.1)).getD server
    port := (cutLast 0x3a server).map (·.2)
    path := (rest.dropWhile (!endsAuthority ·)).takeWhile (!endsPath ·) }

def Uri.parse (text : Str) : Option Uri :=
  match cutFirst 0x3a text with
  | some (scheme, 0x2f :: 0x2f :: rest) => some (Uri.parts scheme rest)
  | _ => none

/-- The text the parts make up. -/
def Uri.text (scheme user password host port path : Str) : Str :=
  scheme ++ str "://" ++ user ++ str ":" ++ password ++ str "@" ++ host ++ str ":" ++ port ++ path

section
variable {scheme user password host port path rest : Str}

theorem Uri.parse_scheme (free : 0x3a ∉ scheme) :
    Uri.parse (scheme ++ str "://" ++ rest) = some (Uri.parts scheme rest) := by
  have colon : scheme ++ str "://" ++ rest = scheme ++ 0x3a :: (0x2f :: 0x2f :: rest) :=
    by simp [str]
  rw [Uri.parse, colon, cutFirst_append free]
  rfl

theorem Uri.parts_user_none (bare : 0x40 ∉ rest.takeWhile (!endsAuthority ·)) :
    (Uri.parts scheme rest).user = none := by
  rw [Uri.parts, cutLast_none bare]
  rfl

/-- The separators inside an authority do not end it. -/
theorem endsAuthority_joined (free : ∀ c ∈ user ++ password ++ host ++ port,
    endsAuthority c = false) :
    ∀ c ∈ user ++ 0x3a :: (password ++ 0x40 :: (host ++ 0x3a :: port)),
      (!endsAuthority c) = true := by
  intro c member
  have cut : endsAuthority 0x3a = false ∧ endsAuthority 0x40 = false := by decide
  simp only [List.mem_append] at free
  simp only [List.mem_append, List.mem_cons] at member
  rw [Bool.not_eq_true']
  rcases member with here | rfl | here | rfl | here | rfl | here
  · exact free c (Or.inl (Or.inl (Or.inl here)))
  · exact cut.1
  · exact free c (Or.inl (Or.inl (Or.inr here)))
  · exact cut.2
  · exact free c (Or.inl (Or.inr here))
  · exact cut.1
  · exact free c (Or.inr here)

/-- The parts of a text are read back where none of them holds what it is cut at. -/
theorem Uri.parse_text (schemeFree : 0x3a ∉ scheme) (userFree : 0x3a ∉ user)
    (authorityFree : ∀ c ∈ user ++ password ++ host ++ port, endsAuthority c = false)
    (hostFree : 0x40 ∉ host) (portFree : 0x40 ∉ port ∧ 0x3a ∉ port) {dbname : Str}
    (pathFree : ∀ c ∈ dbname, endsPath c = false) :
    Uri.parse (Uri.text scheme user password host port (0x2f :: dbname)) =
      some ⟨scheme, some user, some password, host, some port, 0x2f :: dbname⟩ := by
  let authority := user ++ 0x3a :: (password ++ 0x40 :: (host ++ 0x3a :: port))
  have made : Uri.text scheme user password host port (0x2f :: dbname) =
      scheme ++ str "://" ++ (authority ++ 0x2f :: dbname) := by
    simp [Uri.text, authority, str]
  have free : ∀ c ∈ authority, (!endsAuthority c) = true := endsAuthority_joined authorityFree
  have taken : (authority ++ 0x2f :: dbname).takeWhile (!endsAuthority ·) = authority := by
    rw [List.takeWhile_append_of_pos free]
    exact List.append_nil authority
  have left : (authority ++ 0x2f :: dbname).dropWhile (!endsAuthority ·) = 0x2f :: dbname := by
    rw [List.dropWhile_append_of_pos free]
    rfl
  have server : cutLast 0x40 authority = some (user ++ 0x3a :: password, host ++ 0x3a :: port) := by
    have split : authority = (user ++ 0x3a :: password) ++ 0x40 :: (host ++ 0x3a :: port) :=
      by simp [authority]
    rw [split]
    refine cutLast_append ?_
    simp [hostFree, portFree.1]
  have path : (0x2f :: dbname).takeWhile (!endsPath ·) = 0x2f :: dbname := by
    refine List.takeWhile_eq_self_iff.mpr (List.forall_mem_cons.mpr ⟨by decide, fun c member => ?_⟩)
    rw [pathFree c member]
    rfl
  rw [made, Uri.parse_scheme schemeFree, Uri.parts, taken, left, server, path]
  dsimp only [Option.map_some, Option.bind_some, Option.getD_some]
  rw [cutFirst_append userFree, cutLast_append portFree.2]
  rfl

end

end Foundation
