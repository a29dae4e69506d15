import Mathlib.Data.Rat.Defs
import Mathlib.Algebra.Order.Ring.Rat

namespace Coordinator

/-- What a claim of a token can hold; `other` is an array or an object, as its text. -/
inductive ClaimValue
  | null
  | bool (b : Bool)
  | num (n : Rat)
  | str (s : String)
  | other (text : String)
  deriving DecidableEq, Repr

namespace ClaimValue

def truthy : ClaimValue → Bool
  | null => false
  | bool b => b
  | num n => n ≠ 0
  | str s => s ≠ ""
  | other _ => true

/-- `typeof claim === "string" ? claim : undefined`. -/
def text : Option ClaimValue → Option String
  | some (.str s) => some s
  | _ => none

def number : Option ClaimValue → Option Rat
  | some (.num n) => some n
  | _ => none

theorem text_eq_some {claim : Option ClaimValue} {s : String} : text claim = some s ↔ claim = some (.str s) := by
  unfold text
  split <;> simp_all

theorem number_eq_some {claim : Option ClaimValue} {n : Rat} : number claim = some n ↔ claim = some (.num n) := by
  unfold number
  split <;> simp_all

end ClaimValue

inductive AuthRole
  | agent
  | admin
  | member
  | service
  | internal
  deriving DecidableEq, Repr

/-- The claims that `verifyTokenStrict` returns; a `jti` of `none` is drawn at random. -/
structure StrictClaims where
  sub : ClaimValue
  role : AuthRole
  userId : String
  org : String
  jti : Option String
  deriving DecidableEq, Repr

end Coordinator
