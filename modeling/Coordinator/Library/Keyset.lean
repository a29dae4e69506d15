import Mathlib.Data.List.Sort
import Mathlib.Order.Lattice

universe u v w x

/-! Keyset pagination over a table whose rows change under it: each page holds the rows behind the last key
seen, in the order of their keys, and a step rewrites the rows of one page. -/
namespace Keyset
variable {ρ : Type u} {κ : Type v} {σ : Type w} {ε : Type x} [LinearOrder κ] (key : ρ → κ)

/-- Page after page until one is empty; an error stops the run with what is committed. `none` is a lack of fuel. -/
def run (select : σ → κ → List ρ) (step : List ρ → σ → Except ε σ) : Nat → κ → σ → Option (σ × Option ε)
  | 0, _, _ => none
  | fuel + 1, after, st =>
    match select st after with
    | [] => some (st, none)
    | r :: rest =>
      match step (r :: rest) st with
      | .error e => some (st, some e)
      | .ok next => run select step fuel (key ((r :: rest).getLast (List.cons_ne_nil r rest))) next

variable {key} {p : ρ → Bool} {f : ρ → ρ} {rows : List ρ} {after : κ} {limit : Nat} {r : ρ}

end Keyset
