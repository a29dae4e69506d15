import Mathlib.Data.List.Basic

universe u v w x y

/-! Ideal authenticated encryption: what was sealed under a key, a nonce and associated
data opens under the same three, and nothing else opens. -/
namespace IdealAead

structure Sealing (K : Type u) (N : Type v) (A : Type w) (P : Type x) where
  key : K
  nonce : N
  aad : A
  plaintext : P
  deriving DecidableEq

variable {K : Type u} {N : Type v} {A : Type w} {P : Type x} {C : Type y}

/-- No two of the sealings made look alike. -/
def Unambiguous (cipher : Sealing K N A P → C) (made : List (Sealing K N A P)) : Prop :=
  ∀ s ∈ made, ∀ t ∈ made, cipher s = cipher t → s = t

variable [DecidableEq K] [DecidableEq N] [DecidableEq A] [DecidableEq C]

def reveal (cipher : Sealing K N A P → C) (made : List (Sealing K N A P)) (key : K) (nonce : N) (aad : A) (c : C) :
    Option P :=
  (made.find? fun s => s.key = key ∧ s.nonce = nonce ∧ s.aad = aad ∧ cipher s = c).map Sealing.plaintext

variable {cipher : Sealing K N A P → C} {made : List (Sealing K N A P)} {key : K} {nonce : N} {aad : A} {c : C} {p : P}

/-- What opens was sealed. -/
theorem mem_of_reveal (opened : reveal cipher made key nonce aad c = some p) :
    ⟨key, nonce, aad, p⟩ ∈ made ∧ cipher ⟨key, nonce, aad, p⟩ = c := by
  obtain ⟨s, found, rfl⟩ := Option.map_eq_some_iff.mp opened
  have fits := List.find?_some found
  obtain ⟨rfl, rfl, rfl, same⟩ := of_decide_eq_true fits
  exact ⟨List.mem_of_find?_eq_some found, same⟩

theorem reveal_made (unambiguous : Unambiguous cipher made) {s : Sealing K N A P} (sealed : s ∈ made) :
    reveal cipher made s.key s.nonce s.aad (cipher s) = some s.plaintext := by
  cases opened : reveal cipher made s.key s.nonce s.aad (cipher s) with
  | some p =>
    obtain ⟨member, same⟩ := mem_of_reveal opened
    rw [← unambiguous _ member s sealed same]
  | none =>
    have absent := List.find?_eq_none.mp (Option.map_eq_none_iff.mp opened) s sealed
    simp at absent

/-- A sealing opens under its own key, nonce and associated data only. -/
theorem eq_of_reveal (unambiguous : Unambiguous cipher made) {s : Sealing K N A P} (sealed : s ∈ made)
    (opened : reveal cipher made key nonce aad (cipher s) = some p) :
    key = s.key ∧ nonce = s.nonce ∧ aad = s.aad ∧ p = s.plaintext := by
  obtain ⟨member, same⟩ := mem_of_reveal opened
  rw [← unambiguous _ member s sealed same]
  exact ⟨rfl, rfl, rfl, rfl⟩

end IdealAead
