import Mathlib.Tactic.IntervalCases

/-! Base64 text in the URL alphabet, without padding. -/
namespace Base64Url

/-- The digit of a sextet. -/
def digit (n : Nat) : Char :=
  if n < 26 then Char.ofNat (n + 65)
  else if n < 52 then Char.ofNat (n + 71)
  else if n < 62 then Char.ofNat (n - 4)
  else if n = 62 then '-' else '_'

/-- The sextet of a digit of the URL alphabet or of the standard one. -/
def sextet (c : Char) : Option Nat :=
  if c.isUpper then some (c.toNat - 65)
  else if c.isLower then some (c.toNat - 71)
  else if c.isDigit then some (c.toNat + 4)
  else if c = '-' ∨ c = '+' then some 62
  else if c = '_' ∨ c = '/' then some 63
  else none

theorem sextet_digit {n : Nat} (small : n < 64) : sextet (digit n) = some n := by
  interval_cases n <;> rfl

def sextets : List UInt8 → List Nat
  | [] => []
  | [a] => [a.toNat / 4, a.toNat % 4 * 16]
  | [a, b] => [a.toNat / 4, a.toNat % 4 * 16 + b.toNat / 16, b.toNat % 16 * 4]
  | a :: b :: c :: rest =>
    a.toNat / 4 :: (a.toNat % 4 * 16 + b.toNat / 16) :: (b.toNat % 16 * 4 + c.toNat / 64) :: c.toNat % 64 :: sextets rest

/-- Bits that do not make a whole byte are dropped. -/
def bytes : List Nat → List UInt8
  | s :: t :: u :: v :: rest =>
    UInt8.ofNat (s * 4 + t / 16) :: UInt8.ofNat (t % 16 * 16 + u / 4) :: UInt8.ofNat (u % 4 * 64 + v) :: bytes rest
  | [s, t, u] => [UInt8.ofNat (s * 4 + t / 16), UInt8.ofNat (t % 16 * 16 + u / 4)]
  | [s, t] => [UInt8.ofNat (s * 4 + t / 16)]
  | [_] => []
  | [] => []

def encode (b : List UInt8) : List Char := (sextets b).map digit

/-- A lenient decoder: it passes over whatever is no digit. -/
def decode (text : List Char) : List UInt8 := bytes (text.filterMap sextet)

theorem sextets_lt (b : List UInt8) : ∀ n ∈ sextets b, n < 64 := by
  induction b using sextets.induct with
  | case1 => simp [sextets]
  | case2 a =>
    have small := a.toNat_lt
    simp only [sextets, List.forall_mem_cons]
    exact ⟨by omega, by omega, by simp⟩
  | case3 a b =>
    have smallA := a.toNat_lt
    have smallB := b.toNat_lt
    simp only [sextets, List.forall_mem_cons]
    exact ⟨by omega, by omega, by omega, by simp⟩
  | case4 a b c rest ih =>
    have smallA := a.toNat_lt
    have smallB := b.toNat_lt
    have smallC := c.toNat_lt
    simp only [sextets, List.forall_mem_cons]
    exact ⟨by omega, by omega, by omega, by omega, ih⟩

theorem ofNat_of_eq {a : UInt8} {n : Nat} (same : n = a.toNat) : UInt8.ofNat n = a := by
  rw [same, UInt8.ofNat_toNat]

theorem bytes_sextets (b : List UInt8) : bytes (sextets b) = b := by
  induction b using sextets.induct with
  | case1 => rfl
  | case2 a =>
    have first : UInt8.ofNat (a.toNat / 4 * 4 + a.toNat % 4 * 16 / 16) = a := ofNat_of_eq (by omega)
    rw [sextets, bytes, first]
  | case3 a b =>
    have smallB := b.toNat_lt
    have first : UInt8.ofNat (a.toNat / 4 * 4 + (a.toNat % 4 * 16 + b.toNat / 16) / 16) = a := ofNat_of_eq (by omega)
    have second : UInt8.ofNat ((a.toNat % 4 * 16 + b.toNat / 16) % 16 * 16 + b.toNat % 16 * 4 / 4) = b :=
      ofNat_of_eq (by omega)
    rw [sextets, bytes, first, second]
  | case4 a b c rest ih =>
    have smallB := b.toNat_lt
    have smallC := c.toNat_lt
    have first : UInt8.ofNat (a.toNat / 4 * 4 + (a.toNat % 4 * 16 + b.toNat / 16) / 16) = a := ofNat_of_eq (by omega)
    have second : UInt8.ofNat ((a.toNat % 4 * 16 + b.toNat / 16) % 16 * 16 + (b.toNat % 16 * 4 + c.toNat / 64) / 4) = b :=
      ofNat_of_eq (by omega)
    have third : UInt8.ofNat ((b.toNat % 16 * 4 + c.toNat / 64) % 4 * 64 + c.toNat % 64) = c := ofNat_of_eq (by omega)
    rw [sextets, bytes, first, second, third, ih]

theorem filterMap_sextet {ns : List Nat} (small : ∀ n ∈ ns, n < 64) : (ns.map digit).filterMap sextet = ns := by
  induction ns with
  | nil => rfl
  | cons n rest ih =>
    obtain ⟨first, later⟩ := List.forall_mem_cons.mp small
    rw [List.map_cons, List.filterMap_cons_some (sextet_digit first), ih later]

theorem decode_encode (b : List UInt8) : decode (encode b) = b := by
  rw [decode, encode, filterMap_sextet (sextets_lt b), bytes_sextets]

end Base64Url
