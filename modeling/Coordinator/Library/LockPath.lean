import Mathlib.Logic.Function.Basic

universe u v

/-- A path that names at most one file. Files are numbered as they are made:
a file made after another was unlinked is a different file under the same name. -/
structure LockPath (α : Type u) where
  file : Option (Nat × α)
  made : Nat
  deriving DecidableEq, Repr

namespace LockPath
variable {α : Type u} {ι : Type v}

/-- The number of the file that the path names. -/
def named (path : LockPath α) : Option Nat := path.file.map Prod.fst

def content (path : LockPath α) : Option α := path.file.map Prod.snd

/-- The exclusive create: refused while the path names a file. -/
def createExclusive (path : LockPath α) (content : α) : Option (LockPath α) :=
  match path.file with
  | none => some ⟨some (path.made, content), path.made + 1⟩
  | some _ => none

/-- A write through a descriptor of file `n`: it reaches the path's file only
while the path still names that file. -/
def write (path : LockPath α) (n : Nat) (content : α) : LockPath α :=
  if path.named = some n then { path with file := some (n, content) } else path

def unlink (path : LockPath α) : LockPath α := { path with file := none }

theorem named_eq_none_iff {path : LockPath α} : path.named = none ↔ path.file = none := Option.map_eq_none_iff

@[simp] theorem write_named (path : LockPath α) (n : Nat) (content : α) : (path.write n content).named = path.named := by
  unfold write
  split
  · rename_i same
    exact same.symm
  · rfl

theorem createExclusive_some {path path' : LockPath α} {content : α} (done : path.createExclusive content = some path') :
    path.named = none ∧ path'.named = some path.made := by
  unfold createExclusive at done
  split at done
  · rename_i free
    obtain rfl := Option.some.inj done
    exact ⟨named_eq_none_iff.mpr free, rfl⟩
  · cases done

/-- Every file that somebody owns is the one the path names, and has one owner. -/
structure Guarded (path : LockPath α) (owns : ι → Nat → Prop) : Prop where
  atPath : ∀ i n, owns i n → path.named = some n
  single : ∀ i j n, owns i n → owns j n → i = j

namespace Guarded
variable {path path' : LockPath α} {owns owns' : ι → Nat → Prop}

/-- Owners of files of one guarded path are one owner. -/
theorem exclusive (guarded : Guarded path owns) {i j : ι} {m n : Nat} (left : owns i m) (right : owns j n) : i = j := by
  have same : m = n := Option.some.inj ((guarded.atPath i m left).symm.trans (guarded.atPath j n right))
  subst same
  exact guarded.single i j m left right

theorem initial (nobody : ∀ i n, ¬ owns i n) : Guarded path owns :=
  ⟨fun i n owned => absurd owned (nobody i n), fun i _ n owned => absurd owned (nobody i n)⟩

/-- Files given up, at a path that still names the same file. -/
theorem fewer (guarded : Guarded path owns) (same : path'.named = path.named) (kept : ∀ i n, owns' i n → owns i n) :
    Guarded path' owns' := by
  constructor
  · intro i n owned
    rw [same]
    exact guarded.atPath i n (kept i n owned)
  · intro i j n left right
    exact guarded.single i j n (kept i n left) (kept j n right)

/-- An exclusive create finds no owner left, so its caller is the only one. -/
theorem create (guarded : Guarded path owns) {content : α} {c : ι}
    (done : path.createExclusive content = some path')
    (added : ∀ i n, owns' i n → owns i n ∨ i = c ∧ n = path.made) : Guarded path' owns' := by
  obtain ⟨free, made⟩ := createExclusive_some done
  have only : ∀ i n, owns' i n → i = c ∧ n = path.made := by
    intro i n owned
    rcases added i n owned with old | new
    · have atPath := guarded.atPath i n old
      rw [free] at atPath
      cases atPath
    · exact new
  constructor
  · intro i n owned
    rw [made, (only i n owned).2]
  · intro i j n left right
    rw [(only i n left).1, (only j n right).1]

/-- An unlink is harmless when nobody owns the file that the path names. -/
theorem unlink (guarded : Guarded path owns) (kept : ∀ i n, owns' i n → owns i n)
    (harmless : ∀ i n, path.named = some n → ¬ owns' i n) : Guarded path.unlink owns' :=
  initial fun i n owned => harmless i n (guarded.atPath i n (kept i n owned)) owned

end Guarded
end LockPath
