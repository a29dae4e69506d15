import Coordinator.GitCochange

namespace Coordinator
namespace GitCochange

open PathNormalize (CodeUnits units)

/-- How often a name is one of the two that a key splits into. -/
def stands (f key : CodeUnits) : Nat := (if (parts key).1 = f then 1 else 0) + if (parts key).2 = f then 1 else 0

/-- How many eligible files a file appears with, summed over the effective commits. -/
def partners (stdout f : CodeUnits) : Nat :=
  ((effectiveCommits stdout).map fun files =>
    if f ∈ files.filter eligible then (files.filter eligible).length - 1 else 0).sum

variable {stdout f x y key : CodeUnits} {files : List CodeUnits} {pairs : Tally CodeUnits} {total : Nat}

end GitCochange
end Coordinator
