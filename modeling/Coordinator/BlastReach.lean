import Coordinator.DependencyMap
import Coordinator.Library.Worklist

namespace Coordinator

open Worklist (Covered Follows)

section walk
variable {ids visited queue : List ModuleId} {dependents : ModuleId → List ModuleId}
  {inside : ∀ m, ∀ id ∈ dependents m, id ∈ ids} {x : ModuleId}

end walk

section radius
variable {map : List ParsedModule} {x m : ModuleId}

end radius

end Coordinator
