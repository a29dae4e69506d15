import Mathlib.Data.List.Perm.Subperm
import Coordinator.Schema

namespace Coordinator

/-- A row of `dependency_map` with its columns parsed. -/
structure ParsedModule where
  moduleId : ModuleId
  dependsOn : List ModuleId
  exports : List String
  owners : List String
  deriving DecidableEq, Repr

structure BlastRadius where
  moduleId : ModuleId
  directDependents : List ModuleId
  indirectDependents : List ModuleId
  affectedExports : List String
  deriving DecidableEq, Repr

def ModuleInfo.parsed (row : ModuleInfo) : ParsedModule :=
  { moduleId := row.moduleId, dependsOn := safeJsonParse row.dependsOn [], exports := safeJsonParse row.exports []
    owners := safeJsonParse row.owners [] }

/-- The inner loop of the walk: the ids not seen yet, each marked as it is met. -/
def newlyVisited (visited : List ModuleId) : List ModuleId → List ModuleId
  | [] => []
  | id :: rest => if id ∈ visited then newlyVisited visited rest else id :: newlyVisited (visited ++ [id]) rest

theorem mem_newlyVisited {visited ids : List ModuleId} {id : ModuleId} (member : id ∈ newlyVisited visited ids) :
    id ∈ ids ∧ id ∉ visited := by
  induction ids generalizing visited with
  | nil => cases member
  | cons head rest ih =>
    unfold newlyVisited at member
    split at member
    · obtain ⟨inRest, unseen⟩ := ih member
      exact ⟨List.mem_cons_of_mem _ inRest, unseen⟩
    · rename_i unseenHead
      rcases List.mem_cons.mp member with rfl | later
      · exact ⟨by simp, unseenHead⟩
      · obtain ⟨inRest, unseen⟩ := ih later
        exact ⟨List.mem_cons_of_mem _ inRest, fun seen => unseen (List.mem_append_left _ seen)⟩

theorem newlyVisited_nodup (visited ids : List ModuleId) : (newlyVisited visited ids).Nodup := by
  induction ids generalizing visited with
  | nil => exact List.nodup_nil
  | cons head rest ih =>
    unfold newlyVisited
    split
    · exact ih visited
    · refine List.nodup_cons.mpr ⟨fun again => ?_, ih _⟩
      exact (mem_newlyVisited again).2 (by simp)

/-- Each id that enters the queue was unseen until then. -/
theorem unseen_shrinks {ids visited fresh : List ModuleId} (distinct : fresh.Nodup)
    (inside : ∀ id ∈ fresh, id ∈ ids ∧ id ∉ visited) :
    (ids.filter (· ∉ visited ++ fresh)).length + fresh.length ≤ (ids.filter (· ∉ visited)).length := by
  have taken : fresh.Subperm ((ids.filter (· ∉ visited)).filter (· ∈ fresh)) := by
    refine List.subperm_of_subset distinct fun id member => ?_
    simp [List.mem_filter, inside id member, member]
  have rest : ids.filter (· ∉ visited ++ fresh) = (ids.filter (· ∉ visited)).filter (fun id => !decide (id ∈ fresh)) := by
    rw [List.filter_filter]
    congr 1
    funext id
    by_cases seen : id ∈ visited <;> simp [seen]
  have split := List.length_eq_length_filter_add (l := ids.filter (· ∉ visited)) (· ∈ fresh)
  have bound := taken.length_le
  rw [rest]
  omega

/-- The breadth-first walk over the reverse edges: what each dequeued id adds. -/
def walkDependents (ids : List ModuleId) (dependents : ModuleId → List ModuleId)
    (inside : ∀ m, ∀ id ∈ dependents m, id ∈ ids) (visited : List ModuleId) : List ModuleId → List ModuleId
  | [] => []
  | current :: queue =>
    let fresh := newlyVisited visited (dependents current)
    fresh ++ walkDependents ids dependents inside (visited ++ fresh) (queue ++ fresh)
termination_by queue => 2 * (ids.filter (· ∉ visited)).length + queue.length
decreasing_by
  have shrinks := unseen_shrinks (newlyVisited_nodup visited (dependents current)) fun id member =>
    ⟨inside current id (mem_newlyVisited member).1, (mem_newlyVisited member).2⟩
  simp only [List.length_append, List.length_cons]
  omega

namespace Db

/-- The entries of the object that is built; setting `__proto__` on it makes none. -/
def getMap (db : Db) (orgId : OrgId) : List ParsedModule :=
  (db.dependencyMap.filter fun row => row.orgId = orgId ∧ row.moduleId ≠ "__proto__").map (·.parsed)

def getModuleInfo (db : Db) (orgId : OrgId) (moduleId : ModuleId) : Option ParsedModule :=
  (db.dependencyMap.find? fun row => row.orgId = orgId ∧ row.moduleId = moduleId).map (·.parsed)

/-- Everything that declares a dependency on a module, once per declaration. -/
def dependents (map : List ParsedModule) (moduleId : ModuleId) : List ModuleId :=
  map.flatMap fun info => (info.dependsOn.filter (· = moduleId)).map fun _ => info.moduleId

theorem dependents_inside (map : List ParsedModule) (m : ModuleId) :
    ∀ id ∈ dependents map m, id ∈ map.map (·.moduleId) := by
  intro id member
  simp only [dependents, List.mem_flatMap, List.mem_map] at member ⊢
  obtain ⟨info, inMap, dep, -, rfl⟩ := member
  exact ⟨info, inMap, rfl⟩

def getBlastRadius (db : Db) (orgId : OrgId) (moduleId : ModuleId) : BlastRadius :=
  let map := db.getMap orgId
  let direct := dependents map moduleId
  { moduleId, directDependents := direct
    indirectDependents :=
      walkDependents (map.map (·.moduleId)) (dependents map) (dependents_inside map) (moduleId :: direct) direct
    affectedExports := ((map.find? fun info => info.moduleId = moduleId).map (·.exports)).getD [] }

end Db

end Coordinator
