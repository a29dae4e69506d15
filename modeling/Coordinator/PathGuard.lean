import Coordinator.AdminBootstrap
import Coordinator.Library.PosixResolve
import Mathlib.Data.List.DropRight

namespace Coordinator

/-- `process.cwd()`. -/
structure WorkingDirectory where
  path : List Char
  absolute : path.head? = some '/'

/-- `path.resolve`. -/
def pathResolve (cwd : WorkingDirectory) (paths : List (List Char)) : List Char :=
  PosixPath.resolvePaths '/' '.' cwd.path paths

def nul : Char := Char.ofNat 0

/-- `decoded.replace(/^[/\\]+/, "")`. -/
def trimmedPath (decoded : String) : List Char := decoded.toList.dropWhile fun c => c = '/' || c = '\\'

def safeJoinUnderRoot (cwd : WorkingDirectory) (root urlPath : String) : Option String :=
  if urlPath.toList.contains nul then none
  else
    match decodeURIComponent urlPath with
    | none => none
    | some decoded =>
      if decoded.toList.contains nul then none
      else
        let trimmed := trimmedPath decoded
        if trimmed = [] then none
        else
          let rootResolved := pathResolve cwd [root.toList]
          let candidate := pathResolve cwd [rootResolved, trimmed]
          let rootWithSep := if rootResolved.getLast? = some '/' then rootResolved else rootResolved ++ ['/']
          if candidate ≠ rootResolved ∧ ¬ rootWithSep.isPrefixOf candidate then none else some (String.ofList candidate)

def rootSegments (cwd : WorkingDirectory) (root : String) : List (List Char) :=
  PosixPath.segments '/' (pathResolve cwd [root.toList])

/-- Where a decoded path leads, segment after segment, from the root. -/
def walkedSegments (cwd : WorkingDirectory) (root decoded : String) : List (List Char) :=
  PosixPath.walk '/' '.' (rootSegments cwd root) (trimmedPath decoded)

/-- The guard refuses just what is malformed, has a NUL, is empty or leads out of the root, and gives the path
resolved for anything else. -/
structure GuardExact (cwd : WorkingDirectory) (root u : String) : Prop where
  refused : safeJoinUnderRoot cwd root u = none ↔ decodeURIComponent u = none ∨ nul ∈ u.toList ∨
    ∃ decoded, decodeURIComponent u = some decoded ∧ (nul ∈ decoded.toList ∨ (∀ c ∈ decoded.toList, c = '/' ∨ c = '\\') ∨
      ¬ rootSegments cwd root <+: walkedSegments cwd root decoded)
  resolved : ∀ p, safeJoinUnderRoot cwd root u = some p → ∃ decoded, decodeURIComponent u = some decoded ∧
    p.toList = pathResolve cwd [pathResolve cwd [root.toList], trimmedPath decoded] ∧
      PosixPath.segments '/' p.toList = walkedSegments cwd root decoded ∧
        rootSegments cwd root <+: PosixPath.segments '/' p.toList ∧
          ∀ s ∈ PosixPath.segments '/' p.toList, s ≠ [] ∧ s ≠ ['.'] ∧ s ≠ ['.', '.']

section guard
variable {cwd : WorkingDirectory} {root u decoded : String}

theorem trimmedPath_eq_nil : trimmedPath decoded = [] ↔ ∀ c ∈ decoded.toList, c = '/' ∨ c = '\\' := by
  rw [trimmedPath, List.dropWhile_eq_nil_iff]
  simp

theorem trimmedPath_head : (trimmedPath decoded).head? ≠ some '/' := by
  intro first
  have stops := List.head?_dropWhile_not (fun c => c = '/' || c = '\\') decoded.toList
  rw [trimmedPath] at first
  rw [first] at stops
  exact absurd stops (by decide)

/-- The root is absolute and made of names. -/
theorem rootResolved_eq (cwd : WorkingDirectory) (root : String) : PosixPath.Names '/' '.' (rootSegments cwd root) ∧
    pathResolve cwd [root.toList] = PosixPath.rooted '/' (rootSegments cwd root) := by
  obtain ⟨names, named, shape⟩ := PosixPath.resolvePaths_rooted '.' cwd.absolute [root.toList]
  have own : rootSegments cwd root = names := by
    rw [rootSegments, pathResolve, shape, PosixPath.segments_rooted named]
  rw [own]
  exact ⟨named, shape⟩

theorem walkedSegments_names (cwd : WorkingDirectory) (root decoded : String) :
    PosixPath.Names '/' '.' (walkedSegments cwd root decoded) :=
  (rootResolved_eq cwd root).1.walk _

theorem candidate_eq (some : trimmedPath decoded ≠ []) :
    pathResolve cwd [pathResolve cwd [root.toList], trimmedPath decoded] =
      PosixPath.rooted '/' (walkedSegments cwd root decoded) := by
  obtain ⟨named, shape⟩ := rootResolved_eq cwd root
  rw [shape]
  exact PosixPath.resolvePaths_walk named some trimmedPath_head

/-- Behind the checks of the text, the guard is a question about segments. -/
theorem safeJoinUnderRoot_eq (noNul : nul ∉ u.toList) (decodes : decodeURIComponent u = some decoded)
    (noNul' : nul ∉ decoded.toList) (named : trimmedPath decoded ≠ []) : safeJoinUnderRoot cwd root u =
      if rootSegments cwd root <+: walkedSegments cwd root decoded then
        some (String.ofList (PosixPath.rooted '/' (walkedSegments cwd root decoded)))
      else none := by
  obtain ⟨rootNamed, shape⟩ := rootResolved_eq cwd root
  have below := PosixPath.below_iff rootNamed (walkedSegments_names cwd root decoded)
  rw [safeJoinUnderRoot, if_neg (by simpa using noNul), decodes]
  dsimp only
  rw [if_neg (by simpa using noNul'), if_neg named, candidate_eq named, shape]
  by_cases inside : rootSegments cwd root <+: walkedSegments cwd root decoded
  · rw [if_pos inside, if_neg]
    rintro ⟨other, outside⟩
    rcases below.mpr inside with same | behind
    · exact other same
    · exact outside (List.isPrefixOf_iff_prefix.mpr behind)
  · have outside := fun possible => inside (below.mp possible)
    rw [if_neg inside, if_pos]
    exact ⟨fun same => outside (.inl same), fun behind => outside (.inr (List.isPrefixOf_iff_prefix.mp behind))⟩

theorem safeJoinUnderRoot_malformed (malformed : decodeURIComponent u = none) : safeJoinUnderRoot cwd root u = none := by
  rw [safeJoinUnderRoot, malformed]
  exact ite_self _

theorem safeJoinUnderRoot_nul (has : nul ∈ u.toList) : safeJoinUnderRoot cwd root u = none :=
  if_pos (by simpa using has)

theorem safeJoinUnderRoot_nul' (decodes : decodeURIComponent u = some decoded) (has : nul ∈ decoded.toList) :
    safeJoinUnderRoot cwd root u = none := by
  rw [safeJoinUnderRoot, decodes]
  have contained : decoded.toList.contains nul := List.contains_iff_mem.mpr has
  dsimp only
  rw [if_pos contained, ite_self]

theorem safeJoinUnderRoot_empty (decodes : decodeURIComponent u = some decoded) (empty : trimmedPath decoded = []) :
    safeJoinUnderRoot cwd root u = none := by
  rw [safeJoinUnderRoot, decodes]
  dsimp only
  rw [if_pos empty, ite_self, ite_self]

/-- What the guard gave went through every check. -/
theorem safeJoinUnderRoot_some {p : String} (given : safeJoinUnderRoot cwd root u = some p) :
    nul ∉ u.toList ∧ ∃ decoded, decodeURIComponent u = some decoded ∧ nul ∉ decoded.toList ∧ trimmedPath decoded ≠ [] ∧
      rootSegments cwd root <+: walkedSegments cwd root decoded ∧
        p.toList = PosixPath.rooted '/' (walkedSegments cwd root decoded) := by
  have noNul : nul ∉ u.toList := fun has => nomatch (safeJoinUnderRoot_nul has).symm.trans given
  cases decodes : decodeURIComponent u with
  | none => exact nomatch (safeJoinUnderRoot_malformed decodes).symm.trans given
  | some decoded =>
    have noNul' : nul ∉ decoded.toList := fun has => nomatch (safeJoinUnderRoot_nul' decodes has).symm.trans given
    have named : trimmedPath decoded ≠ [] := fun empty => nomatch (safeJoinUnderRoot_empty decodes empty).symm.trans given
    rw [safeJoinUnderRoot_eq noNul decodes noNul' named] at given
    obtain ⟨inside, same⟩ := Option.ite_none_right_eq_some.mp given
    have text := congrArg String.toList (Option.some.inj same)
    rw [String.toList_ofList] at text
    exact ⟨noNul, decoded, rfl, noNul', named, inside, text.symm⟩

theorem safeJoinUnderRoot_exact (cwd : WorkingDirectory) (root u : String) : GuardExact cwd root u where
  refused := by
    constructor
    · intro refused
      by_contra whole
      obtain ⟨decodable, rest⟩ := not_or.mp whole
      obtain ⟨noNul, rest⟩ := not_or.mp rest
      obtain ⟨decoded, decodes⟩ := Option.ne_none_iff_exists'.mp decodable
      obtain ⟨noNul', rest⟩ := not_or.mp (not_and.mp (not_exists.mp rest decoded) decodes)
      obtain ⟨named, within⟩ := not_or.mp rest
      rw [← trimmedPath_eq_nil] at named
      rw [safeJoinUnderRoot_eq noNul decodes noNul' named, if_pos (not_not.mp within)] at refused
      exact nomatch refused
    · rintro (malformed | has | ⟨decoded, decodes, has | only | outside⟩)
      · exact safeJoinUnderRoot_malformed malformed
      · exact safeJoinUnderRoot_nul has
      · exact safeJoinUnderRoot_nul' decodes has
      · exact safeJoinUnderRoot_empty decodes (trimmedPath_eq_nil.mpr only)
      · by_contra given
        obtain ⟨p, given⟩ := Option.ne_none_iff_exists'.mp given
        obtain ⟨-, decoded', decodes', -, -, inside, -⟩ := safeJoinUnderRoot_some given
        obtain rfl := Option.some.inj (decodes.symm.trans decodes')
        exact outside inside
  resolved := by
    intro p given
    obtain ⟨-, decoded, decodes, -, named, inside, text⟩ := safeJoinUnderRoot_some given
    have own : PosixPath.segments '/' p.toList = walkedSegments cwd root decoded := by
      rw [text, PosixPath.segments_rooted (walkedSegments_names _ _ _)]
    refine ⟨decoded, decodes, text.trans (candidate_eq named).symm, own, own ▸ inside, fun s among => ?_⟩
    obtain ⟨nonempty, notHere, notUp, -⟩ := walkedSegments_names _ _ _ s (own ▸ among)
    exact ⟨nonempty, notHere, notUp⟩

end guard

end Coordinator
