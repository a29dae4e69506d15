import Coordinator.Library.PosixPath

universe u

/-! Absolute paths as lists of segments, and the test of a text prefix that tells what lies below a directory. -/
namespace PosixPath
variable {α : Type u} [DecidableEq α] (slash dot : α)

/-- The paths put behind one another, from the last one back to an absolute one, and whether there is one. -/
def joinPaths : List (List α) → List α → List α × Bool
  | [], joined => (joined, false)
  | path :: earlier, joined =>
    if path = [] then joinPaths earlier joined
    else if path.head? = some slash then (path ++ slash :: joined, true)
    else joinPaths earlier (path ++ slash :: joined)

def resolvePaths (cwd : List α) (paths : List (List α)) : List α :=
  let (joined, found) := joinPaths slash paths.reverse []
  let whole := if found then joined else cwd ++ slash :: joined
  let isAbsolute : Bool := found || cwd.head? = some slash
  let path := join slash (resolve slash dot (!isAbsolute) whole)
  if isAbsolute then slash :: path else if path = [] then [dot] else path

/-- The segments of an absolute path. -/
def segments (p : List α) : List (List α) := if p = [slash] then [] else (p.drop 1).splitOn slash

def rooted (names : List (List α)) : List α := slash :: join slash names

/-- Where a relative path leads from a directory; nothing lies above the topmost one. -/
def walk (start : List (List α)) (p : List α) : List (List α) :=
  ((p.splitOn slash).foldl (push dot false) start.reverse).reverse

/-- Segments that are names of files. -/
def Names (names : List (List α)) : Prop := ∀ s ∈ names, s ≠ [] ∧ s ≠ [dot] ∧ s ≠ [dot, dot] ∧ slash ∉ s

variable {slash dot} {names stack start : List (List α)} {segment p : List α}

theorem Names.push (named : Names slash dot stack) (free : slash ∉ segment) : Names slash dot (push dot false stack segment) := by
  unfold PosixPath.push
  split
  · exact named
  · rename_i kept
    obtain ⟨nonempty, notHere⟩ := not_or.mp kept
    split
    · cases stack with
      | nil => exact named
      | cons top below =>
        have later := (List.forall_mem_cons.mp named).2
        dsimp only
        split
        · exact later
        · exact named
    · rename_i notUp
      exact List.forall_mem_cons.mpr ⟨⟨nonempty, notHere, notUp, free⟩, named⟩

theorem Names.walk (named : Names slash dot start) (p : List α) : Names slash dot (walk slash dot start p) := by
  have reversed : Names slash dot start.reverse := fun s inside => named s (List.mem_reverse.mp inside)
  have folded : Names slash dot ((p.splitOn slash).foldl (PosixPath.push dot false) start.reverse) := by
    have free : ∀ s ∈ p.splitOn slash, slash ∉ s := splitOn_free p
    generalize start.reverse = stack at reversed
    generalize p.splitOn slash = pieces at free
    induction pieces generalizing stack with
    | nil => exact reversed
    | cons piece rest ih =>
      obtain ⟨first, free⟩ := List.forall_mem_cons.mp free
      exact ih _ (reversed.push first) free
  exact fun s inside => folded s (List.mem_reverse.mp inside)

variable (slash dot) in
theorem walk_nil (p : List α) : walk slash dot [] p = resolve slash dot false p := rfl

theorem names_resolve (p : List α) : Names slash dot (resolve slash dot false p) :=
  walk_nil slash dot p ▸ Names.walk (List.forall_mem_nil _) p

/-- Names are pushed one by one. -/
theorem foldl_names (named : Names slash dot names) (stack : List (List α)) :
    names.foldl (push dot false) stack = names.reverse ++ stack := by
  induction names generalizing stack with
  | nil => rfl
  | cons name rest ih =>
    obtain ⟨⟨nonempty, notHere, notUp, -⟩, later⟩ := List.forall_mem_cons.mp named
    rw [List.foldl_cons, push_name (not_or.mpr ⟨nonempty, notHere⟩) notUp, ih later, List.reverse_cons, List.append_assoc]
    rfl

theorem splitOn_join_names (named : Names slash dot names) (some : names ≠ []) : (join slash names).splitOn slash = names :=
  List.splitOn_intercalate slash (fun s inside => (named s inside).2.2.2) some

omit [DecidableEq α] in
theorem bare_names (named : Names slash dot names) (some : names ≠ []) : Bare slash (join slash names) :=
  .join some fun s inside => ⟨(named s inside).1, (named s inside).2.2.2⟩

theorem segments_rooted (named : Names slash dot names) : segments slash (rooted slash names) = names := by
  by_cases none : names = []
  · subst none
    exact if_pos rfl
  · have bare := bare_names named none
    have other : rooted slash names ≠ [slash] := fun same => bare.some (List.cons.inj same).2
    rw [segments, if_neg other, rooted, List.drop_succ_cons, List.drop_zero, splitOn_join_names named none]

theorem resolve_rooted (named : Names slash dot names) : resolve slash dot false (rooted slash names) = names := by
  rw [rooted, resolve_slash_cons]
  by_cases none : names = []
  · subst none
    simp [join, resolve, push]
  · rw [resolve, splitOn_join_names named none, foldl_names named, List.append_nil, List.reverse_reverse]

variable (dot) in
/-- What `path.resolve` gives is absolute and made of names. -/
theorem resolvePaths_rooted {cwd : List α} (absolute : cwd.head? = some slash) (paths : List (List α)) :
    ∃ names, Names slash dot names ∧ resolvePaths slash dot cwd paths = rooted slash names := by
  rw [resolvePaths]
  obtain ⟨joined, found⟩ := joinPaths slash paths.reverse []
  dsimp only
  have isAbsolute : (found || decide (cwd.head? = some slash)) = true := by simp [absolute]
  rw [isAbsolute, if_pos rfl]
  exact ⟨_, names_resolve _, rfl⟩

/-- What stands behind a directory is walked from it. -/
theorem resolve_rooted_append (named : Names slash dot names) (p : List α) :
    resolve slash dot false (rooted slash names ++ slash :: p) = walk slash dot names p := by
  have own : ((rooted slash names).splitOn slash).foldl (push dot false) [] = names.reverse := by
    have whole := congrArg List.reverse (resolve_rooted named)
    rwa [resolve, List.reverse_reverse] at whole
  rw [resolve, List.splitOn_append_cons_self, List.foldl_append, own, walk]

/-- A relative path is walked from the directory in front of it. -/
theorem resolvePaths_walk {cwd : List α} (named : Names slash dot names) (some : p ≠ [])
    (relative : p.head? ≠ Option.some slash) :
    resolvePaths slash dot cwd [rooted slash names, p] = rooted slash (walk slash dot names p) := by
  have joined : joinPaths slash [p, rooted slash names] [] = (rooted slash names ++ slash :: (p ++ [slash]), true) := by
    have rootSome : rooted slash names ≠ [] := List.cons_ne_nil _ _
    rw [joinPaths, if_neg some, if_neg relative, joinPaths, if_neg rootSome]
    exact if_pos rfl
  have walked : resolve slash dot false (rooted slash names ++ slash :: (p ++ [slash])) = walk slash dot names p := by
    have last : rooted slash names ++ slash :: (p ++ [slash]) = (rooted slash names ++ slash :: p) ++ [slash] := by simp
    rw [last, resolve_concat_slash, resolve_rooted_append named]
  rw [resolvePaths, List.reverse_cons, List.reverse_singleton, List.singleton_append, joined]
  simp only [Bool.true_or, if_true, Bool.not_true, walked]
  rfl

/-- A resolved path resolves to itself. -/
theorem resolvePaths_self {cwd : List α} (named : Names slash dot names) :
    resolvePaths slash dot cwd [rooted slash names] = rooted slash names := by
  have joined : joinPaths slash [rooted slash names] [] = (rooted slash names ++ [slash], true) := by
    have rootSome : rooted slash names ≠ [] := List.cons_ne_nil _ _
    rw [joinPaths, if_neg rootSome]
    exact if_pos rfl
  have whole : resolve slash dot false (rooted slash names ++ [slash]) = names := by
    rw [resolve_concat_slash, resolve_rooted named]
  rw [resolvePaths, List.reverse_singleton, joined]
  simp only [Bool.true_or, if_true, Bool.not_true, whole]
  rfl

/-- Joining a directory and a path that names no directory walks the path. -/
theorem normalize_rooted_append (named : Names slash dot names) (last : p.getLast? ≠ some slash) (some : p ≠ []) :
    normalize slash dot (rooted slash names ++ slash :: p) = rooted slash (walk slash dot names p) := by
  have isAbsolute : decide ((rooted slash names ++ slash :: p).head? = Option.some slash) = true := decide_eq_true rfl
  have trailing : decide ((rooted slash names ++ slash :: p).getLast? = Option.some slash) = false := by
    rw [List.getLast?_append_of_ne_nil _ (List.cons_ne_nil _ _), List.getLast?_cons,
      List.getLast?_eq_some_getLast some, Option.getD_some]
    rw [List.getLast?_eq_some_getLast some] at last
    exact decide_eq_false last
  have nonempty : rooted slash names ++ slash :: p ≠ [] := List.cons_ne_nil _ _
  rw [normalize, if_neg nonempty]
  simp only [isAbsolute, trailing, Bool.not_true, resolve_rooted_append named, if_true, Bool.false_eq_true, if_false,
    List.append_nil]
  split
  · rename_i top
    rw [rooted, top]
  · rfl

/-- One segment more is one push. -/
theorem walk_segment (free : slash ∉ p) : walk slash dot start p = (push dot false start.reverse p).reverse := by
  have alone : p.splitOn slash = [p] := by
    have whole : [slash].intercalate [p] = p := List.intercalate_singleton
    have split := List.splitOn_intercalate slash (List.forall_mem_singleton.mpr free) (List.cons_ne_nil p [])
    rwa [whole] at split
  rw [walk, alone, List.foldl_cons, List.foldl_nil]

theorem push_grows {name : List α} (grown : push dot false stack p = name :: stack) : p = name := by
  have notSame : stack ≠ name :: stack := fun same => by
    have lengths := congrArg List.length same
    simp at lengths
  unfold push at grown
  split at grown
  · exact absurd grown notSame
  · split at grown
    · cases stack with
      | nil => exact nomatch grown
      | cons top below =>
        dsimp only at grown
        split at grown
        · have lengths := congrArg List.length grown
          simp only [List.length_cons] at lengths
          omega
        · exact absurd grown notSame
    · exact (List.cons.inj grown).1

/-- A single segment that leads to a file of the directory is the file's name. -/
theorem eq_of_walk_concat {name : List α} (free : slash ∉ p) (leads : walk slash dot start p = start ++ [name]) :
    p = name := by
  have turned := congrArg List.reverse leads
  rw [walk_segment free, List.reverse_reverse, List.reverse_concat] at turned
  exact push_grows turned

omit [DecidableEq α] in
theorem join_append {more : List (List α)} (some : names ≠ []) (some' : more ≠ []) :
    join slash (names ++ more) = join slash names ++ slash :: join slash more := by
  induction names with
  | nil => exact absurd rfl some
  | cons name rest ih =>
    by_cases last : rest = []
    · subst last
      have alone : join slash [name] = name := List.intercalate_singleton
      rw [List.singleton_append, join_cons name some', alone]
    · rw [List.cons_append, join_cons name (by simp [last]), ih last, join_cons name last, List.append_assoc]
      rfl

/-- The text of a directory with a slash is in front of just what lies in it. -/
theorem below_iff {root : List (List α)} (rootNamed : Names slash dot root) (named : Names slash dot names) :
    (rooted slash names = rooted slash root ∨
      (if (rooted slash root).getLast? = some slash then rooted slash root else rooted slash root ++ [slash]) <+:
        rooted slash names) ↔ root <+: names := by
  by_cases none : root = []
  · subst none
    have last : (rooted slash ([] : List (List α))).getLast? = some slash := rfl
    rw [if_pos last]
    exact iff_of_true (.inr ⟨join slash names, rfl⟩) List.nil_prefix
  · have bare := bare_names rootNamed none
    have last : (rooted slash root).getLast? ≠ some slash := by
      rw [rooted, List.getLast?_cons, List.getLast?_eq_some_getLast bare.some, Option.getD_some]
      have ends := bare.last
      rwa [List.getLast?_eq_some_getLast bare.some] at ends
    rw [if_neg last]
    constructor
    · rintro (same | ⟨more, shape⟩)
      · have equal := congrArg (segments slash) same
        rw [segments_rooted named, segments_rooted rootNamed] at equal
        exact equal ▸ List.prefix_rfl
      · have tail : join slash names = join slash root ++ slash :: more := by
          rw [rooted, rooted, List.cons_append, List.cons_append, List.append_assoc] at shape
          exact (List.cons.inj shape).2.symm
        have some : names ≠ [] := by
          rintro rfl
          have empty := congrArg List.length tail
          simp [join] at empty
        rw [← splitOn_join_names named some, tail, List.splitOn_append_cons_self, splitOn_join_names rootNamed none]
        exact List.prefix_append _ _
    · rintro ⟨more, rfl⟩
      by_cases alone : more = []
      · rw [alone, List.append_nil]
        exact .inl rfl
      · refine .inr ⟨join slash more, ?_⟩
        rw [rooted, rooted, join_append none alone, List.append_assoc]
        rfl

end PosixPath
