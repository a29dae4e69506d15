import Mathlib.Data.List.TakeWhile
import Coordinator.PathNormalize

namespace Coordinator
namespace PathNormalize

/-- An absolute path that no part of the code takes for a Windows path. -/
structure PosixAbsolute (p : CodeUnits) : Prop where
  rooted : p.head? = some slash
  plain : backslash ∉ p

/-- A key that is `..` or begins with `../`. -/
def LeadsUp (key : CodeUnits) : Prop := (key.splitOn slash).head? = some [dot, dot]
  deriving Decidable

/-- Nothing outside the roots gets a key, and no key leads out of its root. -/
structure OutsideRejected (rt : PathRuntime) (given : List CodeUnits) (input : CodeUnits) : Prop where
  rejected : (∀ root ∈ given, ¬ PosixPath.Below slash dot root input) →
    ∃ message, normalizePath rt given input = .error message
  inside : ∀ key, normalizePath rt given input = .ok key → ¬ LeadsUp key

/-- Behind the longest root that the input begins with, no `..` leads above it. -/
def StaysInside (rt : PathRuntime) (given : List CodeUnits) (input : CodeUnits) : Prop :=
  ∀ root, (roots given).find? (underRoot rt given input) = some root →
    PosixPath.climbs dot 0 ((input.drop root.length).splitOn slash) = false

/-- A path without a leading slash or backslash and without a drive letter. -/
structure RelativePath (p : CodeUnits) : Prop where
  leading : (slashed p).head? ≠ some slash
  driveless : driveShaped p = false

/-- No root longer than `R` is found above `R/r`. -/
def NoLongerRoot (rt : PathRuntime) (given : List CodeUnits) (R r : CodeUnits) : Prop :=
  ∀ root ∈ roots given, (withoutTrailing (slashed R)).length < root.length →
    underRoot rt given (R ++ slash :: r) root = false

/-- Below its roots, one path has one key. -/
structure SpellingsAgree (rt : PathRuntime) (given : List CodeUnits) (r : CodeUnits) : Prop where
  relative : ∀ R ∈ given, NoLongerRoot rt given R r → normalizePath rt given (R ++ slash :: r) = normalizePath rt given r
  worktrees : ∀ R1 ∈ given, ∀ R2 ∈ given, NoLongerRoot rt given R1 r → NoLongerRoot rt given R2 r →
    normalizePath rt given (R1 ++ slash :: r) = normalizePath rt given (R2 ++ slash :: r)

/-- A root that is more than slashes and is taken off an absolute path, or one that is relative, leads up as far as
down, and no further down than the path behind it leads up. -/
def RootRead (rt : PathRuntime) (R r : CodeUnits) : Prop :=
  withoutTrailing (slashed R) ≠ [] ∧
    ((isAbsolute rt.platform R || driveShaped R) = true ∨
      (slashed R).head? ≠ some slash ∧ r ≠ [] ∧
        PosixPath.ups slash dot (slashed R) = PosixPath.downs slash dot (slashed R) ∧
        PosixPath.downs slash dot (slashed R) ≤ PosixPath.ups slash dot (slashed r))

variable {rt : PathRuntime} {given : List CodeUnits} {input root p R r : CodeUnits}

theorem driveShaped_of_head (first : p.head? = some slash) : driveShaped p = false := by
  obtain ⟨rest, rfl⟩ := List.head?_eq_some_iff.mp first
  cases rest with
  | nil => rfl
  | cons d rest => rfl

theorem isAbsolute_of_slash {platform : Platform} (first : p.head? = some slash) : isAbsolute platform p = true :=
  isAbsolute_of_head first rfl fun _ => rfl

theorem PosixAbsolute.isWindowsStyle (posixRoots : ∀ r ∈ given, PosixAbsolute r) (posix : PosixAbsolute input) :
    isWindowsStyle given input = false := by
  have none : (given.any fun r => driveShaped r || r.contains backslash) = false := by
    refine List.any_eq_false.mpr fun r listed => ?_
    have plain := (posixRoots r listed).plain
    simp [driveShaped_of_head (posixRoots r listed).rooted, plain]
  rw [isWindowsStyle_free posix.plain, none, driveShaped_of_head posix.rooted]
  rfl

theorem withoutTrailing_append (p : CodeUnits) : ∃ n, p = withoutTrailing p ++ List.replicate n slash := by
  have slashes : ∀ c ∈ (p.reverse.takeWhile fun c => c = slash).reverse, c = slash := by
    intro c listed
    have same := List.mem_takeWhile_imp (List.mem_reverse.mp listed)
    exact of_decide_eq_true same
  have turned : p.reverse = p.reverse.takeWhile (fun c => c = slash) ++ p.reverse.dropWhile fun c => c = slash :=
    List.takeWhile_append_dropWhile.symm
  refine ⟨(p.reverse.takeWhile fun c => c = slash).reverse.length, ?_⟩
  rw [← List.eq_replicate_of_mem slashes, withoutTrailing, ← List.reverse_append, ← turned, List.reverse_reverse]

theorem mem_roots : root ∈ roots given ↔ root ≠ [] ∧ ∃ r ∈ given, withoutTrailing (slashed r) = root := by
  rw [roots, List.mem_mergeSort, List.mem_filter, List.mem_map, decide_eq_true_iff, and_comm]

theorem resolve_replicate {above : Bool} (p : CodeUnits) (n : Nat) :
    PosixPath.resolve slash dot above (p ++ List.replicate n slash) = PosixPath.resolve slash dot above p := by
  induction n with
  | zero => rw [List.replicate_zero, List.append_nil]
  | succ n ih => rw [List.replicate_succ', ← List.append_assoc, PosixPath.resolve_concat_slash, ih]

theorem resolve_withoutTrailing {above : Bool} (p : CodeUnits) :
    PosixPath.resolve slash dot above (withoutTrailing p) = PosixPath.resolve slash dot above p := by
  obtain ⟨n, shape⟩ := withoutTrailing_append p
  conv_rhs => rw [shape, resolve_replicate]

theorem climbs_withoutLeading {depth : Nat} (p : CodeUnits) :
    PosixPath.climbs dot depth ((withoutLeading p).splitOn slash) = PosixPath.climbs dot depth (p.splitOn slash) := by
  induction p with
  | nil => rfl
  | cons c rest ih =>
    rw [withoutLeading, List.dropWhile_cons]
    split
    · rename_i same
      rw [of_decide_eq_true same, PosixPath.climbs_slash_cons]
      exact ih
    · rfl

theorem leadsUp_iff (relative : p.head? ≠ some slash) :
    LeadsUp (withoutHere (PosixPath.normalize slash dot p)) ↔ PosixPath.climbs dot 0 (p.splitOn slash) = true := by
  have first := PosixPath.head_splitOn_normalize slash_ne_dot relative
  rw [← PosixPath.head_resolve_iff]
  by_cases named : PosixPath.normalize slash dot p = [dot, slash]
  · rw [named] at first ⊢
    refine iff_of_false (by decide) fun up => ?_
    rw [up] at first
    exact absurd first (by decide)
  · rw [withoutHere_normalize named, LeadsUp, first]
    cases PosixPath.resolve slash dot true p with
    | nil => decide
    | cons segment rest => rfl

theorem not_leadsUp_of_head (first : p.head? = some slash) : ¬ LeadsUp p := by
  obtain ⟨rest, rfl⟩ := List.head?_eq_some_iff.mp first
  rw [LeadsUp, PosixPath.splitOn_slash_cons, List.head?_cons, Option.some.injEq]
  exact (List.cons_ne_nil _ _).symm

/-- Among POSIX paths the roots above an input are its textual prefixes. -/
theorem underRoot_iff (posixRoots : ∀ r ∈ given, PosixAbsolute r) (posix : PosixAbsolute input) :
    underRoot rt given input root = true ↔ input = root ∨ ∃ rest, input = root ++ slash :: rest := by
  rw [underRoot, posix.isWindowsStyle posixRoots, slashed_of_free posix.plain]
  simp only [fold, Bool.false_eq_true, if_false, Bool.or_eq_true, decide_eq_true_iff, List.isPrefixOf_iff_prefix]
  constructor
  · rintro (⟨rest, shape⟩ | same)
    · exact .inr ⟨rest, by rw [← shape, List.append_assoc]; rfl⟩
    · exact .inl same
  · rintro (same | ⟨rest, shape⟩)
    · exact .inr same
    · exact .inl ⟨rest, by rw [shape, List.append_assoc]; rfl⟩

theorem below_of_underRoot (posixRoots : ∀ r ∈ given, PosixAbsolute r) (posix : PosixAbsolute input)
    (under : underRoot rt given input root = true)
    (stays : PosixPath.climbs dot 0 ((input.drop root.length).splitOn slash) = false) :
    PosixPath.Below slash dot root input := by
  rcases (underRoot_iff posixRoots posix).mp under with rfl | ⟨rest, rfl⟩
  · exact List.prefix_rfl
  · rw [List.drop_left, PosixPath.climbs_slash_cons] at stays
    rw [PosixPath.Below, PosixPath.resolve_append stays]
    exact List.prefix_append _ _

/-- Where a root is found, what it leaves is looked at below it. -/
theorem remaining_found (posix : PosixAbsolute input) (found : (roots given).find? (underRoot rt given input) = some root) :
    remaining rt given input = .ok (withoutLeading (input.drop root.length)) := by
  have rooted : roots given ≠ [] := List.ne_nil_of_mem (List.mem_of_find?_eq_some found)
  rw [remaining, if_pos ⟨rooted, by rw [isAbsolute_of_slash posix.rooted, Bool.true_or]⟩, found, slashed_of_free posix.plain]

/-- Where roots are given and none is kept, every root is the file system's own. -/
theorem below_of_no_roots (nonempty : given ≠ []) (posixRoots : ∀ r ∈ given, PosixAbsolute r) (bare : roots given = []) :
    ∃ r ∈ given, PosixPath.Below slash dot r input := by
  obtain ⟨r, others, rfl⟩ := List.exists_cons_of_ne_nil nonempty
  refine ⟨r, List.mem_cons_self, ?_⟩
  have empty : withoutTrailing (slashed r) = [] := by
    by_contra named
    have listed : withoutTrailing (slashed r) ∈ roots (r :: others) :=
      mem_roots.mpr ⟨named, r, List.mem_cons_self, rfl⟩
    rw [bare] at listed
    cases listed
  rw [slashed_of_free (posixRoots r List.mem_cons_self).plain] at empty
  rw [PosixPath.Below, ← resolve_withoutTrailing, empty]
  exact List.nil_prefix

/-- Where roots are kept and none is found, there is no key. -/
theorem normalizePath_unrooted (posix : PosixAbsolute input) (rooted : roots given ≠ [])
    (missed : (roots given).find? (underRoot rt given input) = none) :
    normalizePath rt given input = .error (outsideMessage given input) := by
  have absolute : (isAbsolute rt.platform input || driveShaped input) = true := by
    rw [isAbsolute_of_slash posix.rooted, Bool.true_or]
  rw [normalizePath, remaining, if_pos ⟨rooted, absolute⟩, missed]

theorem normalizePath_found (posixRoots : ∀ r ∈ given, PosixAbsolute r) (posix : PosixAbsolute input)
    (found : (roots given).find? (underRoot rt given input) = some root) :
    normalizePath rt given input =
      .ok (withoutHere (PosixPath.normalize slash dot (withoutLeading (input.drop root.length)))) := by
  rw [normalizePath_eq (remaining_found posix found), posix.isWindowsStyle posixRoots]
  rfl

/-- The key of a path that no root is kept for begins where the path does. -/
theorem normalizePath_bare (rt : PathRuntime) (posixRoots : ∀ r ∈ given, PosixAbsolute r) (posix : PosixAbsolute input)
    (bare : roots given = []) :
    ∃ key, normalizePath rt given input = .ok key ∧ key.head? = some slash := by
  have left : remaining rt given input = .ok input := by
    rw [remaining, if_neg fun both => both.1 bare, slashed_of_free posix.plain]
  have first := (PosixPath.normalize_head slash_ne_dot input).mpr posix.rooted
  refine ⟨_, normalizePath_eq left, ?_⟩
  rw [posix.isWindowsStyle posixRoots, fold, if_neg Bool.false_ne_true, withoutHere_normalize]
  · exact first
  · intro named
    rw [named] at first
    exact absurd first (by decide)

theorem outsideRejected_iff (rt : PathRuntime) (given : List CodeUnits) (input : CodeUnits) (nonempty : given ≠ [])
    (posixRoots : ∀ r ∈ given, PosixAbsolute r) (posix : PosixAbsolute input) :
    OutsideRejected rt given input ↔ StaysInside rt given input := by
  constructor
  · intro holds root found
    by_contra climbs
    refine holds.inside _ (normalizePath_found posixRoots posix found) ((leadsUp_iff (withoutLeading_head _)).mpr ?_)
    rw [climbs_withoutLeading]
    exact eq_true_of_ne_false climbs
  · intro stays
    refine ⟨fun outside => ?_, fun key ok up => ?_⟩
    · have rooted : roots given ≠ [] := by
        intro bare
        obtain ⟨r, listed, below⟩ := below_of_no_roots nonempty posixRoots bare
        exact outside r listed below
      cases found : (roots given).find? (underRoot rt given input) with
      | none => exact ⟨_, normalizePath_unrooted posix rooted found⟩
      | some root =>
        obtain ⟨-, r, listed, rfl⟩ := mem_roots.mp (List.mem_of_find?_eq_some found)
        have below := below_of_underRoot posixRoots posix (List.find?_some found) (stays _ found)
        rw [PosixPath.Below, resolve_withoutTrailing, slashed_of_free (posixRoots r listed).plain] at below
        exact absurd below (outside r listed)
    · by_cases bare : roots given = []
      · obtain ⟨key', ok', first⟩ := normalizePath_bare rt posixRoots posix bare
        rw [ok] at ok'
        cases ok'
        exact not_leadsUp_of_head first up
      · cases found : (roots given).find? (underRoot rt given input) with
        | none =>
          rw [normalizePath_unrooted posix bare found] at ok
          cases ok
        | some root =>
          rw [normalizePath_found posixRoots posix found] at ok
          cases ok
          rw [leadsUp_iff (withoutLeading_head _), climbs_withoutLeading, stays root found] at up
          exact Bool.false_ne_true up

/-- `/repo/src/../a.ts` below `/repo`. -/
theorem outsideRejected_src :
    StaysInside (asciiRuntime .posix) [units "/repo"] (units "/repo/src/../a.ts") ∧
      OutsideRejected (asciiRuntime .posix) [units "/repo"] (units "/repo/src/../a.ts") := by
  have stays : StaysInside (asciiRuntime .posix) [units "/repo"] (units "/repo/src/../a.ts") := by
    intro root found
    have first : (roots [units "/repo"]).find?
        (underRoot (asciiRuntime .posix) [units "/repo"] (units "/repo/src/../a.ts")) = some (units "/repo") := by
      decide +kernel
    rw [first, Option.some.injEq] at found
    rw [← found]
    decide +kernel
  refine ⟨stays, (outsideRejected_iff (asciiRuntime .posix) [units "/repo"] (units "/repo/src/../a.ts")
    (by decide +kernel) ?_ ⟨by decide +kernel, by decide +kernel⟩).mpr stays⟩
  rintro r listed
  rw [List.mem_singleton.mp listed]
  exact ⟨by decide +kernel, by decide +kernel⟩

/-- `/repo/../etc/passwd` begins with `/repo/`, so its key is `../etc/passwd`. -/
theorem not_outsideRejected : ¬ ∀ (rt : PathRuntime) (given : List CodeUnits) (input : CodeUnits), given ≠ [] →
    (∀ r ∈ given, PosixAbsolute r) → PosixAbsolute input → OutsideRejected rt given input := by
  intro always
  have holds := always (asciiRuntime .posix) [units "/repo"] (units "/repo/../etc/passwd") (by decide +kernel)
    (fun r listed => by rw [List.mem_singleton.mp listed]; exact ⟨by decide +kernel, by decide +kernel⟩)
    ⟨by decide +kernel, by decide +kernel⟩
  have outside : ∀ root ∈ [units "/repo"], ¬ PosixPath.Below slash dot root (units "/repo/../etc/passwd") := by
    intro root listed
    rw [List.mem_singleton.mp listed, PosixPath.Below]
    decide +kernel
  have key : normalizePath (asciiRuntime .posix) [units "/repo"] (units "/repo/../etc/passwd") =
      .ok (units "../etc/passwd") := by
    decide +kernel
  obtain ⟨message, thrown⟩ := holds.rejected outside
  rw [key] at thrown
  cases thrown

theorem slashed_append (p q : CodeUnits) : slashed (p ++ slash :: q) = slashed p ++ slash :: slashed q := by
  rw [slashed, List.map_append, List.map_cons]
  rfl

theorem driveShaped_append (p q : CodeUnits) : driveShaped (p ++ slash :: q) = driveShaped p := by
  match p with
  | [] => exact driveShaped_of_head rfl
  | [c] =>
    have apart : decide (slash = colon) = false := by decide
    show (isLetter c && decide (slash = colon)) = false
    rw [apart, Bool.and_false]
  | c :: d :: rest => rfl

/-- Behind a first character, what follows decides nothing that `driveShaped` does not. -/
theorem absolute_append (nonempty : p ≠ []) (platform : Platform) (q : CodeUnits) :
    (isAbsolute platform (p ++ slash :: q) || driveShaped (p ++ slash :: q)) =
      (isAbsolute platform p || driveShaped p) := by
  rw [driveShaped_append]
  match platform, p with
  | .posix, c :: rest => rfl
  | .win32, [c] =>
    cases q with
    | nil => rfl
    | cons d q =>
      have apart : decide (slash = colon) = false := by decide
      show ((isSeparator c || (isLetter c && decide (slash = colon) && isSeparator d)) || false) = (isSeparator c || false)
      rw [apart, Bool.and_false, Bool.false_and, Bool.or_false]
  | .win32, [c, d] =>
    show ((isSeparator c || (isLetter c && decide (d = colon) && true)) || (isLetter c && decide (d = colon))) =
      (isSeparator c || (isLetter c && decide (d = colon)))
    rw [Bool.and_true, Bool.or_assoc, Bool.or_self]
  | .win32, c :: d :: e :: rest => rfl

theorem RelativePath.notAbsolute (relative : RelativePath r) (platform : Platform) : isAbsolute platform r = false := by
  by_contra absolute
  have rooted : ∀ c rest, r = c :: rest → isSeparator c = true → False := by
    rintro c rest rfl sep
    have either : c = slash ∨ c = backslash := by simpa [isSeparator] using sep
    exact relative.leading (slashed_head.mpr (either.imp (congrArg some) (congrArg some)))
  have absolute := eq_true_of_ne_false absolute
  have driveless := relative.driveless
  cases platform with
  | posix =>
    cases r with
    | nil => cases absolute
    | cons c rest =>
      have first : c = slash := Option.some.inj (of_decide_eq_true absolute)
      exact rooted c rest rfl (by rw [first]; rfl)
  | win32 =>
    cases r with
    | nil => cases absolute
    | cons c rest =>
      cases rest with
      | nil => exact rooted c [] rfl absolute
      | cons d rest =>
        cases rest with
        | nil => exact rooted c [d] rfl absolute
        | cons e rest =>
          have letter : (isLetter c && decide (d = colon)) = false := driveless
          have sep : (isSeparator c || (isLetter c && decide (d = colon) && isSeparator e)) = true := absolute
          rw [letter, Bool.false_and, Bool.or_false] at sep
          exact rooted c (d :: e :: rest) rfl sep

/-- A root is Windows-shaped or not, whatever is below it. -/
theorem isWindowsStyle_append (listed : R ∈ given) (driveless : driveShaped r = false) :
    isWindowsStyle given (R ++ slash :: r) = isWindowsStyle given r := by
  by_cases windows : (given.any fun r => driveShaped r || r.contains backslash) = true
  · rw [isWindowsStyle_of_roots windows, isWindowsStyle_of_roots windows]
  · have shaped : (driveShaped R || R.contains backslash) = false := by
      by_contra shaped
      exact windows (List.any_eq_true.mpr ⟨R, listed, eq_true_of_ne_false shaped⟩)
    obtain ⟨notDrive, plain⟩ := Bool.or_eq_false_iff.mp shaped
    have behind : (R ++ slash :: r).contains backslash = r.contains backslash := by
      have apart : (backslash == slash) = false := by decide
      rw [List.contains_append, plain, List.contains_cons, apart, Bool.false_or, Bool.false_or]
    rw [isWindowsStyle, isWindowsStyle, driveShaped_append, notDrive, driveless, behind]

theorem normalizePath_relative (relative : RelativePath r) :
    normalizePath rt given r =
      .ok (fold rt (isWindowsStyle given r) (withoutHere (PosixPath.normalize slash dot (slashed r)))) := by
  refine normalizePath_eq ?_
  rw [remaining, if_neg fun both => ?_]
  rw [relative.notAbsolute, relative.driveless] at both
  exact Bool.false_ne_true both.2

theorem withoutLeading_replicate (n : Nat) (relative : p.head? ≠ some slash) :
    withoutLeading (List.replicate n slash ++ p) = p := by
  induction n with
  | zero =>
    cases p with
    | nil => rfl
    | cons c rest => exact List.dropWhile_cons_of_neg fun same => relative (congrArg some (of_decide_eq_true same))
  | succ n ih => exact (List.dropWhile_cons_of_pos (by decide)).trans ih

/-- `R` itself is found above `R/r`. -/
theorem underRoot_self (rt : PathRuntime) (given : List CodeUnits) (R r : CodeUnits) :
    underRoot rt given (R ++ slash :: r) (withoutTrailing (slashed R)) = true := by
  obtain ⟨n, shape⟩ := withoutTrailing_append (slashed R)
  have front : ∃ rest, slashed (R ++ slash :: r) = withoutTrailing (slashed R) ++ slash :: rest := by
    rw [slashed_append]
    cases n with
    | zero => exact ⟨slashed r, by conv_lhs => rw [shape, List.replicate_zero, List.append_nil]⟩
    | succ n =>
      refine ⟨List.replicate n slash ++ slash :: slashed r, ?_⟩
      conv_lhs => rw [shape, List.replicate_succ, List.append_assoc, List.cons_append]
  obtain ⟨rest, front⟩ := front
  simp only [underRoot, front, Bool.or_eq_true, List.isPrefixOf_iff_prefix]
  left
  rw [fold, fold]
  split
  · rw [rt.folding.rewriting.split]
    exact ⟨rt.toLowerCase rest, by rw [List.append_assoc]; rfl⟩
  · exact ⟨rest, by rw [List.append_assoc]; rfl⟩

/-- The roots stand by length, so the first that is found is as long as `R`. -/
theorem find_root (listed : R ∈ given) (named : withoutTrailing (slashed R) ≠ []) (longest : NoLongerRoot rt given R r) :
    ∃ root, (roots given).find? (underRoot rt given (R ++ slash :: r)) = some root ∧
      root.length = (withoutTrailing (slashed R)).length := by
  have kept : withoutTrailing (slashed R) ∈ roots given := mem_roots.mpr ⟨named, R, listed, rfl⟩
  obtain ⟨root, found⟩ := Option.isSome_iff_exists.mp
    (List.find?_isSome.mpr ⟨_, kept, underRoot_self rt given R r⟩)
  refine ⟨root, found, Nat.le_antisymm ?_ ?_⟩
  · by_contra longer
    have missed := longest root (List.mem_of_find?_eq_some found) (Nat.lt_of_not_le longer)
    rw [List.find?_some found] at missed
    cases missed
  · obtain ⟨-, before, after, order, earlier⟩ := List.find?_eq_some_iff_append.mp found
    have sorted : (roots given).Pairwise fun a b => decide (b.length ≤ a.length) = true :=
      List.pairwise_mergeSort (fun a b c first second => by simp only [decide_eq_true_iff] at *; omega)
        (fun a b => by simp only [Bool.or_eq_true, decide_eq_true_iff]; omega) _
    rw [order] at kept sorted
    rcases List.mem_append.mp kept with front | back
    · have missed := earlier _ front
      rw [underRoot_self] at missed
      cases missed
    · rcases List.mem_cons.mp back with same | back
      · rw [same]
      · exact of_decide_eq_true ((List.pairwise_cons.mp (List.pairwise_append.mp sorted).2.1).1 _ back)

/-- A root read as one is taken off. -/
theorem normalizePath_under (listed : R ∈ given) (named : withoutTrailing (slashed R) ≠ [])
    (absolute : (isAbsolute rt.platform R || driveShaped R) = true) (longest : NoLongerRoot rt given R r)
    (relative : RelativePath r) : normalizePath rt given (R ++ slash :: r) = normalizePath rt given r := by
  obtain ⟨root, found, length⟩ := find_root listed named longest
  obtain ⟨n, shape⟩ := withoutTrailing_append (slashed R)
  have nonempty : R ≠ [] := by
    rintro rfl
    exact named rfl
  have left : remaining rt given (R ++ slash :: r) = .ok (slashed r) := by
    have behind : (slashed (R ++ slash :: r)).drop root.length = List.replicate (n + 1) slash ++ slashed r := by
      have cut : slashed R ++ slash :: slashed r =
          withoutTrailing (slashed R) ++ (List.replicate (n + 1) slash ++ slashed r) := by
        conv_lhs => rw [shape, List.append_assoc]
        rw [List.replicate_succ', List.append_assoc]
        rfl
      rw [slashed_append, cut, length, List.drop_left]
    rw [remaining, if_pos ⟨List.ne_nil_of_mem (List.mem_of_find?_eq_some found), by rwa [absolute_append nonempty]⟩,
      found]
    show Except.ok (withoutLeading ((slashed (R ++ slash :: r)).drop root.length)) = _
    rw [behind, withoutLeading_replicate _ relative.leading]
  rw [normalizePath_eq left, isWindowsStyle_append listed relative.driveless, normalizePath_relative relative]

theorem withoutHere_ups (relative : p.head? ≠ some slash) :
    PosixPath.ups slash dot (withoutHere (PosixPath.normalize slash dot p)) = PosixPath.ups slash dot p ∧
      PosixPath.downs slash dot (withoutHere (PosixPath.normalize slash dot p)) = PosixPath.downs slash dot p := by
  have same := PosixPath.resolve_normalize slash_ne_dot relative
  by_cases named : PosixPath.normalize slash dot p = [dot, slash]
  · have empty : PosixPath.resolve slash dot true p = [] := by
      rw [← same, named]
      decide
    rw [named, PosixPath.ups, PosixPath.downs, PosixPath.ups, PosixPath.downs, empty]
    decide
  · rw [withoutHere_normalize named, PosixPath.ups, PosixPath.downs, same]
    exact ⟨rfl, rfl⟩

theorem fold_ups (rt : PathRuntime) (windows : Bool) (p : CodeUnits) :
    PosixPath.ups slash dot (fold rt windows p) = PosixPath.ups slash dot p ∧
    PosixPath.downs slash dot (fold rt windows p) = PosixPath.downs slash dot p := by
  rw [fold]
  split
  · exact ⟨rt.folding.rewriting.ups_map p, rt.folding.rewriting.downs_map p⟩
  · exact ⟨rfl, rfl⟩

/-- Two relative paths with one key climb and fall alike. -/
theorem ups_of_key {q : CodeUnits} {windows : Bool} (relative : p.head? ≠ some slash) (relative' : q.head? ≠ some slash)
    (same : fold rt windows (withoutHere (PosixPath.normalize slash dot p)) =
      fold rt windows (withoutHere (PosixPath.normalize slash dot q))) :
    PosixPath.ups slash dot p = PosixPath.ups slash dot q ∧ PosixPath.downs slash dot p = PosixPath.downs slash dot q := by
  obtain ⟨upsP, downsP⟩ := withoutHere_ups relative
  obtain ⟨upsQ, downsQ⟩ := withoutHere_ups relative'
  obtain ⟨foldedUpsP, foldedDownsP⟩ := fold_ups rt windows (withoutHere (PosixPath.normalize slash dot p))
  obtain ⟨foldedUpsQ, foldedDownsQ⟩ := fold_ups rt windows (withoutHere (PosixPath.normalize slash dot q))
  rw [same] at foldedUpsP foldedDownsP
  omega

/-- What stands in front of a relative path shows in its key, unless it leads back. -/
theorem key_behind_iff {q : CodeUnits} {windows : Bool} (nonempty : p ≠ []) (relative : p.head? ≠ some slash)
    (relative' : q.head? ≠ some slash) :
    fold rt windows (withoutHere (PosixPath.normalize slash dot (p ++ slash :: q))) =
        fold rt windows (withoutHere (PosixPath.normalize slash dot q)) ↔
      q ≠ [] ∧ PosixPath.ups slash dot p = PosixPath.downs slash dot p ∧
        PosixPath.downs slash dot p ≤ PosixPath.ups slash dot q := by
  have front : (p ++ slash :: q).head? ≠ some slash := by rwa [List.head?_append_of_ne_nil _ nonempty]
  obtain ⟨climbed, fallen, back⟩ := PosixPath.resolve_behind slash dot p q
  constructor
  · intro same
    obtain ⟨upsSame, downsSame⟩ := ups_of_key front relative' same
    have level : PosixPath.ups slash dot p = PosixPath.downs slash dot p := by omega
    have high : PosixPath.downs slash dot p ≤ PosixPath.ups slash dot q := by omega
    refine ⟨?_, level, high⟩
    rintro rfl
    -- the slash that is left behind the root turns `.` into the empty key
    have empty : PosixPath.resolve slash dot true (p ++ [slash]) = [] := back level high
    have bare : PosixPath.normalize slash dot (p ++ [slash]) = [dot, slash] := by
      have lead : decide ((p ++ [slash]).head? = some slash) = false := decide_eq_false front
      have trail : decide ((p ++ [slash]).getLast? = some slash) = true := decide_eq_true List.getLast?_concat
      rw [PosixPath.normalize, if_neg (by simp)]
      simp only [lead, trail, Bool.not_false, empty]
      decide
    have here : PosixPath.normalize slash dot [] = [dot] := rfl
    have short : fold rt windows [] = fold rt windows [dot] := by
      rw [bare, here] at same
      exact same
    rw [fold_nil, fold_dot] at short
    cases short
  · rintro ⟨some, level, high⟩
    have last : (p ++ slash :: q).getLast? = q.getLast? := by
      rw [List.getLast?_append_of_ne_nil _ (List.cons_ne_nil _ _), List.getLast?_cons_of_ne_nil some]
    rw [PosixPath.normalize_congr (by simp) some front relative' (by rw [last]) (back level high)]

/-- A path that begins with a slash has a key that does, or loses a root. -/
theorem normalizePath_rooted_ne (relative : RelativePath r) (first : (slashed p).head? = some slash)
    (left : ∀ out, remaining rt given p = .ok out → out = slashed p) : normalizePath rt given p ≠ normalizePath rt given r := by
  rw [normalizePath_relative relative]
  intro same
  obtain ⟨out, found, shape⟩ := remaining_of_ok same
  have keyHead : ∀ windows, (fold rt windows (withoutHere (PosixPath.normalize slash dot (slashed p)))).head? =
      some slash := by
    intro windows
    have normalHead := (PosixPath.normalize_head slash_ne_dot (slashed p)).mpr first
    rw [fold_head, withoutHere_normalize]
    · exact normalHead
    · intro named
      rw [named] at normalHead
      exact absurd normalHead (by decide)
  have folded := keyHead (isWindowsStyle given p)
  rw [← left out found, ← shape, fold_head] at folded
  exact withoutHere_head relative.leading folded

/-- Whether a root's own spelling of a path has the key of the relative one. -/
theorem normalizePath_append_iff (listed : R ∈ given) (longest : NoLongerRoot rt given R r) (relative : RelativePath r) :
    normalizePath rt given (R ++ slash :: r) = normalizePath rt given r ↔ RootRead rt R r := by
  by_cases named : withoutTrailing (slashed R) = []
  · refine iff_of_false ?_ fun read => read.1 named
    obtain ⟨n, shape⟩ := withoutTrailing_append (slashed R)
    rw [named, List.nil_append] at shape
    have first : (slashed (R ++ slash :: r)).head? = some slash := by
      rw [slashed_append, shape]
      cases n with
      | zero => rfl
      | succ n => rfl
    refine normalizePath_rooted_ne relative first fun out found => ?_
    rw [remaining] at found
    split at found
    · have missed : (roots given).find? (underRoot rt given (R ++ slash :: r)) = none := by
        refine List.find?_eq_none.mpr fun root kept under => ?_
        have longer := longest root kept (by rw [named]; exact List.length_pos_iff.mpr (roots_ne_nil kept))
        rw [longer] at under
        cases under
      rw [missed] at found
      cases found
    · exact (Except.ok.inj found).symm
  · have nonempty : R ≠ [] := by
      rintro rfl
      exact named rfl
    by_cases absolute : (isAbsolute rt.platform R || driveShaped R) = true
    · exact iff_of_true (normalizePath_under listed named absolute longest relative) ⟨named, .inl absolute⟩
    · have left : remaining rt given (R ++ slash :: r) = .ok (slashed (R ++ slash :: r)) := by
        rw [remaining, if_neg fun both => absolute (by rw [← absolute_append nonempty]; exact both.2)]
      by_cases first : (slashed R).head? = some slash
      · have nonempty' : slashed R ≠ [] := fun none => nonempty (List.map_eq_nil_iff.mp none)
        have front : (slashed (R ++ slash :: r)).head? = some slash := by
          rwa [slashed_append, List.head?_append_of_ne_nil _ nonempty']
        refine iff_of_false (normalizePath_rooted_ne relative front fun out found => ?_) ?_
        · rw [left] at found
          exact (Except.ok.inj found).symm
        · rintro ⟨-, read | ⟨elsewhere, -⟩⟩
          · exact absolute read
          · exact elsewhere first
      · have nonempty' : slashed R ≠ [] := fun none => nonempty (List.map_eq_nil_iff.mp none)
        have empty : slashed r ≠ [] ↔ r ≠ [] := not_congr List.map_eq_nil_iff
        rw [normalizePath_eq left, normalizePath_relative relative, isWindowsStyle_append listed relative.driveless,
          Except.ok.injEq, slashed_append, key_behind_iff nonempty' first relative.leading, empty, RootRead]
        exact ⟨fun read => ⟨named, .inr ⟨first, read⟩⟩, fun read => (read.2.resolve_left absolute).2⟩

theorem spellingsAgree_iff (rt : PathRuntime) (given : List CodeUnits) (r : CodeUnits) (relative : RelativePath r) :
    SpellingsAgree rt given r ↔ ∀ R ∈ given, NoLongerRoot rt given R r → RootRead rt R r := by
  constructor
  · intro agree R listed longest
    exact (normalizePath_append_iff listed longest relative).mp (agree.relative R listed longest)
  · intro read
    have same : ∀ R ∈ given, NoLongerRoot rt given R r →
        normalizePath rt given (R ++ slash :: r) = normalizePath rt given r := by
      intro R listed longest
      exact (normalizePath_append_iff listed longest relative).mpr (read R listed longest)
    refine ⟨same, fun R1 listed1 R2 listed2 longest1 longest2 => ?_⟩
    rw [same R1 listed1 longest1, same R2 listed2 longest2]

/-- `src/A.ts` below the checkout `C:\Repo` and its worktree `C:\Repo\wt`. -/
theorem spellingsAgree_worktree :
    RootRead (asciiRuntime .posix) (units "C:\\Repo\\wt") (units "src/A.ts") ∧
      SpellingsAgree (asciiRuntime .posix) [units "C:\\Repo", units "C:\\Repo\\wt"] (units "src/A.ts") := by
  have read : ∀ R ∈ [units "C:\\Repo", units "C:\\Repo\\wt"], RootRead (asciiRuntime .posix) R (units "src/A.ts") :=
    List.forall_mem_cons.mpr ⟨⟨by decide +kernel, .inl (by decide +kernel)⟩,
      List.forall_mem_singleton.mpr ⟨by decide +kernel, .inl (by decide +kernel)⟩⟩
  refine ⟨read _ (List.mem_cons_of_mem _ List.mem_cons_self), ?_⟩
  exact (spellingsAgree_iff (asciiRuntime .posix) _ (units "src/A.ts") ⟨by decide +kernel, by decide +kernel⟩).mpr
    fun R listed _ => read R listed

/-- On POSIX a share is no absolute path, so that its files keep it in their keys. -/
theorem not_spellingsAgree : ¬ ∀ (rt : PathRuntime) (given : List CodeUnits) (r : CodeUnits), RelativePath r →
    SpellingsAgree rt given r := by
  intro always
  have agree := always (asciiRuntime .posix) [units "\\\\server\\share"] (units "src/a.ts")
    ⟨by decide +kernel, by decide +kernel⟩
  have same := agree.relative _ List.mem_cons_self (by
    intro root listed longer
    have only : roots [units "\\\\server\\share"] = [units "//server/share"] := by decide +kernel
    rw [only, List.mem_singleton] at listed
    rw [listed] at longer
    exact absurd longer (by decide +kernel))
  have absolute : normalizePath (asciiRuntime .posix) [units "\\\\server\\share"]
      (units "\\\\server\\share" ++ slash :: units "src/a.ts") = .ok (units "/server/share/src/a.ts") := by
    decide +kernel
  have relative : normalizePath (asciiRuntime .posix) [units "\\\\server\\share"] (units "src/a.ts") =
      .ok (units "src/a.ts") := by
    decide +kernel
  rw [absolute, relative, Except.ok.injEq] at same
  exact absurd same (by decide +kernel)

end PathNormalize
end Coordinator
