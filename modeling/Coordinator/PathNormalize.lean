import Mathlib.Data.List.Sort
import Coordinator.Library.PosixPath

namespace Coordinator
namespace PathNormalize

/-- A JavaScript string. -/
abbrev CodeUnits : Type := List UInt16

instance : LawfulBEq CodeUnits := inferInstance

def slash : UInt16 := 47

def backslash : UInt16 := 92

def dot : UInt16 := 46

def colon : UInt16 := 58

def units (text : String) : CodeUnits :=
  text.toList.flatMap fun c =>
    if c.toNat < 0x10000 then [UInt16.ofNat c.toNat]
    else [UInt16.ofNat (0xD800 + (c.toNat - 0x10000) / 0x400), UInt16.ofNat (0xDC00 + c.toNat % 0x400)]

inductive Platform
  | posix
  | win32
  deriving DecidableEq

/-- What `toLowerCase` promises of a path: it folds the segments between slashes each for itself, makes no
separator and no dot segment, leaves folded text alone, and so every end of it. -/
structure CaseFolding (lower : CodeUnits → CodeUnits) : Prop where
  rewriting : PosixPath.Rewriting slash dot lower
  idem : ∀ s, lower (lower s) = lower s
  backslash_free : ∀ s, backslash ∉ s → backslash ∉ lower s
  suffix : ∀ s t, lower s = s → t <:+ s → lower t = t

structure PathRuntime where
  platform : Platform
  toLowerCase : CodeUnits → CodeUnits
  folding : CaseFolding toLowerCase

def isLetter (c : UInt16) : Bool := (65 ≤ c && c ≤ 90) || (97 ≤ c && c ≤ 122)

/-- `/^[a-zA-Z]:/`. -/
def driveShaped : CodeUnits → Bool
  | c :: d :: _ => isLetter c && d = colon
  | _ => false

def isSeparator (c : UInt16) : Bool := c = slash || c = backslash

/-- `path.isAbsolute`. -/
def isAbsolute : Platform → CodeUnits → Bool
  | .posix, p => p.head? = some slash
  | .win32, c :: d :: e :: _ => isSeparator c || (isLetter c && d = colon && isSeparator e)
  | .win32, c :: _ => isSeparator c
  | .win32, [] => false

/-- `.replace(/\\/g, "/")`. -/
def slashed (p : CodeUnits) : CodeUnits := p.map fun c => if c = backslash then slash else c

/-- `.replace(/\/+$/, "")`. -/
def withoutTrailing (p : CodeUnits) : CodeUnits := (p.reverse.dropWhile fun c => c = slash).reverse

/-- `.replace(/^\/+/, "")`. -/
def withoutLeading (p : CodeUnits) : CodeUnits := p.dropWhile fun c => c = slash

/-- `.replace(/^\.\//, "")`. -/
def withoutHere (p : CodeUnits) : CodeUnits := if [dot, slash].isPrefixOf p then p.drop 2 else p

/-- The longest roots first. -/
def roots (given : List CodeUnits) : List CodeUnits :=
  ((given.map fun r => withoutTrailing (slashed r)).filter fun r => r ≠ []).mergeSort fun a b => b.length ≤ a.length

def isWindowsStyle (given : List CodeUnits) (input : CodeUnits) : Bool :=
  (given.any fun r => driveShaped r || r.contains backslash) || driveShaped input || input.contains backslash

def outsideMessage (given : List CodeUnits) (input : CodeUnits) : CodeUnits :=
  units "path is outside repoRoot: " ++ input ++ units " (known roots: " ++ (units ", ").intercalate (roots given) ++
    units ("). Pass a repo-relative forward-slash path — that always works, including from " ++
      "a second worktree — or an absolute path under one of those roots. " ++
      "Worktrees come from `git worktree list`, so one created just now may take " ++
      "up to a minute to be recognised.")

/-- The case in which paths are compared and stored. -/
def fold (rt : PathRuntime) (windows : Bool) (p : CodeUnits) : CodeUnits := if windows then rt.toLowerCase p else p

def underRoot (rt : PathRuntime) (given : List CodeUnits) (input root : CodeUnits) : Bool :=
  let lowerP := fold rt (isWindowsStyle given input) (slashed input)
  let lowerRoot := fold rt (isWindowsStyle given input) root
  (lowerRoot ++ [slash]).isPrefixOf lowerP || lowerP = lowerRoot

/-- What is left of the input below its root. -/
def remaining (rt : PathRuntime) (given : List CodeUnits) (input : CodeUnits) : Except CodeUnits CodeUnits :=
  if roots given ≠ [] ∧ (isAbsolute rt.platform input || driveShaped input) then
    match (roots given).find? (underRoot rt given input) with
    | none => .error (outsideMessage given input)
    | some root => .ok (withoutLeading ((slashed input).drop root.length))
  else .ok (slashed input)

def normalizePath (rt : PathRuntime) (given : List CodeUnits) (input : CodeUnits) : Except CodeUnits CodeUnits :=
  match remaining rt given input with
  | .error message => .error message
  | .ok p => .ok (fold rt (isWindowsStyle given input) (withoutHere (PosixPath.normalize slash dot p)))

structure DeclaredPathRejection where
  path : CodeUnits
  message : CodeUnits

/-- The first path that has no key rejects them all. -/
def declaredKeys (rt : PathRuntime) (given : List CodeUnits) :
    List CodeUnits → Except DeclaredPathRejection (List CodeUnits)
  | [] => .ok []
  | p :: rest =>
    match normalizePath rt given p with
    | .error message => .error ⟨p, message⟩
    | .ok key => (declaredKeys rt given rest).map (key :: ·)

def normalizeDeclaredPaths (rt : PathRuntime) (given : List CodeUnits) (paths : Option (List CodeUnits)) :
    Except DeclaredPathRejection (List CodeUnits) :=
  declaredKeys rt given (paths.getD [])

/-- What is left of the input below its root has a normal form that reads as a relative path again. -/
structure KeepsKey (rt : PathRuntime) (given : List CodeUnits) (input left : CodeUnits) : Prop where
  named : PosixPath.normalize slash dot left ≠ [dot, slash]
  unrooted : roots given = [] → isWindowsStyle given input = false →
    driveShaped (PosixPath.normalize slash dot left) = true →
    rt.toLowerCase (PosixPath.normalize slash dot left) = PosixPath.normalize slash dot left
  rooted : roots given ≠ [] →
    driveShaped (fold rt (isWindowsStyle given input) (PosixPath.normalize slash dot left)) = false ∧
      ¬ (rt.platform = .posix ∧ input.head? = some backslash)

theorem slash_ne_dot : dot ≠ slash := by decide

theorem not_mem_slashed (p : CodeUnits) : backslash ∉ slashed p := by
  intro inside
  obtain ⟨c, -, changed⟩ := List.mem_map.mp inside
  split at changed
  · exact absurd changed (by decide)
  · rename_i other
    exact other changed

theorem slashed_of_free {p : CodeUnits} (free : backslash ∉ p) : slashed p = p := by
  have same : ∀ c ∈ p, (if c = backslash then slash else c) = id c := by
    intro c inside
    have other : c ≠ backslash := fun equal => free (by rw [← equal]; exact inside)
    rw [if_neg other, id]
  rw [slashed, List.map_congr_left same, List.map_id]

variable {rt : PathRuntime} {given : List CodeUnits} {input left p : CodeUnits} {windows : Bool}

theorem withoutHere_normalize (named : PosixPath.normalize slash dot p ≠ [dot, slash]) :
    withoutHere (PosixPath.normalize slash dot p) = PosixPath.normalize slash dot p := by
  refine if_neg fun begins => named ?_
  obtain ⟨rest, shape⟩ := List.isPrefixOf_iff_prefix.mp begins
  have none : rest = [] := PosixPath.normalize_dot_slash slash_ne_dot shape.symm
  rw [← shape, none]
  rfl

theorem fold_nil : fold rt windows [] = [] := by
  rw [fold]
  split
  · exact rt.folding.rewriting.map_nil
  · rfl

theorem fold_dot : fold rt windows [dot] = [dot] := by
  rw [fold]
  split
  · exact (rt.folding.rewriting.here [dot]).mpr rfl
  · rfl

theorem fold_free (free : backslash ∉ p) : backslash ∉ fold rt windows p := by
  rw [fold]
  split
  · exact rt.folding.backslash_free p free
  · exact free

theorem fold_head : (fold rt windows p).head? = some slash ↔ p.head? = some slash := by
  rw [fold]
  split
  · exact rt.folding.rewriting.head_map p
  · rfl

theorem normalize_fold :
    PosixPath.normalize slash dot (fold rt windows p) = fold rt windows (PosixPath.normalize slash dot p) := by
  rw [fold, fold]
  split
  · exact rt.folding.rewriting.normalize_map p
  · rfl

theorem remaining_free (ok : remaining rt given input = .ok left) : backslash ∉ left := by
  rw [remaining] at ok
  split at ok
  · split at ok
    · cases ok
    · cases ok
      intro inside
      exact not_mem_slashed input (List.mem_of_mem_drop ((List.dropWhile_sublist _).mem inside))
  · cases ok
    exact not_mem_slashed input

theorem fold_here : fold rt windows p = [dot, slash] ↔ p = [dot, slash] := by
  rw [fold]
  split
  · constructor
    · intro lowered
      have last : (rt.toLowerCase p).getLast? = some slash := by rw [lowered]; rfl
      obtain ⟨front, rfl⟩ := List.getLast?_eq_some_iff.mp ((rt.folding.rewriting.last_map p).mp last)
      rw [rt.folding.rewriting.map_concat_slash] at lowered
      have front_dot : rt.toLowerCase front = [dot] := List.append_cancel_right (lowered : _ = [dot] ++ [slash])
      rw [(rt.folding.rewriting.here front).mp front_dot]
      rfl
    · rintro rfl
      have here : rt.toLowerCase [dot] = [dot] := (rt.folding.rewriting.here [dot]).mpr rfl
      exact (rt.folding.rewriting.map_concat_slash [dot]).trans (congrArg (· ++ [slash]) here)
  · rfl

theorem driveShaped_length (drive : driveShaped p = true) : 2 ≤ p.length := by
  match p, drive with
  | _ :: _ :: _, _ => simp

theorem normalizePath_eq (found : remaining rt given input = .ok left) :
    normalizePath rt given input =
      .ok (fold rt (isWindowsStyle given input) (withoutHere (PosixPath.normalize slash dot left))) := by
  rw [normalizePath, found]

/-- A path that is neither absolute nor on a drive is not looked up below the roots. -/
theorem remaining_relative (free : backslash ∉ p)
    (relative : roots given ≠ [] → isAbsolute rt.platform p = false ∧ driveShaped p = false) :
    remaining rt given p = .ok p := by
  rw [remaining, if_neg, slashed_of_free free]
  rintro ⟨rooted, outside⟩
  obtain ⟨notAbsolute, notDrive⟩ := relative rooted
  rw [notAbsolute, notDrive] at outside
  cases outside

theorem isWindowsStyle_free (free : backslash ∉ p) :
    isWindowsStyle given p = ((given.any fun r => driveShaped r || r.contains backslash) || driveShaped p) := by
  have none : p.contains backslash = false := by simpa using free
  rw [isWindowsStyle, none, Bool.or_false]

theorem isWindowsStyle_of_roots (windows : (given.any fun r => driveShaped r || r.contains backslash) = true)
    (p : CodeUnits) :
    isWindowsStyle given p = true := by
  rw [isWindowsStyle, windows, Bool.true_or, Bool.true_or]

theorem head_of_isAbsolute {platform : Platform} (free : backslash ∉ p) (notDrive : driveShaped p = false)
    (absolute : isAbsolute platform p = true) : p.head? = some slash := by
  have separator : ∀ c ∈ p, isSeparator c = true → c = slash := by
    intro c inside sep
    have either : c = slash ∨ c = backslash := by simpa [isSeparator] using sep
    exact either.resolve_right fun equal => free (by rw [← equal]; exact inside)
  match platform, p with
  | .posix, _ => exact of_decide_eq_true absolute
  | .win32, [c] => rw [separator c List.mem_cons_self absolute]; rfl
  | .win32, [c, _] => rw [separator c List.mem_cons_self absolute]; rfl
  | .win32, c :: d :: e :: rest =>
    rcases Bool.or_eq_true_iff.mp absolute with sep | drive
    · rw [separator c List.mem_cons_self sep]
      rfl
    · have shaped : driveShaped (c :: d :: e :: rest) = true := (Bool.and_eq_true_iff.mp drive).1
      rw [notDrive] at shaped
      cases shaped

theorem isAbsolute_of_head {platform : Platform} {c : UInt16} (first : p.head? = some c) (sep : isSeparator c = true)
    (known : platform = .posix → c = slash) : isAbsolute platform p = true := by
  obtain ⟨rest, rfl⟩ := List.head?_eq_some_iff.mp first
  cases platform with
  | posix => exact decide_eq_true (by rw [known rfl]; rfl)
  | win32 =>
    match rest with
    | [] => exact sep
    | [_] => exact sep
    | _ :: _ :: _ => exact Bool.or_eq_true_iff.mpr (.inl sep)

theorem withoutLeading_head (p : CodeUnits) : (withoutLeading p).head? ≠ some slash := by
  intro first
  have kept := List.head?_dropWhile_not (fun c => c = slash) p
  rw [show p.dropWhile (fun c => c = slash) = withoutLeading p from rfl, first] at kept
  simp at kept

theorem roots_ne_nil {root : CodeUnits} (known : root ∈ roots given) : root ≠ [] :=
  of_decide_eq_true (List.mem_filter.mp (List.mem_mergeSort.mp known)).2

/-- An absolute path loses a root and the slashes behind it. -/
theorem remaining_absolute (rooted : roots given ≠ []) (outside : (isAbsolute rt.platform p || driveShaped p) = true)
    (found : remaining rt given p = .ok left) :
    ∃ root ∈ roots given, left = withoutLeading ((slashed p).drop root.length) := by
  rw [remaining, if_pos ⟨rooted, outside⟩] at found
  split at found
  · cases found
  · rename_i root first
    exact ⟨root, List.mem_of_find?_eq_some first, (Except.ok.inj found).symm⟩

theorem slashed_head : (slashed p).head? = some slash ↔ p.head? = some slash ∨ p.head? = some backslash := by
  cases p with
  | nil => simp [slashed]
  | cons c rest =>
    simp only [slashed, List.map_cons, List.head?_cons, Option.some.injEq]
    constructor
    · intro turned
      by_cases back : c = backslash
      · exact .inr back
      · rw [if_neg back] at turned
        exact .inl turned
    · rintro (rfl | rfl)
      · rfl
      · rfl

theorem backslash_relative (first : p.head? = some backslash) :
    isAbsolute .posix p = false ∧ driveShaped p = false := by
  obtain ⟨rest, rfl⟩ := List.head?_eq_some_iff.mp first
  refine ⟨rfl, ?_⟩
  cases rest with
  | nil => rfl
  | cons d rest => rfl

/-- Only on POSIX, and only by a leading backslash, does a path below roots stay absolute. -/
theorem remaining_head (rooted : roots given ≠ []) (found : remaining rt given input = .ok left) :
    left.head? = some slash ↔ rt.platform = .posix ∧ input.head? = some backslash := by
  by_cases outside : (isAbsolute rt.platform input || driveShaped input) = true
  · obtain ⟨root, -, rfl⟩ := remaining_absolute rooted outside found
    refine iff_of_false (withoutLeading_head _) ?_
    rintro ⟨posix, first⟩
    obtain ⟨notAbsolute, notDrive⟩ := backslash_relative first
    rw [posix, notAbsolute, notDrive] at outside
    cases outside
  · rw [remaining, if_neg fun both => outside both.2] at found
    cases found
    have inside : ¬ isAbsolute rt.platform input = true := fun absolute => outside (by rw [absolute, Bool.true_or])
    rw [slashed_head]
    constructor
    · rintro (first | first)
      · exact absurd (isAbsolute_of_head first rfl fun _ => rfl) inside
      · refine ⟨?_, first⟩
        by_contra windows
        exact inside (isAbsolute_of_head first rfl fun posix => absurd posix windows)
    · exact fun both => .inr both.2

theorem normalize_free (free : backslash ∉ p) : backslash ∉ PosixPath.normalize slash dot p := by
  intro inside
  rcases PosixPath.mem_normalize inside with sep | here | old
  · exact absurd sep (by decide)
  · exact absurd here (by decide)
  · exact free old

theorem remaining_of_ok {out : CodeUnits} (ok : normalizePath rt given input = .ok out) :
    ∃ left, remaining rt given input = .ok left ∧
      out = fold rt (isWindowsStyle given input) (withoutHere (PosixPath.normalize slash dot left)) := by
  rw [normalizePath] at ok
  split at ok
  · cases ok
  · rename_i left found
    exact ⟨left, found, (Except.ok.inj ok).symm⟩

theorem withoutHere_head (relative : left.head? ≠ some slash) :
    (withoutHere (PosixPath.normalize slash dot left)).head? ≠ some slash := by
  by_cases named : PosixPath.normalize slash dot left = [dot, slash]
  · rw [named]
    decide
  · rw [withoutHere_normalize named]
    exact fun first => relative ((PosixPath.normalize_head slash_ne_dot left).mp first)

/-- A key on a drive is taken for an absolute path, and comes back shorter. -/
theorem drive_ne {out : CodeUnits} (rooted : roots given ≠ []) (free : backslash ∉ p) (drive : driveShaped p = true)
    (ok : normalizePath rt given p = .ok out) : out ≠ p := by
  intro same
  obtain ⟨left, found, shape⟩ := remaining_of_ok ok
  obtain ⟨root, known, stripped⟩ := remaining_absolute rooted (Bool.or_eq_true_iff.mpr (.inr drive)) found
  have windows : isWindowsStyle given p = true := by rw [isWindowsStyle_free free, drive, Bool.or_true]
  have long := driveShaped_length drive
  rw [slashed_of_free free] at stripped
  rw [windows, same] at shape
  by_cases named : PosixPath.normalize slash dot left = [dot, slash]
  · rw [named] at shape
    have empty : p = [] := shape.trans fold_nil
    rw [empty] at long
    cases long
  · rw [withoutHere_normalize named] at shape
    -- what is left of a folded key is folded, so that the key would be its normal form
    have folded : rt.toLowerCase p = p := by
      rw [shape]
      exact rt.folding.idem _
    have behind : left <:+ p := by
      rw [stripped]
      exact (List.dropWhile_suffix _).trans (List.drop_suffix _ _)
    have normal : p = PosixPath.normalize slash dot left := by
      rw [← normalize_fold, fold, if_pos rfl, rt.folding.suffix p left folded behind] at shape
      exact shape
    by_cases none : left = []
    · rw [none] at normal
      rw [normal] at long
      exact absurd long (by decide)
    · have short : (PosixPath.normalize slash dot left).length ≤ left.length := PosixPath.length_normalize none
      have cut : left.length ≤ p.length - root.length := by
        rw [stripped, ← List.length_drop]
        exact (List.dropWhile_sublist _).length_le
      have some := List.length_pos_iff.mpr (roots_ne_nil known)
      rw [← normal] at short
      omega

theorem absolute_ne {out : CodeUnits} (rooted : roots given ≠ []) (posix : rt.platform = .posix)
    (first : p.head? = some slash) (ok : normalizePath rt given p = .ok out) : out ≠ p := by
  rintro rfl
  obtain ⟨left, found, shape⟩ := remaining_of_ok ok
  have absolute : isAbsolute rt.platform out = true := by
    rw [posix]
    exact decide_eq_true first
  obtain ⟨root, -, stripped⟩ := remaining_absolute rooted (Bool.or_eq_true_iff.mpr (.inl absolute)) found
  have relative : left.head? ≠ some slash := by
    rw [stripped]
    exact withoutLeading_head _
  rw [shape, fold_head] at first
  exact withoutHere_head relative first

/-- The second pass over a key that it takes for a relative path. -/
theorem normalizePath_key (free : backslash ∉ p) (normal : PosixPath.normalize slash dot p = p)
    (named : p ≠ [dot, slash]) (relative : roots given ≠ [] → isAbsolute rt.platform p = false ∧ driveShaped p = false) :
    normalizePath rt given p = .ok (fold rt (isWindowsStyle given p) p) := by
  rw [normalizePath_eq (remaining_relative free relative), withoutHere_normalize (by rw [normal]; exact named), normal]

theorem KeepsKey.fold_eq (keeps : KeepsKey rt given input left) (free : backslash ∉ left) :
    fold rt (isWindowsStyle given (fold rt (isWindowsStyle given input) (PosixPath.normalize slash dot left)))
        (fold rt (isWindowsStyle given input) (PosixPath.normalize slash dot left)) =
      fold rt (isWindowsStyle given input) (PosixPath.normalize slash dot left) := by
  have freeKey : backslash ∉ fold rt (isWindowsStyle given input) (PosixPath.normalize slash dot left) :=
    fold_free (normalize_free free)
  rw [isWindowsStyle_free freeKey]
  by_cases windows : isWindowsStyle given input = true
  · rw [windows, fold]
    split
    · exact rt.folding.idem _
    · rfl
  · have plain : isWindowsStyle given input = false := Bool.eq_false_iff.mpr windows
    have bare : (given.any fun r => driveShaped r || r.contains backslash) = false :=
      Bool.eq_false_iff.mpr fun shaped => windows (isWindowsStyle_of_roots shaped input)
    rw [plain, bare, Bool.false_or]
    show fold rt (driveShaped (PosixPath.normalize slash dot left)) (PosixPath.normalize slash dot left) =
      PosixPath.normalize slash dot left
    by_cases drive : driveShaped (PosixPath.normalize slash dot left) = true
    · rw [drive]
      by_cases none : roots given = []
      · exact keeps.unrooted none plain drive
      · have relative := (keeps.rooted none).1
        rw [plain] at relative
        exact absurd drive (Bool.eq_false_iff.mp relative)
    · rw [Bool.eq_false_iff.mpr drive]
      rfl

theorem KeepsKey.again (keeps : KeepsKey rt given input left) (found : remaining rt given input = .ok left) :
    normalizePath rt given (fold rt (isWindowsStyle given input) (PosixPath.normalize slash dot left)) =
      .ok (fold rt (isWindowsStyle given input) (PosixPath.normalize slash dot left)) := by
  have free := remaining_free found
  have freeKey : backslash ∉ fold rt (isWindowsStyle given input) (PosixPath.normalize slash dot left) :=
    fold_free (normalize_free free)
  have normal : PosixPath.normalize slash dot
      (fold rt (isWindowsStyle given input) (PosixPath.normalize slash dot left)) =
      fold rt (isWindowsStyle given input) (PosixPath.normalize slash dot left) := by
    rw [normalize_fold, PosixPath.normalize_normalize slash_ne_dot]
  have named : fold rt (isWindowsStyle given input) (PosixPath.normalize slash dot left) ≠ [dot, slash] :=
    fun here => keeps.named (fold_here.mp here)
  rw [normalizePath_key freeKey normal named, keeps.fold_eq free]
  intro rooted
  obtain ⟨notDrive, notBackslash⟩ := keeps.rooted rooted
  refine ⟨Bool.eq_false_iff.mpr fun absolute => notBackslash ?_, notDrive⟩
  have first := head_of_isAbsolute freeKey notDrive absolute
  rw [fold_head, PosixPath.normalize_head slash_ne_dot] at first
  exact (remaining_head rooted found).mp first

theorem KeepsKey.of_again {out : CodeUnits} (found : remaining rt given input = .ok left)
    (shape : out = fold rt (isWindowsStyle given input) (withoutHere (PosixPath.normalize slash dot left)))
    (again : normalizePath rt given out = .ok out) : KeepsKey rt given input left := by
  have free := remaining_free found
  have named : PosixPath.normalize slash dot left ≠ [dot, slash] := by
    intro here
    rw [here] at shape
    have empty : out = [] := shape.trans fold_nil
    subst empty
    rw [normalizePath_eq (remaining_relative List.not_mem_nil fun _ => ⟨by cases rt.platform <;> rfl, rfl⟩)] at again
    exact absurd (fold_dot.symm.trans (Except.ok.inj again)) (List.cons_ne_nil _ _)
  rw [withoutHere_normalize named] at shape
  have freeKey : backslash ∉ out := by
    rw [shape]
    exact fold_free (normalize_free free)
  refine ⟨named, ?_, ?_⟩
  · intro none plain drive
    rw [plain] at shape
    have key : out = PosixPath.normalize slash dot left := shape
    have normal : PosixPath.normalize slash dot out = out := by rw [key, PosixPath.normalize_normalize slash_ne_dot]
    rw [← key] at drive named ⊢
    rw [normalizePath_key freeKey normal named fun some => absurd none some, isWindowsStyle_free freeKey, drive,
      Bool.or_true] at again
    exact Except.ok.inj again
  · intro rooted
    rw [← shape]
    constructor
    · exact Bool.eq_false_iff.mpr fun drive => drive_ne rooted freeKey drive again rfl
    · intro climbs
      have first : out.head? = some slash := by
        rw [shape, fold_head, PosixPath.normalize_head slash_ne_dot]
        exact (remaining_head rooted found).mpr climbs
      exact absolute_ne rooted climbs.1 first again rfl

theorem keepsKey_iff {out : CodeUnits} (ok : normalizePath rt given input = .ok out) :
    normalizePath rt given out = .ok out ↔
      ∃ left, remaining rt given input = .ok left ∧ KeepsKey rt given input left := by
  obtain ⟨left, found, shape⟩ := remaining_of_ok ok
  constructor
  · exact fun again => ⟨left, found, .of_again found shape again⟩
  · rintro ⟨other, found', keeps⟩
    rw [found] at found'
    cases found'
    rw [shape, withoutHere_normalize keeps.named]
    exact keeps.again found

theorem declaredKeys_eq_ok {paths keys : List CodeUnits} :
    declaredKeys rt given paths = .ok keys ↔
      List.Forall₂ (fun p key => normalizePath rt given p = .ok key) paths keys := by
  induction paths generalizing keys with
  | nil =>
    rw [declaredKeys, Except.ok.injEq, List.forall₂_nil_left_iff]
    exact eq_comm
  | cons p rest ih =>
    rw [declaredKeys]
    constructor
    · intro made
      split at made
      · cases made
      · rename_i key first
        cases later : declaredKeys rt given rest with
        | error rejected =>
          rw [later] at made
          cases made
        | ok others =>
          rw [later] at made
          cases made
          exact .cons first (ih.mp later)
    · intro all
      cases all with
      | cons first later =>
        rw [first, ih.mpr later]
        rfl

/-- Declared keys may be declared again under the same condition on each path. -/
theorem normalizeDeclaredPaths_again_iff {paths : Option (List CodeUnits)} {keys : List CodeUnits}
    (ok : normalizeDeclaredPaths rt given paths = .ok keys) :
    normalizeDeclaredPaths rt given (some keys) = .ok keys ↔
      ∀ p ∈ paths.getD [], ∃ left, remaining rt given p = .ok left ∧ KeepsKey rt given p left := by
  have made := declaredKeys_eq_ok.mp ok
  rw [normalizeDeclaredPaths, Option.getD_some, declaredKeys_eq_ok, List.forall₂_same]
  clear ok
  generalize paths.getD [] = declared at made ⊢
  induction made with
  | nil => simp
  | cons first _ ih =>
    rw [List.forall_mem_cons, List.forall_mem_cons]
    exact and_congr (keepsKey_iff first) ih

/-- ASCII letters alone. -/
def asciiLower (c : UInt16) : UInt16 := if 65 ≤ c ∧ c ≤ 90 then c + 32 else c

theorem asciiLower_toNat (c : UInt16) :
    (asciiLower c).toNat = if 65 ≤ c.toNat ∧ c.toNat ≤ 90 then c.toNat + 32 else c.toNat := by
  have letter : 65 ≤ c ∧ c ≤ 90 ↔ 65 ≤ c.toNat ∧ c.toNat ≤ 90 := and_congr UInt16.le_iff_toNat_le UInt16.le_iff_toNat_le
  unfold asciiLower
  simp only [letter]
  split
  · rename_i within
    rw [UInt16.toNat_add]
    exact Nat.mod_eq_of_lt (Nat.lt_of_le_of_lt (Nat.add_le_add_right within.2 _) (by decide))
  · rfl

theorem asciiLower_eq {c d : UInt16} (plain : d < 65 ∨ d = backslash) : asciiLower c = d ↔ c = d := by
  have apart : d.toNat < 65 ∨ d.toNat = 92 := plain.imp UInt16.lt_iff_toNat_lt.mp fun same => by rw [same]; rfl
  rw [← UInt16.toNat_inj, ← UInt16.toNat_inj, asciiLower_toNat]
  split
  · omega
  · rfl

theorem asciiLower_asciiLower (c : UInt16) : asciiLower (asciiLower c) = asciiLower c := by
  rw [← UInt16.toNat_inj, asciiLower_toNat, asciiLower_toNat]
  split
  · exact if_neg (by omega)
  · rfl

theorem map_asciiLower_eq {s t : CodeUnits} (plain : ∀ d ∈ t, d < 65) : s.map asciiLower = t ↔ s = t := by
  induction s generalizing t with
  | nil => rfl
  | cons c rest ih =>
    cases t with
    | nil => simp
    | cons d others =>
      obtain ⟨first, later⟩ := List.forall_mem_cons.mp plain
      rw [List.map_cons, List.cons.injEq, List.cons.injEq, asciiLower_eq (.inl first), ih later]

theorem dot_plain : dot < 65 := by decide

theorem ascii_folding : CaseFolding (List.map asciiLower) where
  rewriting :=
    { nil := fun _ => List.map_eq_nil_iff
      here := fun _ => map_asciiLower_eq (List.forall_mem_singleton.mpr dot_plain)
      up := fun _ => map_asciiLower_eq (List.forall_mem_cons.mpr ⟨dot_plain, List.forall_mem_singleton.mpr dot_plain⟩)
      free := by
        intro s free inside
        obtain ⟨c, listed, lowered⟩ := List.mem_map.mp inside
        rw [asciiLower_eq (.inl (by decide))] at lowered
        exact free (by rw [← lowered]; exact listed)
      split := by
        intro s t
        rw [List.map_append, List.map_cons, (asciiLower_eq (.inl (by decide))).mpr (rfl : slash = slash)] }
  idem s := by
    rw [List.map_map]
    exact List.map_congr_left fun c _ => asciiLower_asciiLower c
  backslash_free s free inside := by
    obtain ⟨c, listed, lowered⟩ := List.mem_map.mp inside
    rw [asciiLower_eq (.inr rfl)] at lowered
    exact free (by rw [← lowered]; exact listed)
  suffix := by
    rintro s t folded ⟨front, rfl⟩
    rw [List.map_append] at folded
    exact (List.append_inj folded (by simp)).2

def asciiRuntime (platform : Platform) : PathRuntime where
  platform := platform
  toLowerCase := List.map asciiLower
  folding := ascii_folding

end PathNormalize
end Coordinator
