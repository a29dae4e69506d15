import Coordinator.CochangeRebuild

namespace Coordinator
namespace GitCochange

open PathNormalize (CodeUnits units normalizePath asciiRuntime)

/-- A commit as `git log --name-only` lists it. -/
structure Commit where
  sha : CodeUnits
  files : List CodeUnits

def renderCommit (c : Commit) : CodeUnits := c.sha ++ newline :: c.files.flatMap fun f => f ++ [nul]

/-- The `-z` format, with a NUL between commits. -/
def renderLog (commits : List Commit) : CodeUnits := [nul].intercalate (commits.map renderCommit)

/-- What git promises of a commit. -/
structure Commit.Formed (c : Commit) : Prop where
  sha : isSha c.sha = true
  distinct : c.files.Nodup
  named : ∀ f ∈ c.files, f ≠ [] ∧ nul ∉ f

/-- A name that the parser and the pair keys leave as it is. -/
structure PlainName (f : CodeUnits) : Prop where
  trimmed : trim f = f
  line : newline ∉ f
  notSha : isSha f = false
  barless : bar ∉ f

/-- In how many of the counted commits two files are together. -/
def together (commits : List Commit) (x y : CodeUnits) : Nat :=
  commits.countP fun c => isEffective c.files && (decide (x ∈ c.files) && decide (y ∈ c.files))

def totalOf (commits : List Commit) : Nat := commits.countP fun c => isEffective c.files

/-- For every pair that occurs the build stores a row with its count. -/
structure CountsStored (commits : List Commit) (b : Builder) (orgId : String) (db : CochangeDb) : Prop where
  total : (parseLog (renderLog commits)).2 = totalOf commits
  counted : ∀ x y, x ≠ y → eligible x = true → eligible y = true →
    Tally.get (parseLog (renderLog commits)).1 (pairKey x y) = together commits x y
  stored : ∀ x y, storedText x < storedText y → eligible x = true → eligible y = true → 0 < together commits x y →
    ∃ r ∈ orgRows (b.build orgId db).2 orgId, r.fileA = storedText x ∧ r.fileB = storedText y ∧
      r.count = together commits x y

/-- Two files that get a row: they are counted together, neither is capped, and their keys differ. -/
structure GetsRow (b : Builder) (commits : List Commit) (x y nx ny : CodeUnits) : Prop where
  apart : x ≠ y
  eligible : eligible x = true ∧ eligible y = true
  counted : 0 < together commits x y
  uncapped : ∀ f ∈ promiscuous (parseLog (renderLog commits)).1 (parseLog (renderLog commits)).2, f ≠ x ∧ f ≠ y
  named : normalizePath b.rt [b.repoRoot] x = .ok nx ∧ normalizePath b.rt [b.repoRoot] y = .ok ny
  ordered : nx < ny

variable {c : Commit} {commits : List Commit} {sha f x y key : CodeUnits} {files : List CodeUnits} {rest : List Mark}

theorem splitOn_files (free : nul ∉ f) (frees : ∀ name ∈ files, nul ∉ name) :
    (f ++ nul :: files.flatMap fun name => name ++ [nul]).splitOn nul = f :: (files ++ [[]]) := by
  induction files generalizing f with
  | nil => rw [List.splitOn_append_cons_self_of_not_mem free]; rfl
  | cons name rest ih =>
    obtain ⟨freeName, freeRest⟩ := List.forall_mem_cons.mp frees
    rw [List.splitOn_append_cons_self_of_not_mem free, List.flatMap_cons, List.append_assoc, List.singleton_append,
      ih freeName freeRest]
    rfl

theorem isHex_ne {c d : UInt16} (hex : isHex c = true) (other : isHex d = false) : c ≠ d := by
  rintro rfl
  rw [hex] at other
  cases other

theorem Commit.Formed.sha_free (formed : c.Formed) {d : UInt16} (other : isHex d = false) : d ∉ c.sha := by
  intro inside
  have hex := (Bool.and_eq_true_iff.mp formed.sha).2
  exact isHex_ne (List.all_eq_true.mp hex d inside) other rfl

theorem Commit.Formed.sha_length (formed : c.Formed) : c.sha.length = 40 :=
  of_decide_eq_true (Bool.and_eq_true_iff.mp formed.sha).1

/-- The tokens of a commit: its first file with the id in front, then the others. -/
theorem tokens_renderCommit (formed : c.Formed) : ((renderCommit c).splitOn nul).filter (fun t => t ≠ []) =
    (c.sha ++ newline :: c.files.head?.getD []) :: c.files.tail := by
  have shaFree : nul ∉ c.sha := formed.sha_free (by decide)
  have named := formed.named
  have line : nul ∉ ([newline] : CodeUnits) := by decide
  rw [renderCommit]
  cases files : c.files with
  | nil =>
    have free : nul ∉ c.sha ++ [newline] := fun inside => (List.mem_append.mp inside).elim shaFree line
    rw [List.flatMap_nil, List.splitOn_eq_singleton free]
    simp
  | cons first rest =>
    rw [files] at named
    obtain ⟨⟨some, freeFirst⟩, later⟩ := List.forall_mem_cons.mp named
    have free : nul ∉ c.sha ++ newline :: first := by
      intro inside
      rcases List.mem_append.mp inside with inside | inside
      · exact shaFree inside
      · exact (List.mem_cons.mp inside).elim (by decide) freeFirst
    have shape : c.sha ++ newline :: (first :: rest).flatMap (fun f => f ++ [nul]) =
        (c.sha ++ newline :: first) ++ nul :: rest.flatMap fun f => f ++ [nul] := by
      rw [List.flatMap_cons, List.append_assoc, List.append_assoc]
      rfl
    have kept : ∀ f ∈ rest, decide (f ≠ []) = true := fun f listed => decide_eq_true (later f listed).1
    rw [shape, splitOn_files free fun f listed => (later f listed).2, List.filter_cons_of_pos (by simp),
      List.filter_append, List.filter_eq_self.mpr kept]
    simp

theorem tokenMarks_sha (formed : c.Formed) (trimmed : trim f = f) :
    tokenMarks (c.sha ++ newline :: f) = .commit :: if f = [] then [] else [.file f] := by
  have nonempty : c.sha ≠ [] := by
    intro none
    have length := formed.sha_length
    rw [none] at length
    cases length
  have stripped : (c.sha ++ newline :: f).dropWhile (fun d => d = newline) = c.sha ++ newline :: f := by
    obtain ⟨d, others, shape⟩ := List.exists_cons_of_ne_nil nonempty
    have first : d ≠ newline := by
      rintro rfl
      exact formed.sha_free (d := newline) (by decide) (by rw [shape]; exact List.mem_cons_self)
    rw [shape, List.cons_append, List.dropWhile_cons_of_neg (by simpa using first)]
  have found : shaMatch (c.sha ++ newline :: f) = some f := by
    rw [shaMatch, ← formed.sha_length, List.take_left, List.drop_left, if_pos formed.sha]
    exact if_pos rfl
  simp only [tokenMarks, stripped, found, trimmed]

theorem tokenMarks_file (plain : PlainName f) (some : f ≠ []) : tokenMarks f = [.file f] := by
  have stripped : f.dropWhile (fun d => d = newline) = f := by
    obtain ⟨d, others, rfl⟩ := List.exists_cons_of_ne_nil some
    have first : d ≠ newline := fun same => plain.line (by rw [same]; exact List.mem_cons_self)
    rw [List.dropWhile_cons_of_neg (by simpa using first)]
  have missed : shaMatch f = none := by
    rw [shaMatch]
    split
    · split
      · rename_i d others behind
        refine if_neg fun same => plain.line ?_
        exact List.mem_of_mem_drop (by rw [behind, same]; exact List.mem_cons_self)
      · rfl
    · rfl
  simp only [tokenMarks, stripped, missed, plain.notSha, Bool.false_eq_true, if_false,
    List.splitOn_eq_singleton plain.line, List.flatMap_singleton, partMarks, plain.trimmed, if_neg some]

theorem tokenMarks_renderCommit (formed : c.Formed) (plain : ∀ f ∈ c.files, PlainName f) :
    (((renderCommit c).splitOn nul).filter fun t => t ≠ []).flatMap tokenMarks = .commit :: c.files.map .file := by
  have named := formed.named
  rw [tokens_renderCommit formed, List.flatMap_cons]
  cases files : c.files with
  | nil =>
    rw [List.head?_nil, Option.getD_none, tokenMarks_sha formed rfl]
    rfl
  | cons first rest =>
    rw [files] at plain named
    obtain ⟨plainFirst, plainRest⟩ := List.forall_mem_cons.mp plain
    obtain ⟨⟨some, -⟩, namedRest⟩ := List.forall_mem_cons.mp named
    have others : rest.flatMap tokenMarks = rest.map .file := by
      rw [← List.flatMap_singleton' (rest.map Mark.file), List.flatMap_map]
      exact List.flatMap_congr fun f listed => tokenMarks_file (plainRest f listed) (namedRest f listed).1
    rw [List.head?_cons, Option.getD_some, tokenMarks_sha formed plainFirst.trimmed, if_neg some, List.tail_cons, others]
    rfl

theorem logMarks_renderLog (formed : ∀ c ∈ commits, c.Formed) (plain : ∀ c ∈ commits, ∀ f ∈ c.files, PlainName f) :
    logMarks (renderLog commits) = commits.flatMap fun c => .commit :: c.files.map .file := by
  have split : ∀ (texts : List CodeUnits), texts ≠ [] →
      ([nul].intercalate texts).splitOn nul = texts.flatMap fun text => text.splitOn nul := by
    intro texts some
    induction texts with
    | nil => exact absurd rfl some
    | cons text rest ih =>
      by_cases last : rest = []
      · rw [last, List.intercalate_singleton, List.flatMap_singleton]
      · rw [List.intercalate_cons_of_ne_nil last, List.append_assoc, List.singleton_append,
          List.splitOn_append_cons_self, ih last, List.flatMap_cons]
  rw [logMarks, renderLog]
  by_cases none : commits = []
  · subst none
    rfl
  · rw [split _ (by simpa using none), List.flatMap_map, List.filter_flatMap, List.flatMap_assoc]
    exact List.flatMap_congr fun c listed => tokenMarks_renderCommit (formed c listed) (plain c listed)

theorem group_files (open' : List CodeUnits) (rest : List Mark) :
    group open' (files.map .file ++ rest) = group (open' ++ files) rest := by
  induction files generalizing open' with
  | nil => rw [List.map_nil, List.nil_append, List.append_nil]
  | cons f others ih =>
    rw [List.map_cons, List.cons_append, group, ih, List.append_assoc]
    rfl

theorem group_commits (open' : List CodeUnits) (commits : List Commit) :
    group open' (commits.flatMap fun c => .commit :: c.files.map .file) = open' :: commits.map Commit.files := by
  induction commits generalizing open' with
  | nil => rfl
  | cons c rest ih =>
    rw [List.flatMap_cons, List.cons_append, group, group_files, List.nil_append, ih]
    rfl

/-- What was rendered is read. -/
theorem effectiveCommits_renderLog (formed : ∀ c ∈ commits, c.Formed)
    (plain : ∀ c ∈ commits, ∀ f ∈ c.files, PlainName f) :
    effectiveCommits (renderLog commits) = (commits.map Commit.files).filter isEffective := by
  rw [effectiveCommits, logMarks_renderLog formed plain, group_commits, List.filter_cons_of_neg (by decide)]

theorem lt_or_gt (apart : x ≠ y) : x < y ∨ y < x := by
  by_contra neither
  obtain ⟨notLess, notGreater⟩ := not_or.mp neither
  exact apart (List.le_antisymm (List.not_lt.mp notGreater) (List.not_lt.mp notLess))

theorem pairKey_comm (apart : x ≠ y) : pairKey x y = pairKey y x := by
  rw [pairKey, pairKey]
  rcases lt_or_gt apart with less | greater
  · rw [if_pos less, if_neg (List.lt_asymm less)]
  · rw [if_neg (List.lt_asymm greater), if_pos greater]

/-- A key splits into its two names. -/
theorem parts_pairKey (freeX : bar ∉ x) (freeY : bar ∉ y) :
    parts (pairKey x y) = (x, y) ∨ parts (pairKey x y) = (y, x) := by
  rw [pairKey]
  split
  · exact .inl (parts_of_free freeX freeY)
  · exact .inr (parts_of_free freeY freeX)

theorem pairKey_eq_iff {first second : CodeUnits} (freeFirst : bar ∉ first) (freeSecond : bar ∉ second) (freeX : bar ∉ x)
    (freeY : bar ∉ y) (apart : x ≠ y) :
    pairKey first second = pairKey x y ↔ first = x ∧ second = y ∨ first = y ∧ second = x := by
  constructor
  · intro same
    have left := parts_pairKey freeFirst freeSecond
    rw [same] at left
    rcases parts_pairKey freeX freeY with shape | shape
    · rw [shape] at left
      simp only [Prod.mk.injEq] at left
      exact left.imp (fun ⟨a, b⟩ => ⟨a.symm, b.symm⟩) fun ⟨a, b⟩ => ⟨b.symm, a.symm⟩
    · rw [shape] at left
      simp only [Prod.mk.injEq] at left
      exact (left.imp (fun ⟨a, b⟩ => ⟨a.symm, b.symm⟩) fun ⟨a, b⟩ => ⟨b.symm, a.symm⟩).symm
  · rintro (⟨rfl, rfl⟩ | ⟨rfl, rfl⟩)
    · rfl
    · exact pairKey_comm apart.symm

/-- Two files of a commit make one pair. -/
theorem count_pairKeys (distinct : files.Nodup) (free : ∀ name ∈ files, bar ∉ name) (freeX : bar ∉ x) (freeY : bar ∉ y)
    (apart : x ≠ y) : (pairKeys files).count (pairKey x y) = if x ∈ files ∧ y ∈ files then 1 else 0 := by
  induction files with
  | nil => rfl
  | cons first rest ih =>
    obtain ⟨fresh, later⟩ := List.nodup_cons.mp distinct
    obtain ⟨freeFirst, freeRest⟩ := List.forall_mem_cons.mp free
    have row : ∀ others : List CodeUnits, (∀ name ∈ others, bar ∉ name) →
        (others.map (pairKey first)).count (pairKey x y) =
          if first = x then others.count y else if first = y then others.count x else 0 := by
      intro others free
      induction others with
      | nil => simp
      | cons name others ih =>
        obtain ⟨freeName, freeOthers⟩ := List.forall_mem_cons.mp free
        have this := pairKey_eq_iff freeFirst freeName freeX freeY apart
        rw [List.map_cons, List.count_cons, ih freeOthers, List.count_cons, List.count_cons]
        simp only [beq_iff_eq, this]
        by_cases sameX : first = x
        · subst sameX
          simp [apart]
        · by_cases sameY : first = y
          · subst sameY
            simp [sameX]
          · simp [sameX, sameY]
    rw [pairKeys, List.count_append, row rest freeRest, ih later freeRest]
    by_cases sameX : first = x
    · subst sameX
      by_cases inside : y ∈ rest
      · simp [fresh, inside, List.count_eq_one_of_mem later inside]
      · simp [fresh, inside, List.count_eq_zero_of_not_mem inside, apart.symm]
    · by_cases sameY : first = y
      · subst sameY
        by_cases inside : x ∈ rest
        · simp [fresh, inside, sameX, List.count_eq_one_of_mem later inside]
        · simp [fresh, inside, sameX, Ne.symm sameX, List.count_eq_zero_of_not_mem inside]
      · simp [sameX, sameY, Ne.symm sameX, Ne.symm sameY]

theorem mem_pairKeys (distinct : files.Nodup) :
    key ∈ pairKeys files ↔ ∃ x ∈ files, ∃ y ∈ files, x ≠ y ∧ pairKey x y = key := by
  induction files with
  | nil => simp [pairKeys]
  | cons first rest ih =>
    obtain ⟨fresh, later⟩ := List.nodup_cons.mp distinct
    rw [pairKeys, List.mem_append, List.mem_map, ih later]
    constructor
    · rintro (⟨y, inside, shape⟩ | ⟨x, insideX, y, insideY, apart, shape⟩)
      · refine ⟨first, List.mem_cons_self, y, List.mem_cons_of_mem _ inside, ?_, shape⟩
        rintro rfl
        exact fresh inside
      · exact ⟨x, List.mem_cons_of_mem _ insideX, y, List.mem_cons_of_mem _ insideY, apart, shape⟩
    · rintro ⟨x, insideX, y, insideY, apart, shape⟩
      rcases List.mem_cons.mp insideX with rfl | withinX
      · exact .inl ⟨y, (List.mem_cons.mp insideY).resolve_left apart.symm, shape⟩
      · rcases List.mem_cons.mp insideY with rfl | withinY
        · exact .inl ⟨x, withinX, (pairKey_comm apart.symm).trans shape⟩
        · exact .inr ⟨x, withinX, y, withinY, apart, shape⟩

/-- The commits that hold two eligible files are those that count their pair. -/
theorem get_together (formed : ∀ c ∈ commits, c.Formed) (plain : ∀ c ∈ commits, ∀ f ∈ c.files, PlainName f)
    (apart : x ≠ y) (freeX : bar ∉ x) (freeY : bar ∉ y) (eligibleX : eligible x = true) (eligibleY : eligible y = true) :
    Tally.get (parseLog (renderLog commits)).1 (pairKey x y) = together commits x y := by
  rw [parseLog_eq, Tally.get_ofList, effectiveCommits_renderLog formed plain, together, commitKeys]
  induction commits with
  | nil => rfl
  | cons c rest ih =>
    obtain ⟨formedFirst, formedRest⟩ := List.forall_mem_cons.mp formed
    obtain ⟨plainFirst, plainRest⟩ := List.forall_mem_cons.mp plain
    have later := ih formedRest plainRest
    rw [List.map_cons, List.countP_cons]
    by_cases counted : isEffective c.files = true
    · have pair := count_pairKeys (formedFirst.distinct.filter eligible)
        (fun name inside => (plainFirst name (List.mem_of_mem_filter inside)).barless) freeX freeY apart
      simp only [List.mem_filter, eligibleX, eligibleY, and_true] at pair
      rw [List.filter_cons_of_pos counted, List.flatMap_cons, List.count_append, pair, later, counted, Nat.add_comm]
      simp only [Bool.true_and, Bool.and_eq_true, decide_eq_true_iff]
    · rw [List.filter_cons_of_neg counted, later, eq_false_of_ne_true counted]
      rfl

theorem total_renderLog (formed : ∀ c ∈ commits, c.Formed) (plain : ∀ c ∈ commits, ∀ f ∈ c.files, PlainName f) :
    (parseLog (renderLog commits)).2 = totalOf commits := by
  rw [parseLog_eq, effectiveCommits_renderLog formed plain, List.filter_map, List.length_map, totalOf,
    List.countP_eq_length_filter]
  rfl

theorem plain_of_together (plain : ∀ c ∈ commits, ∀ f ∈ c.files, PlainName f) (counted : 0 < together commits x y) :
    PlainName x ∧ PlainName y := by
  obtain ⟨c, listed, holds⟩ := List.countP_pos_iff.mp counted
  obtain ⟨-, both⟩ := Bool.and_eq_true_iff.mp holds
  obtain ⟨insideX, insideY⟩ := Bool.and_eq_true_iff.mp both
  exact ⟨plain c listed x (of_decide_eq_true insideX), plain c listed y (of_decide_eq_true insideY)⟩

theorem together_comm : together commits x y = together commits y x := by
  rw [together, together]
  congr 1
  funext c
  rw [Bool.and_comm (decide (x ∈ c.files))]

/-- The entries of the parsed log are the pairs that are together somewhere. -/
theorem mem_pairs_iff (formed : ∀ c ∈ commits, c.Formed) (plain : ∀ c ∈ commits, ∀ f ∈ c.files, PlainName f)
    (entry : CodeUnits × Nat) : entry ∈ (parseLog (renderLog commits)).1.rows ↔
      ∃ x y, x ≠ y ∧ (eligible x = true ∧ eligible y = true) ∧ 0 < together commits x y ∧
        entry = (pairKey x y, together commits x y) := by
  constructor
  · intro inside
    have count := Tally.get_of_mem inside
    have key : entry.1 ∈ commitKeys (effectiveCommits (renderLog commits)) := by
      rw [← Tally.mem_keys_ofList]
      rw [parseLog_eq] at inside
      exact List.mem_map_of_mem inside
    have some : 0 < entry.2 := by
      rw [← count, parseLog_eq, Tally.get_ofList]
      exact List.count_pos_iff.mpr key
    rw [effectiveCommits_renderLog formed plain] at key
    obtain ⟨files, effective, pair⟩ := List.mem_flatMap.mp key
    obtain ⟨c, listed, rfl⟩ := List.mem_map.mp (List.mem_of_mem_filter effective)
    obtain ⟨x, insideX, y, insideY, apart, shape⟩ := (mem_pairKeys ((formed c listed).distinct.filter eligible)).mp pair
    obtain ⟨fileX, eligibleX⟩ := List.mem_filter.mp insideX
    obtain ⟨fileY, eligibleY⟩ := List.mem_filter.mp insideY
    have counted := get_together formed plain apart (plain c listed x fileX).barless (plain c listed y fileY).barless
      eligibleX eligibleY
    rw [shape, count] at counted
    exact ⟨x, y, apart, ⟨eligibleX, eligibleY⟩, counted ▸ some, Prod.ext shape.symm counted⟩
  · rintro ⟨x, y, apart, ⟨eligibleX, eligibleY⟩, some, rfl⟩
    obtain ⟨plainX, plainY⟩ := plain_of_together plain some
    have counted := get_together formed plain apart plainX.barless plainY.barless eligibleX eligibleY
    rw [← counted] at some ⊢
    exact Tally.mem_of_get_pos some

/-- The row of a pair, whichever of its names comes first. -/
theorem pairRow_eq_some {b : Builder} {orgId : String} {capped : List CodeUnits} {total count : Nat} {r : CochangeRow}
    (freeX : bar ∉ x) (freeY : bar ∉ y) : b.pairRow orgId capped total (pairKey x y, count) = some r ↔
      (x ∉ capped ∧ y ∉ capped) ∧ ∃ nx ny, normalizePath b.rt [b.repoRoot] x = .ok nx ∧
        normalizePath b.rt [b.repoRoot] y = .ok ny ∧
          (nx < ny ∧ b.row orgId nx ny count total = r ∨ ny < nx ∧ b.row orgId ny nx count total = r) := by
  have ordered : ∀ p q, parts (pairKey x y) = (p, q) → (b.pairRow orgId capped total (pairKey x y, count) = some r ↔
      (p ∉ capped ∧ q ∉ capped) ∧ ∃ np nq, normalizePath b.rt [b.repoRoot] p = .ok np ∧
        normalizePath b.rt [b.repoRoot] q = .ok nq ∧
          (np < nq ∧ b.row orgId np nq count total = r ∨ nq < np ∧ b.row orgId nq np count total = r)) := by
    intro p q shape
    rw [Builder.pairRow, shape]
    by_cases cap : p ∈ capped ∨ q ∈ capped
    · rw [if_pos cap]
      exact iff_of_false (by simp) fun both => (not_or.mpr both.1) cap
    · rw [if_neg cap]
      cases first : normalizePath b.rt [b.repoRoot] p with
      | error message => simp
      | ok np =>
        cases second : normalizePath b.rt [b.repoRoot] q with
        | error message => simp
        | ok nq =>
          simp only [not_or.mp cap, not_false_eq_true, and_self, true_and, Except.ok.injEq, exists_and_left, exists_eq_left']
          by_cases less : np < nq
          · rw [if_pos less, Option.some.injEq]
            exact ⟨fun same => .inl ⟨less, same⟩, fun either =>
              either.elim And.right fun greater => absurd greater.1 (List.lt_asymm less)⟩
          · by_cases greater : nq < np
            · rw [if_neg less, if_pos greater, Option.some.injEq]
              exact ⟨fun same => .inr ⟨greater, same⟩, fun either => (either.resolve_left fun both => less both.1).2⟩
            · rw [if_neg less, if_neg greater]
              simp [less, greater]
  rcases parts_pairKey freeX freeY with shape | shape
  · exact ordered x y shape
  · rw [ordered y x shape, and_comm (a := y ∉ capped)]
    refine and_congr_right fun _ => ⟨?_, ?_⟩
    · rintro ⟨ny, nx, namedY, namedX, either⟩
      exact ⟨nx, ny, namedX, namedY, either.symm⟩
    · rintro ⟨nx, ny, namedX, namedY, either⟩
      exact ⟨ny, nx, namedY, namedX, either.symm⟩

theorem counts_stored (commits : List Commit) (formed : ∀ c ∈ commits, c.Formed)
    (plain : ∀ c ∈ commits, ∀ f ∈ c.files, PlainName f) :
    (parseLog (renderLog commits)).2 = totalOf commits ∧
    (∀ x y, x ≠ y → bar ∉ x → bar ∉ y → eligible x = true → eligible y = true →
      Tally.get (parseLog (renderLog commits)).1 (pairKey x y) = together commits x y) ∧
    ∀ (b : Builder) (orgId : String) (db : CochangeDb), b.storedLog = some (renderLog commits) →
      b.refuses .deleteRows = false → b.Storable orgId db.orgs (renderLog commits) →
      ∀ r, r ∈ orgRows (b.build orgId db).2 orgId ↔ ∃ x y nx ny, GetsRow b commits x y nx ny ∧
        r = b.row orgId nx ny (together commits x y) (totalOf commits) := by
  have total := total_renderLog formed plain
  refine ⟨total, fun x y apart freeX freeY => get_together formed plain apart freeX freeY, ?_⟩
  intro b orgId db stored admitted storable r
  rw [((build_rows orgId db stored admitted).1 storable).1, Builder.newRows]
  simp only [List.mem_filterMap]
  constructor
  · rintro ⟨entry, listed, row⟩
    obtain ⟨x, y, apart, eligible, counted, rfl⟩ := (mem_pairs_iff formed plain entry).mp listed
    obtain ⟨plainX, plainY⟩ := plain_of_together plain counted
    obtain ⟨⟨uncappedX, uncappedY⟩, nx, ny, namedX, namedY, either⟩ :=
      (pairRow_eq_some plainX.barless plainY.barless).mp row
    have uncapped : ∀ f ∈ promiscuous (parseLog (renderLog commits)).1 (parseLog (renderLog commits)).2,
        f ≠ x ∧ f ≠ y := by
      intro f inside
      constructor
      · rintro rfl
        exact uncappedX inside
      · rintro rfl
        exact uncappedY inside
    rw [total] at either
    rcases either with ⟨ordered, rfl⟩ | ⟨ordered, rfl⟩
    · exact ⟨x, y, nx, ny, ⟨apart, eligible, counted, uncapped, ⟨namedX, namedY⟩, ordered⟩, rfl⟩
    · exact ⟨y, x, ny, nx, ⟨apart.symm, eligible.symm, together_comm ▸ counted, fun f inside => (uncapped f inside).symm,
        ⟨namedY, namedX⟩, ordered⟩, by rw [together_comm]⟩
  · rintro ⟨x, y, nx, ny, gets, rfl⟩
    obtain ⟨plainX, plainY⟩ := plain_of_together plain gets.counted
    refine ⟨_, (mem_pairs_iff formed plain _).mpr ⟨x, y, gets.apart, gets.eligible, gets.counted, rfl⟩, ?_⟩
    refine (pairRow_eq_some plainX.barless plainY.barless).mpr ⟨⟨?_, ?_⟩, nx, ny, gets.named.1, gets.named.2, ?_⟩
    · exact fun inside => (gets.uncapped x inside).1 rfl
    · exact fun inside => (gets.uncapped y inside).2 rfl
    · exact .inl ⟨gets.ordered, by rw [total]⟩

/-- `a.ts` and `b.ts` in one commit, behind it so many of one file. -/
def pairLog (names : List String) : List Commit :=
  let sha := units "0123456789abcdef0123456789abcdef01234567"
  ⟨sha, [units "a.ts", units "b.ts"]⟩ :: names.map fun name => ⟨sha, [units name]⟩

def pairBuilder (names : List String) : Builder where
  rt := asciiRuntime .posix
  repoRoot := units "/repo"
  gitDir := true
  shallow := false
  runGitLog := .ok (renderLog (pairLog names))
  refuses _ := false
  datetimeNow := "2026-01-01 00:00:00"
  isoNow := "2026-01-01T00:00:00.000Z"

def freshDb : CochangeDb := ⟨.empty, .empty, ["default"]⟩

/-- Two more commits, and the pair has its row. -/
theorem counts_stored_pair :
    (pairBuilder ["c.ts", "d.ts"]).row "default" (units "a.ts") (units "b.ts") 1 3 ∈
      orgRows ((pairBuilder ["c.ts", "d.ts"]).build "default" freshDb).2 "default" := by
  have formed : ∀ c ∈ pairLog ["c.ts", "d.ts"], c.Formed :=
    List.forall_mem_cons.mpr ⟨⟨by decide +kernel, by decide +kernel, by decide +kernel⟩,
      List.forall_mem_cons.mpr ⟨⟨by decide +kernel, by decide +kernel, by decide +kernel⟩,
        List.forall_mem_singleton.mpr ⟨by decide +kernel, by decide +kernel, by decide +kernel⟩⟩⟩
  have plain : ∀ c ∈ pairLog ["c.ts", "d.ts"], ∀ f ∈ c.files, PlainName f := by
    have checked : ∀ c ∈ pairLog ["c.ts", "d.ts"], ∀ f ∈ c.files,
        trim f = f ∧ newline ∉ f ∧ isSha f = false ∧ bar ∉ f := by
      decide +kernel
    intro c listed f inside
    obtain ⟨trimmed, line, notSha, barless⟩ := checked c listed f inside
    exact ⟨trimmed, line, notSha, barless⟩
  have storable : (pairBuilder ["c.ts", "d.ts"]).Storable "default" freshDb.orgs (renderLog (pairLog ["c.ts", "d.ts"])) := by
    have rows : (parseLog (renderLog (pairLog ["c.ts", "d.ts"]))).1.rows = [(units "a.ts|b.ts", 1)] := by decide +kernel
    refine ⟨rfl, ?_, by decide +kernel⟩
    rw [rows]
    refine List.forall_mem_singleton.mpr ⟨fun _ => ⟨⟨units "a.ts", by decide +kernel⟩, units "b.ts", by decide +kernel⟩, ?_⟩
    intro r row
    have shape : (pairBuilder ["c.ts", "d.ts"]).pairRow "default"
        (promiscuous (parseLog (renderLog (pairLog ["c.ts", "d.ts"]))).1 (parseLog (renderLog (pairLog ["c.ts", "d.ts"]))).2)
        (parseLog (renderLog (pairLog ["c.ts", "d.ts"]))).2 (units "a.ts|b.ts", 1) =
          some ((pairBuilder ["c.ts", "d.ts"]).row "default" (units "a.ts") (units "b.ts") 1 3) := by
      decide +kernel
    rw [shape] at row
    cases row
    exact ⟨rfl, by decide +kernel, by decide +kernel⟩
  have gets : GetsRow (pairBuilder ["c.ts", "d.ts"]) (pairLog ["c.ts", "d.ts"]) (units "a.ts") (units "b.ts")
      (units "a.ts") (units "b.ts") :=
    ⟨by decide +kernel, by decide +kernel, by decide +kernel, by decide +kernel, by decide +kernel, by decide +kernel⟩
  refine ((counts_stored (pairLog ["c.ts", "d.ts"]) formed plain).2.2 (pairBuilder ["c.ts", "d.ts"]) "default" freshDb
    rfl rfl storable _).mpr ⟨_, _, _, _, gets, ?_⟩
  decide +kernel

/-- In the only commit of a log each file is in all commits, so the cap drops the pair. -/
theorem not_countsStored : ¬ ∀ (commits : List Commit) (b : Builder) (orgId : String) (db : CochangeDb),
    (∀ c ∈ commits, c.Formed) → b.storedLog = some (renderLog commits) → (∀ s, b.refuses s = false) → orgId ∈ db.orgs →
      CountsStored commits b orgId db := by
  intro always
  have formed : ∀ c ∈ pairLog [], c.Formed :=
    List.forall_mem_singleton.mpr ⟨by decide +kernel, by decide +kernel, by decide +kernel⟩
  have stored := (always (pairLog []) (pairBuilder []) "default" freshDb formed rfl (fun _ => rfl) (by decide)).stored
    (units "a.ts") (units "b.ts") (by decide +kernel) (by decide +kernel) (by decide +kernel) (by decide +kernel)
  obtain ⟨r, listed, -⟩ := stored
  have none : orgRows ((pairBuilder []).build "default" freshDb).2 "default" = [] := by decide +kernel
  rw [none] at listed
  cases listed

end GitCochange
end Coordinator
