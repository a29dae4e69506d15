import Coordinator.Library.Tally
import Coordinator.PathNormalize

namespace Coordinator
namespace GitCochange

open PathNormalize (CodeUnits PathRuntime units normalizePath)

def nul : UInt16 := 0

def newline : UInt16 := 10

def bar : UInt16 := 124

/-- What `trim` takes off: white space and line terminators. -/
def isSpace (c : UInt16) : Bool :=
  (9 ≤ c && c ≤ 13) || c = 32 || c = 160 || c = 0x1680 || (0x2000 ≤ c && c ≤ 0x200A) || c = 0x2028 || c = 0x2029 ||
    c = 0x202F || c = 0x205F || c = 0x3000 || c = 0xFEFF

def trim (p : CodeUnits) : CodeUnits := ((p.dropWhile isSpace).reverse.dropWhile isSpace).reverse

/-- `[0-9a-f]`. -/
def isHex (c : UInt16) : Bool := (48 ≤ c && c ≤ 57) || (97 ≤ c && c ≤ 102)

/-- `/^[0-9a-f]{40}$/`. -/
def isSha (p : CodeUnits) : Bool := p.length = 40 && p.all isHex

/-- `/^([0-9a-f]{40})\n(.*)$/s`, its second group. -/
def shaMatch (p : CodeUnits) : Option CodeUnits :=
  if isSha (p.take 40) then
    match p.drop 40 with
    | c :: rest => if c = newline then some rest else none
    | [] => none
  else none

/-- A regular expression of the denylist: a text at the end, or one anywhere. -/
inductive Denied
  | ends (text : CodeUnits)
  | within (text : CodeUnits)

def Denied.test : Denied → CodeUnits → Bool
  | .ends text, f => text.isSuffixOf f
  | .within text, f => f.tails.any text.isPrefixOf

def defaultDenylist : List Denied :=
  [.ends (units "package-lock.json"), .ends (units "pnpm-lock.yaml"), .ends (units "yarn.lock"), .ends (units ".lock"),
    .within (units "/dist/"), .within (units "/build/"), .within (units "/.next/"), .within (units "/__snapshots__/"),
    .ends (units ".min.js"), .ends (units ".map"), .within (units "/coverage/"), .within (units "/node_modules/"),
    .ends (units ".snap")]

def eligible (f : CodeUnits) : Bool := !defaultDenylist.any fun re => re.test f

/-- The key of two files, the lesser name first. -/
def pairKey (x y : CodeUnits) : CodeUnits := if x < y then x ++ bar :: y else y ++ bar :: x

/-- The keys of the pairs that the two nested loops visit. -/
def pairKeys : List CodeUnits → List CodeUnits
  | [] => []
  | x :: rest => rest.map (pairKey x) ++ pairKeys rest

structure ParseState where
  pairs : Tally CodeUnits
  totalCommits : Nat
  currentFiles : List CodeUnits

namespace ParseState

def flush (s : ParseState) : ParseState :=
  if s.currentFiles = [] then s
  else if 200 < s.currentFiles.length then { s with currentFiles := [] }
  else
    { pairs := (pairKeys (s.currentFiles.filter eligible)).foldl (fun pairs key => pairs.add key 1) s.pairs
      totalCommits := s.totalCommits + 1
      currentFiles := [] }

def push (s : ParseState) (file : CodeUnits) : ParseState := { s with currentFiles := s.currentFiles ++ [file] }

def readPart (s : ParseState) (part : CodeUnits) : ParseState :=
  if trim part = [] then s else if isSha (trim part) then s.flush else s.push (trim part)

def readToken (s : ParseState) (t : CodeUnits) : ParseState :=
  let stripped := t.dropWhile fun c => c = newline
  match shaMatch stripped with
  | some trailing => if trim trailing = [] then s.flush else s.flush.push (trim trailing)
  | none => if isSha stripped then s.flush else (stripped.splitOn newline).foldl readPart s

end ParseState

def parseLog (stdout : CodeUnits) : Tally CodeUnits × Nat :=
  let s := (((stdout.splitOn nul).filter fun t => t ≠ []).foldl ParseState.readToken ⟨Table.empty, 0, []⟩).flush
  (s.pairs, s.totalCommits)

/-- `key.split("|")`, its first two parts; every key has them. -/
def parts (key : CodeUnits) : CodeUnits × CodeUnits :=
  ((key.splitOn bar).head?.getD [], ((key.splitOn bar).drop 1).head?.getD [])

def fileCommitCount (pairs : Tally CodeUnits) : Tally CodeUnits :=
  pairs.rows.foldl (fun counts entry =>
    (counts.add (parts entry.1).1 (pairs.get entry.1)).add (parts entry.1).2 (pairs.get entry.1)) Table.empty

/-- `count / totalCommits > 0.4`, which no rounding of the quotient changes for fewer than 2⁵⁰ commits. -/
def overCap (count totalCommits : Nat) : Bool := 0 < totalCommits && 2 * totalCommits < 5 * count

def promiscuous (pairs : Tally CodeUnits) (totalCommits : Nat) : List CodeUnits :=
  ((fileCommitCount pairs).rows.filter fun entry => overCap entry.2 totalCommits).map Prod.fst

/-- What a token says: a commit begins, or a file belongs to the one before. -/
inductive Mark
  | commit
  | file (name : CodeUnits)

def partMarks (part : CodeUnits) : List Mark :=
  if trim part = [] then [] else if isSha (trim part) then [.commit] else [.file (trim part)]

def tokenMarks (t : CodeUnits) : List Mark :=
  let stripped := t.dropWhile fun c => c = newline
  match shaMatch stripped with
  | some trailing => .commit :: if trim trailing = [] then [] else [.file (trim trailing)]
  | none => if isSha stripped then [.commit] else (stripped.splitOn newline).flatMap partMarks

def logMarks (stdout : CodeUnits) : List Mark := ((stdout.splitOn nul).filter fun t => t ≠ []).flatMap tokenMarks

/-- The files of one commit after another, behind those of the commit that is open. -/
def group : List CodeUnits → List Mark → List (List CodeUnits)
  | files, [] => [files]
  | files, .commit :: rest => files :: group [] rest
  | files, .file name :: rest => group (files ++ [name]) rest

def isEffective (files : List CodeUnits) : Bool := files ≠ [] && files.length ≤ 200

/-- The commits of a log that are counted: those of 1 to 200 files. -/
def effectiveCommits (stdout : CodeUnits) : List (List CodeUnits) := (group [] (logMarks stdout)).filter isEffective

/-- The keys of a list of commits. -/
def commitKeys (commits : List (List CodeUnits)) : List CodeUnits :=
  commits.flatMap fun files => pairKeys (files.filter eligible)

def ParseState.read (s : ParseState) : Mark → ParseState
  | .commit => s.flush
  | .file name => s.push name

theorem parts_of_free {x y : CodeUnits} (freeX : bar ∉ x) (freeY : bar ∉ y) : parts (x ++ bar :: y) = (x, y) := by
  have split : (x ++ bar :: y).splitOn bar = [x, y] := by
    rw [List.splitOn_append_cons_self_of_not_mem freeX, List.splitOn_eq_singleton freeY]
  rw [parts, split]
  rfl

theorem readPart_eq (s : ParseState) (part : CodeUnits) : s.readPart part = (partMarks part).foldl ParseState.read s := by
  unfold ParseState.readPart partMarks
  split
  · rfl
  · split
    · rfl
    · rfl

theorem readToken_eq (s : ParseState) (t : CodeUnits) : s.readToken t = (tokenMarks t).foldl ParseState.read s := by
  have parts : ∀ (ps : List CodeUnits) (s : ParseState),
      ps.foldl ParseState.readPart s = (ps.flatMap partMarks).foldl ParseState.read s := by
    intro ps
    induction ps with
    | nil => exact fun s => rfl
    | cons part rest ih =>
      intro s
      rw [List.foldl_cons, ih, List.flatMap_cons, List.foldl_append, readPart_eq]
  unfold ParseState.readToken tokenMarks
  simp only
  split
  · split
    · rfl
    · rfl
  · split
    · rfl
    · exact parts _ s

theorem flush_eq (s : ParseState) :
    s.flush = ⟨(commitKeys ([s.currentFiles].filter isEffective)).foldl (fun pairs key => pairs.add key 1) s.pairs,
      s.totalCommits + ([s.currentFiles].filter isEffective).length, []⟩ := by
  unfold ParseState.flush
  split
  · rename_i none
    have skipped : [s.currentFiles].filter isEffective = [] := by simp [isEffective, none]
    rw [skipped, ← none]
    rfl
  · rename_i some
    split
    · rename_i large
      have skipped : [s.currentFiles].filter isEffective = [] := by
        simp [isEffective, Nat.not_le.mpr large]
      rw [skipped]
      rfl
    · rename_i small
      have kept : [s.currentFiles].filter isEffective = [s.currentFiles] := by
        simp [isEffective, some, Nat.not_lt.mp small]
      rw [kept, commitKeys, List.flatMap_singleton]
      rfl

/-- Reading on counts the commits that are still to come. -/
theorem run_marks (marks : List Mark) (s : ParseState) :
    (marks.foldl ParseState.read s).flush =
      ⟨(commitKeys ((group s.currentFiles marks).filter isEffective)).foldl (fun pairs key => pairs.add key 1) s.pairs,
        s.totalCommits + ((group s.currentFiles marks).filter isEffective).length, []⟩ := by
  induction marks generalizing s with
  | nil => exact flush_eq s
  | cons mark rest ih =>
    cases mark with
    | commit =>
      have closed : group s.currentFiles (.commit :: rest) = [s.currentFiles] ++ group [] rest := rfl
      rw [List.foldl_cons, ParseState.read, ih, flush_eq, closed, List.filter_append]
      simp only [commitKeys, List.flatMap_append, List.foldl_append, List.length_append, Nat.add_assoc]
    | file name =>
      rw [List.foldl_cons, ParseState.read, ih]
      rfl

/-- The parser counts the pairs of the effective commits. -/
theorem parseLog_eq (stdout : CodeUnits) :
    parseLog stdout = (Tally.ofList (commitKeys (effectiveCommits stdout)), (effectiveCommits stdout).length) := by
  have tokens : ∀ (ts : List CodeUnits) (s : ParseState),
      ts.foldl ParseState.readToken s = (ts.flatMap tokenMarks).foldl ParseState.read s := by
    intro ts
    induction ts with
    | nil => exact fun s => rfl
    | cons t rest ih =>
      intro s
      rw [List.foldl_cons, ih, List.flatMap_cons, List.foldl_append, readToken_eq]
  rw [parseLog, tokens, run_marks, Nat.zero_add]
  rfl

end GitCochange
end Coordinator
