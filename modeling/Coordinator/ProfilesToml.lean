import Mathlib.Data.List.TakeWhile
import Mathlib.Logic.Function.Basic
import Coordinator.GitCochange

namespace Coordinator
namespace ProfilesToml

open PathNormalize (CodeUnits units isLetter)
open GitCochange (isSpace newline trim)

def carriageReturn : UInt16 := 13

def tab : UInt16 := 9

def doubleQuote : UInt16 := 34

def hash : UInt16 := 35

def singleQuote : UInt16 := 39

def backslash : UInt16 := 92

/-- What `.` does not match. -/
def isLineTerminator (c : UInt16) : Bool := c = newline || c = carriageReturn || c = 0x2028 || c = 0x2029

def isDigit (c : UInt16) : Bool := 48 ≤ c && c ≤ 57

/-- `[A-Za-z0-9_-]`. -/
def isNameUnit (c : UInt16) : Bool := isLetter c || isDigit c || c = 95 || c = 45

/-- `[A-Za-z_]`. -/
def isKeyStart (c : UInt16) : Bool := isLetter c || c = 95

/-- `[A-Za-z0-9_]`. -/
def isKeyUnit (c : UInt16) : Bool := isKeyStart c || isDigit c

/-- Where `findUnquotedHash` stands in a line. -/
structure Scan where
  inQuote : Option UInt16
  escaped : Bool
  deriving DecidableEq, Repr

/-- One code unit further, where `none` is the `#` looked for. -/
def Scan.step (s : Scan) (c : UInt16) : Option Scan :=
  if s.escaped then some { s with escaped := false }
  else match s.inQuote with
    | some quote =>
      if c = backslash then some { s with escaped := true }
      else if c = quote then some { s with inQuote := none }
      else some s
    | none =>
      if c = doubleQuote ∨ c = singleQuote then some { s with inQuote := some c }
      else if c = hash then none
      else some s

def Scan.find (s : Scan) : CodeUnits → Option Nat
  | [] => none
  | c :: rest =>
    match s.step c with
    | none => some 0
    | some next => (next.find rest).map (· + 1)

def findUnquotedHash (line : CodeUnits) : Option Nat := Scan.find ⟨none, false⟩ line

/-- The line up to its comment. -/
def uncommented (line : CodeUnits) : CodeUnits :=
  match findUnquotedHash line with
  | some commentIdx => line.take commentIdx
  | none => line

/-- What a letter behind a backslash is replaced by, if it is one of the five. -/
def escapeMeaning (c : UInt16) : Option UInt16 :=
  if c = 110 then some newline
  else if c = 116 then some tab
  else if c = 114 then some carriageReturn
  else if c = doubleQuote then some doubleQuote
  else if c = backslash then some backslash
  else none

/-- `s.replace(/\\(.)/g, …)`; unknown escapes stay literal. -/
def unescapeTomlString : CodeUnits → CodeUnits
  | [] => []
  | [c] => [c]
  | c :: d :: rest =>
    if c = backslash ∧ ¬ isLineTerminator d then
      match escapeMeaning d with
      | some e => e :: unescapeTomlString rest
      | none => c :: d :: unescapeTomlString rest
    else c :: unescapeTomlString (d :: rest)

/-- `/^\[\s*profile\.([A-Za-z0-9_-]+)\s*\]$/`, its group. -/
def sectionMatch : CodeUnits → Option CodeUnits
  | [] => none
  | c :: rest =>
    let inner := rest.dropWhile isSpace
    if c = 91 ∧ (units "profile.").isPrefixOf inner then
      let named := inner.drop (units "profile.").length
      let name := named.takeWhile isNameUnit
      if name ≠ [] ∧ (named.dropWhile isNameUnit).dropWhile isSpace = [93] then some name else none
    else none

/-- `/^([A-Za-z_][A-Za-z0-9_]*)\s*=\s*(.*)$/`, its groups. -/
def kvMatch : CodeUnits → Option (CodeUnits × CodeUnits)
  | [] => none
  | c :: rest =>
    if isKeyStart c then
      match (rest.dropWhile isKeyUnit).dropWhile isSpace with
      | d :: behind =>
        let valuePart := behind.dropWhile isSpace
        if d = 61 ∧ ¬ valuePart.any isLineTerminator then some (c :: rest.takeWhile isKeyUnit, valuePart) else none
      | [] => none
    else none

/-- `((?:[^"\\]|\\.)*)"`, with what follows. -/
def doubleQuoted : CodeUnits → Option (CodeUnits × CodeUnits)
  | [] => none
  | [c] => if c = doubleQuote then some ([], []) else none
  | c :: d :: rest =>
    if c = doubleQuote then some ([], d :: rest)
    else if c = backslash then
      if isLineTerminator d then none else (doubleQuoted rest).map fun m => (c :: d :: m.1, m.2)
    else (doubleQuoted (d :: rest)).map fun m => (c :: m.1, m.2)

/-- `([^']*)'`, with what follows. -/
def singleQuoted (text : CodeUnits) : Option (CodeUnits × CodeUnits) :=
  match text.dropWhile (· ≠ singleQuote) with
  | _ :: behind => some (text.takeWhile (· ≠ singleQuote), behind)
  | [] => none

/-- `/^(?:"((?:[^"\\]|\\.)*)"|'([^']*)')\s*$/`, the group that took part. -/
def valueMatch : CodeUnits → Option CodeUnits
  | [] => none
  | c :: rest =>
    let body := if c = doubleQuote then doubleQuoted rest else if c = singleQuote then singleQuoted rest else none
    (body.filter fun m => m.2.all isSpace).map Prod.fst

/-- `content.split(/\r?\n/)`. -/
def splitLines (content : CodeUnits) : List CodeUnits :=
  let parts := content.splitOn newline
  (parts.dropLast.map fun line => if line.getLast? = some carriageReturn then line.dropLast else line) ++
    parts.getLast?.toList

/-! What `profiles`, a plain object, finds under a name. -/

def protoName : CodeUnits := units "__proto__"

/-- The functions that every object inherits. -/
def builtinNames : List CodeUnits :=
  [units "constructor", units "__defineGetter__", units "__defineSetter__", units "hasOwnProperty",
    units "__lookupGetter__", units "__lookupSetter__", units "isPrototypeOf", units "propertyIsEnumerable",
    units "toString", units "valueOf", units "toLocaleString"]

/-- An object's own string properties. -/
abbrev Entries : Type := CodeUnits → Option CodeUnits

/-- A property of `Object.prototype`: one of its functions, or a text that was put there. -/
inductive Inherited where
  | builtin (name : CodeUnits)
  | text (value : CodeUnits)
  deriving DecidableEq, Repr

/-- A property of `profiles`. -/
inductive Slot where
  | plain (entries : Entries)
  | inherited (value : Inherited)

/-- What `currentProfile` refers to. -/
inductive Target where
  /-- The object under a name of `profiles`. -/
  | own (name : CodeUnits)
  | inherited (value : Inherited)
  /-- `Object.prototype`, which is what the name `__proto__` finds. -/
  | prototype
  deriving DecidableEq, Repr

structure TomlParseError where
  line : Nat
  reason : CodeUnits
  deriving DecidableEq, Repr

inductive ParseFailure where
  | toml (error : TomlParseError)
  /-- An assignment that strict mode refuses. -/
  | typeError (key : CodeUnits)
  deriving DecidableEq, Repr

structure ParserState where
  profiles : CodeUnits → Option Slot
  prototype : CodeUnits → Option Inherited
  currentProfile : Option Target
  lineNum : Nat

namespace ParserState

def started : ParserState where
  profiles _ := none
  prototype name := if name ∈ builtinNames then some (.builtin name) else none
  currentProfile := none
  lineNum := 0

/-- `currentProfile = profiles[name] ?? {}`, and back under the name. -/
def openSection (s : ParserState) (name : CodeUnits) : ParserState :=
  if name = protoName then { s with currentProfile := some .prototype }
  else match s.profiles name with
    | some (.plain _) => { s with currentProfile := some (.own name) }
    | some (.inherited value) => { s with currentProfile := some (.inherited value) }
    | none =>
      match s.prototype name with
      | some value =>
        { s with
          profiles := Function.update s.profiles name (some (.inherited value))
          currentProfile := some (.inherited value) }
      | none =>
        { s with
          profiles := Function.update s.profiles name (some (.plain fun _ => none))
          currentProfile := some (.own name) }

/-- The properties of a builtin function that cannot be assigned. -/
def readOnly (builtin key : CodeUnits) : Bool :=
  key = units "name" || key = units "length" || key = units "caller" || key = units "arguments" ||
    (builtin = units "constructor" && key = units "prototype")

/-- `currentProfile[key] = value`. The setter of `__proto__` passes over a text. -/
def assign (s : ParserState) (target : Target) (key value : CodeUnits) : Except ParseFailure ParserState :=
  if key = protoName then .ok s
  else match target with
    | .own name =>
      match s.profiles name with
      | some (.plain entries) =>
        .ok { s with
          profiles := Function.update s.profiles name (some (.plain (Function.update entries key (some value)))) }
      | _ => .ok s
    | .inherited (.builtin name) => if readOnly name key then .error (.typeError key) else .ok s
    | .inherited (.text _) => .error (.typeError key)
    | .prototype => .ok { s with prototype := Function.update s.prototype key (some (.text value)) }

def fail (s : ParserState) (reason : CodeUnits) : Except ParseFailure ParserState := .error (.toml ⟨s.lineNum, reason⟩)

/-- A line without its comment and the white space around it. -/
def readLine (s : ParserState) (line : CodeUnits) : Except ParseFailure ParserState :=
  if line = [] then .ok s
  else match sectionMatch line with
    | some name => .ok (s.openSection name)
    | none =>
      if line.head? = some 91 then
        s.fail (units "unsupported table header: " ++ line ++ units " (only [profile.NAME] supported)")
      else match s.currentProfile with
        | none => s.fail (units "key=value outside any [profile.NAME] section")
        | some target =>
          match kvMatch line with
          | none => s.fail (units "expected key = \"value\", got: " ++ line)
          | some (key, valuePart) =>
            match valueMatch valuePart with
            | none => s.fail (units "expected quoted string value, got: " ++ valuePart)
            | some value => s.assign target key (unescapeTomlString value)

def step (s : ParserState) (line : CodeUnits) : Except ParseFailure ParserState :=
  { s with lineNum := s.lineNum + 1 }.readLine (trim (uncommented line))

end ParserState

def parseProfilesToml (content : CodeUnits) : Except ParseFailure (CodeUnits → Option Slot) :=
  ((splitLines content).foldlM ParserState.step .started).map ParserState.profiles

namespace Scan
variable {s t : Scan} {p q : CodeUnits} {c : UInt16}

/-- The scan over a text that holds no `#` to be found. -/
def run (s : Scan) (p : CodeUnits) : Option Scan := p.foldlM step s

theorem run_append : s.run (p ++ q) = (s.run p).bind fun t => t.run q := List.foldlM_append

theorem find_run (ran : s.run p = some t) (q : CodeUnits) : s.find (p ++ q) = (t.find q).map (· + p.length) := by
  induction p generalizing s with
  | nil =>
    cases ran
    simp
  | cons c rest ih =>
    rw [run, List.foldlM_cons] at ran
    obtain ⟨next, stepped, ran⟩ := Option.bind_eq_some_iff.mp ran
    rw [List.cons_append, find, stepped]
    simp only [ih ran, Option.map_map, List.length_cons, Function.comp_def]
    congr 1

theorem find_run_nil (ran : s.run p = some t) : s.find p = none := by
  have whole := find_run ran []
  rwa [List.append_nil, find, Option.map_none] at whole

/-- Where there is no `#`, none is found, whatever the quotes say. -/
theorem run_hashless (free : hash ∉ p) (s : Scan) : ∃ t, s.run p = some t := by
  induction p generalizing s with
  | nil => exact ⟨s, rfl⟩
  | cons c rest ih =>
    rw [List.mem_cons, not_or] at free
    have moved : ∃ next, s.step c = some next := by
      unfold step
      split
      · exact ⟨_, rfl⟩
      · split
        · split
          · exact ⟨_, rfl⟩
          · split <;> exact ⟨_, rfl⟩
        · split
          · exact ⟨_, rfl⟩
          · rw [if_neg (Ne.symm free.1)]
            exact ⟨_, rfl⟩
    obtain ⟨next, stepped⟩ := moved
    obtain ⟨t, ran⟩ := ih free.2 next
    exact ⟨t, by rw [run, List.foldlM_cons, stepped]; exact ran⟩

/-- Outside quotes only a quote or a `#` matters. -/
theorem run_outside (plain : ∀ c ∈ p, c ≠ doubleQuote ∧ c ≠ singleQuote ∧ c ≠ hash) :
    run ⟨none, false⟩ p = some ⟨none, false⟩ := by
  induction p with
  | nil => rfl
  | cons c rest ih =>
    obtain ⟨double, single, sharp⟩ := plain c List.mem_cons_self
    have stays : step ⟨none, false⟩ c = some ⟨none, false⟩ := by simp [step, double, single, sharp]
    rw [run, List.foldlM_cons, stays]
    exact ih fun d member => plain d (List.mem_cons_of_mem c member)

theorem find_lt {n : Nat} (found : s.find p = some n) : n < p.length := by
  induction p generalizing s n with
  | nil => cases found
  | cons c rest ih =>
    rw [find] at found
    split at found
    · cases found
      exact Nat.succ_pos _
    · obtain ⟨m, inner, rfl⟩ := Option.map_eq_some_iff.mp found
      exact Nat.succ_lt_succ (ih inner)

/-- A text behind the place changes nothing of it. -/
theorem find_append {n : Nat} (found : s.find p = some n) (q : CodeUnits) : s.find (p ++ q) = some n := by
  induction p generalizing s n with
  | nil => cases found
  | cons c rest ih =>
    rw [List.cons_append, find]
    rw [find] at found
    split at found
    · exact found
    · obtain ⟨m, inner, rfl⟩ := Option.map_eq_some_iff.mp found
      rw [ih inner]
      rfl

theorem run_of_find (missed : s.find p = none) : ∃ t, s.run p = some t := by
  induction p generalizing s with
  | nil => exact ⟨s, rfl⟩
  | cons c rest ih =>
    rw [find] at missed
    split at missed
    · cases missed
    · rename_i next stepped
      obtain ⟨t, ran⟩ := ih (Option.map_eq_none_iff.mp missed)
      exact ⟨t, by rw [run, List.foldlM_cons, stepped]; exact ran⟩

end Scan

theorem trim_blank {pad : CodeUnits} (blank : ∀ c ∈ pad, isSpace c) : trim pad = [] := by
  rw [trim, List.dropWhile_eq_nil_iff.mpr blank]
  rfl

/-- Only white space behind the text is taken off. -/
theorem trim_padded {text pad : CodeUnits} (front : ∀ c, text.head? = some c → ¬ isSpace c)
    (back : ∀ c, text.getLast? = some c → ¬ isSpace c) (blank : ∀ c ∈ pad, isSpace c) : trim (text ++ pad) = text := by
  cases text with
  | nil => exact trim_blank blank
  | cons c rest =>
    have last : ∃ d before, (c :: rest) = before ++ [d] := by
      obtain none | ⟨before, d, same⟩ := List.eq_nil_or_concat' (c :: rest)
      · cases none
      · exact ⟨d, before, same⟩
    obtain ⟨d, before, same⟩ := last
    rw [trim, List.cons_append, List.dropWhile_cons_of_neg (front c rfl), ← List.cons_append, same, List.reverse_append,
      List.reverse_append, List.dropWhile_append_of_pos (fun e member => blank e (List.mem_reverse.mp member))]
    rw [List.reverse_singleton, List.singleton_append,
      List.dropWhile_cons_of_neg (back d (by rw [same, List.getLast?_concat]))]
    rw [List.reverse_cons, List.reverse_reverse]

theorem trim_space {c : UInt16} (space : isSpace c) (text : CodeUnits) : trim (text ++ [c]) = trim text := by
  rw [trim, trim, List.dropWhile_append]
  split
  · rename_i empty
    rw [List.isEmpty_iff.mp empty, List.dropWhile_cons_of_pos space]
    rfl
  · rw [List.reverse_append, List.reverse_singleton, List.singleton_append, List.dropWhile_cons_of_pos space]

namespace ParserState

/-- The carriage return of a line end is white space to the line. -/
theorem step_carriageReturn (s : ParserState) (line : CodeUnits) : s.step (line ++ [carriageReturn]) = s.step line := by
  have same : trim (uncommented (line ++ [carriageReturn])) = trim (uncommented line) := by
    unfold uncommented findUnquotedHash
    cases found : Scan.find ⟨none, false⟩ line with
    | some n =>
      rw [Scan.find_append found]
      simp only
      rw [List.take_append_of_le_length (Nat.le_of_lt (Scan.find_lt found))]
    | none =>
      obtain ⟨t, ran⟩ := Scan.run_of_find found
      obtain ⟨u, ended⟩ := Scan.run_hashless (p := [carriageReturn]) (by decide) t
      rw [Scan.find_run ran, Scan.find_run_nil ended]
      exact trim_space (by decide) line
  rw [step, step, same]

theorem foldlM_splitLines (s : ParserState) (content : CodeUnits) :
    (splitLines content).foldlM step s = (content.splitOn newline).foldlM step s := by
  have chomped : ∀ (line : CodeUnits) (s : ParserState),
      s.step (if line.getLast? = some carriageReturn then line.dropLast else line) = s.step line := by
    intro line s
    split
    · rename_i ends
      have whole : line = line.dropLast ++ [carriageReturn] := (List.dropLast_append_getLast? _ ends).symm
      rw [whole, step_carriageReturn, ← whole]
    · rfl
  unfold splitLines
  obtain none | ⟨before, last, parts⟩ := (content.splitOn newline).eq_nil_or_concat'
  · rw [none]
    rfl
  · simp only [parts, List.dropLast_concat, List.getLast?_concat, Option.toList_some, List.foldlM_append, List.foldlM_map,
      chomped]

end ParserState

end ProfilesToml

end Coordinator
