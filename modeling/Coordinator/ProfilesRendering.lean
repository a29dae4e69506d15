import Coordinator.ProfilesToml

namespace Coordinator
namespace ProfilesToml

open PathNormalize (CodeUnits units)
open GitCochange (isSpace newline trim)

/-- What may follow on a line: white space and a comment. On a line of its own
it is a blank line or a comment line. -/
structure Tail where
  pad : CodeUnits
  comment : Option CodeUnits
  blank : ∀ c ∈ pad, isSpace c ∧ c ≠ newline
  oneLine : ∀ text ∈ comment, newline ∉ text

def Tail.text (t : Tail) : CodeUnits := t.pad ++ (t.comment.elim [] fun text => hash :: text)

inductive Quoting where
  | double
  | single
  deriving DecidableEq, Repr

def escapeUnit (c : UInt16) : CodeUnits :=
  if c = newline then [backslash, 110]
  else if c = tab then [backslash, 116]
  else if c = carriageReturn then [backslash, 114]
  else if c = doubleQuote then [backslash, doubleQuote]
  else if c = backslash then [backslash, backslash]
  else [c]

def escape (value : CodeUnits) : CodeUnits := value.flatMap escapeUnit

/-- `[A-Za-z0-9_-]+`. -/
def isName (name : CodeUnits) : Bool := name ≠ [] && name.all isNameUnit

/-- `[A-Za-z_][A-Za-z0-9_]*`. -/
def isKey : CodeUnits → Bool
  | [] => false
  | c :: rest => isKeyStart c && rest.all isKeyUnit

/-- A key with its value, how the value is written, what ends its line, and the
blank lines and comments above it. -/
structure Setting where
  key : CodeUnits
  value : CodeUnits
  quoting : Quoting
  tail : Tail
  above : List Tail
  keyed : isKey key
  /-- A value that holds a single quote or a line break is not written verbatim. -/
  verbatim : quoting = .single → ∀ c ∈ value, c ≠ singleQuote ∧ c ≠ newline ∧ c ≠ carriageReturn

/-- A profile with its settings. -/
structure Section where
  name : CodeUnits
  settings : List Setting
  tail : Tail
  above : List Tail
  named : isName name
  distinct : (settings.map Setting.key).Nodup

structure ConfigFile where
  sections : List Section
  below : List Tail
  distinct : (sections.map Section.name).Nodup

namespace Setting

/-- The text between the quotes. -/
def body (st : Setting) : CodeUnits :=
  match st.quoting with
  | .double => escape st.value
  | .single => st.value

def mark (st : Setting) : UInt16 :=
  match st.quoting with
  | .double => doubleQuote
  | .single => singleQuote

def quoted (st : Setting) : CodeUnits := st.mark :: (st.body ++ [st.mark])

/-- `key = value`. -/
def text (st : Setting) : CodeUnits := st.key ++ 32 :: 61 :: 32 :: st.quoted

def lines (st : Setting) : List CodeUnits := st.above.map Tail.text ++ [st.text ++ st.tail.text]

/-- What the parser makes of a value that it can read. -/
def read (st : Setting) : CodeUnits :=
  match st.quoting with
  | .double => st.value
  | .single => unescapeTomlString st.value

end Setting

namespace Section

def header (sec : Section) : CodeUnits := 91 :: (units "profile." ++ sec.name ++ [93])

def lines (sec : Section) : List CodeUnits :=
  sec.above.map Tail.text ++ (sec.header ++ sec.tail.text) :: sec.settings.flatMap Setting.lines

def entries (sec : Section) : Entries := fun key => (sec.settings.find? fun st => st.key = key).map Setting.value

end Section

namespace ConfigFile

def lines (c : ConfigFile) : List CodeUnits := c.sections.flatMap Section.lines ++ c.below.map Tail.text

def render (c : ConfigFile) : CodeUnits := [newline].intercalate c.lines

/-- The map that the file is written for. -/
def profiles (c : ConfigFile) : CodeUnits → Option Slot := fun name =>
  (c.sections.find? fun sec => sec.name = name).map fun sec => .plain sec.entries

end ConfigFile

/-- A backslash stands before one of `n`, `t`, `r`, a double quote or a backslash. -/
def hasEscape : CodeUnits → Bool
  | c :: d :: rest => (c = backslash && (escapeMeaning d).isSome) || hasEscape (d :: rest)
  | _ => false

/-- The scanner is behind a backslash when it reaches the end of the value. -/
def endsEscaped (escaped : Bool) (value : CodeUnits) : Bool := value.foldl (fun escaped c => !escaped && c = backslash) escaped

section Quotes
variable {c d e : UInt16} {value rest : CodeUnits}

theorem escapeMeaning_terminator (terminator : isLineTerminator d) : escapeMeaning d = none := by
  simp only [isLineTerminator, Bool.or_eq_true, decide_eq_true_eq] at terminator
  rcases terminator with ((rfl | rfl) | rfl) | rfl <;> decide

/-- A code unit is written as it is, or as the escape that means it. -/
theorem escapeUnit_cases (c : UInt16) : (∃ d, escapeUnit c = [backslash, d] ∧ escapeMeaning d = some c) ∨
    escapeUnit c = [c] ∧ c ≠ newline ∧ c ≠ carriageReturn ∧ c ≠ doubleQuote ∧ c ≠ backslash := by
  unfold escapeUnit
  split
  · rename_i same
    exact .inl ⟨110, rfl, by rw [same]; decide⟩
  · rename_i notNewline
    split
    · rename_i same
      exact .inl ⟨116, rfl, by rw [same]; decide⟩
    · split
      · rename_i same
        exact .inl ⟨114, rfl, by rw [same]; decide⟩
      · rename_i notReturn
        split
        · rename_i same
          exact .inl ⟨doubleQuote, rfl, by rw [same]; decide⟩
        · rename_i notQuote
          split
          · rename_i same
            exact .inl ⟨backslash, rfl, by rw [same]; decide⟩
          · rename_i notBackslash
            exact .inr ⟨rfl, notNewline, notReturn, notQuote, notBackslash⟩

theorem unescape_plain (plain : c ≠ backslash) : unescapeTomlString (c :: rest) = c :: unescapeTomlString rest := by
  cases rest with
  | nil => rfl
  | cons d rest => rw [unescapeTomlString, if_neg fun both => plain both.1]

theorem unescape_known (known : escapeMeaning d = some e) :
    unescapeTomlString (backslash :: d :: rest) = e :: unescapeTomlString rest := by
  have matched : ¬ isLineTerminator d := fun terminator => by
    rw [escapeMeaning_terminator terminator] at known
    cases known
  rw [unescapeTomlString, if_pos ⟨rfl, matched⟩, known]

theorem unescape_escape (value : CodeUnits) : unescapeTomlString (escape value) = value := by
  induction value with
  | nil => rfl
  | cons c rest ih =>
    rw [escape, List.flatMap_cons, ← escape]
    obtain ⟨d, written, known⟩ | ⟨written, -, -, -, plain⟩ := escapeUnit_cases c
    · rw [written]
      exact (unescape_known known).trans (congrArg (c :: ·) ih)
    · rw [written]
      exact (unescape_plain plain).trans (congrArg (c :: ·) ih)

theorem doubleQuoted_plain (quote : c ≠ doubleQuote) (plain : c ≠ backslash) :
    doubleQuoted (c :: rest) = (doubleQuoted rest).map fun m => (c :: m.1, m.2) := by
  cases rest with
  | nil => simp [doubleQuoted, quote]
  | cons d rest => rw [doubleQuoted, if_neg quote, if_neg plain]

theorem doubleQuoted_escape (value rest : CodeUnits) :
    doubleQuoted (escape value ++ doubleQuote :: rest) = some (escape value, rest) := by
  induction value with
  | nil => cases rest <;> rfl
  | cons c more ih =>
    rw [escape, List.flatMap_cons, ← escape, List.append_assoc]
    obtain ⟨d, written, known⟩ | ⟨written, -, -, quote, plain⟩ := escapeUnit_cases c
    · have matched : ¬ isLineTerminator d := fun terminator => by
        rw [escapeMeaning_terminator terminator] at known
        cases known
      rw [written, List.cons_append, List.cons_append, List.nil_append, doubleQuoted, if_neg (by decide), if_pos rfl,
        if_neg matched, ih]
      rfl
    · rw [written, List.singleton_append, doubleQuoted_plain quote plain, ih]
      rfl

theorem singleQuoted_literal (free : ∀ c ∈ value, c ≠ singleQuote) (rest : CodeUnits) :
    singleQuoted (value ++ singleQuote :: rest) = some (value, rest) := by
  have before : ∀ c ∈ value, decide (c ≠ singleQuote) = true := fun c member => decide_eq_true (free c member)
  rw [singleQuoted, List.dropWhile_append_of_pos before, List.takeWhile_append_of_pos before,
    List.dropWhile_cons_of_neg (by decide), List.takeWhile_cons_of_neg (by decide), List.append_nil]

theorem run_escape (value : CodeUnits) :
    Scan.run ⟨some doubleQuote, false⟩ (escape value) = some ⟨some doubleQuote, false⟩ := by
  induction value with
  | nil => rfl
  | cons c rest ih =>
    rw [escape, List.flatMap_cons, ← escape, Scan.run_append]
    have passed : Scan.run ⟨some doubleQuote, false⟩ (escapeUnit c) = some ⟨some doubleQuote, false⟩ := by
      obtain ⟨d, written, -⟩ | ⟨written, -, -, quote, plain⟩ := escapeUnit_cases c
      · rw [written]
        rfl
      · rw [written]
        simp [Scan.run, Scan.step, quote, plain]
    rw [passed]
    exact ih

theorem run_literal (free : ∀ c ∈ value, c ≠ singleQuote) (escaped : Bool) :
    Scan.run ⟨some singleQuote, escaped⟩ value = some ⟨some singleQuote, endsEscaped escaped value⟩ := by
  induction value generalizing escaped with
  | nil => rfl
  | cons c rest ih =>
    have stepped : Scan.step ⟨some singleQuote, escaped⟩ c = some ⟨some singleQuote, !escaped && c = backslash⟩ := by
      cases escaped with
      | true => rfl
      | false =>
        by_cases slash : c = backslash
        · simp [Scan.step, slash]
        · simp [Scan.step, slash, free c List.mem_cons_self]
    rw [Scan.run, List.foldlM_cons, stepped]
    exact ih (fun d member => free d (List.mem_cons_of_mem c member)) _

theorem hasEscape_plain (plain : c ≠ backslash) : hasEscape (c :: rest) = hasEscape rest := by
  cases rest with
  | nil => rfl
  | cons d rest => simp [hasEscape, plain]

theorem unescape_length (value : CodeUnits) : (unescapeTomlString value).length ≤ value.length := by
  fun_induction unescapeTomlString value <;> grind

/-- A verbatim value survives the unescaping just when none of the five escapes is in it. -/
theorem unescape_eq_self (value : CodeUnits) : unescapeTomlString value = value ↔ ¬ hasEscape value := by
  fun_induction unescapeTomlString value with
  | case1 => simp [hasEscape]
  | case2 c => simp [hasEscape]
  | case3 c d rest matched e known ih =>
    have shorter := unescape_length rest
    refine iff_of_false (fun same => ?_) (not_not.mpr ?_)
    · have lengths := congrArg List.length same
      simp only [List.length_cons] at lengths
      omega
    · simp [hasEscape, matched.1, known]
  | case4 c d rest matched unknown ih =>
    have plain : d ≠ backslash := by
      rintro rfl
      cases unknown
    simp [hasEscape, unknown, hasEscape_plain plain, ih]
  | case5 c d rest unmatched ih =>
    have skipped : hasEscape (c :: d :: rest) = hasEscape (d :: rest) := by
      by_cases slash : c = backslash
      · have terminator : isLineTerminator d := by
          by_contra plain
          exact unmatched ⟨slash, plain⟩
        simp [hasEscape, escapeMeaning_terminator terminator]
      · exact hasEscape_plain slash
    rw [skipped, List.cons.injEq, and_iff_right rfl]
    exact ih

/-- Without an escape no backslash stands before another one, so only a last one counts. -/
theorem endsEscaped_iff (value : CodeUnits) (unescaped : ¬ hasEscape value) :
    endsEscaped false value ↔ value.getLast? = some backslash := by
  fun_induction hasEscape value with
  | case1 c d rest ih =>
    rw [Bool.or_eq_true, not_or] at unescaped
    rw [List.getLast?_cons_cons, ← ih unescaped.2]
    by_cases slash : c = backslash
    · have plain : d ≠ backslash := by
        rintro rfl
        exact unescaped.1 (by rw [slash]; decide)
      simp [endsEscaped, slash, plain]
    · simp [endsEscaped, slash]
  | case2 value short =>
    match value with
    | [] => simp [endsEscaped]
    | [c] => simp [endsEscaped]
    | c :: d :: rest => exact absurd rfl (short c d rest)

end Quotes

section Lines
variable {text : CodeUnits} {t : Tail} {st : Setting} {sec : Section} {s : ParserState}

theorem hash_notMem_pad (t : Tail) : hash ∉ t.pad := by
  intro member
  exact absurd (t.blank hash member).1 (by decide)

/-- A comment begins outside quotes, and without a comment it does not matter where the quotes leave the scanner. -/
theorem uncommented_tail (ran : Scan.run ⟨none, false⟩ text = some ⟨none, false⟩ ∨
    t.comment = none ∧ ∃ u, Scan.run ⟨none, false⟩ text = some u) : uncommented (text ++ t.text) = text ++ t.pad := by
  unfold uncommented findUnquotedHash
  cases ended : t.comment with
  | none =>
    have run : ∃ u, Scan.run ⟨none, false⟩ text = some u := ran.elim (fun outside => ⟨_, outside⟩) fun loose => loose.2
    obtain ⟨u, run⟩ := run
    obtain ⟨v, padded⟩ := Scan.run_hashless (hash_notMem_pad t) u
    rw [Tail.text, ended, Option.elim_none, List.append_nil, Scan.find_run run, Scan.find_run_nil padded]
    rfl
  | some comment =>
    have outside : Scan.run ⟨none, false⟩ text = some ⟨none, false⟩ :=
      ran.resolve_right fun loose => by simp [ended] at loose
    have padded : Scan.run ⟨none, false⟩ (text ++ t.pad) = some ⟨none, false⟩ := by
      rw [Scan.run_append, outside]
      refine Scan.run_outside fun c member => ?_
      have space := (t.blank c member).1
      refine ⟨?_, ?_, ?_⟩ <;> rintro rfl <;> exact absurd space (by decide)
    have stopped : Scan.find ⟨none, false⟩ (hash :: comment) = some 0 := rfl
    rw [Tail.text, ended, Option.elim_some, ← List.append_assoc, Scan.find_run padded, stopped]
    simp only [Option.map_some, Nat.zero_add, List.take_left]

theorem step_tail (t : Tail) (s : ParserState) : s.step t.text = .ok { s with lineNum := s.lineNum + 1 } := by
  have bare : uncommented ([] ++ t.text) = [] ++ t.pad := uncommented_tail (.inl rfl)
  rw [List.nil_append, List.nil_append] at bare
  rw [ParserState.step, bare, trim_blank fun c member => (t.blank c member).1]
  rfl

theorem isNameUnit_plain {c : UInt16} (unit : isNameUnit c) :
    c ≠ newline ∧ c ≠ doubleQuote ∧ c ≠ singleQuote ∧ c ≠ hash := by
  refine ⟨?_, ?_, ?_, ?_⟩ <;> rintro rfl <;> exact absurd unit (by decide)

theorem isKeyUnit_plain {c : UInt16} (unit : isKeyUnit c) :
    c ≠ newline ∧ c ≠ doubleQuote ∧ c ≠ singleQuote ∧ c ≠ hash := by
  refine ⟨?_, ?_, ?_, ?_⟩ <;> rintro rfl <;> exact absurd unit (by decide)

theorem isKeyUnit_visible {c : UInt16} (unit : isKeyUnit c) : ¬ isSpace c := by
  intro space
  simp only [isKeyUnit, isKeyStart, PathNormalize.isLetter, isDigit, isSpace, Bool.or_eq_true, Bool.and_eq_true,
    decide_eq_true_eq, UInt16.le_iff_toNat_le, ← UInt16.toNat_inj] at unit space
  simp only [UInt16.reduceToNat] at unit space
  omega

/-- A key is a first code unit and more of them. -/
theorem Setting.key_cons (st : Setting) :
    ∃ c rest, st.key = c :: rest ∧ isKeyStart c ∧ ∀ d ∈ c :: rest, isKeyUnit d := by
  have keyed := st.keyed
  cases found : st.key with
  | nil =>
    rw [found] at keyed
    cases keyed
  | cons c rest =>
    rw [found, isKey, Bool.and_eq_true, List.all_eq_true] at keyed
    refine ⟨c, rest, rfl, keyed.1, ?_⟩
    intro d member
    rcases List.mem_cons.mp member with rfl | later
    · rw [isKeyUnit, keyed.1, Bool.true_or]
    · exact keyed.2 d later

/-- Its text and what follows on the line are a match of the key with the rest, whatever is written as the value. -/
theorem kvMatch_text (st : Setting) {valuePart : CodeUnits} (front : ∀ c, valuePart.head? = some c → ¬ isSpace c) :
    kvMatch (st.key ++ 32 :: 61 :: 32 :: valuePart) =
      if valuePart.any isLineTerminator then none else some (st.key, valuePart) := by
  obtain ⟨c, rest, key, start, units⟩ := st.key_cons
  have more : ∀ d ∈ rest, isKeyUnit d := fun d member => units d (List.mem_cons_of_mem c member)
  have value : valuePart.dropWhile isSpace = valuePart := by
    cases valuePart with
    | nil => rfl
    | cons d _ => exact List.dropWhile_cons_of_neg (front d rfl)
  have behind : (32 :: valuePart).dropWhile isSpace = valuePart := by
    rw [List.dropWhile_cons_of_pos (by decide), value]
  rw [key, List.cons_append, kvMatch, if_pos start, List.dropWhile_append_of_pos more, List.takeWhile_append_of_pos more,
    List.dropWhile_cons_of_neg (by decide), List.takeWhile_cons_of_neg (by decide), List.dropWhile_cons_of_pos (by decide),
    List.dropWhile_cons_of_neg (by decide)]
  by_cases terminated : valuePart.any isLineTerminator <;> simp [behind, terminated]

theorem sectionMatch_text (st : Setting) (rest : CodeUnits) : sectionMatch (st.key ++ rest) = none := by
  obtain ⟨c, more, key, start, -⟩ := st.key_cons
  have bracket : c ≠ 91 := by
    rintro rfl
    exact absurd start (by decide)
  rw [key, List.cons_append, sectionMatch]
  simp [bracket]

/-- A line with a key comes to the part of `parseProfilesToml` behind the table headers. -/
theorem readLine_key (st : Setting) (rest : CodeUnits) (s : ParserState) : s.readLine (st.key ++ rest) =
    match s.currentProfile with
    | none => s.fail (units "key=value outside any [profile.NAME] section")
    | some target =>
      match kvMatch (st.key ++ rest) with
      | none => s.fail (units "expected key = \"value\", got: " ++ (st.key ++ rest))
      | some (key, valuePart) =>
        match valueMatch valuePart with
        | none => s.fail (units "expected quoted string value, got: " ++ valuePart)
        | some value => s.assign target key (unescapeTomlString value) := by
  obtain ⟨c, more, key, start, -⟩ := st.key_cons
  have bracket : c ≠ 91 := by
    rintro rfl
    exact absurd start (by decide)
  have shown : st.key ++ rest ≠ [] := by rw [key]; exact List.cons_ne_nil _ _
  have noTable : (st.key ++ rest).head? ≠ some 91 := by
    rw [key]
    simpa using bracket
  rw [ParserState.readLine, if_neg shown, sectionMatch_text]
  exact if_neg noTable

theorem readLine_text (st : Setting) {valuePart value : CodeUnits} {target : Target}
    (front : ∀ c, valuePart.head? = some c → ¬ isSpace c) (current : s.currentProfile = some target)
    (line : ¬ valuePart.any isLineTerminator) (matched : valueMatch valuePart = some value) :
    s.readLine (st.key ++ 32 :: 61 :: 32 :: valuePart) = s.assign target st.key (unescapeTomlString value) := by
  rw [readLine_key, current, kvMatch_text st front, if_neg line]
  simp only [matched]

/-- A value that is not matched makes the line an error, wherever it stands. -/
theorem readLine_error (st : Setting) {valuePart : CodeUnits} (front : ∀ c, valuePart.head? = some c → ¬ isSpace c)
    (unmatched : valuePart.any isLineTerminator ∨ valueMatch valuePart = none) (s : ParserState) :
    ∃ e, s.readLine (st.key ++ 32 :: 61 :: 32 :: valuePart) = .error e := by
  rw [readLine_key, kvMatch_text st front]
  cases s.currentProfile with
  | none => exact ⟨_, rfl⟩
  | some target =>
    by_cases line : valuePart.any isLineTerminator
    · rw [if_pos line]
      exact ⟨_, rfl⟩
    · simp only [if_neg line, unmatched.resolve_left line]
      exact ⟨_, rfl⟩

theorem valueMatch_quoted (st : Setting) : valueMatch st.quoted = some st.body := by
  cases style : st.quoting with
  | double =>
    rw [Setting.quoted, Setting.mark, Setting.body, style]
    simp only [valueMatch, if_true, doubleQuoted_escape]
    rfl
  | single =>
    have free : ∀ c ∈ st.value, c ≠ singleQuote := fun c member => (st.verbatim style c member).1
    rw [Setting.quoted, Setting.mark, Setting.body, style]
    have apart : ¬ singleQuote = doubleQuote := by decide
    simp only [valueMatch, if_neg apart, if_true, singleQuoted_literal free]
    rfl

theorem quoted_front (st : Setting) : ∀ c, st.quoted.head? = some c → ¬ isSpace c := by
  intro c first
  obtain rfl : st.mark = c := Option.some.inj first
  unfold Setting.mark
  cases st.quoting <;> decide

theorem text_front (st : Setting) : ∀ c, st.text.head? = some c → ¬ isSpace c := by
  obtain ⟨d, more, key, -, units⟩ := st.key_cons
  intro c first
  rw [Setting.text, key] at first
  obtain rfl : d = c := Option.some.inj first
  exact isKeyUnit_visible (units d List.mem_cons_self)

theorem text_back (st : Setting) : ∀ c, st.text.getLast? = some c → ¬ isSpace c := by
  intro c last
  have ends : st.text = st.key ++ 32 :: 61 :: 32 :: st.mark :: st.body ++ [st.mark] := by
    simp [Setting.text, Setting.quoted]
  rw [ends, List.getLast?_concat] at last
  exact quoted_front st c last

/-- The closing quote of a verbatim value is taken for an escaped one. -/
def Setting.overrun (st : Setting) : Prop := st.quoting = .single ∧ endsEscaped false st.value

theorem run_key (st : Setting) : Scan.run ⟨none, false⟩ (st.key ++ [32, 61, 32]) = some ⟨none, false⟩ := by
  obtain ⟨c, more, key, -, units⟩ := st.key_cons
  refine Scan.run_outside fun d member => ?_
  rcases List.mem_append.mp member with named | between
  · rw [key] at named
    exact (isKeyUnit_plain (units d named)).2
  · simp only [List.mem_cons, List.not_mem_nil, or_false] at between
    rcases between with rfl | rfl | rfl <;> decide

/-- Where the scanner stands behind the closing quote. -/
theorem run_text (st : Setting) : Scan.run ⟨none, false⟩ st.text =
    some (if st.quoting = .single ∧ endsEscaped false st.value then ⟨some singleQuote, false⟩ else ⟨none, false⟩) := by
  have whole : st.text = (st.key ++ [32, 61, 32]) ++ ([st.mark] ++ (st.body ++ [st.mark])) := by
    simp [Setting.text, Setting.quoted]
  rw [whole, Scan.run_append, run_key, Option.bind_some, Scan.run_append]
  cases style : st.quoting with
  | double =>
    have opened : Scan.run ⟨none, false⟩ [st.mark] = some ⟨some doubleQuote, false⟩ := by rw [Setting.mark, style]; rfl
    rw [opened, Option.bind_some, Setting.body, style, Scan.run_append, run_escape, Setting.mark, style]
    rfl
  | single =>
    have opened : Scan.run ⟨none, false⟩ [st.mark] = some ⟨some singleQuote, false⟩ := by rw [Setting.mark, style]; rfl
    have free : ∀ c ∈ st.value, c ≠ singleQuote := fun c member => (st.verbatim style c member).1
    rw [opened, Option.bind_some, Setting.body, style, Scan.run_append, run_literal free, Option.bind_some, Setting.mark,
      style]
    cases endsEscaped false st.value <;> rfl

/-- Unless a comment stands behind an overrun quote, the line is cut down to its text. -/
theorem trim_setting (st : Setting) (cut : st.overrun → st.tail.comment = none) :
    trim (uncommented (st.text ++ st.tail.text)) = st.text := by
  have bare : uncommented (st.text ++ st.tail.text) = st.text ++ st.tail.pad := by
    refine uncommented_tail ?_
    rw [run_text]
    by_cases overrun : st.overrun
    · exact .inr ⟨cut overrun, _, rfl⟩
    · exact .inl (congrArg some (if_neg overrun))
  rw [bare, trim_padded (text_front st) (text_back st) fun c member => (st.tail.blank c member).1]

/-- White space is taken off behind a comment, not the `#` before it. -/
theorem trim_hash {text : CodeUnits} (shown : text ≠ []) (front : ∀ c, text.head? = some c → ¬ isSpace c) (rest : CodeUnits) :
    ∃ core, trim (text ++ hash :: rest) = text ++ hash :: core := by
  have begins : (text ++ hash :: rest).dropWhile isSpace = text ++ hash :: rest := by
    cases text with
    | nil => exact absurd rfl shown
    | cons c more => rw [List.cons_append, List.dropWhile_cons_of_neg (front c rfl)]
  have mirrored : (text ++ hash :: rest).reverse = rest.reverse ++ hash :: text.reverse := by simp
  rw [trim, begins, mirrored, List.dropWhile_append]
  split
  · refine ⟨[], ?_⟩
    rw [List.dropWhile_cons_of_neg (by decide)]
    simp
  · refine ⟨(rest.reverse.dropWhile isSpace).reverse, ?_⟩
    simp

theorem run_blank {pad : CodeUnits} (blank : ∀ c ∈ pad, isSpace c) :
    Scan.run ⟨some singleQuote, false⟩ pad = some ⟨some singleQuote, false⟩ := by
  induction pad with
  | nil => rfl
  | cons c rest ih =>
    have stays : Scan.step ⟨some singleQuote, false⟩ c = some ⟨some singleQuote, false⟩ := by
      have space := blank c List.mem_cons_self
      have slash : c ≠ backslash := by
        rintro rfl
        exact absurd space (by decide)
      have quote : c ≠ singleQuote := by
        rintro rfl
        exact absurd space (by decide)
      simp [Scan.step, slash, quote]
    rw [Scan.run, List.foldlM_cons, stays]
    exact ih fun d member => blank d (List.mem_cons_of_mem c member)

/-- A comment behind an overrun quote stays on the line. -/
theorem trim_overrun (st : Setting) (overrun : st.overrun) {comment : CodeUnits} (ended : st.tail.comment = some comment) :
    ∃ core, trim (uncommented (st.text ++ st.tail.text)) = st.text ++ (st.tail.pad ++ hash :: core) := by
  have both : st.quoting = .single ∧ endsEscaped false st.value := overrun
  have inside : Scan.run ⟨none, false⟩ (st.text ++ st.tail.pad) = some ⟨some singleQuote, false⟩ := by
    rw [Scan.run_append, run_text, if_pos both, Option.bind_some, run_blank fun c member => (st.tail.blank c member).1]
  have withHash : Scan.run ⟨none, false⟩ (st.text ++ st.tail.pad ++ [hash]) = some ⟨some singleQuote, false⟩ := by
    rw [Scan.run_append, inside]
    rfl
  have line : st.text ++ st.tail.text = st.text ++ st.tail.pad ++ [hash] ++ comment := by simp [Tail.text, ended]
  have kept : ∃ rest, uncommented (st.text ++ st.tail.text) = st.text ++ st.tail.pad ++ hash :: rest := by
    unfold uncommented findUnquotedHash
    rw [line, Scan.find_run withHash]
    cases Scan.find ⟨some singleQuote, false⟩ comment with
    | none => exact ⟨comment, by simp⟩
    | some n =>
      refine ⟨comment.take n, ?_⟩
      simp only [Option.map_some, Nat.add_comm n, List.take_length_add_append]
      simp
  obtain ⟨rest, same⟩ := kept
  have shown : st.text ++ st.tail.pad ≠ [] := by simp [Setting.text]
  have front : ∀ c, (st.text ++ st.tail.pad).head? = some c → ¬ isSpace c := by
    intro c first
    obtain ⟨d, more, key, -, -⟩ := st.key_cons
    refine text_front st c ?_
    rw [Setting.text, key] at first ⊢
    exact first
  obtain ⟨core, trimmed⟩ := trim_hash shown front rest
  exact ⟨core, by rw [same, trimmed, List.append_assoc]⟩

/-- The parser can read the value: no line separator in it, and no comment behind an overrun quote. -/
def Setting.readable (st : Setting) : Prop :=
  ¬ st.body.any isLineTerminator ∧ (st.overrun → st.tail.comment = none)

theorem unescape_body (st : Setting) : unescapeTomlString st.body = st.read := by
  unfold Setting.body Setting.read
  cases st.quoting with
  | double => exact unescape_escape st.value
  | single => rfl

theorem quoted_terminators (st : Setting) (rest : CodeUnits) :
    (st.quoted ++ rest).any isLineTerminator = (st.body.any isLineTerminator || rest.any isLineTerminator) := by
  have mark : isLineTerminator st.mark = false := by
    unfold Setting.mark
    cases st.quoting <;> rfl
  simp [Setting.quoted, mark]

theorem step_setting (st : Setting) (readable : st.readable) {target : Target} (current : s.currentProfile = some target) :
    s.step (st.text ++ st.tail.text) = { s with lineNum := s.lineNum + 1 }.assign target st.key st.read := by
  have line : ¬ st.quoted.any isLineTerminator := by
    have same := quoted_terminators st []
    rw [List.append_nil, List.any_nil, Bool.or_false] at same
    rw [same]
    exact readable.1
  rw [ParserState.step, trim_setting st readable.2, Setting.text,
    readLine_text (s := { s with lineNum := s.lineNum + 1 }) st (quoted_front st) current line (valueMatch_quoted st),
    unescape_body]

theorem step_unreadable (st : Setting) (unreadable : ¬ st.readable) (s : ParserState) :
    ∃ e, s.step (st.text ++ st.tail.text) = .error e := by
  rw [ParserState.step]
  by_cases cut : st.overrun → st.tail.comment = none
  · have terminated : st.body.any isLineTerminator := by
      by_contra line
      exact unreadable ⟨line, cut⟩
    rw [trim_setting st cut]
    refine readLine_error st (quoted_front st) (.inl ?_) _
    have same := quoted_terminators st []
    rw [List.append_nil, terminated, Bool.true_or] at same
    exact same
  · rw [Classical.not_imp] at cut
    obtain ⟨overrun, commented⟩ := cut
    obtain ⟨comment, ended⟩ := Option.ne_none_iff_exists'.mp commented
    obtain ⟨core, trimmed⟩ := trim_overrun st overrun ended
    have front : ∀ c, (st.quoted ++ (st.tail.pad ++ hash :: core)).head? = some c → ¬ isSpace c := quoted_front st
    have unmatched : valueMatch (st.quoted ++ (st.tail.pad ++ hash :: core)) = none := by
      have free : ∀ c ∈ st.value, c ≠ singleQuote := fun c member => (st.verbatim overrun.1 c member).1
      have apart : ¬ singleQuote = doubleQuote := by decide
      have left : (st.tail.pad ++ hash :: core).all isSpace = false := by
        rw [List.all_append, List.all_cons]
        have sharp : isSpace hash = false := by decide
        rw [sharp, Bool.false_and, Bool.and_false]
      rw [Setting.quoted, Setting.mark, Setting.body, overrun.1]
      simp only [List.cons_append, List.append_assoc, List.nil_append, valueMatch, if_neg apart, if_true,
        singleQuoted_literal free, Option.filter_some, left, Bool.false_eq_true, if_false, Option.map_none]
    have failed := readLine_error st front (.inr unmatched) { s with lineNum := s.lineNum + 1 }
    rw [trimmed]
    simpa only [Setting.text, List.append_assoc, List.cons_append] using failed

theorem Section.name_units (sec : Section) : sec.name ≠ [] ∧ ∀ c ∈ sec.name, isNameUnit c := by
  have named := sec.named
  rw [isName, Bool.and_eq_true, decide_eq_true_eq, List.all_eq_true] at named
  exact named

theorem sectionMatch_header (sec : Section) : sectionMatch sec.header = some sec.name := by
  obtain ⟨shown, units⟩ := sec.name_units
  have inner : (PathNormalize.units "profile." ++ sec.name ++ [93]).dropWhile isSpace =
      PathNormalize.units "profile." ++ (sec.name ++ [93]) := by
    rw [List.append_assoc]
    exact List.dropWhile_cons_of_neg (by decide)
  have named : (sec.name ++ [93]).takeWhile isNameUnit = sec.name := by
    rw [List.takeWhile_append_of_pos units, List.takeWhile_cons_of_neg (by decide), List.append_nil]
  have closed : ((sec.name ++ [93]).dropWhile isNameUnit).dropWhile isSpace = [93] := by
    rw [List.dropWhile_append_of_pos units, List.dropWhile_cons_of_neg (by decide), List.dropWhile_cons_of_neg (by decide)]
  have starts : (PathNormalize.units "profile.").isPrefixOf (PathNormalize.units "profile." ++ (sec.name ++ [93])) := by
    rw [List.isPrefixOf_iff_prefix]
    exact List.prefix_append _ _
  rw [Section.header, sectionMatch]
  simp only [inner, starts, List.drop_left, named, closed, shown, ne_eq, not_false_eq_true, and_self, if_true]

theorem trim_header (sec : Section) : trim (uncommented (sec.header ++ sec.tail.text)) = sec.header := by
  have ran : Scan.run ⟨none, false⟩ sec.header = some ⟨none, false⟩ := by
    refine Scan.run_outside fun c member => ?_
    have around : ((91 : UInt16) :: 93 :: units "profile.").all
        (fun c => c ≠ doubleQuote ∧ c ≠ singleQuote ∧ c ≠ hash) = true := by decide
    have apart : ∀ d ∈ (91 : UInt16) :: 93 :: units "profile.", d ≠ doubleQuote ∧ d ≠ singleQuote ∧ d ≠ hash :=
      fun d listed => of_decide_eq_true (List.all_eq_true.mp around d listed)
    simp only [Section.header, List.mem_cons, List.mem_append, List.not_mem_nil, or_false] at member
    rcases member with rfl | (profile | named) | rfl
    · exact apart 91 (by simp)
    · exact apart c (by simp [profile])
    · exact (isNameUnit_plain (sec.name_units.2 c named)).2
    · exact apart 93 (by simp)
  rw [uncommented_tail (.inl ran), trim_padded _ _ fun c member => (sec.tail.blank c member).1]
  · rintro c first
    obtain rfl : 91 = c := Option.some.inj first
    decide
  · intro c last
    have ends : sec.header = 91 :: (units "profile." ++ sec.name) ++ [93] := by simp [Section.header]
    rw [ends, List.getLast?_concat] at last
    obtain rfl : 93 = c := Option.some.inj last
    decide

theorem step_header (sec : Section) (s : ParserState) : s.step (sec.header ++ sec.tail.text) =
    .ok ({ s with lineNum := s.lineNum + 1 }.openSection sec.name) := by
  rw [ParserState.step, trim_header, ParserState.readLine, if_neg (by simp [Section.header]), sectionMatch_header]

end Lines

end ProfilesToml

end Coordinator
