import Coordinator.ProfilesRendering

namespace Coordinator
namespace ProfilesToml

open PathNormalize (CodeUnits units)
open GitCochange (newline)

/-- The condition under which the text of a file is read back. -/
structure Plain (c : ConfigFile) : Prop where
  names : ∀ sec ∈ c.sections, sec.name ∉ protoName :: builtinNames
  keys : ∀ sec ∈ c.sections, ∀ st ∈ sec.settings, st.key ≠ protoName
  values : ∀ sec ∈ c.sections, ∀ st ∈ sec.settings, 0x2028 ∉ st.value ∧ 0x2029 ∉ st.value
  literals : ∀ sec ∈ c.sections, ∀ st ∈ sec.settings, st.quoting = .single →
    ¬ hasEscape st.value ∧ (st.tail.comment.isSome → st.value.getLast? ≠ some backslash)

/-- An object after an assignment of a text. -/
def Entries.put (entries : Entries) (key value : CodeUnits) : Entries :=
  if key = protoName then entries else Function.update entries key (some value)

/-- What is stored of a profile. -/
def Section.stored (sec : Section) : Entries := sec.settings.foldl (fun entries st => entries.put st.key st.read) fun _ => none

/-- From any line number on, the lines take `profiles` and `currentProfile` from
the one state to the other and leave `Object.prototype` alone. -/
def Runs (lines : List CodeUnits) (profiles : CodeUnits → Option Slot) (current : Option Target)
    (profiles' : CodeUnits → Option Slot) (current' : Option Target) : Prop :=
  ∀ n, ∃ m, lines.foldlM ParserState.step ⟨profiles, ParserState.started.prototype, current, n⟩ =
    .ok ⟨profiles', ParserState.started.prototype, current', m⟩

section Runs
variable {lines lines' : List CodeUnits} {P P' P'' : CodeUnits → Option Slot} {cur cur' cur'' : Option Target}

theorem Runs.nil : Runs [] P cur P cur := fun n => ⟨n, rfl⟩

theorem Runs.append (first : Runs lines P cur P' cur') (later : Runs lines' P' cur' P'' cur'') :
    Runs (lines ++ lines') P cur P'' cur'' := by
  intro n
  obtain ⟨m, ran⟩ := first n
  obtain ⟨k, ran'⟩ := later m
  exact ⟨k, by rw [List.foldlM_append, ran]; exact ran'⟩

theorem Runs.single {line : CodeUnits} (stepped : ∀ n, ∃ m,
    ParserState.step ⟨P, ParserState.started.prototype, cur, n⟩ line = .ok ⟨P', ParserState.started.prototype, cur', m⟩) :
    Runs [line] P cur P' cur' := by
  intro n
  obtain ⟨m, ran⟩ := stepped n
  exact ⟨m, by rw [List.foldlM_cons, ran]; rfl⟩

theorem runs_tails (tails : List Tail) : Runs (tails.map Tail.text) P cur P cur := by
  induction tails with
  | nil => exact .nil
  | cons t rest ih =>
    have blank : Runs [t.text] P cur P cur := .single fun n => ⟨n + 1, step_tail t _⟩
    exact blank.append ih

theorem runs_header (sec : Section) (ordinary : sec.name ∉ protoName :: builtinNames) (unset : P sec.name = none) :
    Runs [sec.header ++ sec.tail.text] P cur (Function.update P sec.name (some (.plain fun _ => none)))
      (some (.own sec.name)) := by
  rw [List.mem_cons, not_or] at ordinary
  refine .single fun n => ⟨n + 1, ?_⟩
  rw [step_header, ParserState.openSection]
  simp only [if_neg ordinary.1, unset, ParserState.started, if_neg ordinary.2]

theorem runs_setting (st : Setting) (readable : st.readable) {name : CodeUnits} {entries : Entries}
    (plain : P name = some (.plain entries)) : Runs st.lines P (some (.own name))
      (Function.update P name (some (.plain (entries.put st.key st.read)))) (some (.own name)) := by
  refine .append (runs_tails st.above) (.single fun n => ⟨n + 1, ?_⟩)
  rw [step_setting st readable rfl, ParserState.assign, Entries.put]
  split
  · rw [← plain, Function.update_eq_self]
  · simp only [plain]

theorem runs_settings (settings : List Setting) (readable : ∀ st ∈ settings, st.readable) {name : CodeUnits}
    {entries : Entries} (plain : P name = some (.plain entries)) : Runs (settings.flatMap Setting.lines) P (some (.own name))
      (Function.update P name (some (.plain (settings.foldl (fun entries st => entries.put st.key st.read) entries))))
      (some (.own name)) := by
  induction settings generalizing P entries with
  | nil =>
    rw [List.foldl_nil, ← plain, Function.update_eq_self]
    exact .nil
  | cons st rest ih =>
    have first := runs_setting st (readable st List.mem_cons_self) plain
    have later := ih (fun st member => readable st (List.mem_cons_of_mem _ member))
      (P := Function.update P name (some (.plain (entries.put st.key st.read)))) (Function.update_self ..)
    rw [Function.update_idem] at later
    exact first.append later

theorem runs_section (sec : Section) (ordinary : sec.name ∉ protoName :: builtinNames)
    (readable : ∀ st ∈ sec.settings, st.readable) (unset : P sec.name = none) :
    Runs sec.lines P cur (Function.update P sec.name (some (.plain sec.stored))) (some (.own sec.name)) := by
  have settings := runs_settings sec.settings readable (P := Function.update P sec.name (some (.plain fun _ => none)))
    (Function.update_self ..)
  rw [Function.update_idem] at settings
  exact (runs_tails sec.above).append ((runs_header sec ordinary unset).append settings)

theorem runs_sections (sections : List Section) (ordinary : ∀ sec ∈ sections, sec.name ∉ protoName :: builtinNames)
    (readable : ∀ sec ∈ sections, ∀ st ∈ sec.settings, st.readable) (distinct : (sections.map Section.name).Nodup)
    (unset : ∀ sec ∈ sections, P sec.name = none) : ∃ cur', Runs (sections.flatMap Section.lines) P cur
      (sections.foldl (fun P sec => Function.update P sec.name (some (.plain sec.stored))) P) cur' := by
  induction sections generalizing P cur with
  | nil => exact ⟨cur, .nil⟩
  | cons sec rest ih =>
    rw [List.map_cons, List.nodup_cons] at distinct
    have first : Runs sec.lines P cur _ _ := runs_section sec (ordinary sec List.mem_cons_self)
      (readable sec List.mem_cons_self) (unset sec List.mem_cons_self)
    have later : ∀ other ∈ rest, Function.update P sec.name (some (.plain sec.stored)) other.name = none := by
      intro other member
      have apart : other.name ≠ sec.name := by
        intro same
        exact distinct.1 (List.mem_map.mpr ⟨other, member, same⟩)
      rw [Function.update_of_ne apart]
      exact unset other (List.mem_cons_of_mem _ member)
    have onward : ∃ cur', Runs (rest.flatMap Section.lines) _ (some (.own sec.name)) _ cur' :=
      ih (fun s member => ordinary s (List.mem_cons_of_mem _ member))
        (fun s member => readable s (List.mem_cons_of_mem _ member)) distinct.2 later
    obtain ⟨cur', ran⟩ := onward
    exact ⟨cur', first.append ran⟩

end Runs

section Lookup
variable {entries : Entries} {key : CodeUnits}

/-- Where no name comes twice, the updates leave what the list says. -/
theorem foldl_update {α β : Type} (name : α → CodeUnits) (value : α → β) {l : List α} (distinct : (l.map name).Nodup)
    (f : CodeUnits → Option β) (k : CodeUnits) :
    (l.foldl (fun f a => Function.update f (name a) (some (value a))) f) k =
      ((l.find? fun a => name a = k).map value).or (f k) := by
  induction l generalizing f with
  | nil => rfl
  | cons a rest ih =>
    rw [List.map_cons, List.nodup_cons] at distinct
    rw [List.foldl_cons, ih distinct.2]
    by_cases here : name a = k
    · have absent : rest.find? (fun a => name a = k) = none := by
        refine List.find?_eq_none.mpr fun b member => ?_
        intro same
        exact distinct.1 (List.mem_map.mpr ⟨b, member, (of_decide_eq_true same).trans here.symm⟩)
      have found : (a :: rest).find? (fun b => name b = k) = some a := List.find?_cons_of_pos (decide_eq_true here)
      rw [absent, found, ← here, Function.update_self]
      rfl
    · have passed : (a :: rest).find? (fun b => name b = k) = rest.find? fun b => name b = k :=
        List.find?_cons_of_neg (by simpa using here)
      rw [passed, Function.update_of_ne (Ne.symm here)]

theorem foldl_put (settings : List Setting) (entries : Entries) :
    settings.foldl (fun entries st => entries.put st.key st.read) entries =
      (settings.filter fun st => st.key ≠ protoName).foldl
        (fun (entries : Entries) st => Function.update entries st.key (some st.read)) entries := by
  induction settings generalizing entries with
  | nil => rfl
  | cons st rest ih =>
    rw [List.foldl_cons, ih, Entries.put]
    by_cases proto : st.key = protoName
    · rw [if_pos proto, List.filter_cons_of_neg (by simpa using proto)]
    · rw [if_neg proto, List.filter_cons_of_pos (by simpa using proto), List.foldl_cons]

theorem Section.stored_eq (sec : Section) (key : CodeUnits) : sec.stored key =
    if key = protoName then none else (sec.settings.find? fun st => st.key = key).map Setting.read := by
  have distinct : ((sec.settings.filter fun st => st.key ≠ protoName).map Setting.key).Nodup :=
    sec.distinct.sublist (List.filter_sublist.map _)
  rw [stored, foldl_put, foldl_update Setting.key Setting.read distinct, Option.or_none, List.find?_filter]
  split
  · rename_i proto
    subst proto
    rw [List.find?_eq_none.mpr fun st _ => by simp]
    rfl
  · rename_i plain
    congr 2
    funext st
    by_cases here : st.key = key
    · simp [here, plain]
    · simp [here]

/-- In a file the name leads to its section and the key to its setting. -/
theorem find_of_mem {α : Type} (name : α → CodeUnits) {l : List α} (distinct : (l.map name).Nodup) {a : α} (member : a ∈ l) :
    l.find? (fun b => name b = name a) = some a := by
  induction l with
  | nil => cases member
  | cons b rest ih =>
    rw [List.map_cons, List.nodup_cons] at distinct
    rcases List.mem_cons.mp member with rfl | later
    · exact List.find?_cons_of_pos (decide_eq_true rfl)
    · have apart : name b ≠ name a := by
        intro same
        exact distinct.1 (List.mem_map.mpr ⟨a, later, same.symm⟩)
      rw [List.find?_cons_of_neg (by simpa using apart)]
      exact ih distinct.2 later

end Lookup

section Lines

theorem tail_free (t : Tail) : newline ∉ t.text := by
  intro member
  rcases List.mem_append.mp member with padded | commented
  · exact (t.blank newline padded).2 rfl
  · cases ended : t.comment with
    | none =>
      rw [ended] at commented
      cases commented
    | some comment =>
      rw [ended, Option.elim_some, List.mem_cons] at commented
      rcases commented with sharp | inside
      · exact absurd sharp (by decide)
      · exact t.oneLine comment ended inside

/-- Of the line terminators only a separator stands between the quotes, and only one of the value. -/
theorem terminator_body {st : Setting} {c : UInt16} (member : c ∈ st.body) (terminator : isLineTerminator c) :
    c ∈ st.value ∧ c ≠ newline ∧ c ≠ carriageReturn := by
  unfold Setting.body at member
  cases style : st.quoting with
  | double =>
    rw [style] at member
    obtain ⟨d, valued, written⟩ := List.mem_flatMap.mp member
    obtain ⟨e, same, known⟩ | ⟨same, notNewline, notReturn, -, -⟩ := escapeUnit_cases d
    · rw [same] at written
      simp only [List.mem_cons, List.not_mem_nil, or_false] at written
      rcases written with rfl | rfl
      · exact absurd terminator (by decide)
      · rw [escapeMeaning_terminator terminator] at known
        cases known
    · rw [same, List.mem_singleton] at written
      rw [written]
      exact ⟨valued, notNewline, notReturn⟩
  | single =>
    rw [style] at member
    exact ⟨member, (st.verbatim style c member).2⟩

theorem separator_body {st : Setting} {c : UInt16} (member : c ∈ st.value) (separator : c = 0x2028 ∨ c = 0x2029) :
    c ∈ st.body := by
  unfold Setting.body
  cases st.quoting with
  | double =>
    refine List.mem_flatMap.mpr ⟨c, member, ?_⟩
    rcases separator with rfl | rfl <;> decide
  | single => exact member

theorem body_free (st : Setting) : newline ∉ st.body := fun member => (terminator_body member (by decide)).2.1 rfl

theorem text_free (st : Setting) : newline ∉ st.text := by
  intro member
  obtain ⟨c, more, key, -, units⟩ := st.key_cons
  have mark : newline ≠ st.mark := by
    unfold Setting.mark
    cases st.quoting <;> decide
  simp only [Setting.text, Setting.quoted, List.mem_append, List.mem_cons, List.not_mem_nil, or_false] at member
  rcases member with named | space | equals | space | opened | inside | closed
  · rw [key] at named
    exact (isKeyUnit_plain (units _ named)).1 rfl
  · exact absurd space (by decide)
  · exact absurd equals (by decide)
  · exact absurd space (by decide)
  · exact mark opened
  · exact body_free st inside
  · exact mark closed

theorem header_free (sec : Section) : newline ∉ sec.header := by
  intro member
  simp only [Section.header, List.mem_append, List.mem_cons, List.not_mem_nil, or_false] at member
  rcases member with opened | (profile | named) | closed
  · exact absurd opened (by decide)
  · exact absurd profile (by decide)
  · exact (isNameUnit_plain (sec.name_units.2 _ named)).1 rfl
  · exact absurd closed (by decide)

theorem tails_free (tails : List Tail) : ∀ line ∈ tails.map Tail.text, newline ∉ line := by
  intro line member
  obtain ⟨t, -, rfl⟩ := List.mem_map.mp member
  exact tail_free t

theorem append_free {text : CodeUnits} (free : newline ∉ text) (t : Tail) : newline ∉ text ++ t.text := by
  rw [List.mem_append, not_or]
  exact ⟨free, tail_free t⟩

/-- No line of a file holds a line feed. -/
theorem lines_free (c : ConfigFile) : ∀ line ∈ c.lines, newline ∉ line := by
  intro line member
  rcases List.mem_append.mp member with written | below
  · obtain ⟨sec, -, inSection⟩ := List.mem_flatMap.mp written
    rcases List.mem_append.mp inSection with above | inside
    · exact tails_free _ line above
    · rcases List.mem_cons.mp inside with rfl | settings
      · exact append_free (header_free sec) _
      · obtain ⟨st, -, inSetting⟩ := List.mem_flatMap.mp settings
        rcases List.mem_append.mp inSetting with above | last
        · exact tails_free _ line above
        · rw [List.mem_singleton.mp last]
          exact append_free (text_free st) _
  · exact tails_free _ line below

/-- The parser gets the lines of the file back. -/
theorem parse_lines (c : ConfigFile) :
    parseProfilesToml c.render = (c.lines.foldlM ParserState.step .started).map ParserState.profiles := by
  rw [parseProfilesToml, ParserState.foldlM_splitLines, ConfigFile.render]
  by_cases empty : c.lines = []
  · rw [empty]
    rfl
  · rw [List.splitOn_intercalate newline (lines_free c) empty]

/-- What the parser makes of a file whose names are free and whose values it can read. -/
theorem parse_stored (c : ConfigFile) (ordinary : ∀ sec ∈ c.sections, sec.name ∉ protoName :: builtinNames)
    (readable : ∀ sec ∈ c.sections, ∀ st ∈ sec.settings, st.readable) : parseProfilesToml c.render = .ok fun name =>
      (c.sections.find? fun sec => sec.name = name).map fun sec => .plain sec.stored := by
  obtain ⟨cur, ran⟩ : ∃ cur', Runs (c.sections.flatMap Section.lines) (fun _ => none) none _ cur' :=
    runs_sections c.sections ordinary readable c.distinct fun _ _ => rfl
  obtain ⟨n, ended⟩ := (ran.append (runs_tails c.below)) 0
  have start : (⟨fun _ => none, ParserState.started.prototype, none, 0⟩ : ParserState) = .started := rfl
  rw [parse_lines, ConfigFile.lines, ← start, ended]
  refine congrArg Except.ok (funext fun name => ?_)
  have found := foldl_update Section.name (fun sec => Slot.plain sec.stored) c.distinct (fun _ => none) name
  rw [Option.or_none] at found
  exact found

end Lines

namespace ParserState

/-- What holds of every state of the parser: the inherited names stay inherited,
and no object has got a property `__proto__`. -/
structure Guarded (s : ParserState) : Prop where
  proto : s.profiles protoName = none
  inherits : ∀ name ∈ builtinNames, s.prototype name ≠ none
  builtins : ∀ name ∈ builtinNames, ∀ entries, s.profiles name ≠ some (.plain entries)
  keys : ∀ name entries, s.profiles name = some (.plain entries) → entries protoName = none

variable {s t : ParserState}

theorem started_guarded : started.Guarded where
  proto := rfl
  inherits name member := by simp [started, member]
  builtins _ _ _ := nofun
  keys _ _ := nofun

/-- Another property of `profiles`, which is not one of the inherited names. -/
theorem Guarded.update (guarded : s.Guarded) {name : CodeUnits} {slot : Slot} (plain : name ≠ protoName)
    (slotted : ∀ entries, slot = .plain entries → name ∉ builtinNames ∧ entries protoName = none)
    (current : Option Target) (n : Nat) :
    Guarded ⟨Function.update s.profiles name (some slot), s.prototype, current, n⟩ where
  proto := (Function.update_of_ne (Ne.symm plain) _ _).trans guarded.proto
  inherits := guarded.inherits
  builtins other member entries found := by
    replace found : Function.update s.profiles name (some slot) other = some (.plain entries) := found
    rw [Function.update_apply] at found
    split at found
    · rename_i here
      exact (slotted entries (Option.some.inj found)).1 (here ▸ member)
    · exact guarded.builtins other member entries found
  keys other entries found := by
    replace found : Function.update s.profiles name (some slot) other = some (.plain entries) := found
    rw [Function.update_apply] at found
    split at found
    · exact (slotted entries (Option.some.inj found)).2
    · exact guarded.keys other entries found

theorem Guarded.openSection (guarded : s.Guarded) (name : CodeUnits) : (s.openSection name).Guarded := by
  unfold ParserState.openSection
  split
  · exact ⟨guarded.proto, guarded.inherits, guarded.builtins, guarded.keys⟩
  · rename_i plain
    split
    · exact ⟨guarded.proto, guarded.inherits, guarded.builtins, guarded.keys⟩
    · exact ⟨guarded.proto, guarded.inherits, guarded.builtins, guarded.keys⟩
    · split
      · exact guarded.update plain (fun _ same => by cases same) _ _
      · rename_i missing
        refine guarded.update plain (fun entries same => ⟨fun member => guarded.inherits name member missing, ?_⟩) _ _
        cases same
        rfl

theorem Guarded.assign (guarded : s.Guarded) {target : Target} {key value : CodeUnits}
    (assigned : s.assign target key value = .ok t) : t.Guarded := by
  unfold ParserState.assign at assigned
  split at assigned
  · cases assigned
    exact guarded
  · rename_i plain
    split at assigned
    · rename_i name
      split at assigned
      · rename_i entries found
        cases assigned
        have named : name ≠ protoName := by
          rintro rfl
          rw [guarded.proto] at found
          cases found
        refine guarded.update named (fun entries' same => ?_) _ _
        cases same
        refine ⟨fun member => guarded.builtins name member entries found, ?_⟩
        rw [Function.update_of_ne (Ne.symm plain)]
        exact guarded.keys name entries found
      · cases assigned
        exact guarded
    · split at assigned
      · cases assigned
      · cases assigned
        exact guarded
    · cases assigned
    · cases assigned
      refine ⟨guarded.proto, fun name member => ?_, guarded.builtins, guarded.keys⟩
      by_cases here : name = key
      · simp [here]
      · simpa [here] using guarded.inherits name member

theorem Guarded.readLine (guarded : s.Guarded) {line : CodeUnits} (read : s.readLine line = .ok t) : t.Guarded := by
  unfold ParserState.readLine at read
  split at read
  · cases read
    exact guarded
  · split at read
    · cases read
      exact guarded.openSection _
    · split at read
      · cases read
      · split at read
        · cases read
        · split at read
          · cases read
          · split at read
            · cases read
            · exact guarded.assign read

theorem Guarded.run {lines : List CodeUnits} (guarded : s.Guarded) (ran : lines.foldlM step s = .ok t) : t.Guarded := by
  induction lines generalizing s with
  | nil =>
    cases ran
    exact guarded
  | cons line rest ih =>
    rw [List.foldlM_cons] at ran
    cases stepped : s.step line with
    | error e =>
      rw [stepped] at ran
      cases ran
    | ok next =>
      rw [stepped] at ran
      have numbered : Guarded { s with lineNum := s.lineNum + 1 } :=
        ⟨guarded.proto, guarded.inherits, guarded.builtins, guarded.keys⟩
      exact ih (numbered.readLine stepped) ran

/-- A line that is an error in every state makes the whole text one. -/
theorem foldlM_error {lines : List CodeUnits} {line : CodeUnits} (member : line ∈ lines)
    (failing : ∀ s : ParserState, ∃ e, s.step line = .error e) (s : ParserState) : ∃ e, lines.foldlM step s = .error e := by
  induction lines generalizing s with
  | nil => cases member
  | cons first rest ih =>
    rw [List.foldlM_cons]
    cases stepped : s.step first with
    | error e => exact ⟨e, rfl⟩
    | ok next =>
      rcases List.mem_cons.mp member with rfl | later
      · obtain ⟨e, failed⟩ := failing s
        rw [failed] at stepped
        cases stepped
      · exact ih later next

end ParserState

section Result
variable {c : ConfigFile}

theorem profiles_name {sec : Section} (member : sec ∈ c.sections) : c.profiles sec.name = some (.plain sec.entries) := by
  rw [ConfigFile.profiles, find_of_mem Section.name c.distinct member]
  rfl

theorem entries_key {sec : Section} {st : Setting} (member : st ∈ sec.settings) : sec.entries st.key = some st.value := by
  rw [Section.entries, find_of_mem Setting.key sec.distinct member]
  rfl

/-- A file that is parsed at all has values the parser can read. -/
theorem parse_readable {result : CodeUnits → Option Slot} (parsed : parseProfilesToml c.render = .ok result)
    {sec : Section} (inFile : sec ∈ c.sections) {st : Setting} (member : st ∈ sec.settings) : st.readable := by
  by_contra unreadable
  have line : st.text ++ st.tail.text ∈ c.lines := by
    refine List.mem_append_left _ (List.mem_flatMap.mpr ⟨sec, inFile, List.mem_append_right _ (List.mem_cons_of_mem _ ?_)⟩)
    exact List.mem_flatMap.mpr ⟨st, member, List.mem_append_right _ (List.mem_singleton_self _)⟩
  obtain ⟨e, failed⟩ := ParserState.foldlM_error line (step_unreadable st unreadable) .started
  rw [parse_lines, failed] at parsed
  cases parsed

/-- The result holds no object under an inherited name, and none with a property `__proto__`. -/
theorem parse_guarded {result : CodeUnits → Option Slot} (parsed : parseProfilesToml c.render = .ok result) :
    ∃ s : ParserState, s.Guarded ∧ s.profiles = result := by
  rw [parse_lines] at parsed
  cases ran : c.lines.foldlM ParserState.step .started with
  | error e =>
    rw [ran] at parsed
    cases parsed
  | ok s =>
    rw [ran] at parsed
    exact ⟨s, ParserState.started_guarded.run ran, Except.ok.inj parsed⟩

/-- Between the quotes stands no line terminator but a separator of the value itself. -/
theorem body_terminators (st : Setting) :
    ¬ st.body.any isLineTerminator ↔ 0x2028 ∉ st.value ∧ 0x2029 ∉ st.value := by
  rw [List.any_eq_true, not_exists]
  constructor
  · intro none
    exact ⟨fun member => none _ ⟨separator_body member (.inl rfl), by decide⟩,
      fun member => none _ ⟨separator_body member (.inr rfl), by decide⟩⟩
  · rintro ⟨line, paragraph⟩ c ⟨member, terminator⟩
    obtain ⟨valued, notNewline, notReturn⟩ := terminator_body member terminator
    simp only [isLineTerminator, Bool.or_eq_true, decide_eq_true_eq, notNewline, notReturn, false_or] at terminator
    rcases terminator with rfl | rfl
    · exact line valued
    · exact paragraph valued

/-- A result that is the map of the file was stored under its own names and keys. -/
theorem parse_names (parsed : parseProfilesToml c.render = .ok c.profiles) :
    ∀ sec ∈ c.sections, sec.name ∉ protoName :: builtinNames := by
  obtain ⟨s, guarded, same⟩ := parse_guarded parsed
  intro sec inFile listed
  have found := profiles_name inFile
  rw [← same] at found
  rcases List.mem_cons.mp listed with proto | builtin
  · rw [proto, guarded.proto] at found
    cases found
  · exact guarded.builtins sec.name builtin _ found

theorem parse_keys (parsed : parseProfilesToml c.render = .ok c.profiles) :
    ∀ sec ∈ c.sections, ∀ st ∈ sec.settings, st.key ≠ protoName := by
  obtain ⟨s, guarded, same⟩ := parse_guarded parsed
  intro sec inFile st member proto
  have found := profiles_name inFile
  rw [← same] at found
  have missing := guarded.keys sec.name _ found
  rw [← proto, entries_key member] at missing
  cases missing

/-- What the parser makes of a value is then the value. -/
theorem parse_returned (parsed : parseProfilesToml c.render = .ok c.profiles) {sec : Section} (inFile : sec ∈ c.sections)
    {st : Setting} (member : st ∈ sec.settings) : st.read = st.value := by
  have keys := parse_keys parsed
  rw [parse_stored c (parse_names parsed) fun sec inFile st member => parse_readable parsed inFile member] at parsed
  have named := congrFun (Except.ok.inj parsed) sec.name
  rw [profiles_name inFile, find_of_mem Section.name c.distinct inFile] at named
  have stored : sec.stored = sec.entries := Slot.plain.inj (Option.some.inj named)
  have keyed := congrFun stored st.key
  rw [entries_key member, Section.stored_eq, if_neg (keys sec inFile st member),
    find_of_mem Setting.key sec.distinct member] at keyed
  exact Option.some.inj keyed

theorem plain_of_parse (parsed : parseProfilesToml c.render = .ok c.profiles) : Plain c where
  names := parse_names parsed
  keys := parse_keys parsed
  values sec inFile st member := (body_terminators st).mp (parse_readable parsed inFile member).1
  literals sec inFile st member single := by
    have literal := parse_returned parsed inFile member
    rw [Setting.read, single] at literal
    have unescaped := (unescape_eq_self st.value).mp literal
    refine ⟨unescaped, fun commented last => ?_⟩
    have none := (parse_readable parsed inFile member).2 ⟨single, (endsEscaped_iff st.value unescaped).mpr last⟩
    rw [none] at commented
    cases commented

theorem Plain.readable (plain : Plain c) {sec : Section} (inFile : sec ∈ c.sections) {st : Setting}
    (member : st ∈ sec.settings) : st.readable := by
  refine ⟨(body_terminators st).mpr (plain.values sec inFile st member), ?_⟩
  rintro ⟨single, ends⟩
  obtain ⟨unescaped, uncommented⟩ := plain.literals sec inFile st member single
  by_contra commented
  exact uncommented (Option.isSome_iff_ne_none.mpr commented) ((endsEscaped_iff st.value unescaped).mp ends)

theorem Plain.read_eq (plain : Plain c) {sec : Section} (inFile : sec ∈ c.sections) {st : Setting}
    (member : st ∈ sec.settings) : st.read = st.value := by
  cases style : st.quoting with
  | double => rw [Setting.read, style]
  | single =>
    rw [Setting.read, style]
    exact (unescape_eq_self st.value).mpr (plain.literals sec inFile st member style).1

theorem Plain.stored_eq (plain : Plain c) {sec : Section} (inFile : sec ∈ c.sections) : sec.stored = sec.entries := by
  funext key
  rw [Section.stored_eq, Section.entries]
  split
  · rename_i proto
    rw [List.find?_eq_none.mpr]
    · rfl
    · intro st member same
      exact plain.keys sec inFile st member ((of_decide_eq_true same).trans proto)
  · exact Option.map_congr fun st found => plain.read_eq inFile (List.mem_of_find?_eq_some found)

/-- The parser returns the map a file is written for just when no name of a
profile is one every object inherits, no key is `__proto__`, no value holds a
line or paragraph separator, and no verbatim value an escape, or a last
backslash with a comment behind it. -/
theorem parse_render_iff (c : ConfigFile) : parseProfilesToml c.render = .ok c.profiles ↔ Plain c := by
  refine ⟨plain_of_parse, fun plain => ?_⟩
  rw [parse_stored c plain.names fun sec inFile st member => plain.readable inFile member]
  refine congrArg Except.ok (funext fun name => ?_)
  refine Option.map_congr fun sec found => ?_
  rw [plain.stored_eq (List.mem_of_find?_eq_some found)]

/-- The text that a result holds under a name and a key. -/
def textAt (result : Except ParseFailure (CodeUnits → Option Slot)) (name key : CodeUnits) : Option CodeUnits :=
  match result with
  | .error _ => none
  | .ok profiles =>
    match profiles name with
    | some (.plain entries) => entries key
    | _ => none

def bare : Tail := ⟨[], none, nofun, nofun⟩

/-- `tokens_path = 'C:\temp'`. -/
def windowsPath : Setting where
  key := units "tokens_path"
  value := units "C:\\temp"
  quoting := .single
  tail := bare
  above := []
  keyed := by decide
  verbatim _ c member := by
    have free : (units "C:\\temp").all (fun c => c ≠ singleQuote ∧ c ≠ newline ∧ c ≠ carriageReturn) = true := by decide
    exact of_decide_eq_true (List.all_eq_true.mp free c member)

def windowsConfig : ConfigFile where
  sections := [⟨units "default", [windowsPath], bare, [], by decide, List.nodup_singleton _⟩]
  below := []
  distinct := List.nodup_singleton _

/-- A path in single quotes comes back with a tab in it. -/
theorem not_parse_render : ¬ ∀ c : ConfigFile, parseProfilesToml c.render = .ok c.profiles := by
  intro roundTrip
  have same := congrArg (textAt · (units "default") (units "tokens_path")) (roundTrip windowsConfig)
  revert same
  decide +kernel

end Result

end ProfilesToml

end Coordinator
