import Mathlib.Data.List.DropRight
import Coordinator.AnnounceWorkflow
import Coordinator.Library.MarkedText

namespace Coordinator

/-- `SENTINEL` behind its first character. -/
def sentinelTail : List Char := "!-- mcp-coordinator:coordination-section -->".toList

def sentinel : List Char := '<' :: sentinelTail

theorem sentinel_once : '<' ∉ sentinelTail := by decide +kernel

theorem newline_not_mem_sentinel : '\n' ∉ '<' :: sentinelTail := by decide +kernel

/-- The `CLAUDE_MD_TEMPLATE` of a release. `replace` would read a dollar sign in it as a pattern. -/
structure ClaudeMdTemplate where
  text : List Char
  plain : '$' ∉ text
  unmarked : ¬ sentinel <:+: text

namespace ClaudeMd

def sectionBody (template : ClaudeMdTemplate) : List Char :=
  sentinel ++ ('\n' :: template.text ++ (sentinel ++ ['\n']))

/-- `text.replace(re, replacement)`. -/
def replaceSections (replacement text : List Char) : List Char :=
  MarkedText.replaceSections (List.cons_ne_nil '<' sentinelTail) '\n' replacement text

def heading : List Char := "# CLAUDE.md".toList

def separator (existing : List Char) : List Char := if existing.getLast? = some '\n' then ['\n'] else ['\n', '\n']

/-- What `init --write-claude-md` writes; `none` is a missing file. -/
def write (template : ClaudeMdTemplate) : Option (List Char) → List Char
  | some existing =>
    if sentinel <:+: existing then replaceSections (sectionBody template) existing
    else existing ++ (separator existing ++ sectionBody template)
  | none => heading ++ ('\n' :: '\n' :: sectionBody template)

/-- `replace(/\n{3,}/g, "\n\n")`, after that many newlines of the run. -/
def squeeze : Nat → List Char → List Char
  | _, [] => []
  | run, c :: rest =>
    if c = '\n' then if run < 2 then '\n' :: squeeze (run + 1) rest else squeeze run rest
    else c :: squeeze 0 rest

/-- `replace(/^\n+/, "")`. -/
def trimLeading (text : List Char) : List Char := text.dropWhile (· = '\n')

/-- `replace(/\n+$/, "\n")`. -/
def trimTrailing (text : List Char) : List Char :=
  if text.getLast? = some '\n' then text.rdropWhile (· = '\n') ++ ['\n'] else text

def tidy (text : List Char) : List Char := trimTrailing (trimLeading (squeeze 0 text))

/-- A file with nothing but the heading is removed. -/
def keep (tidied : List Char) : Option (List Char) :=
  if trim tidied = [] ∨ trim tidied = heading then none else some tidied

/-- `uninstall --claude-md`. -/
def remove : Option (List Char) → Option (List Char)
  | some content => if sentinel <:+: content then keep (tidy (replaceSections [] content)) else some content
  | none => none

inductive Command
  | init (template : ClaudeMdTemplate) (printOnly : Bool)
  | uninstall

def Command.run (file : Option (List Char)) : Command → Option (List Char)
  | init template printOnly => if printOnly then file else some (write template file)
  | uninstall => remove file

/-- The template of the section that the file has after the commands. -/
def lastWritten (last : Option ClaudeMdTemplate) : Command → Option ClaudeMdTemplate
  | .init template printOnly => if printOnly then last else some template
  | .uninstall => none

/-- A marker with no other one behind it: nothing is replaced. -/
def Alone (text : List Char) : Prop :=
  ∃ before behind, MarkedText.cut sentinel text = some (before, behind) ∧ MarkedText.cut sentinel behind = none

/-- A file that came without a section, as `uninstall` leaves it after an `init`. -/
def restored : Option (List Char) → Option (List Char)
  | some text => keep (tidy (text ++ ['\n']))
  | none => none

section
variable {text before body replacement : List Char} {template : ClaudeMdTemplate}

theorem sentinel_infix_sectionBody (template : ClaudeMdTemplate) : sentinel <:+: sectionBody template :=
  ⟨[], _, rfl⟩

theorem replaceSections_of_unmarked (unmarked : ¬ sentinel <:+: text) : replaceSections replacement text = text :=
  MarkedText.replaceSections_none ((MarkedText.cut_eq_none (List.cons_ne_nil _ _)).mpr unmarked)

theorem replaceSections_alone {inside : List Char} (found : MarkedText.cut sentinel text = some (before, inside))
    (alone : MarkedText.cut sentinel inside = none) : replaceSections replacement text = text :=
  MarkedText.replaceSections_alone found alone

theorem replaceSections_some {inside between behind : List Char}
    (found : MarkedText.cut sentinel text = some (before, inside))
    (found' : MarkedText.cut sentinel inside = some (between, behind)) :
    replaceSections replacement text =
      before ++ (replacement ++ replaceSections replacement (MarkedText.dropGap '\n' behind)) :=
  MarkedText.replaceSections_some found found'

/-- A section that ends the text is replaced. -/
theorem replaceSections_append (unmarked : ¬ sentinel <:+: before) (replacement : List Char) (template : ClaudeMdTemplate) :
    replaceSections replacement (before ++ sectionBody template) = before ++ replacement := by
  have replaced : replaceSections replacement (before ++ (sectionBody template ++ [])) = _ :=
    MarkedText.replaceSections_section sentinel_once newline_not_mem_sentinel unmarked template.unmarked
  rw [List.append_nil] at replaced
  refine replaced.trans ?_
  have rest : MarkedText.replaceSections (List.cons_ne_nil '<' sentinelTail) '\n' replacement [] = [] :=
    replaceSections_of_unmarked (by simp [sentinel])
  rw [rest, List.append_nil]

theorem replaceSections_twice (template : ClaudeMdTemplate) (replacement text : List Char) :
    replaceSections replacement (replaceSections (sectionBody template) text) = replaceSections replacement text :=
  MarkedText.replaceSections_twice sentinel_once newline_not_mem_sentinel template.unmarked replacement text

end

section
variable {run : Nat} {text u v : List Char}

theorem squeeze_length (run : Nat) (text : List Char) : (squeeze run text).length ≤ text.length := by
  induction text generalizing run with
  | nil => rfl
  | cons c rest ih =>
    rw [squeeze]
    split
    · split
      · simpa using ih (run + 1)
      · exact (ih run).trans (by simp)
    · simpa using ih 0

/-- A text that `squeeze` leaves as it is. -/
theorem squeeze_cons_eq {c : Char} : squeeze run (c :: text) = c :: text ↔
    (c = '\n' → run < 2 ∧ squeeze (run + 1) text = text) ∧ (c ≠ '\n' → squeeze 0 text = text) := by
  rw [squeeze]
  by_cases newline : c = '\n'
  · by_cases room : run < 2
    · simp [newline, room]
    · have short := squeeze_length run text
      have longer : squeeze run text ≠ c :: text := by
        intro same
        rw [same, List.length_cons] at short
        omega
      simp [newline, room]
      exact newline ▸ longer
  · simp [newline]

theorem squeeze_idem (run : Nat) (text : List Char) : squeeze run (squeeze run text) = squeeze run text := by
  induction text generalizing run with
  | nil => rfl
  | cons c rest ih =>
    rw [squeeze]
    split
    · split
      · exact squeeze_cons_eq.mpr ⟨fun _ => ⟨‹_›, ih (run + 1)⟩, by simp⟩
      · exact ih run
    · exact squeeze_cons_eq.mpr ⟨fun newline => absurd newline ‹_›, fun _ => ih 0⟩

theorem squeeze_mono {less : Nat} (bound : less ≤ run) (squeezed : squeeze run text = text) :
    squeeze less text = text := by
  induction text generalizing less run with
  | nil => rfl
  | cons c rest ih =>
    obtain ⟨newline, other⟩ := squeeze_cons_eq.mp squeezed
    refine squeeze_cons_eq.mpr ⟨fun is => ?_, other⟩
    obtain ⟨room, after⟩ := newline is
    exact ⟨bound.trans_lt room, ih (Nat.succ_le_succ bound) after⟩

theorem squeeze_of_append (squeezed : squeeze run (u ++ v) = u ++ v) : squeeze 0 v = v := by
  induction u generalizing run with
  | nil => exact squeeze_mono (Nat.zero_le run) squeezed
  | cons c u ih =>
    obtain ⟨newline, other⟩ := squeeze_cons_eq.mp squeezed
    by_cases is : c = '\n'
    · exact ih (newline is).2
    · exact ih (other is)

theorem squeeze_left (squeezed : squeeze run (u ++ v) = u ++ v) : squeeze run u = u := by
  induction u generalizing run with
  | nil => rfl
  | cons c u ih =>
    obtain ⟨newline, other⟩ := squeeze_cons_eq.mp squeezed
    exact squeeze_cons_eq.mpr ⟨fun is => ⟨(newline is).1, ih (newline is).2⟩, fun is => ih (other is)⟩

theorem squeeze_last (run : Nat) (text : List Char) : (squeeze run (text ++ ['\n'])).getLast? = some '\n' ∨
    2 ≤ run ∧ squeeze run (text ++ ['\n']) = [] := by
  induction text generalizing run with
  | nil =>
    by_cases room : run < 2
    · simp [squeeze, room]
    · simp [squeeze, room]
      omega
  | cons c rest ih =>
    rw [List.cons_append, squeeze]
    split
    · split
      · rcases ih (run + 1) with last | ⟨-, empty⟩
        · simp [List.getLast?_cons, last]
        · simp [empty]
      · exact ih run
    · rcases ih 0 with last | ⟨impossible, -⟩
      · simp [List.getLast?_cons, last]
      · omega

theorem squeeze_append (run : Nat) (u v : List Char) : ∃ more, squeeze run (u ++ v) = squeeze run u ++ squeeze more v := by
  induction u generalizing run with
  | nil => exact ⟨run, rfl⟩
  | cons c u ih =>
    rw [List.cons_append, squeeze, squeeze]
    split
    · split
      · obtain ⟨more, same⟩ := ih (run + 1)
        exact ⟨more, by rw [same, List.cons_append]⟩
      · exact ih run
    · obtain ⟨more, same⟩ := ih 0
      exact ⟨more, by rw [same, List.cons_append]⟩

theorem trimTrailing_snoc (ends : text.getLast? = some '\n') : trimTrailing (text ++ ['\n']) = trimTrailing text := by
  rw [trimTrailing, trimTrailing, if_pos ends, if_pos List.getLast?_concat, List.rdropWhile_concat_pos _ _ _ (by simp)]

theorem trimLeading_last (ends : text.getLast? = some '\n') (nonempty : trimLeading text ≠ []) :
    (trimLeading text).getLast? = some '\n' := by
  obtain ⟨front, shape⟩ := List.dropWhile_suffix (l := text) fun c => decide (c = '\n')
  have shape : front ++ trimLeading text = text := shape
  rw [← shape, List.getLast?_append, List.getLast?_eq_some_getLast nonempty] at ends
  rwa [List.getLast?_eq_some_getLast nonempty]

/-- A newline behind a newline is not kept at the end of a file. -/
theorem trim_snoc (ends : text.getLast? = some '\n') :
    trimTrailing (trimLeading (text ++ ['\n'])) = trimTrailing (trimLeading text) := by
  by_cases blank : trimLeading text = []
  · rw [blank, trimLeading, List.dropWhile_append, show text.dropWhile (· = '\n') = [] from blank]
    rfl
  · have longer : trimLeading (text ++ ['\n']) = trimLeading text ++ ['\n'] := by
      rw [trimLeading] at blank ⊢
      rw [List.dropWhile_append, if_neg (by simpa using blank)]
      rfl
    rw [longer, trimTrailing_snoc (trimLeading_last ends blank)]

theorem squeeze_ends (text : List Char) : (squeeze 0 (text ++ ['\n'])).getLast? = some '\n' := by
  rcases squeeze_last 0 text with last | ⟨impossible, -⟩
  · exact last
  · omega

theorem tidy_snoc (text : List Char) : tidy (text ++ ['\n'] ++ ['\n']) = tidy (text ++ ['\n']) := by
  have ends := squeeze_ends text
  obtain ⟨more, same⟩ := squeeze_append 0 (text ++ ['\n']) ['\n']
  rw [tidy, tidy, same]
  by_cases room : more < 2
  · have one : squeeze more ['\n'] = ['\n'] := by simp [squeeze, room]
    rw [one, trim_snoc ends]
  · have gone : squeeze more ['\n'] = [] := by simp [squeeze, room]
    rw [gone, List.append_nil]

theorem tidy_ends (nonempty : tidy (text ++ ['\n']) ≠ []) : (tidy (text ++ ['\n'])).getLast? = some '\n' := by
  have body : trimLeading (squeeze 0 (text ++ ['\n'])) ≠ [] := by
    intro blank
    rw [tidy, blank] at nonempty
    exact nonempty rfl
  rw [tidy, trimTrailing, if_pos (trimLeading_last (squeeze_ends text) body)]
  exact List.getLast?_concat

theorem trimTrailing_begins (text : List Char) : trimTrailing text <+: text := by
  induction text using List.reverseRecOn with
  | nil => exact List.prefix_rfl
  | append_singleton front c ih =>
    by_cases newline : c = '\n'
    · subst newline
      by_cases again : front.getLast? = some '\n'
      · rw [trimTrailing_snoc again]
        exact ih.trans (List.prefix_append _ _)
      · have whole : front.rdropWhile (· = '\n') = front := by
          refine List.rdropWhile_eq_self_iff.mpr fun nonempty last => again ?_
          rw [List.getLast?_eq_some_getLast nonempty, of_decide_eq_true last]
        rw [trimTrailing, if_pos List.getLast?_concat, List.rdropWhile_concat_pos _ _ _ (by simp), whole]
    · rw [trimTrailing, if_neg (by simpa using newline)]

theorem trimTrailing_idem (text : List Char) : trimTrailing (trimTrailing text) = trimTrailing text := by
  by_cases ends : text.getLast? = some '\n'
  · have shape : trimTrailing text = text.rdropWhile (· = '\n') ++ ['\n'] := if_pos ends
    rw [shape, trimTrailing, if_pos List.getLast?_concat, List.rdropWhile_concat_pos _ _ _ (by simp),
      List.rdropWhile_idempotent]
  · have shape : trimTrailing text = text := if_neg ends
    rw [shape, shape]

theorem trimLeading_of_prefix (kept : trimLeading v = v) (front : u <+: v) : trimLeading u = u := by
  cases u with
  | nil => rfl
  | cons c u =>
    obtain ⟨more, rfl⟩ := front
    refine List.dropWhile_cons_of_neg fun newline => ?_
    rw [List.cons_append, trimLeading, List.dropWhile_cons, if_pos newline] at kept
    have shorter := (List.dropWhile_suffix (l := u ++ more) fun c => decide (c = '\n')).length_le
    rw [kept, List.length_cons] at shorter
    omega

theorem trimLeading_idem (text : List Char) : trimLeading (trimLeading text) = trimLeading text :=
  List.dropWhile_idempotent _ _

/-- What is trimmed is a part of the text. -/
theorem tidy_part (text : List Char) : tidy text <:+: squeeze 0 text :=
  (trimTrailing_begins _).isInfix.trans (List.dropWhile_suffix _).isInfix

theorem squeeze_tidy (text : List Char) : squeeze 0 (tidy text) = tidy text := by
  obtain ⟨before, behind, shape⟩ := tidy_part text
  have squeezed := squeeze_idem 0 text
  rw [← shape] at squeezed
  exact squeeze_of_append (squeeze_left squeezed)

theorem tidy_idem (text : List Char) : tidy (tidy text) = tidy text := by
  have leading : trimLeading (tidy text) = tidy text :=
    trimLeading_of_prefix (trimLeading_idem (squeeze 0 text)) (trimTrailing_begins _)
  rw [tidy, squeeze_tidy, leading, tidy, trimTrailing_idem]

theorem prefix_of_squeeze {part : List Char} (plain : '\n' ∉ part) (here : part <+: squeeze 0 text) : part <+: text := by
  induction text generalizing part with
  | nil => exact here
  | cons c rest ih =>
    cases part with
    | nil => exact List.nil_prefix
    | cons d part =>
      rw [List.mem_cons, not_or] at plain
      rw [squeeze] at here
      split at here
      · rw [if_pos Nat.two_pos] at here
        exact absurd (List.cons_prefix_cons.mp here).1.symm plain.1
      · obtain ⟨rfl, more⟩ := List.cons_prefix_cons.mp here
        exact List.cons_prefix_cons.mpr ⟨rfl, ih plain.2 more⟩

/-- A part of a squeezed text without newlines is a part of the text. -/
theorem infix_of_squeeze {part : List Char} (plain : '\n' ∉ part) (inside : part <:+: squeeze run text) :
    part <:+: text := by
  induction text generalizing run with
  | nil => exact inside
  | cons c rest ih =>
    rw [squeeze] at inside
    split at inside
    · split at inside
      · rcases List.infix_cons_iff.mp inside with here | later
        · cases part with
          | nil => exact List.nil_infix
          | cons d part =>
            have newline := (List.cons_prefix_cons.mp here).1
            exact absurd (newline ▸ List.mem_cons_self) plain
        · exact List.infix_cons_iff.mpr (.inr (ih later))
      · exact List.infix_cons_iff.mpr (.inr (ih inside))
    · rcases List.infix_cons_iff.mp inside with here | later
      · refine List.infix_cons_iff.mpr (.inl ?_)
        cases part with
        | nil => exact List.nil_prefix
        | cons d part =>
          obtain ⟨rfl, more⟩ := List.cons_prefix_cons.mp here
          exact List.cons_prefix_cons.mpr ⟨rfl, prefix_of_squeeze (fun mem => plain (List.mem_cons_of_mem _ mem)) more⟩
      · exact List.infix_cons_iff.mpr (.inr (ih later))

/-- The characters that are no newlines. -/
def ink (text : List Char) : List Char := text.filter (· ≠ '\n')

theorem ink_cons (c : Char) (text : List Char) : ink (c :: text) = if c = '\n' then ink text else c :: ink text := by
  by_cases newline : c = '\n' <;> simp [ink, newline]

theorem ink_squeeze (run : Nat) (text : List Char) : ink (squeeze run text) = ink text := by
  induction text generalizing run with
  | nil => rfl
  | cons c rest ih =>
    rw [squeeze, ink_cons]
    split
    · split
      · rw [ink_cons, if_pos rfl, ih]
      · exact ih run
    · rw [ink_cons, if_neg ‹_›, ih]

theorem ink_trimLeading (text : List Char) : ink (trimLeading text) = ink text := by
  have blank : ink (text.takeWhile (· = '\n')) = [] := by
    refine List.filter_eq_nil_iff.mpr fun c member => ?_
    simpa using List.mem_takeWhile_imp member
  conv_rhs => rw [← List.takeWhile_append_dropWhile (p := (· = '\n')) (l := text)]
  rw [ink, ink, List.filter_append]
  exact (congrArg (· ++ _) blank).symm

theorem ink_trimTrailing (text : List Char) : ink (trimTrailing text) = ink text := by
  rw [trimTrailing]
  split
  · have blank : ink (text.rtakeWhile (· = '\n')) = [] := by
      refine List.filter_eq_nil_iff.mpr fun c member => ?_
      simpa using List.mem_rtakeWhile_imp member
    conv_rhs => rw [← List.rdropWhile_append_rtakeWhile (p := (· = '\n')) (l := text)]
    rw [ink, ink, List.filter_append, List.filter_append]
    exact congrArg (_ ++ ·) blank.symm
  · rfl

theorem ink_tidy (text : List Char) : ink (tidy text) = ink text := by
  rw [tidy, ink_trimTrailing, ink_trimLeading, ink_squeeze]

theorem keep_eq_some {tidied : List Char} (kept : keep tidied = some text) : tidied = text ∧ tidied ≠ [] := by
  unfold keep at kept
  split at kept
  · cases kept
  · rename_i other
    refine ⟨Option.some.inj kept, fun empty => other (.inl ?_)⟩
    rw [empty]
    rfl

end

section
variable {file : Option (List Char)} {text : List Char}

/-- The file has no marker in it. -/
def Unmarked (file : Option (List Char)) : Prop := ∀ text, file = some text → ¬ sentinel <:+: text

theorem separator_eq (text : List Char) : separator text = ['\n'] ∨ separator text = ['\n', '\n'] := by
  unfold separator
  split
  · exact .inl rfl
  · exact .inr rfl

theorem unmarked_separated (unmarked : ¬ sentinel <:+: text) : ¬ sentinel <:+: text ++ separator text := by
  have empty : ¬ sentinel <:+: ([] : List Char) := by simp [sentinel]
  have line : ¬ sentinel <:+: ['\n'] := MarkedText.not_infix_cons newline_not_mem_sentinel empty
  rcases separator_eq text with one | two
  · rw [one]
    exact MarkedText.not_infix_append_cons newline_not_mem_sentinel unmarked empty
  · rw [two]
    exact MarkedText.not_infix_append_cons newline_not_mem_sentinel unmarked line

theorem tidy_separated (text : List Char) : tidy (text ++ separator text) = tidy (text ++ ['\n']) := by
  rcases separator_eq text with one | two
  · rw [one]
  · rw [two, ← tidy_snoc, List.append_assoc, List.singleton_append]

/-- A file that had no section gets one at its end. -/
theorem write_unmarked (unmarked : Unmarked file) (template : ClaudeMdTemplate) : ∃ before, ¬ sentinel <:+: before ∧
    write template file = before ++ sectionBody template ∧ keep (tidy before) = restored file := by
  cases file with
  | none =>
    refine ⟨heading ++ ['\n', '\n'], by decide +kernel, ?_, by decide +kernel⟩
    rw [write, List.append_assoc]
    rfl
  | some text =>
    have unmarked := unmarked text rfl
    refine ⟨text ++ separator text, unmarked_separated unmarked, ?_, ?_⟩
    · rw [write, if_neg unmarked, List.append_assoc]
    · rw [restored, tidy_separated]

theorem sentinel_infix_write (template : ClaudeMdTemplate) (file : Option (List Char)) :
    sentinel <:+: write template file := by
  by_cases marked : ∃ text, file = some text ∧ sentinel <:+: text
  · obtain ⟨text, rfl, marked⟩ := marked
    rw [write, if_pos marked]
    obtain ⟨⟨before, inside⟩, outer⟩ :=
      Option.isSome_iff_exists.mp ((MarkedText.cut_isSome (List.cons_ne_nil '<' sentinelTail)).mpr marked)
    cases inner : MarkedText.cut sentinel inside with
    | none => rwa [replaceSections_alone outer inner]
    | some parts =>
      rw [replaceSections_some outer inner]
      exact (sentinel_infix_sectionBody template).trans ⟨_, _, List.append_assoc _ _ _⟩
  · obtain ⟨before, -, written, -⟩ :=
      write_unmarked (fun text same inside => marked ⟨text, same, inside⟩) template
    rw [written]
    exact (sentinel_infix_sectionBody template).trans (List.suffix_append _ _).isInfix

/-- What was written is replaced, whatever was there before. -/
theorem write_twice (template later : ClaudeMdTemplate) (file : Option (List Char)) :
    write later (some (write template file)) = write later file := by
  rw [write, if_pos (sentinel_infix_write template file)]
  by_cases marked : ∃ text, file = some text ∧ sentinel <:+: text
  · obtain ⟨text, rfl, marked⟩ := marked
    rw [write, write, if_pos marked, if_pos marked, replaceSections_twice]
  · have unmarked : Unmarked file := fun text same inside => marked ⟨text, same, inside⟩
    cases file with
    | none =>
      have free : ¬ sentinel <:+: heading ++ ['\n', '\n'] := by decide +kernel
      have replaced := replaceSections_append free (sectionBody later) template
      simpa [write] using replaced
    | some text =>
      have unmarked := unmarked text rfl
      rw [write, write, if_neg unmarked, if_neg unmarked, ← List.append_assoc,
        replaceSections_append (unmarked_separated unmarked), List.append_assoc]

theorem remove_write (unmarked : Unmarked file) (template : ClaudeMdTemplate) :
    remove (some (write template file)) = restored file := by
  obtain ⟨before, free, written, kept⟩ := write_unmarked unmarked template
  rw [remove, if_pos (sentinel_infix_write template file), written, replaceSections_append free, List.append_nil, kept]

theorem remove_unmarked (unmarked : Unmarked file) : remove file = file := by
  cases file with
  | none => rfl
  | some text => rw [remove, if_neg (unmarked text rfl)]

theorem restored_unmarked (unmarked : Unmarked file) : Unmarked (restored file) := by
  intro text same inside
  cases file with
  | none => cases same
  | some before =>
    obtain ⟨rfl, -⟩ := keep_eq_some same
    have plain : '\n' ∉ sentinel := newline_not_mem_sentinel
    refine MarkedText.not_infix_append_cons newline_not_mem_sentinel (unmarked before rfl) ?_
      (infix_of_squeeze plain (inside.trans (tidy_part _)))
    simp

theorem restored_restored (file : Option (List Char)) : restored (restored file) = restored file := by
  cases file with
  | none => rfl
  | some before =>
    cases kept : restored (some before) with
    | none => rfl
    | some text =>
      obtain ⟨rfl, nonempty⟩ := keep_eq_some kept
      obtain ⟨front, shape⟩ := List.getLast?_eq_some_iff.mp (tidy_ends nonempty)
      rw [restored]
      have again : tidy (tidy (before ++ ['\n']) ++ ['\n']) = tidy (before ++ ['\n']) := by
        rw [shape, tidy_snoc, ← shape, tidy_idem]
      rw [again]
      exact kept

theorem not_sectionBody_of_alone (alone : Alone text) (template : ClaudeMdTemplate) : ¬ sectionBody template <:+: text := by
  rintro ⟨front, rest, shape⟩
  obtain ⟨before, behind, found, last⟩ := alone
  have copy : text = front ++ (sentinel ++ ('\n' :: template.text ++ (sentinel ++ ['\n']) ++ rest)) := by
    rw [← shape, sectionBody]
    simp only [List.append_assoc]
  have second : sentinel <:+: '\n' :: template.text ++ (sentinel ++ ['\n']) ++ rest :=
    ⟨'\n' :: template.text, ['\n'] ++ rest, by simp only [List.append_assoc]⟩
  have inside := second.trans (MarkedText.suffix_behind found copy).isInfix
  exact (MarkedText.cut_eq_none (List.cons_ne_nil '<' sentinelTail)).mp last inside

theorem sectionBody_infix_write (template : ClaudeMdTemplate) :
    sectionBody template <:+: write template file ↔ ¬ ∃ text, file = some text ∧ Alone text := by
  by_cases marked : ∃ text, file = some text ∧ sentinel <:+: text
  · obtain ⟨text, rfl, marked⟩ := marked
    obtain ⟨⟨before, inside⟩, outer⟩ :=
      Option.isSome_iff_exists.mp ((MarkedText.cut_isSome (List.cons_ne_nil '<' sentinelTail)).mpr marked)
    rw [write, if_pos marked]
    cases inner : MarkedText.cut sentinel inside with
    | none =>
      have alone : Alone text := ⟨before, inside, outer, inner⟩
      rw [replaceSections_alone outer inner]
      exact iff_of_false (not_sectionBody_of_alone alone template) (not_not_intro ⟨text, rfl, alone⟩)
    | some parts =>
      rw [replaceSections_some outer inner]
      refine iff_of_true ⟨_, _, List.append_assoc _ _ _⟩ ?_
      rintro ⟨text', same, before', behind', found, last⟩
      obtain rfl := Option.some.inj same
      obtain ⟨rfl, rfl⟩ := Prod.mk.inj (Option.some.inj (outer.symm.trans found))
      rw [inner] at last
      cases last
  · have unmarked : Unmarked file := fun text same inside => marked ⟨text, same, inside⟩
    obtain ⟨before, -, written, -⟩ := write_unmarked unmarked template
    rw [written]
    refine iff_of_true (List.suffix_append _ _).isInfix ?_
    rintro ⟨text, same, before', behind, found, -⟩
    refine unmarked text same ((MarkedText.cut_isSome (List.cons_ne_nil '<' sentinelTail)).mp ?_)
    exact Option.isSome_iff_exists.mpr ⟨_, found⟩

/-- The section in any file, also in one that somebody has edited. -/
structure SectionLaws (file : Option (List Char)) : Prop where
  /-- A release replaces the section of another one and leaves nothing of it. -/
  upgraded : ∀ template later, write later (some (write template file)) = write later file
  /-- The section is there, unless the file has one marker with no other behind it. -/
  present : ∀ template, sectionBody template <:+: write template file ↔ ¬ ∃ text, file = some text ∧ Alone text
  /-- The rest of the file is the same with the old section as with the new one. -/
  removed : ∀ template, ¬ Unmarked file → remove (some (write template file)) = remove file
  appended : ∀ template, Unmarked file → remove (some (write template file)) = restored file

end

theorem claude_md_sections (file : Option (List Char)) : SectionLaws file where
  upgraded template later := write_twice template later file
  present template := sectionBody_infix_write template
  removed template marked := by
    simp only [Unmarked, not_forall, not_not] at marked
    obtain ⟨text, rfl, marked⟩ := marked
    rw [remove, if_pos (sentinel_infix_write template _), write, if_pos marked, replaceSections_twice, remove, if_pos marked]
  appended template unmarked := remove_write unmarked template

/-- However often the section is written and removed, the file is the one that
was there before, or that one without its surplus newlines; and the section in it
is the one written last. -/
theorem claude_md_runs (file : Option (List Char)) (unmarked : Unmarked file) (commands : List Command) :
    ∃ base, (base = file ∨ base = restored file) ∧
      (∀ text kept, file = some text → base = some kept → ink kept = ink text) ∧
      commands.foldl Command.run file =
        (commands.foldl lastWritten none).elim base fun template => some (write template base) := by
  have ends : ∃ base, (base = file ∨ base = restored file) ∧ commands.foldl Command.run file =
      (commands.foldl lastWritten none).elim base fun template => some (write template base) := by
    induction commands using List.reverseRecOn with
    | nil => exact ⟨file, .inl rfl, rfl⟩
    | append_singleton commands command ih =>
      obtain ⟨base, origin, reached⟩ := ih
      rw [List.foldl_concat, List.foldl_concat, reached]
      have unmarked' : Unmarked base := by
        rcases origin with rfl | rfl
        · exact unmarked
        · exact restored_unmarked unmarked
      cases command with
      | init template printOnly =>
        refine ⟨base, origin, ?_⟩
        cases printOnly with
        | true => rfl
        | false => cases commands.foldl lastWritten none with
          | none => rfl
          | some earlier => exact congrArg some (write_twice earlier template base)
      | uninstall => cases commands.foldl lastWritten none with
        | none => exact ⟨base, origin, remove_unmarked unmarked'⟩
        | some earlier =>
          refine ⟨restored base, .inr ?_, remove_write unmarked' earlier⟩
          rcases origin with rfl | rfl
          · rfl
          · exact restored_restored file
  obtain ⟨base, origin, reached⟩ := ends
  refine ⟨base, origin, ?_, reached⟩
  rintro text kept rfl same
  rcases origin with rfl | rfl
  · rw [Option.some.inj same]
  · obtain ⟨rfl, -⟩ := keep_eq_some same
    rw [ink_tidy, ink, List.filter_append]
    exact List.append_nil _

def shortTemplate : ClaudeMdTemplate := ⟨"## Coordination\n".toList, by decide +kernel, by decide +kernel⟩

theorem claude_md_runs_reinstalled : ∃ base, (base = some "notes".toList ∨ base = restored (some "notes".toList)) ∧
    (∀ text kept, some "notes".toList = some text → base = some kept → ink kept = ink text) ∧
    [Command.init shortTemplate false, .uninstall, .init shortTemplate false].foldl Command.run (some "notes".toList) =
      some (write shortTemplate base) :=
  claude_md_runs (some "notes".toList) (fun text same => Option.some.inj same ▸ by decide +kernel)
    [.init shortTemplate false, .uninstall, .init shortTemplate false]

example : restored (some "notes".toList) = some "notes\n".toList := by decide +kernel

end ClaudeMd

end Coordinator
