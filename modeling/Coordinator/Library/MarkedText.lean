import Mathlib.Data.List.Infix

/-! Text with sections in it, each from one copy of a marker to the next one. A
marker whose first character is nowhere else in it overlaps with no copy of itself,
so that the text in front of a copy determines where it stands. -/

universe u

namespace MarkedText
variable {α : Type u} [DecidableEq α]

/-- The text in front of the first copy of the marker, and the text behind it. -/
def cut (marker : List α) : List α → Option (List α × List α)
  | [] => none
  | c :: rest =>
    if marker <+: c :: rest then some ([], (c :: rest).drop marker.length)
    else (cut marker rest).map fun (before, behind) => (c :: before, behind)

theorem cut_eq_some {marker text before behind : List α} (found : cut marker text = some (before, behind)) :
    text = before ++ (marker ++ behind) := by
  induction text generalizing before with
  | nil => cases found
  | cons c rest ih =>
    rw [cut] at found
    split at found
    · rename_i here
      obtain ⟨more, shape⟩ := here
      cases found
      rw [← shape, List.drop_left, List.nil_append]
    · obtain ⟨⟨before', behind'⟩, later, same⟩ := Option.map_eq_some_iff.mp found
      cases same
      rw [ih later, List.cons_append]

theorem cut_length {marker text before behind : List α} (nonempty : marker ≠ [])
    (found : cut marker text = some (before, behind)) : behind.length < text.length := by
  have := List.length_pos_iff.mpr nonempty
  rw [cut_eq_some found, List.length_append, List.length_append]
  omega

theorem cut_eq_none {marker text : List α} (nonempty : marker ≠ []) : cut marker text = none ↔ ¬ marker <:+: text := by
  induction text with
  | nil => simp [cut, nonempty]
  | cons c rest ih =>
    rw [cut, List.infix_cons_iff]
    split
    · simp [*]
    · rw [Option.map_eq_none_iff, ih]
      simp [*]

theorem cut_isSome {marker text : List α} (nonempty : marker ≠ []) : (cut marker text).isSome ↔ marker <:+: text := by
  rw [← not_iff_not, ← cut_eq_none nonempty, Option.not_isSome_iff_eq_none]

omit [DecidableEq α] in
/-- What begins a text stands in front of a character of it, or reaches over to it. -/
theorem prefix_or_reaches {marker before more : List α} {d : α} (here : marker <+: before ++ d :: more) :
    marker <+: before ∨ ∃ past, marker = before ++ d :: past := by
  obtain ⟨rest, shape⟩ := here
  rcases List.append_eq_append_iff.mp shape with ⟨rest', inside, -⟩ | ⟨past, reach, spans⟩
  · exact .inl ⟨rest', inside.symm⟩
  · cases past with
    | nil => exact .inl ⟨[], by simpa using reach⟩
    | cons e past =>
      obtain ⟨rfl, -⟩ := List.cons.inj spans
      exact .inr ⟨past, reach⟩

/-- The first copy is found where nothing in front of it holds one. -/
theorem cut_append {first : α} {tail : List α} (once : first ∉ tail) {before : List α}
    (free : ¬ first :: tail <:+: before) (behind : List α) :
    cut (first :: tail) (before ++ (first :: tail ++ behind)) = some (before, behind) := by
  induction before with
  | nil =>
    rw [List.nil_append, List.cons_append, cut, if_pos ⟨behind, rfl⟩]
    simp
  | cons c before ih =>
    rw [List.infix_cons_iff, not_or] at free
    have elsewhere : ¬ first :: tail <+: c :: (before ++ (first :: tail ++ behind)) := by
      intro here
      have here : first :: tail <+: (c :: before) ++ first :: (tail ++ behind) := here
      rcases prefix_or_reaches here with inside | ⟨past, reach⟩
      · exact free.1 inside
      · -- a copy that reaches over into the next one has its first character twice
        obtain ⟨rfl, rfl⟩ := List.cons.inj reach
        exact once (by simp)
    rw [List.cons_append, cut, if_neg elsewhere, ih free.2]
    rfl

/-- No copy of the marker stands further in front. -/
theorem cut_first {marker text before behind front rest : List α} (found : cut marker text = some (before, behind))
    (copy : text = front ++ (marker ++ rest)) : before.length ≤ front.length := by
  induction text generalizing before front with
  | nil => cases found
  | cons c text ih =>
    rw [cut] at found
    split at found
    · cases found
      exact Nat.zero_le _
    · rename_i elsewhere
      obtain ⟨⟨before', behind'⟩, later, same⟩ := Option.map_eq_some_iff.mp found
      cases same
      cases front with
      | nil => exact absurd ⟨rest, copy.symm⟩ elsewhere
      | cons d front => exact Nat.succ_le_succ (ih later (List.cons.inj copy).2)

/-- What stands behind a copy of the marker stands behind the first one. -/
theorem suffix_behind {marker text before behind front rest : List α} (found : cut marker text = some (before, behind))
    (copy : text = front ++ (marker ++ rest)) : rest <:+ behind := by
  have first := cut_first found copy
  have whole := cut_eq_some found
  have later : rest <:+ text := ⟨front ++ marker, by rw [copy, List.append_assoc]⟩
  refine List.suffix_of_suffix_length_le later
    ⟨before ++ marker, by rw [whole, List.append_assoc]⟩ ?_
  have lengths := congrArg List.length (copy.symm.trans whole)
  simp only [List.length_append] at lengths
  omega

/-- What begins with the gap loses it. -/
def dropGap (gap : α) : List α → List α
  | [] => []
  | c :: rest => if c = gap then rest else c :: rest

theorem dropGap_length (gap : α) (text : List α) : (dropGap gap text).length ≤ text.length := by
  cases text with
  | nil => rfl
  | cons c rest =>
    rw [dropGap]
    split <;> simp

/-- Every section, with the gap behind it if there is one, is replaced. A copy
of the marker that no other one follows stays. -/
def replaceSections {marker : List α} (nonempty : marker ≠ []) (gap : α) (replacement text : List α) : List α :=
  match _found : cut marker text with
  | none => text
  | some (before, inside) => match _found' : cut marker inside with
    | none => text
    | some (_, behind) => before ++ (replacement ++ replaceSections nonempty gap replacement (dropGap gap behind))
termination_by text.length
decreasing_by
  have := cut_length nonempty _found
  have := cut_length nonempty _found'
  have := dropGap_length gap behind
  omega

section
variable {first gap : α} {tail : List α} {before behind body text replacement : List α}

omit [DecidableEq α] in
theorem not_infix_cons (apart : gap ∉ first :: tail) (free : ¬ first :: tail <:+: body) :
    ¬ first :: tail <:+: gap :: body := by
  rw [List.infix_cons_iff, not_or]
  refine ⟨?_, free⟩
  rintro ⟨more, shape⟩
  obtain ⟨rfl, -⟩ := List.cons.inj shape
  exact apart List.mem_cons_self

omit [DecidableEq α] in
theorem not_infix_append_cons (apart : gap ∉ first :: tail) (free : ¬ first :: tail <:+: before)
    (free' : ¬ first :: tail <:+: body) : ¬ first :: tail <:+: before ++ gap :: body := by
  induction before with
  | nil => exact not_infix_cons apart free'
  | cons c before ih =>
    rw [List.infix_cons_iff, not_or] at free
    rw [List.cons_append, List.infix_cons_iff, not_or]
    refine ⟨?_, ih free.2⟩
    intro here
    rw [← List.cons_append] at here
    rcases prefix_or_reaches here with inside | ⟨past, reach⟩
    · exact free.1 inside
    · exact apart (reach ▸ by simp)

/-- A section: its body on lines of its own between two copies of the marker. -/
def section' (marker : List α) (gap : α) (body : List α) : List α := marker ++ (gap :: body ++ (marker ++ [gap]))

theorem replaceSections_none {marker : List α} {nonempty : marker ≠ []} (found : cut marker text = none) :
    replaceSections nonempty gap replacement text = text := by
  rw [replaceSections]
  split
  · rfl
  · simp_all

/-- A copy of the marker that stands alone. -/
theorem replaceSections_alone {marker inside : List α} {nonempty : marker ≠ []}
    (found : cut marker text = some (before, inside)) (alone : cut marker inside = none) :
    replaceSections nonempty gap replacement text = text := by
  rw [replaceSections]
  split
  · rfl
  · rename_i found'
    obtain ⟨rfl, rfl⟩ := Prod.mk.inj (Option.some.inj (found.symm.trans found'))
    split
    · rfl
    · simp_all

theorem replaceSections_some {marker inside between : List α} {nonempty : marker ≠ []}
    (found : cut marker text = some (before, inside)) (found' : cut marker inside = some (between, behind)) :
    replaceSections nonempty gap replacement text =
      before ++ (replacement ++ replaceSections nonempty gap replacement (dropGap gap behind)) := by
  rw [replaceSections]
  split
  · simp_all
  · rename_i again
    obtain ⟨rfl, rfl⟩ := Prod.mk.inj (Option.some.inj (found.symm.trans again))
    split
    · simp_all
    · rename_i again'
      obtain ⟨rfl, rfl⟩ := Prod.mk.inj (Option.some.inj (found'.symm.trans again'))
      rfl

/-- The first section is replaced, and the text behind it is read on. -/
theorem replaceSections_section (once : first ∉ tail) (apart : gap ∉ first :: tail)
    (free : ¬ first :: tail <:+: before) (free' : ¬ first :: tail <:+: body) :
    replaceSections (List.cons_ne_nil first tail) gap replacement (before ++ (section' (first :: tail) gap body ++ behind)) =
      before ++ (replacement ++ replaceSections (List.cons_ne_nil first tail) gap replacement behind) := by
  have outer := cut_append once free (gap :: body ++ (first :: tail ++ gap :: behind))
  have inner := cut_append once (not_infix_cons apart free') (gap :: behind)
  have shape : before ++ (section' (first :: tail) gap body ++ behind) =
      before ++ (first :: tail ++ (gap :: body ++ (first :: tail ++ gap :: behind))) := by
    simp [section']
  rw [shape, replaceSections_some outer inner, dropGap, if_pos rfl]

theorem cut_free {marker : List α} (nonempty : marker ≠ []) (found : cut marker text = some (before, behind)) :
    ¬ marker <:+: before := by
  induction text generalizing before with
  | nil => cases found
  | cons c rest ih =>
    rw [cut] at found
    split at found
    · cases found
      simpa using nonempty
    · rename_i elsewhere
      obtain ⟨⟨before', behind'⟩, later, same⟩ := Option.map_eq_some_iff.mp found
      cases same
      rw [List.infix_cons_iff, not_or]
      refine ⟨fun here => elsewhere ?_, ih later⟩
      rw [cut_eq_some later, ← List.cons_append]
      exact List.prefix_append_of_prefix here

/-- A later replacement undoes an earlier one. -/
theorem replaceSections_twice (once : first ∉ tail) (apart : gap ∉ first :: tail) (free : ¬ first :: tail <:+: body)
    (replacement text : List α) :
    replaceSections (List.cons_ne_nil first tail) gap replacement
        (replaceSections (List.cons_ne_nil first tail) gap (section' (first :: tail) gap body) text) =
      replaceSections (List.cons_ne_nil first tail) gap replacement text := by
  induction text using replaceSections.induct (List.cons_ne_nil first tail) gap with
  | case1 text found => rw [replaceSections_none found]
  | case2 text before inside found alone => rw [replaceSections_alone found alone]
  | case3 text before inside found between behind found' ih =>
    rw [replaceSections_some found found', replaceSections_some found found',
      replaceSections_section once apart (cut_free (List.cons_ne_nil first tail) found) free, ih]

end

end MarkedText
