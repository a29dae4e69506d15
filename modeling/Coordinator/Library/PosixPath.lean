import Mathlib.Algebra.GroupWithZero.Nat
import Mathlib.Data.List.Basic
import Mathlib.Data.List.Induction

universe u

/-! The normal form of a slash-separated path: no empty segment, no `.`, and `..` only in front. -/
namespace PosixPath
variable {α : Type u} [DecidableEq α] (slash dot : α)

def join (segments : List (List α)) : List α := [slash].intercalate segments

/-- One segment onto the segments kept so far, the latest first. -/
def push (above : Bool) (stack : List (List α)) (segment : List α) : List (List α) :=
  if segment = [] ∨ segment = [dot] then stack
  else if segment = [dot, dot] then
    match stack with
    | [] => if above then [segment] else []
    | top :: below => if top ≠ [dot, dot] then below else if above then segment :: stack else stack
  else segment :: stack

/-- The segments of a path that are left; those `..` that lead above its start are kept on demand. -/
def resolve (above : Bool) (p : List α) : List (List α) := ((p.splitOn slash).foldl (push dot above) []).reverse

def normalize (p : List α) : List α :=
  if p = [] then [dot]
  else
    let isAbsolute : Bool := p.head? = some slash
    let trailing : Bool := p.getLast? = some slash
    let path := join slash (resolve slash dot (!isAbsolute) p)
    if path = [] then if isAbsolute then [slash] else if trailing then [dot, slash] else [dot]
    else (if isAbsolute then [slash] else []) ++ path ++ if trailing then [slash] else []

/-- A stack that pushing its own segments builds up again. -/
def Settled (above : Bool) : List (List α) → Prop
  | [] => True
  | top :: below =>
    top ≠ [] ∧ top ≠ [dot] ∧ slash ∉ top ∧ (top = [dot, dot] → above = true ∧ ∀ s ∈ below, s = [dot, dot]) ∧
      Settled above below

/-- Whether segments lead above a start that lies so many names deep. -/
def climbs : Nat → List (List α) → Bool
  | _, [] => false
  | depth, segment :: rest =>
    if segment = [] ∨ segment = [dot] then climbs depth rest
    else if segment = [dot, dot] then depth = 0 || climbs (depth - 1) rest
    else climbs (depth + 1) rest

/-- How many names of a relative path are left that lead up. -/
def ups (p : List α) : Nat := (resolve slash dot true p).countP (· = [dot, dot])

/-- How many names of a relative path are left that lead down. -/
def downs (p : List α) : Nat := (resolve slash dot true p).countP (· ≠ [dot, dot])

/-- An absolute path that names the root or something in it. -/
def Below (root p : List α) : Prop := resolve slash dot false root <+: resolve slash dot false p

variable {slash dot} {above : Bool} {stack segments : List (List α)} {segment p : List α}

omit [DecidableEq α] in
theorem join_cons (segment : List α) (more : segments ≠ []) :
    join slash (segment :: segments) = segment ++ slash :: join slash segments := by
  rw [join, List.intercalate_cons_of_ne_nil more, List.append_assoc]
  rfl

theorem push_skip (skipped : segment = [] ∨ segment = [dot]) : push dot above stack segment = stack := if_pos skipped

theorem push_name (kept : ¬ (segment = [] ∨ segment = [dot])) (named : segment ≠ [dot, dot]) :
    push dot above stack segment = segment :: stack := by
  unfold push
  rw [if_neg kept, if_neg named]

theorem push_up {top : List α} (named : top ≠ [dot, dot]) : push dot above (top :: stack) [dot, dot] = stack := by
  unfold push
  simp [named]

theorem splitOn_free (p : List α) : ∀ s ∈ p.splitOn slash, slash ∉ s := by
  induction p with
  | nil => simp
  | cons c rest ih =>
    rw [List.splitOn_cons_eq_if_modifyHead]
    split
    · exact List.forall_mem_cons.mpr ⟨List.not_mem_nil, ih⟩
    · rename_i other
      have apart : slash ≠ c := fun same => other (beq_iff_eq.mpr same.symm)
      cases shape : rest.splitOn slash with
      | nil => simp
      | cons first others =>
        rw [shape] at ih
        obtain ⟨free, later⟩ := List.forall_mem_cons.mp ih
        refine List.forall_mem_cons.mpr ⟨?_, later⟩
        exact fun inside => (List.mem_cons.mp inside).elim apart free

theorem Settled.push (settled : Settled slash dot above stack) (free : slash ∉ segment) :
    Settled slash dot above (push dot above stack segment) := by
  unfold PosixPath.push
  split
  · exact settled
  · rename_i kept
    obtain ⟨nonempty, notDot⟩ := not_or.mp kept
    split
    · rename_i up
      subst up
      cases stack with
      | nil =>
        by_cases climbs : above = true
        · rw [if_pos climbs]
          exact ⟨nonempty, notDot, free, fun _ => ⟨climbs, List.forall_mem_nil _⟩, trivial⟩
        · rw [if_neg climbs]
          trivial
      | cons top below =>
        by_cases named : top ≠ [dot, dot]
        · simp only [if_pos named]
          exact settled.2.2.2.2
        · simp only [if_neg named]
          have top_up : top = [dot, dot] := not_not.mp named
          obtain ⟨climbs, ups⟩ := settled.2.2.2.1 top_up
          rw [if_pos climbs]
          exact ⟨nonempty, notDot, free, fun _ => ⟨climbs, List.forall_mem_cons.mpr ⟨top_up, ups⟩⟩, settled⟩
    · rename_i named
      exact ⟨nonempty, notDot, free, fun up => absurd up named, settled⟩

theorem Settled.foldl (settled : Settled slash dot above stack) (free : ∀ s ∈ segments, slash ∉ s) :
    Settled slash dot above (segments.foldl (PosixPath.push dot above) stack) := by
  induction segments generalizing stack with
  | nil => exact settled
  | cons segment rest ih =>
    obtain ⟨first, later⟩ := List.forall_mem_cons.mp free
    exact ih (settled.push first) later

/-- Pushing the segments of a settled stack, from the bottom, gives the stack. -/
theorem Settled.replay (settled : Settled slash dot above stack) :
    stack.reverse.foldl (PosixPath.push dot above) [] = stack := by
  induction stack with
  | nil => rfl
  | cons top below ih =>
    obtain ⟨nonempty, notDot, -, ups, under⟩ := settled
    rw [List.reverse_cons, List.foldl_append, ih under, List.foldl_cons, List.foldl_nil]
    unfold PosixPath.push
    rw [if_neg (not_or.mpr ⟨nonempty, notDot⟩)]
    split
    · rename_i up
      obtain ⟨climbs, below_up⟩ := ups up
      cases below with
      | nil => simp only [if_pos climbs]
      | cons next others =>
        have next_up : next = [dot, dot] := below_up next List.mem_cons_self
        simp only [if_neg (not_not.mpr next_up), if_pos climbs]
    · rfl

/-- The segments left of a path, the latest first. -/
theorem settled_resolve (above : Bool) (p : List α) : Settled slash dot above (resolve slash dot above p).reverse := by
  rw [resolve, List.reverse_reverse]
  exact Settled.foldl trivial (splitOn_free p)

omit [DecidableEq α] in
theorem Settled.mem (settled : Settled slash dot above stack) (inside : segment ∈ stack) :
    segment ≠ [] ∧ segment ≠ [dot] ∧ slash ∉ segment := by
  induction stack with
  | nil => cases inside
  | cons top below ih =>
    rcases List.mem_cons.mp inside with rfl | under
    · exact ⟨settled.1, settled.2.1, settled.2.2.1⟩
    · exact ih settled.2.2.2.2 under

theorem mem_resolve (left : segment ∈ resolve slash dot above p) : segment ≠ [] ∧ segment ≠ [dot] ∧ slash ∉ segment :=
  (settled_resolve above p).mem (List.mem_reverse.mpr left)

theorem splitOn_slash_cons (p : List α) : (slash :: p).splitOn slash = [] :: p.splitOn slash := by
  simpa using List.splitOn_append_cons_self (a := slash) [] p

theorem splitOn_concat_slash (p : List α) : (p ++ [slash]).splitOn slash = p.splitOn slash ++ [[]] := by
  simpa using List.splitOn_append_cons_self (a := slash) p []

theorem resolve_slash_cons (p : List α) : resolve slash dot above (slash :: p) = resolve slash dot above p := by
  rw [resolve, splitOn_slash_cons, List.foldl_cons, push_skip (.inl rfl), resolve]

theorem resolve_concat_slash (p : List α) : resolve slash dot above (p ++ [slash]) = resolve slash dot above p := by
  rw [resolve, splitOn_concat_slash, List.foldl_append, List.foldl_cons, List.foldl_nil, push_skip (.inl rfl), resolve]

theorem splitOn_join (some : resolve slash dot above p ≠ []) :
    (join slash (resolve slash dot above p)).splitOn slash = resolve slash dot above p :=
  List.splitOn_intercalate slash (fun _ left => (mem_resolve left).2.2) some

/-- Resolving again leaves everything. -/
theorem resolve_join (some : resolve slash dot above p ≠ []) :
    resolve slash dot above (join slash (resolve slash dot above p)) = resolve slash dot above p := by
  have settled : Settled slash dot above (resolve slash dot above p).reverse := settled_resolve above p
  have replayed := settled.replay
  rw [List.reverse_reverse] at replayed
  rw [resolve, splitOn_join some, replayed, List.reverse_reverse]

/-- Neither end of a joined path is a slash. -/
structure Bare (slash : α) (p : List α) : Prop where
  some : p ≠ []
  head : p.head? ≠ Option.some slash
  last : p.getLast? ≠ Option.some slash

omit [DecidableEq α] in
theorem Bare.of_free (some : p ≠ []) (free : slash ∉ p) : Bare slash p where
  some := some
  head first := free (List.mem_of_head? first)
  last last := free (List.mem_of_getLast? last)

omit [DecidableEq α] in
theorem Bare.join (some : segments ≠ []) (named : ∀ s ∈ segments, s ≠ [] ∧ slash ∉ s) :
    Bare slash (join slash segments) := by
  induction segments with
  | nil => exact absurd rfl some
  | cons segment rest ih =>
    obtain ⟨⟨nonempty, free⟩, later⟩ := List.forall_mem_cons.mp named
    have first := Bare.of_free nonempty free
    by_cases last : rest = []
    · subst last
      rw [PosixPath.join, List.intercalate_singleton]
      exact first
    · have tail := ih last later
      have stop : (slash :: PosixPath.join slash rest).getLast? = (PosixPath.join slash rest).getLast? := by
        rw [List.getLast?_cons, List.getLast?_eq_some_getLast tail.some, Option.getD_some]
      rw [join_cons segment last]
      refine ⟨by simp, ?_, ?_⟩
      · rw [List.head?_append_of_ne_nil _ nonempty]
        exact first.head
      · rw [List.getLast?_append_of_ne_nil _ (List.cons_ne_nil _ _), stop]
        exact tail.last

theorem bare_resolve (some : resolve slash dot above p ≠ []) : Bare slash (join slash (resolve slash dot above p)) :=
  .join some fun _ left => ⟨(mem_resolve left).1, (mem_resolve left).2.2⟩

/-- A path with the slashes at its ends. -/
def frame (slash : α) (lead trail : Bool) (p : List α) : List α :=
  (if lead then [slash] else []) ++ p ++ if trail then [slash] else []

omit [DecidableEq α] in
theorem Bare.frame_head (bare : Bare slash p) (lead trail : Bool) :
    (frame slash lead trail p).head? = Option.some slash ↔ lead = true := by
  cases lead with
  | true => simp [frame]
  | false =>
    have start : (frame slash false trail p).head? = p.head? := by
      rw [frame, if_neg Bool.false_ne_true, List.nil_append, List.head?_append_of_ne_nil _ bare.some]
    rw [start]
    exact iff_of_false bare.head Bool.false_ne_true

omit [DecidableEq α] in
theorem Bare.frame_last (bare : Bare slash p) (lead trail : Bool) :
    (frame slash lead trail p).getLast? = Option.some slash ↔ trail = true := by
  cases trail with
  | true => simp [frame]
  | false =>
    have stop : (frame slash lead false p).getLast? = p.getLast? := by
      rw [frame, if_neg Bool.false_ne_true, List.append_nil, List.getLast?_append_of_ne_nil _ bare.some]
    rw [stop]
    exact iff_of_false bare.last Bool.false_ne_true

omit [DecidableEq α] in
theorem Bare.frame_ne_nil (bare : Bare slash p) (lead trail : Bool) : frame slash lead trail p ≠ [] := by
  have some := bare.some
  simp [frame, some]

theorem resolve_frame (lead trail : Bool) (p : List α) :
    resolve slash dot above (frame slash lead trail p) = resolve slash dot above p := by
  have stop : resolve slash dot above (p ++ if trail then [slash] else []) = resolve slash dot above p := by
    cases trail with
    | true => exact resolve_concat_slash p
    | false => rw [if_neg Bool.false_ne_true, List.append_nil]
  rw [frame, List.append_assoc]
  cases lead with
  | true => exact (resolve_slash_cons _).trans stop
  | false => exact stop

theorem splitOn_frame {lead trail : Bool} (some : resolve slash dot above p ≠ []) :
    (frame slash lead trail (join slash (resolve slash dot above p))).splitOn slash =
      (if lead then [[]] else []) ++ resolve slash dot above p ++ if trail then [[]] else [] := by
  have stop : (join slash (resolve slash dot above p) ++ if trail then [slash] else []).splitOn slash =
      resolve slash dot above p ++ if trail then [[]] else [] := by
    cases trail with
    | true => exact (splitOn_concat_slash _).trans (congrArg (· ++ [[]]) (splitOn_join some))
    | false => simpa using splitOn_join some
  rw [frame, List.append_assoc]
  cases lead with
  | true => exact (splitOn_slash_cons _).trans (congrArg (List.cons []) stop)
  | false => exact stop

variable (slash dot) in
/-- The shapes of a normal form. -/
theorem normalize_cases (p : List α) :
    (p = [] ∧ normalize slash dot p = [dot]) ∨
      (p ≠ [] ∧ ∃ lead trail : Bool, (p.head? = some slash ↔ lead = true) ∧ (p.getLast? = some slash ↔ trail = true) ∧
        ((resolve slash dot (!lead) p = [] ∧
            normalize slash dot p = if lead then [slash] else if trail then [dot, slash] else [dot]) ∨
          (resolve slash dot (!lead) p ≠ [] ∧
            normalize slash dot p = frame slash lead trail (join slash (resolve slash dot (!lead) p))))) := by
  by_cases none : p = []
  · exact .inl ⟨none, if_pos none⟩
  · refine .inr ⟨none, decide (p.head? = some slash), decide (p.getLast? = some slash), by simp, by simp, ?_⟩
    by_cases empty : resolve slash dot (!decide (p.head? = some slash)) p = []
    · refine .inl ⟨empty, ?_⟩
      have joined : join slash (resolve slash dot (!decide (p.head? = some slash)) p) = [] := by
        rw [empty]
        rfl
      rw [normalize, if_neg none]
      simp only [joined, if_true]
    · refine .inr ⟨empty, ?_⟩
      rw [normalize, if_neg none]
      simp only [if_neg (bare_resolve empty).some]
      rfl

theorem normalize_frame {lead trail : Bool} (some : resolve slash dot (!lead) p ≠ []) :
    normalize slash dot (frame slash lead trail (join slash (resolve slash dot (!lead) p))) =
      frame slash lead trail (join slash (resolve slash dot (!lead) p)) := by
  have bare := bare_resolve some
  have again : resolve slash dot (!lead) (frame slash lead trail (join slash (resolve slash dot (!lead) p))) =
      resolve slash dot (!lead) p := (resolve_frame lead trail _).trans (resolve_join some)
  have leads :
      decide ((frame slash lead trail (join slash (resolve slash dot (!lead) p))).head? = Option.some slash) = lead := by
    rw [Bool.eq_iff_iff, decide_eq_true_iff, bare.frame_head]
  have trails :
      decide ((frame slash lead trail (join slash (resolve slash dot (!lead) p))).getLast? = Option.some slash) = trail := by
    rw [Bool.eq_iff_iff, decide_eq_true_iff, bare.frame_last]
  rw [normalize, if_neg (bare.frame_ne_nil lead trail)]
  simp only [leads, trails, again, if_neg bare.some]
  rfl

theorem normalize_normalize (apart : dot ≠ slash) (p : List α) :
    normalize slash dot (normalize slash dot p) = normalize slash dot p := by
  have dotOnly : normalize slash dot [dot] = [dot] := by
    simp [normalize, resolve, List.splitOn_cons_eq_if_modifyHead, apart, push, join]
  rcases normalize_cases slash dot p with ⟨-, normal⟩ | ⟨-, lead, trail, -, -, ⟨-, normal⟩ | ⟨some, normal⟩⟩
  · rw [normal, dotOnly]
  · rw [normal]
    split
    · simp [normalize, resolve, List.splitOn_cons_eq_if_modifyHead, push, join]
    · split
      · simp [normalize, resolve, List.splitOn_cons_eq_if_modifyHead, apart, push, join]
      · exact dotOnly
  · rw [normal, normalize_frame some]

theorem normalize_head (apart : dot ≠ slash) (p : List α) :
    (normalize slash dot p).head? = some slash ↔ p.head? = some slash := by
  rcases normalize_cases slash dot p with ⟨none, normal⟩ | ⟨-, lead, trail, leads, -, ⟨-, normal⟩ | ⟨some, normal⟩⟩
  · subst none
    rw [normal]
    simp [apart]
  · rw [normal, leads]
    cases lead with
    | true => simp
    | false =>
      simp only [Bool.false_eq_true, if_false, iff_false]
      split
      · simp [apart]
      · simp [apart]
  · rw [normal, leads, (bare_resolve some).frame_head]

/-- Only one normal form begins with a dot and a slash. -/
theorem normalize_dot_slash (apart : dot ≠ slash) {p rest : List α}
    (begins : normalize slash dot p = dot :: slash :: rest) : rest = [] := by
  rcases normalize_cases slash dot p with ⟨-, normal⟩ | ⟨-, lead, trail, leads, -, ⟨-, normal⟩ | ⟨some, normal⟩⟩
  · rw [normal] at begins
    cases begins
  · rw [normal] at begins
    split at begins
    · cases begins
    · split at begins
      · cases begins
        rfl
      · cases begins
  · rw [normal] at begins
    have split : (dot :: slash :: rest).splitOn slash = [dot] :: rest.splitOn slash := by
      have free : slash ∉ [dot] := by simpa using apart.symm
      exact List.splitOn_append_cons_self_of_not_mem free rest
    rw [← begins, splitOn_frame some] at split
    cases lead with
    | true => cases split
    | false =>
      cases left : resolve slash dot (!false) p with
      | nil => exact absurd left some
      | cons first others =>
        rw [left] at split
        have first_dot : first = [dot] := (List.cons.inj split).1
        have kept : first ∈ resolve slash dot (!false) p := by
          rw [left]
          exact List.mem_cons_self
        exact absurd first_dot (mem_resolve kept).2.1

/-- The segments of a path weigh what its characters and the slashes around them do. -/
def size (segments : List (List α)) : Nat := (segments.map fun s => s.length + 1).sum

omit [DecidableEq α] in
theorem size_cons (segment : List α) (segments : List (List α)) :
    size (segment :: segments) = segment.length + 1 + size segments := by
  rw [size, List.map_cons, List.sum_cons, size]

omit [DecidableEq α] in
theorem length_join (some : segments ≠ []) : (join slash segments).length + 1 = size segments := by
  induction segments with
  | nil => exact absurd rfl some
  | cons segment rest ih =>
    by_cases last : rest = []
    · subst last
      simp [join, size]
    · have tail := ih last
      rw [join_cons segment last, List.length_append, List.length_cons, tail, size_cons]
      omega

theorem size_push (stack : List (List α)) (segment : List α) :
    size (push dot above stack segment) ≤ size stack + (segment.length + 1) := by
  have grown := size_cons segment stack
  unfold push
  split
  · omega
  · split
    · split
      · split
        · simp [size]
        · simp [size]
      · rename_i top below
        have under := size_cons top below
        split
        · omega
        · split
          · omega
          · omega
    · omega

theorem size_foldl (stack segments : List (List α)) :
    size (segments.foldl (push dot above) stack) ≤ size stack + size segments := by
  induction segments generalizing stack with
  | nil => exact Nat.le_add_right _ _
  | cons segment rest ih =>
    have pushed : size (push dot above stack segment) ≤ size stack + (segment.length + 1) := size_push stack segment
    have later := ih (push dot above stack segment)
    have grown := size_cons segment rest
    rw [List.foldl_cons]
    omega

theorem length_resolve (some : resolve slash dot above p ≠ []) :
    (join slash (resolve slash dot above p)).length ≤ p.length := by
  have folded : size ((p.splitOn slash).foldl (push dot above) []) ≤ size ([] : List (List α)) + size (p.splitOn slash) :=
    size_foldl [] _
  have joined : (join slash (p.splitOn slash)).length + 1 = size (p.splitOn slash) :=
    length_join (List.splitOn_ne_nil slash p)
  have path : join slash (p.splitOn slash) = p := List.intercalate_splitOn slash
  have kept : size (resolve slash dot above p) = size ((p.splitOn slash).foldl (push dot above) []) := by
    rw [resolve, size, size, List.map_reverse, List.sum_reverse]
  have shorter : (join slash (resolve slash dot above p)).length + 1 = size (resolve slash dot above p) :=
    length_join some
  rw [path] at joined
  have empty : size ([] : List (List α)) = 0 := rfl
  omega

/-- A path that does not resolve away is its inside between the slashes at its ends. -/
theorem exists_frame {lead trail : Bool} (leads : p.head? = some slash ↔ lead = true)
    (trails : p.getLast? = some slash ↔ trail = true) (kept : resolve slash dot above p ≠ []) :
    ∃ q, p = frame slash lead trail q := by
  cases lead with
  | false =>
    cases trail with
    | false => exact ⟨p, by simp [frame]⟩
    | true =>
      obtain ⟨q, rfl⟩ := List.getLast?_eq_some_iff.mp (trails.mpr rfl)
      exact ⟨q, by simp [frame]⟩
  | true =>
    obtain ⟨rest, rfl⟩ := List.head?_eq_some_iff.mp (leads.mpr rfl)
    cases trail with
    | false => exact ⟨rest, by simp [frame]⟩
    | true =>
      by_cases none : rest = []
      · subst none
        exact absurd (resolve_slash_cons []) (by simpa [resolve, push] using kept)
      · have stop := trails.mpr rfl
        rw [List.getLast?_cons, List.getLast?_eq_some_getLast none, Option.getD_some] at stop
        obtain ⟨q, rfl⟩ := List.getLast?_eq_some_iff.mp ((List.getLast?_eq_some_getLast none).trans stop)
        exact ⟨q, by simp [frame]⟩

theorem length_normalize (some : p ≠ []) : (normalize slash dot p).length ≤ p.length := by
  rcases normalize_cases slash dot p with ⟨none, -⟩ | ⟨-, lead, trail, leads, trails, ⟨-, normal⟩ | ⟨kept, normal⟩⟩
  · exact absurd none some
  · have long := List.length_pos_iff.mpr some
    rw [normal]
    split
    · exact long
    · rename_i relative
      split
      · rename_i ends
        match p with
        | [c] => exact absurd (leads.mp (trails.mpr ends)) relative
        | c :: d :: rest => simp
      · exact long
  · obtain ⟨q, framed⟩ := exists_frame leads trails kept
    have same : resolve slash dot (!lead) p = resolve slash dot (!lead) q := by rw [framed, resolve_frame]
    rw [same] at kept normal
    have inner := length_resolve kept
    rw [normal, framed]
    simp only [frame, List.length_append]
    omega

omit [DecidableEq α] in
theorem mem_join {c : α} (inside : c ∈ join slash segments) : c = slash ∨ ∃ s ∈ segments, c ∈ s := by
  induction segments with
  | nil => cases inside
  | cons segment rest ih =>
    by_cases last : rest = []
    · subst last
      rw [join, List.intercalate_singleton] at inside
      exact .inr ⟨segment, List.mem_cons_self, inside⟩
    · rw [join_cons segment last] at inside
      rcases List.mem_append.mp inside with first | after
      · exact .inr ⟨segment, List.mem_cons_self, first⟩
      · rcases List.mem_cons.mp after with sep | later
        · exact .inl sep
        · rcases ih later with sep | ⟨s, listed, within⟩
          · exact .inl sep
          · exact .inr ⟨s, List.mem_cons_of_mem _ listed, within⟩

theorem mem_of_splitOn {c : α} (listed : segment ∈ p.splitOn slash) (within : c ∈ segment) : c ∈ p := by
  induction p generalizing segment with
  | nil =>
    rw [List.splitOn_nil, List.mem_singleton] at listed
    rwa [listed] at within
  | cons d rest ih =>
    rw [List.splitOn_cons_eq_if_modifyHead] at listed
    split at listed
    · rcases List.mem_cons.mp listed with rfl | later
      · cases within
      · exact List.mem_cons_of_mem d (ih later within)
    · cases shape : rest.splitOn slash with
      | nil => exact absurd shape (List.splitOn_ne_nil slash rest)
      | cons first others =>
        rw [shape, List.modifyHead_cons] at listed
        rcases List.mem_cons.mp listed with rfl | later
        · rcases List.mem_cons.mp within with rfl | deeper
          · exact List.mem_cons_self
          · exact List.mem_cons_of_mem d (ih (by rw [shape]; exact List.mem_cons_self) deeper)
        · exact List.mem_cons_of_mem d (ih (by rw [shape]; exact List.mem_cons_of_mem _ later) within)

theorem mem_push (kept : segment ∈ push dot above stack p) : segment ∈ stack ∨ segment = p := by
  unfold push at kept
  split at kept
  · exact .inl kept
  · split at kept
    · split at kept
      · split at kept
        · exact .inr (List.mem_singleton.mp kept)
        · cases kept
      · split at kept
        · exact .inl (List.mem_cons_of_mem _ kept)
        · split at kept
          · exact (List.mem_cons.mp kept).symm.imp_right id
          · exact .inl kept
    · exact (List.mem_cons.mp kept).symm

theorem mem_foldl (kept : segment ∈ segments.foldl (push dot above) stack) : segment ∈ stack ∨ segment ∈ segments := by
  induction segments generalizing stack with
  | nil => exact .inl kept
  | cons first rest ih =>
    rcases ih kept with old | later
    · rcases mem_push old with under | new
      · exact .inl under
      · exact .inr (new ▸ List.mem_cons_self)
    · exact .inr (List.mem_cons_of_mem _ later)

/-- Normalizing brings in no characters but slashes and dots. -/
theorem mem_normalize {c : α} (inside : c ∈ normalize slash dot p) : c = slash ∨ c = dot ∨ c ∈ p := by
  rcases normalize_cases slash dot p with ⟨-, normal⟩ | ⟨-, lead, trail, -, -, ⟨-, normal⟩ | ⟨kept, normal⟩⟩
  · rw [normal, List.mem_singleton] at inside
    exact .inr (.inl inside)
  · rw [normal] at inside
    split at inside
    · exact .inl (List.mem_singleton.mp inside)
    · split at inside
      · rcases List.mem_cons.mp inside with first | second
        · exact .inr (.inl first)
        · exact .inl (List.mem_singleton.mp second)
      · exact .inr (.inl (List.mem_singleton.mp inside))
  · have ends : ∀ flag : Bool, c ∈ (if flag then [slash] else []) → c = slash := by
      intro flag listed
      cases flag with
      | true => exact List.mem_singleton.mp listed
      | false => cases listed
    rw [normal, frame, List.mem_append, List.mem_append] at inside
    rcases inside with (front | middle) | back
    · exact .inl (ends lead front)
    · rcases mem_join middle with sep | ⟨s, left, within⟩
      · exact .inl sep
      · rcases mem_foldl (List.mem_reverse.mp left) with none | listed
        · cases none
        · exact .inr (.inr (mem_of_splitOn listed within))
    · exact .inl (ends trail back)

/-- Segments that do not climb leave what lies under the start alone, and no `..` above it. -/
theorem foldl_of_not_climbs (lower upper : Bool) {names : List (List α)} (base : List (List α))
    (named : ∀ s ∈ names, s ≠ [dot, dot]) (stays : climbs dot names.length segments = false) :
    segments.foldl (push dot lower) (names ++ base) = segments.foldl (push dot upper) names ++ base ∧
      ∀ s ∈ segments.foldl (push dot upper) names, s ≠ [dot, dot] := by
  induction segments generalizing names with
  | nil => exact ⟨rfl, named⟩
  | cons segment rest ih =>
    rw [climbs] at stays
    rw [List.foldl_cons, List.foldl_cons]
    by_cases skipped : segment = [] ∨ segment = [dot]
    · rw [if_pos skipped] at stays
      rw [push_skip skipped, push_skip skipped]
      exact ih named stays
    · rw [if_neg skipped] at stays
      by_cases up : segment = [dot, dot]
      · rw [if_pos up] at stays
        cases names with
        | nil => cases stays
        | cons top others =>
          obtain ⟨first, later⟩ := List.forall_mem_cons.mp named
          rw [up, List.cons_append, push_up first, push_up first]
          exact ih later stays
      · rw [if_neg up] at stays
        rw [push_name skipped up, push_name skipped up, ← List.cons_append]
        exact ih (List.forall_mem_cons.mpr ⟨up, named⟩) stays

/-- A `..` at the bottom stays there. -/
theorem getLast?_foldl (bottom : stack.getLast? = some [dot, dot]) :
    (segments.foldl (push dot true) stack).getLast? = some [dot, dot] := by
  induction segments generalizing stack with
  | nil => exact bottom
  | cons segment rest ih =>
    refine ih ?_
    cases stack with
    | nil => cases bottom
    | cons top others =>
      have deeper : others ≠ [] → others.getLast? = some [dot, dot] := by
        intro more
        rwa [List.getLast?_cons_of_ne_nil more] at bottom
      unfold push
      split
      · exact bottom
      · split
        · simp only
          split
          · rename_i named
            refine deeper fun none => ?_
            subst none
            exact named (Option.some.inj bottom)
          · rw [if_true, List.getLast?_cons_of_ne_nil (List.cons_ne_nil _ _)]
            exact bottom
        · rw [List.getLast?_cons_of_ne_nil (List.cons_ne_nil _ _)]
          exact bottom

theorem getLast?_of_climbs {names : List (List α)} (named : ∀ s ∈ names, s ≠ [dot, dot])
    (leaves : climbs dot names.length segments = true) :
    (segments.foldl (push dot true) names).getLast? = some [dot, dot] := by
  induction segments generalizing names with
  | nil => cases leaves
  | cons segment rest ih =>
    rw [climbs] at leaves
    rw [List.foldl_cons]
    by_cases skipped : segment = [] ∨ segment = [dot]
    · rw [if_pos skipped] at leaves
      rw [push_skip skipped]
      exact ih named leaves
    · rw [if_neg skipped] at leaves
      by_cases up : segment = [dot, dot]
      · rw [if_pos up] at leaves
        rw [up]
        cases names with
        | nil => exact getLast?_foldl (by simp [push])
        | cons top others =>
          obtain ⟨first, later⟩ := List.forall_mem_cons.mp named
          rw [push_up first]
          exact ih later leaves
      · rw [if_neg up] at leaves
        rw [push_name skipped up]
        exact ih (List.forall_mem_cons.mpr ⟨up, named⟩) leaves

theorem climbs_slash_cons {depth : Nat} (p : List α) :
    climbs dot depth ((slash :: p).splitOn slash) = climbs dot depth (p.splitOn slash) := by
  rw [splitOn_slash_cons, climbs, if_pos (.inl rfl)]

/-- A relative path leads above its start exactly when its segments climb. -/
theorem head_resolve_iff : (resolve slash dot true p).head? = some [dot, dot] ↔ climbs dot 0 (p.splitOn slash) = true := by
  rw [resolve, List.head?_reverse]
  constructor
  · intro first
    by_contra stays
    have names := (foldl_of_not_climbs true true [] (List.forall_mem_nil _)
      (Bool.eq_false_iff.mpr stays)).2
    exact names _ (List.mem_of_getLast? first) rfl
  · exact getLast?_of_climbs (List.forall_mem_nil _)

/-- The normal form of a relative path begins with its first segment. -/
theorem head_splitOn_normalize (apart : dot ≠ slash) (relative : p.head? ≠ some slash) :
    ((normalize slash dot p).splitOn slash).head? = some ((resolve slash dot true p).head?.getD [dot]) := by
  have dotted : ([dot].splitOn slash).head? = some [dot] := by
    simp [List.splitOn_cons_eq_if_modifyHead, apart]
  have trailed : ([dot, slash].splitOn slash).head? = some [dot] := by
    rw [show [dot, slash] = [dot] ++ [slash] from rfl, splitOn_concat_slash, List.head?_append_of_ne_nil _
      (List.splitOn_ne_nil _ _), dotted]
  rcases normalize_cases slash dot p with ⟨none, normal⟩ | ⟨-, lead, trail, leads, -, ⟨empty, normal⟩ | ⟨some, normal⟩⟩
  · subst none
    rw [normal, dotted]
    rfl
  · have front : lead = false := Bool.eq_false_iff.mpr fun lead => relative (leads.mpr lead)
    subst front
    rw [Bool.not_false] at empty
    rw [normal, empty]
    split
    · contradiction
    · split
      · exact trailed
      · exact dotted
  · have front : lead = false := Bool.eq_false_iff.mpr fun lead => relative (leads.mpr lead)
    subst front
    rw [normal, splitOn_frame some, if_neg Bool.false_ne_true, List.nil_append, List.head?_append_of_ne_nil _ some]
    obtain ⟨first, others, shape⟩ := List.exists_cons_of_ne_nil some
    rw [Bool.not_false] at shape
    rw [Bool.not_false, shape]
    rfl

/-- A path that does not climb, behind a root, names something in it. -/
theorem resolve_append {root rest : List α} (stays : climbs dot 0 (rest.splitOn slash) = false) :
    resolve slash dot false (root ++ slash :: rest) = resolve slash dot false root ++ resolve slash dot true rest := by
  have folded := (foldl_of_not_climbs false true
    ((root.splitOn slash).foldl (push dot false) []) (List.forall_mem_nil _) stays).1
  rw [resolve, List.splitOn_append_cons_self, List.foldl_append]
  rw [List.nil_append] at folded
  rw [folded, List.reverse_append, resolve, resolve]

/-- Names that lead up take back the names under them, then climb. -/
theorem foldl_replicate {names : List (List α)} (named : ∀ s ∈ names, s ≠ [dot, dot]) (j k : Nat) :
    (List.replicate k [dot, dot]).foldl (push dot true) (names ++ List.replicate j [dot, dot]) =
      names.drop k ++ List.replicate (j + (k - names.length)) [dot, dot] := by
  induction k generalizing names j with
  | zero => rw [List.replicate_zero, List.foldl_nil, List.drop_zero, Nat.zero_sub, Nat.add_zero]
  | succ k ih =>
    rw [List.replicate_succ, List.foldl_cons]
    cases names with
    | nil =>
      have climbed : push dot true (List.replicate j [dot, dot]) [dot, dot] = List.replicate (j + 1) [dot, dot] := by
        cases j with
        | zero => simp [push]
        | succ j => simp [push, List.replicate_succ]
      have rest := ih (List.forall_mem_nil _) (j + 1)
      rw [List.nil_append] at rest ⊢
      rw [climbed, rest, List.drop_nil, List.drop_nil, List.length_nil, show j + 1 + (k - 0) = j + (k + 1 - 0) by omega]
    | cons top others =>
      obtain ⟨first, later⟩ := List.forall_mem_cons.mp named
      rw [List.cons_append, push_up first, ih later, List.drop_succ_cons, List.length_cons, Nat.add_sub_add_right]

variable (dot) in
/-- Onto any stack, segments push what they climb and then their names. -/
theorem exists_foldl (segments : List (List α)) : ∃ (names : List (List α)) (k : Nat), (∀ s ∈ names, s ≠ [dot, dot]) ∧
    ∀ base, segments.foldl (push dot true) base = names ++ (List.replicate k [dot, dot]).foldl (push dot true) base := by
  induction segments using List.reverseRecOn with
  | nil => exact ⟨[], 0, List.forall_mem_nil _, fun base => rfl⟩
  | append_singleton front segment ih =>
    obtain ⟨names, k, named, folded⟩ := ih
    by_cases skipped : segment = [] ∨ segment = [dot]
    · refine ⟨names, k, named, fun base => ?_⟩
      rw [List.foldl_append, List.foldl_cons, List.foldl_nil, push_skip skipped, folded]
    · by_cases up : segment = [dot, dot]
      · cases names with
        | nil =>
          refine ⟨[], k + 1, named, fun base => ?_⟩
          rw [List.foldl_append, List.foldl_cons, List.foldl_nil, folded, up, List.replicate_succ', List.foldl_append]
          rfl
        | cons top others =>
          obtain ⟨first, later⟩ := List.forall_mem_cons.mp named
          refine ⟨others, k, later, fun base => ?_⟩
          rw [List.foldl_append, List.foldl_cons, List.foldl_nil, folded, up, List.cons_append, push_up first]
      · refine ⟨segment :: names, k, List.forall_mem_cons.mpr ⟨up, named⟩, fun base => ?_⟩
        rw [List.foldl_append, List.foldl_cons, List.foldl_nil, folded, push_name skipped up, List.cons_append]

theorem countP_up {names : List (List α)} (named : ∀ s ∈ names, s ≠ [dot, dot]) (k : Nat) :
    (names ++ List.replicate k [dot, dot]).countP (· = [dot, dot]) = k := by
  have none : names.countP (· = [dot, dot]) = 0 := List.countP_eq_zero.mpr fun s inside => by simpa using named s inside
  rw [List.countP_append, none, List.countP_replicate]
  simp

theorem countP_down {names : List (List α)} (named : ∀ s ∈ names, s ≠ [dot, dot]) (k : Nat) :
    (names ++ List.replicate k [dot, dot]).countP (· ≠ [dot, dot]) = names.length := by
  have all : names.countP (· ≠ [dot, dot]) = names.length :=
    List.countP_eq_length.mpr fun s inside => by simpa using named s inside
  rw [List.countP_append, all, List.countP_replicate]
  simp

variable (slash dot) in
/-- A path behind another takes back as many of its names as it climbs. -/
theorem resolve_behind (root rest : List α) :
    ups slash dot (root ++ slash :: rest) = ups slash dot root + (ups slash dot rest - downs slash dot root) ∧
      downs slash dot (root ++ slash :: rest) = downs slash dot rest + (downs slash dot root - ups slash dot rest) ∧
      (ups slash dot root = downs slash dot root → downs slash dot root ≤ ups slash dot rest →
        resolve slash dot true (root ++ slash :: rest) = resolve slash dot true rest) := by
  obtain ⟨above, j, aboveNamed, aboveFolded⟩ := exists_foldl dot (root.splitOn slash)
  obtain ⟨names, k, named, folded⟩ := exists_foldl dot (rest.splitOn slash)
  have climbed : ∀ n, (List.replicate n [dot, dot]).foldl (push dot true) [] = List.replicate n [dot, dot] := by
    intro n
    have none : ∀ s ∈ ([] : List (List α)), s ≠ [dot, dot] := List.forall_mem_nil _
    simpa using foldl_replicate none 0 n
  have rootStack : (root.splitOn slash).foldl (push dot true) [] = above ++ List.replicate j [dot, dot] := by
    rw [aboveFolded, climbed]
  have restStack : (rest.splitOn slash).foldl (push dot true) [] = names ++ List.replicate k [dot, dot] := by
    rw [folded, climbed]
  have stack : ((root ++ slash :: rest).splitOn slash).foldl (push dot true) [] =
      (names ++ above.drop k) ++ List.replicate (j + (k - above.length)) [dot, dot] := by
    rw [List.splitOn_append_cons_self, List.foldl_append, rootStack, folded, foldl_replicate aboveNamed, List.append_assoc]
  have both : ∀ s ∈ names ++ above.drop k, s ≠ [dot, dot] := by
    intro s inside
    exact (List.mem_append.mp inside).elim (named s) fun later => aboveNamed s (List.mem_of_mem_drop later)
  simp only [ups, downs, resolve, List.countP_reverse, stack, rootStack, restStack, countP_up both, countP_down both,
    countP_up aboveNamed, countP_down aboveNamed, countP_up named, countP_down named, List.length_append, List.length_drop, true_and]
  intro level high
  rw [List.drop_of_length_le high, List.append_nil, level, Nat.add_sub_cancel' high]

/-- A relative path and its normal form resolve alike. -/
theorem resolve_normalize (apart : dot ≠ slash) (relative : p.head? ≠ some slash) :
    resolve slash dot true (normalize slash dot p) = resolve slash dot true p := by
  have here : resolve slash dot true [dot] = [] := by
    simp [resolve, List.splitOn_cons_eq_if_modifyHead, apart, push]
  rcases normalize_cases slash dot p with ⟨none, normal⟩ | ⟨-, lead, trail, leads, -, shape⟩
  · rw [normal, none, here]
    rfl
  · have front : lead = false := Bool.eq_false_iff.mpr fun lead => relative (leads.mpr lead)
    subst front
    rw [Bool.not_false] at shape
    rcases shape with ⟨empty, normal⟩ | ⟨some, normal⟩
    · rw [normal, empty, if_neg Bool.false_ne_true]
      split
      · exact (resolve_concat_slash [dot]).trans here
      · exact here
    · rw [normal, resolve_frame, resolve_join some]

/-- What a path normalizes to is its segments and its ends. -/
theorem normalize_congr {q : List α} (some : p ≠ []) (some' : q ≠ []) (relative : p.head? ≠ Option.some slash)
    (relative' : q.head? ≠ Option.some slash) (last : p.getLast? = Option.some slash ↔ q.getLast? = Option.some slash)
    (same : resolve slash dot true p = resolve slash dot true q) : normalize slash dot p = normalize slash dot q := by
  rw [normalize, normalize, if_neg some, if_neg some']
  simp only [relative, relative', last, same, decide_false, Bool.not_false]

/-- A rewriting of paths, segment by segment, that neither makes nor loses the special segments. -/
structure Rewriting (slash dot : α) (f : List α → List α) : Prop where
  nil : ∀ s, f s = [] ↔ s = []
  here : ∀ s, f s = [dot] ↔ s = [dot]
  up : ∀ s, f s = [dot, dot] ↔ s = [dot, dot]
  free : ∀ s, slash ∉ s → slash ∉ f s
  split : ∀ s t, f (s ++ slash :: t) = f s ++ slash :: f t

namespace Rewriting
variable {f : List α → List α} (rewriting : Rewriting slash dot f)
include rewriting

omit [DecidableEq α] in
theorem map_nil : f [] = [] := (rewriting.nil []).mpr rfl

omit [DecidableEq α] in
theorem map_slash_cons (p : List α) : f (slash :: p) = slash :: f p := by
  have split := rewriting.split [] p
  rwa [rewriting.map_nil, List.nil_append, List.nil_append] at split

omit [DecidableEq α] in
theorem map_concat_slash (p : List α) : f (p ++ [slash]) = f p ++ [slash] := by
  rw [rewriting.split p [], rewriting.map_nil]

omit [DecidableEq α] in
theorem map_join (segments : List (List α)) : f (join slash segments) = join slash (segments.map f) := by
  induction segments with
  | nil => exact rewriting.map_nil
  | cons segment rest ih =>
    by_cases last : rest = []
    · subst last
      rw [join, List.intercalate_singleton, List.map_singleton, join, List.intercalate_singleton]
    · have more : rest.map f ≠ [] := fun none => last (List.map_eq_nil_iff.mp none)
      rw [join_cons segment last, rewriting.split, ih, List.map_cons, join_cons (f segment) more]

theorem splitOn_map (p : List α) : (f p).splitOn slash = (p.splitOn slash).map f := by
  have path : join slash (p.splitOn slash) = p := List.intercalate_splitOn slash
  have joined := rewriting.map_join (p.splitOn slash)
  rw [path] at joined
  rw [joined]
  refine List.splitOn_intercalate slash ?_ fun none => List.splitOn_ne_nil slash p (List.map_eq_nil_iff.mp none)
  intro s listed
  obtain ⟨t, inside, rfl⟩ := List.mem_map.mp listed
  exact rewriting.free t (splitOn_free p t inside)

theorem push_map (stack : List (List α)) (segment : List α) :
    push dot above (stack.map f) (f segment) = (push dot above stack segment).map f := by
  unfold push
  simp only [rewriting.nil, rewriting.here, rewriting.up]
  split
  · rfl
  · split
    · cases stack with
      | nil => cases above <;> rfl
      | cons top below =>
        simp only [List.map_cons, ne_eq, rewriting.up]
        split
        · rfl
        · cases above <;> rfl
    · rfl

theorem foldl_map (stack segments : List (List α)) :
    (segments.map f).foldl (push dot above) (stack.map f) = (segments.foldl (push dot above) stack).map f := by
  induction segments generalizing stack with
  | nil => rfl
  | cons segment rest ih => rw [List.map_cons, List.foldl_cons, rewriting.push_map, ih, List.foldl_cons]

theorem resolve_map (p : List α) : resolve slash dot above (f p) = (resolve slash dot above p).map f := by
  have folded : ((p.splitOn slash).map f).foldl (push dot above) [] = ((p.splitOn slash).foldl (push dot above) []).map f :=
    rewriting.foldl_map [] _
  rw [resolve, rewriting.splitOn_map, folded, resolve, List.map_reverse]

theorem ups_map (p : List α) : ups slash dot (f p) = ups slash dot p := by
  have same : ((fun s => decide (s = [dot, dot])) ∘ f) = fun s => decide (s = [dot, dot]) :=
    funext fun s => decide_eq_decide.mpr (rewriting.up s)
  rw [ups, rewriting.resolve_map, List.countP_map, same, ups]

theorem downs_map (p : List α) : downs slash dot (f p) = downs slash dot p := by
  have same : ((fun s => decide (s ≠ [dot, dot])) ∘ f) = fun s => decide (s ≠ [dot, dot]) :=
    funext fun s => decide_eq_decide.mpr (not_congr (rewriting.up s))
  rw [downs, rewriting.resolve_map, List.countP_map, same, downs]

omit [DecidableEq α] in
theorem head_map (p : List α) : (f p).head? = some slash ↔ p.head? = some slash := by
  by_cases has : slash ∈ p
  · obtain ⟨before, after, rfl, free⟩ := List.eq_append_cons_of_mem has
    by_cases none : before = []
    · subst none
      rw [List.nil_append, rewriting.map_slash_cons]
      simp
    · have some : f before ≠ [] := fun empty => none ((rewriting.nil before).mp empty)
      rw [rewriting.split, List.head?_append_of_ne_nil _ some, List.head?_append_of_ne_nil _ none]
      exact iff_of_false (Bare.of_free some (rewriting.free before free)).head (Bare.of_free none free).head
  · exact iff_of_false (fun first => rewriting.free p has (List.mem_of_head? first))
      fun first => has (List.mem_of_head? first)

omit [DecidableEq α] in
theorem last_map (p : List α) : (f p).getLast? = some slash ↔ p.getLast? = some slash := by
  by_cases has : slash ∈ p
  · obtain ⟨after, before, turned, free⟩ := List.eq_append_cons_of_mem (List.mem_reverse.mpr has)
    have shape : p = before.reverse ++ slash :: after.reverse := by
      rw [← List.reverse_reverse p, turned, List.reverse_append, List.reverse_cons, List.append_assoc]
      rfl
    have tail : slash ∉ after.reverse := fun inside => free (List.mem_reverse.mp inside)
    rw [shape, rewriting.split, List.getLast?_append_of_ne_nil _ (List.cons_ne_nil _ _),
      List.getLast?_append_of_ne_nil _ (List.cons_ne_nil _ _)]
    by_cases none : after.reverse = []
    · rw [none, rewriting.map_nil]
    · have some : f after.reverse ≠ [] := fun empty => none ((rewriting.nil _).mp empty)
      rw [List.getLast?_cons, List.getLast?_cons, List.getLast?_eq_some_getLast some, List.getLast?_eq_some_getLast none,
        Option.getD_some, Option.getD_some, ← List.getLast?_eq_some_getLast some, ← List.getLast?_eq_some_getLast none]
      exact iff_of_false (Bare.of_free some (rewriting.free _ tail)).last (Bare.of_free none tail).last
  · exact iff_of_false (fun last => rewriting.free p has (List.mem_of_getLast? last))
      fun last => has (List.mem_of_getLast? last)

omit [DecidableEq α] in
theorem frame_map (lead trail : Bool) (p : List α) : f (frame slash lead trail p) = frame slash lead trail (f p) := by
  have stop : f (p ++ if trail then [slash] else []) = f p ++ if trail then [slash] else [] := by
    cases trail with
    | true => exact rewriting.map_concat_slash p
    | false => rw [if_neg Bool.false_ne_true, List.append_nil, List.append_nil]
  rw [frame, frame, List.append_assoc, List.append_assoc]
  cases lead with
  | true => exact (rewriting.map_slash_cons _).trans (congrArg (List.cons slash) stop)
  | false => exact stop

/-- A rewriting of the segments and normalizing may change places. -/
theorem normalize_map (p : List α) : normalize slash dot (f p) = f (normalize slash dot p) := by
  have here : f [dot] = [dot] := (rewriting.here [dot]).mpr rfl
  by_cases none : p = []
  · subst none
    rw [rewriting.map_nil, normalize, if_pos rfl, here]
  · have some : f p ≠ [] := fun empty => none ((rewriting.nil p).mp empty)
    have leads : decide ((f p).head? = Option.some slash) = decide (p.head? = Option.some slash) :=
      decide_eq_decide.mpr (rewriting.head_map p)
    have trails : decide ((f p).getLast? = Option.some slash) = decide (p.getLast? = Option.some slash) :=
      decide_eq_decide.mpr (rewriting.last_map p)
    have path : ∀ above, join slash (resolve slash dot above (f p)) = f (join slash (resolve slash dot above p)) := by
      intro above
      rw [rewriting.resolve_map, rewriting.map_join]
    rw [normalize, normalize, if_neg some, if_neg none]
    simp only [leads, trails, path, rewriting.nil]
    generalize decide (p.head? = Option.some slash) = lead
    generalize decide (p.getLast? = Option.some slash) = trail
    split
    · cases lead with
      | true => exact ((rewriting.map_slash_cons []).trans (congrArg (List.cons slash) rewriting.map_nil)).symm
      | false =>
        cases trail with
        | true => exact ((rewriting.map_concat_slash [dot]).trans (congrArg (· ++ [slash]) here)).symm
        | false => exact here.symm
    · exact (rewriting.frame_map lead trail _).symm

end Rewriting

end PosixPath
