import Coordinator.Library.PosixPath
import Mathlib.Data.List.DropRight

/-! Where in the text of a URL the parameter stands that a reader of its query takes: the first whose name is
accepted. Blanks at the end of the text are no part of the URL. -/
namespace UrlQuery

/-- What a reader makes of the raw texts; `accepts` looks at what stands before the query. -/
structure Reader where
  accepts : List Char → Bool
  isName : List Char → Bool
  isValue : List Char → Bool

/-- A text cut at the raw name and value of a parameter. -/
structure Spot where
  before : List Char
  name : List Char
  value : List Char
  after : List Char
  deriving DecidableEq, Repr

def Spot.text (s : Spot) : List Char := s.before ++ (s.name ++ '=' :: (s.value ++ s.after))

def Spot.withValue (s : Spot) (value : List Char) : Spot := { s with value := value }

/-- A C0 control or a space. -/
def blank (c : Char) : Bool := c ≤ ' '

def spotIn (R : Reader) (before behind : List Char) : List (List Char) → Option Spot
  | [] => none
  | piece :: rest =>
    if R.isName (piece.takeWhile (· ≠ '=')) then
      match piece.dropWhile (· ≠ '=') with
      | [] => none
      | _ :: value =>
        if R.isValue value then some ⟨before, piece.takeWhile (· ≠ '='), value, rest.flatMap ('&' :: ·) ++ behind⟩
        else none
    else spotIn R (before ++ (piece ++ ['&'])) behind rest

def spot (R : Reader) (text : List Char) : Option Spot :=
  let url := text.rdropWhile blank
  let main := url.takeWhile (· ≠ '#')
  let path := main.takeWhile (· ≠ '?')
  match main.dropWhile (· ≠ '?') with
  | [] => none
  | _ :: query =>
    if R.accepts path then
      spotIn R (path ++ ['?']) (url.dropWhile (· ≠ '#') ++ text.rtakeWhile blank) (query.splitOn '&')
    else none

/-- The parts that a text is put together from. -/
structure Layout where
  path : List Char
  front : List (List Char)
  name : List Char
  value : List Char
  rest : List (List Char)
  fragment : List Char
  tail : List Char

namespace Layout

def spot (l : Layout) : Spot where
  before := l.path ++ '?' :: l.front.flatMap (· ++ ['&'])
  name := l.name
  value := l.value
  after := l.rest.flatMap ('&' :: ·) ++ (l.fragment ++ l.tail)

/-- The text up to the fragment. -/
def main (l : Layout) : List Char :=
  l.path ++ '?' :: (l.front.flatMap (· ++ ['&']) ++ (l.name ++ '=' :: (l.value ++ l.rest.flatMap ('&' :: ·))))

structure Sound (R : Reader) (l : Layout) : Prop where
  path : ∀ c ∈ l.path, c ≠ '?' ∧ c ≠ '#'
  accepted : R.accepts l.path = true
  front : ∀ q ∈ l.front, '&' ∉ q ∧ '#' ∉ q ∧ R.isName (q.takeWhile (· ≠ '=')) = false
  name : '=' ∉ l.name ∧ '&' ∉ l.name ∧ '#' ∉ l.name ∧ R.isName l.name = true
  value : '&' ∉ l.value ∧ '#' ∉ l.value ∧ R.isValue l.value = true
  rest : ∀ q ∈ l.rest, '&' ∉ q ∧ '#' ∉ q
  fragment : ∀ c ∈ l.fragment.head?, c = '#'
  tail : ∀ c ∈ l.tail, blank c = true
  last : ∀ c ∈ (l.main ++ l.fragment).getLast?, blank c = false

end Layout

def Layout.pieces (l : Layout) : List (List Char) := l.front ++ (l.name ++ '=' :: l.value) :: l.rest

theorem mem_main_of_piece {l : Layout} {q : List Char} {c : Char} (listed : q ∈ l.pieces) (inside : c ∈ q) : c ∈ l.main := by
  simp only [Layout.main, List.mem_append, List.mem_cons, List.mem_flatMap]
  rcases List.mem_append.mp listed with early | late
  · exact .inr (.inr (.inl ⟨q, early, .inl inside⟩))
  · rcases List.mem_cons.mp late with rfl | late
    · rcases List.mem_append.mp inside with inName | inValue
      · exact .inr (.inr (.inr (.inl inName)))
      · rcases List.mem_cons.mp inValue with mark | inValue
        · exact .inr (.inr (.inr (.inr (.inl mark))))
        · exact .inr (.inr (.inr (.inr (.inr (.inl inValue)))))
    · exact .inr (.inr (.inr (.inr (.inr (.inr ⟨q, late, .inr inside⟩)))))

theorem Layout.Sound.main_free {R : Reader} {l : Layout} (sound : l.Sound R) : ∀ c ∈ l.main, c ≠ '#' := by
  intro c inside
  simp only [Layout.main, List.mem_append, List.mem_cons, List.mem_flatMap, List.not_mem_nil, or_false] at inside
  rcases inside with inPath | rfl | ⟨q, listed, inPiece | rfl⟩ | inName | rfl | inValue | ⟨q, listed, rfl | inPiece⟩
  · exact (sound.path c inPath).2
  · decide
  · exact fun same => (sound.front q listed).2.1 (same ▸ inPiece)
  · decide
  · exact fun same => sound.name.2.2.1 (same ▸ inName)
  · decide
  · exact fun same => sound.value.2.1 (same ▸ inValue)
  · decide
  · exact fun same => (sound.rest q listed).2 (same ▸ inPiece)

theorem Layout.Sound.pieces_free {R : Reader} {l : Layout} (sound : l.Sound R) : ∀ q ∈ l.pieces, '&' ∉ q := by
  intro q listed
  rcases List.mem_append.mp listed with early | late
  · exact (sound.front q early).1
  · rcases List.mem_cons.mp late with rfl | late
    · rw [List.mem_append, List.mem_cons, not_or, not_or]
      exact ⟨sound.name.2.1, by decide, sound.value.1⟩
    · exact (sound.rest q late).1

/-- What the readings of a text give makes a sound layout: its parts are cut at the first of their marks. -/
theorem Layout.sound_of_cuts {R : Reader} {l : Layout} (path : ∀ c ∈ l.path, c ≠ '?') (accepted : R.accepts l.path = true)
    (mainFree : ∀ c ∈ l.main, c ≠ '#') (piecesFree : ∀ q ∈ l.pieces, '&' ∉ q)
    (others : ∀ q ∈ l.front, R.isName (q.takeWhile (· ≠ '=')) = false) (name : '=' ∉ l.name ∧ R.isName l.name = true)
    (value : R.isValue l.value = true) (fragment : ∀ c ∈ l.fragment.head?, c = '#')
    (tail : ∀ c ∈ l.tail, blank c = true) (last : ∀ c ∈ (l.main ++ l.fragment).getLast?, blank c = false) : l.Sound R := by
  have marks : ∀ q ∈ l.pieces, '#' ∉ q := fun q listed mark => mainFree '#' (mem_main_of_piece listed mark) rfl
  have early {q : List Char} (listed : q ∈ l.front) : q ∈ l.pieces := List.mem_append_left _ listed
  have own : l.name ++ '=' :: l.value ∈ l.pieces := List.mem_append_right _ List.mem_cons_self
  have late {q : List Char} (listed : q ∈ l.rest) : q ∈ l.pieces :=
    List.mem_append_right _ (List.mem_cons_of_mem _ listed)
  have ownFree := piecesFree _ own
  have ownMarks := marks _ own
  simp only [List.mem_append, List.mem_cons, not_or] at ownFree ownMarks
  exact {
    path := fun c member => ⟨path c member, mainFree c (List.mem_append_left _ member)⟩
    accepted := accepted
    front := fun q listed => ⟨piecesFree q (early listed), marks q (early listed), others q listed⟩
    name := ⟨name.1, ownFree.1, ownMarks.1, name.2⟩
    value := ⟨ownFree.2.2, ownMarks.2.2, value⟩
    rest := fun q listed => ⟨piecesFree q (late listed), marks q (late listed)⟩
    fragment := fragment
    tail := tail
    last := last }

theorem text_layout (l : Layout) : l.spot.text = (l.main ++ l.fragment) ++ l.tail := by
  simp [Spot.text, Layout.spot, Layout.main]

section marks
variable {m : Char} {a b l : List Char}

/-- A text is cut at the first of its marks. -/
theorem cut_at (free : ∀ c ∈ a, c ≠ m) (starts : ∀ c ∈ b.head?, c = m) :
    (a ++ b).takeWhile (· ≠ m) = a ∧ (a ++ b).dropWhile (· ≠ m) = b := by
  have all : ∀ c ∈ a, decide (c ≠ m) = true := fun c inside => decide_eq_true (free c inside)
  rw [List.takeWhile_append_of_pos all, List.dropWhile_append_of_pos all]
  cases b with
  | nil => simp
  | cons c rest =>
    have stop : c = m := starts c rfl
    simp [stop]

theorem trim_end {p : Char → Bool} (last : ∀ c ∈ a.getLast?, p c = false) (all : ∀ c ∈ b, p c = true) :
    (a ++ b).rdropWhile p = a ∧ (a ++ b).rtakeWhile p = b := by
  have flipped : ∀ c ∈ b.reverse, p c = true := fun c inside => all c (List.mem_reverse.mp inside)
  have stop : a.reverse.dropWhile p = a.reverse ∧ a.reverse.takeWhile p = [] := by
    cases shape : a.reverse with
    | nil => exact ⟨rfl, rfl⟩
    | cons c rest =>
      have first : a.getLast? = some c := by rw [List.getLast?_eq_head?_reverse, shape, List.head?_cons]
      have plain : ¬ p c = true := Bool.eq_false_iff.mp (last c first)
      exact ⟨List.dropWhile_cons_of_neg plain, List.takeWhile_cons_of_neg plain⟩
  rw [List.rdropWhile, List.rtakeWhile, List.reverse_append, List.dropWhile_append_of_pos flipped,
    List.takeWhile_append_of_pos flipped, stop.1, stop.2, List.append_nil, List.reverse_reverse, List.reverse_reverse]
  exact ⟨rfl, rfl⟩

theorem free_takeWhile : ∀ c ∈ l.takeWhile (· ≠ m), c ≠ m := fun c inside => by simpa using List.mem_takeWhile_imp inside

theorem head_dropWhile : ∀ c ∈ (l.dropWhile (· ≠ m)).head?, c = m := by
  intro c first
  have head := List.head?_dropWhile_not (fun c => decide (c ≠ m)) l
  rw [Option.mem_def.mp first] at head
  simpa using head

theorem getLast_rdropWhile {p : Char → Bool} : ∀ c ∈ (l.rdropWhile p).getLast?, p c = false := by
  intro c isLast
  have nonempty : l.rdropWhile p ≠ [] := fun none => by simp [none] at isLast
  have same : (l.rdropWhile p).getLast nonempty = c := by
    rw [List.getLast?_eq_some_getLast nonempty] at isLast
    exact Option.some.inj isLast
  rw [← same]
  exact eq_false_of_ne_true (List.rdropWhile_last_not p l nonempty)

/-- A text with a mark falls apart at the first one. -/
theorem eq_cut {c : Char} (shape : l.dropWhile (· ≠ m) = c :: b) : l = l.takeWhile (· ≠ m) ++ m :: b := by
  have mark : c = m := head_dropWhile (l := l) c (by rw [shape]; rfl)
  have whole := List.takeWhile_append_dropWhile (p := fun c => decide (c ≠ m)) (l := l)
  rw [shape, mark] at whole
  exact whole.symm

theorem cut_mark (free : m ∉ a) : (a ++ m :: b).takeWhile (· ≠ m) = a ∧ (a ++ m :: b).dropWhile (· ≠ m) = m :: b :=
  cut_at (fun _ inside same => free (same ▸ inside)) fun _ first => (Option.some.inj first).symm

end marks

section pieces
variable {R : Reader} {before behind : List Char} {pieces : List (List Char)} {s : Spot}

theorem intercalate_pieces (front : List (List Char)) (piece : List Char) (rest : List (List Char)) :
    ['&'].intercalate (front ++ piece :: rest) = front.flatMap (· ++ ['&']) ++ (piece ++ rest.flatMap ('&' :: ·)) := by
  induction front with
  | nil =>
    induction rest generalizing piece with
    | nil => simp
    | cons q rest ih =>
      have shape := ih q
      rw [List.nil_append, List.flatMap_nil, List.nil_append] at shape
      rw [List.nil_append, List.intercalate_cons_cons, shape]
      simp
  | cons q front ih =>
    have more : front ++ piece :: rest ≠ [] := by simp
    rw [List.cons_append, List.intercalate_cons_of_ne_nil more, ih]
    simp

/-- The piece with the name decides. -/
theorem spotIn_named {piece : List Char} {more : List (List Char)} (named : R.isName (piece.takeWhile (· ≠ '=')) = true) :
    spotIn R before behind (piece :: more) = some s ↔ piece = s.name ++ '=' :: s.value ∧ '=' ∉ s.name ∧
      R.isValue s.value = true ∧ s.before = before ∧ s.after = more.flatMap ('&' :: ·) ++ behind := by
  rw [spotIn, if_pos named]
  constructor
  · intro found
    cases shape : piece.dropWhile (· ≠ '=') with
    | nil =>
      rw [shape] at found
      cases found
    | cons mark value =>
      rw [shape] at found
      simp only at found
      by_cases valued : R.isValue value = true
      · rw [if_pos valued] at found
        cases found
        exact ⟨eq_cut shape, fun inside => free_takeWhile '=' inside rfl, valued, rfl, rfl⟩
      · rw [if_neg valued] at found
        cases found
  · rintro ⟨rfl, free, valued, rfl, closes⟩
    obtain ⟨taken, dropped⟩ := cut_mark (b := s.value) free
    rw [taken, dropped]
    simp only
    rw [if_pos valued, ← closes]

/-- The reader stops at the first piece with the name. -/
theorem spotIn_eq_some : spotIn R before behind pieces = some s ↔ ∃ front rest,
    pieces = front ++ (s.name ++ '=' :: s.value) :: rest ∧ (∀ q ∈ front, R.isName (q.takeWhile (· ≠ '=')) = false) ∧
      '=' ∉ s.name ∧ R.isName s.name = true ∧ R.isValue s.value = true ∧
      s.before = before ++ front.flatMap (· ++ ['&']) ∧ s.after = rest.flatMap ('&' :: ·) ++ behind := by
  induction pieces generalizing before with
  | nil => simp [spotIn]
  | cons piece more ih =>
    by_cases named : R.isName (piece.takeWhile (· ≠ '=')) = true
    · rw [spotIn_named named]
      constructor
      · rintro ⟨rfl, free, valued, opens, closes⟩
        rw [(cut_mark free).1] at named
        exact ⟨[], more, rfl, List.forall_mem_nil _, free, named, valued, by simp [opens], closes⟩
      · rintro ⟨front, rest, shape, others, free, isName, isValue, opens, closes⟩
        cases front with
        | nil =>
          obtain ⟨rfl, rfl⟩ := List.cons.inj shape
          exact ⟨rfl, free, isValue, by simpa using opens, closes⟩
        | cons q front =>
          obtain ⟨rfl, -⟩ := List.cons.inj shape
          rw [others piece List.mem_cons_self] at named
          cases named
    · rw [spotIn, if_neg named]
      refine ih.trans ⟨?_, ?_⟩
      · rintro ⟨front, rest, rfl, others, free, isName, isValue, opens, closes⟩
        refine ⟨piece :: front, rest, rfl, ?_, free, isName, isValue, by simp [opens], closes⟩
        exact List.forall_mem_cons.mpr ⟨eq_false_of_ne_true named, others⟩
      · rintro ⟨front, rest, shape, others, free, isName, isValue, opens, closes⟩
        cases front with
        | nil =>
          obtain ⟨rfl, -⟩ := List.cons.inj shape
          rw [(cut_mark free).1] at named
          exact absurd isName named
        | cons q front =>
          obtain ⟨rfl, rfl⟩ := List.cons.inj shape
          refine ⟨front, rest, rfl, (List.forall_mem_cons.mp others).2, free, isName, isValue, ?_, closes⟩
          simp [opens]

end pieces

/-- The reader finds the spot of a sound layout. -/
theorem spot_layout {R : Reader} {l : Layout} (sound : l.Sound R) : spot R l.spot.text = some l.spot := by
  obtain ⟨url, tail⟩ := trim_end sound.last sound.tail
  obtain ⟨main, fragment⟩ := cut_at (m := '#') sound.main_free sound.fragment
  have query : l.main = l.path ++ '?' :: (['&'].intercalate l.pieces) := by
    rw [Layout.pieces, intercalate_pieces]
    simp [Layout.main]
  obtain ⟨path, rest⟩ := cut_mark (b := ['&'].intercalate l.pieces) fun inside => (sound.path '?' inside).1 rfl
  have split : (['&'].intercalate l.pieces).splitOn '&' = l.pieces :=
    List.splitOn_intercalate '&' sound.pieces_free (by simp [Layout.pieces])
  rw [spot, text_layout, url, tail, main, fragment, query, path, rest]
  refine (if_pos sound.accepted).trans ?_
  rw [split]
  refine spotIn_eq_some.mpr ⟨l.front, l.rest, rfl, fun q listed => (sound.front q listed).2.2, sound.name.1,
    sound.name.2.2.2, sound.value.2.2, ?_, rfl⟩
  simp [Layout.spot]

/-- A text with a spot has a sound layout with that spot. -/
theorem layout_of_spot {R : Reader} {text : List Char} {s : Spot} (found : spot R text = some s) :
    ∃ l : Layout, l.Sound R ∧ l.spot = s ∧ s.text = text := by
  let url := text.rdropWhile blank
  let main := url.takeWhile (· ≠ '#')
  let path := main.takeWhile (· ≠ '?')
  rw [spot] at found
  cases shape : main.dropWhile (· ≠ '?') with
  | nil =>
    rw [shape] at found
    cases found
  | cons mark query =>
    rw [shape] at found
    simp only at found
    split at found
    · rename_i accepted
      obtain ⟨front, rest, split, others, free, isName, isValue, opens, closes⟩ := spotIn_eq_some.mp found
      let l : Layout := ⟨path, front, s.name, s.value, rest, url.dropWhile (· ≠ '#'), text.rtakeWhile blank⟩
      have whole : main = path ++ '?' :: query := eq_cut shape
      have pieces : ['&'].intercalate (query.splitOn '&') = query := List.intercalate_splitOn '&'
      rw [split, intercalate_pieces] at pieces
      have mainEq : l.main = main := by
        rw [whole, ← pieces]
        simp [Layout.main, l]
      have urlEq : l.main ++ l.fragment = url := by
        rw [mainEq]
        exact List.takeWhile_append_dropWhile
      have spotEq : l.spot = s := by
        have before : l.spot.before = s.before := by
          rw [opens, List.append_assoc]
          rfl
        have after : l.spot.after = s.after := closes.symm
        cases s
        exact (Spot.mk.injEq ..).mpr ⟨before, rfl, rfl, after⟩
      have textEq : s.text = text := by
        rw [← spotEq, text_layout, urlEq]
        exact List.rdropWhile_append_rtakeWhile
      refine ⟨l, ?_, spotEq, textEq⟩
      refine Layout.sound_of_cuts free_takeWhile accepted ?_ ?_ others ⟨free, isName⟩ isValue head_dropWhile
        (fun c member => List.mem_rtakeWhile_imp member) ?_
      · rw [mainEq]
        exact free_takeWhile
      · rw [show l.pieces = query.splitOn '&' from split.symm]
        exact PosixPath.splitOn_free query
      · rw [urlEq]
        exact getLast_rdropWhile
    · cases found

/-- The spot of a text is that of the layout it has. -/
theorem spot_eq_some {R : Reader} {text : List Char} {s : Spot} :
    spot R text = some s ↔ ∃ l : Layout, l.Sound R ∧ l.spot = s ∧ s.text = text := by
  refine ⟨layout_of_spot, ?_⟩
  rintro ⟨l, sound, rfl, rfl⟩
  exact spot_layout sound

theorem spot_text {R : Reader} {text : List Char} {s : Spot} (found : spot R text = some s) : s.text = text := by
  obtain ⟨_, -, -, same⟩ := spot_eq_some.mp found
  exact same

/-- What the name and the value of a parameter hold. -/
theorem spot_parts {R : Reader} {text : List Char} {s : Spot} (found : spot R text = some s) :
    ('=' ∉ s.name ∧ '&' ∉ s.name ∧ '#' ∉ s.name ∧ R.isName s.name = true) ∧
      '&' ∉ s.value ∧ '#' ∉ s.value ∧ R.isValue s.value = true := by
  obtain ⟨l, sound, rfl, -⟩ := spot_eq_some.mp found
  exact ⟨sound.name, sound.value⟩

/-- A parameter stands behind the first question mark or behind an ampersand. -/
theorem before_cases {R : Reader} {text : List Char} {s : Spot} (found : spot R text = some s) :
    (∃ p, s.before = p ++ ['?'] ∧ ∀ c ∈ p, c ≠ '?' ∧ c ≠ '#') ∨ ∃ p, s.before = p ++ ['&'] := by
  obtain ⟨l, sound, rfl, -⟩ := spot_eq_some.mp found
  rcases List.eq_nil_or_concat l.front with none | ⟨front, q, some⟩
  · refine .inl ⟨l.path, ?_, sound.path⟩
    rw [Layout.spot, none]
    rfl
  · refine .inr ⟨l.path ++ '?' :: (front.flatMap (· ++ ['&']) ++ q), ?_⟩
    rw [Layout.spot, some]
    simp

/-- Another value in the place of the first is read in its stead. -/
theorem spot_withValue {R : Reader} {text value : List Char} {s : Spot} (found : spot R text = some s)
    (free : '&' ∉ value ∧ '#' ∉ value) (isValue : R.isValue value = true) (last : ∃ c ∈ value.getLast?, blank c = false) :
    spot R (s.withValue value).text = some (s.withValue value) := by
  obtain ⟨l, sound, rfl, -⟩ := spot_eq_some.mp found
  refine spot_eq_some.mpr ⟨{ l with value := value }, ?_, rfl, rfl⟩
  obtain ⟨c, isLast, plain⟩ := last
  refine ⟨sound.path, sound.accepted, sound.front, sound.name, ⟨free.1, free.2, isValue⟩, sound.rest, sound.fragment,
    sound.tail, ?_⟩
  let opens := l.path ++ '?' :: (l.front.flatMap (· ++ ['&']) ++ (l.name ++ ['=']))
  let closes := l.rest.flatMap ('&' :: ·) ++ l.fragment
  have shape (v : List Char) : Layout.main { l with value := v } ++ l.fragment = opens ++ (v ++ closes) := by
    simp [Layout.main, opens, closes]
  have before := sound.last
  have own : l.main ++ l.fragment = opens ++ (l.value ++ closes) := shape l.value
  intro d ends
  rw [shape] at ends
  rw [own] at before
  rcases List.eq_nil_or_concat closes with none | ⟨front, e, some⟩
  · rw [none, List.append_nil, List.getLast?_append, Option.mem_def.mp isLast] at ends
    rw [← Option.some.inj ends]
    exact plain
  · rw [some] at before ends
    have isE : e = d := by simpa using ends
    exact before d (by simp [isE])

end UrlQuery
