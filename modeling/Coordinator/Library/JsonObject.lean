import Mathlib.Data.List.Basic
import Mathlib.Data.Nat.Digits.Defs

/-! The JSON text of a flat object whose values are strings or null. The text of a
string ends where its first unescaped quote stands, so the text of an object
determines the object; and no such text is a proper suffix of another one. -/

namespace JsonObject

def escapeChar (c : Char) : List Char :=
  if c = '"' then ['\\', '"']
  else if c = '\\' then ['\\', '\\']
  else if c = Char.ofNat 8 then ['\\', 'b']
  else if c = Char.ofNat 12 then ['\\', 'f']
  else if c = '\n' then ['\\', 'n']
  else if c = '\r' then ['\\', 'r']
  else if c = '\t' then ['\\', 't']
  else if c.toNat < 32 then ['\\', 'u', '0', '0', Nat.digitChar (c.toNat / 16), Nat.digitChar (c.toNat % 16)]
  else [c]

def escape (text : List Char) : List Char := text.flatMap escapeChar

/-- The string and the text after its closing quote. -/
def quoted (text : String) (rest : List Char) : List Char := '"' :: (escape text.toList ++ '"' :: rest)

def value : Option String → List Char → List Char
  | none, rest => 'n' :: 'u' :: 'l' :: 'l' :: rest
  | some text, rest => quoted text rest

/-- The members from the second one on, with the closing brace. -/
def moreMembers : List (String × Option String) → List Char
  | [] => ['}']
  | (key, entry) :: rest => ',' :: quoted key (':' :: value entry (moreMembers rest))

def members : List (String × Option String) → List Char
  | [] => ['}']
  | (key, entry) :: rest => quoted key (':' :: value entry (moreMembers rest))

def stringify (entries : List (String × Option String)) : String := String.ofList ('{' :: members entries)

section Decoding

def hexValue (c : Char) : Nat := (List.range 16).findIdx fun n => Nat.digitChar n = c

theorem hexValue_digitChar : ∀ n < 16, hexValue (Nat.digitChar n) = n := by decide

def readChar : List Char → Option (Char × List Char)
  | '\\' :: '"' :: rest => some ('"', rest)
  | '\\' :: '\\' :: rest => some ('\\', rest)
  | '\\' :: 'b' :: rest => some (Char.ofNat 8, rest)
  | '\\' :: 'f' :: rest => some (Char.ofNat 12, rest)
  | '\\' :: 'n' :: rest => some ('\n', rest)
  | '\\' :: 'r' :: rest => some ('\r', rest)
  | '\\' :: 't' :: rest => some ('\t', rest)
  | '\\' :: 'u' :: '0' :: '0' :: high :: low :: rest => some (Char.ofNat (16 * hexValue high + hexValue low), rest)
  | c :: rest => some (c, rest)
  | [] => none

theorem readChar_escapeChar (c : Char) (rest : List Char) : readChar (escapeChar c ++ rest) = some (c, rest) := by
  unfold escapeChar
  split_ifs with _ _ _ _ _ _ _ small
  all_goals try
    subst_vars
    rfl
  · have high := hexValue_digitChar (c.toNat / 16) (by omega)
    have low := hexValue_digitChar (c.toNat % 16) (by omega)
    have digits : 16 * (c.toNat / 16) + c.toNat % 16 = c.toNat := Nat.div_add_mod c.toNat 16
    simp only [List.cons_append, List.nil_append, readChar, high, low, digits, Char.ofNat_toNat]
  · -- an unescaped character is no backslash, so only the last arm of `readChar` applies
    rw [List.cons_append, List.nil_append, readChar.eq_def]
    split <;> simp_all

theorem escapeChar_head (c : Char) : ∃ d rest, escapeChar c = d :: rest ∧ d ≠ '"' := by
  unfold escapeChar
  split
  · exact ⟨_, _, rfl, by decide⟩
  next notQuote =>
    split_ifs
    all_goals first | exact ⟨_, _, rfl, by decide⟩ | exact ⟨_, _, rfl, notQuote⟩

theorem escape_cancel {s t u v : List Char} (same : escape s ++ '"' :: u = escape t ++ '"' :: v) : s = t ∧ u = v := by
  induction s generalizing t with
  | nil =>
    cases t with
    | nil => exact ⟨rfl, (List.cons.inj same).2⟩
    | cons d t =>
      obtain ⟨e, rest, shape, notQuote⟩ := escapeChar_head d
      simp only [escape, List.flatMap_nil, List.flatMap_cons, shape, List.nil_append, List.cons_append] at same
      exact absurd (List.cons.inj same).1.symm notQuote
  | cons c s ih =>
    cases t with
    | nil =>
      obtain ⟨e, rest, shape, notQuote⟩ := escapeChar_head c
      simp only [escape, List.flatMap_nil, List.flatMap_cons, shape, List.nil_append, List.cons_append] at same
      exact absurd (List.cons.inj same).1 notQuote
    | cons d t =>
      simp only [escape, List.flatMap_cons, List.append_assoc] at same
      have read := congrArg readChar same
      rw [readChar_escapeChar, readChar_escapeChar] at read
      obtain ⟨rfl, tails⟩ := Prod.mk.inj (Option.some.inj read)
      obtain ⟨rfl, after⟩ := ih tails
      exact ⟨rfl, after⟩

theorem quoted_cancel {s t : String} {u v : List Char} (same : quoted s u = quoted t v) : s = t ∧ u = v := by
  obtain ⟨texts, after⟩ := escape_cancel (List.cons.inj same).2
  exact ⟨String.toList_inj.mp texts, after⟩

theorem value_cancel {a b : Option String} {u v : List Char} (same : value a u = value b v) : a = b ∧ u = v := by
  cases a with
  | none =>
    cases b with
    | none => simpa [value] using same
    | some t => simp [value, quoted] at same
  | some s =>
    cases b with
    | none => simp [value, quoted] at same
    | some t =>
      obtain ⟨rfl, after⟩ := quoted_cancel same
      exact ⟨rfl, after⟩

theorem moreMembers_inj {a b : List (String × Option String)} (same : moreMembers a = moreMembers b) : a = b := by
  induction a generalizing b with
  | nil =>
    cases b with
    | nil => rfl
    | cons _ _ => simp [moreMembers] at same
  | cons m a ih =>
    cases b with
    | nil => simp [moreMembers] at same
    | cons n b =>
      obtain ⟨keys, afterKey⟩ := quoted_cancel (List.cons.inj same).2
      obtain ⟨entries, afterEntry⟩ := value_cancel (List.cons.inj afterKey).2
      rw [Prod.ext keys entries, ih afterEntry]

end Decoding

section Opening

/-- An opening brace and a quote that closes no string. -/
def opening : List Char → Bool
  | '{' :: '"' :: c :: _ => c ≠ ',' && c ≠ ':' && c ≠ '}'
  | _ => false

def opens : List Char → Bool
  | [] => false
  | c :: rest => opening (c :: rest) || opens rest

theorem opens_append {u v : List Char} (later : opens v) : opens (u ++ v) := by
  induction u with
  | nil => exact later
  | cons c u ih => simp [opens, ih]

theorem opening_of_ne {c : Char} {rest : List Char} (other : c ≠ '{') : opening (c :: rest) = false := by
  rw [opening.eq_def]
  split
  · simp_all
  · rfl

theorem opens_cons {c : Char} {rest : List Char} (other : c ≠ '{') : opens (c :: rest) = opens rest := by
  rw [opens, opening_of_ne other, Bool.false_or]

/-- What may follow the closing quote of a key or of a value. -/
def Closed (rest : List Char) : Prop := ∃ c tail, rest = c :: tail ∧ (c = ',' ∨ c = ':' ∨ c = '}')

theorem opening_closed {c : Char} {rest : List Char} (closed : Closed rest) : opening (c :: '"' :: rest) = false := by
  by_cases brace : c = '{'
  · subst brace
    obtain ⟨d, tail, rfl, rfl | rfl | rfl⟩ := closed
    all_goals rfl
  · exact opening_of_ne brace

theorem digitChar_ne_brace : ∀ n < 16, Nat.digitChar n ≠ '{' := by decide

theorem pair_ne_brace {a b : Char} (first : a ≠ '{') (second : b ≠ '{') : ∀ d ∈ [a, b], d ≠ '{' := by
  simp [first, second]

theorem escapeChar_cases (c : Char) : escapeChar c = [c] ∨ ∀ d ∈ escapeChar c, d ≠ '{' := by
  unfold escapeChar
  split_ifs with _ _ _ _ _ _ _ small
  iterate 7 exact .inr (pair_ne_brace (by decide) (by decide))
  · have high := digitChar_ne_brace (c.toNat / 16) (by omega)
    have low := digitChar_ne_brace (c.toNat % 16) (by omega)
    right
    simp [high, low]
  · exact .inl rfl

theorem opens_append_of_not_mem {u v : List Char} (plain : ∀ d ∈ u, d ≠ '{') : opens (u ++ v) = opens v := by
  induction u with
  | nil => rfl
  | cons c u ih =>
    rw [List.cons_append, opens_cons (plain c List.mem_cons_self), ih fun d inside => plain d (List.mem_cons_of_mem c inside)]

theorem opens_escape {s u : List Char} (closed : Closed u) : opens (escape s ++ '"' :: u) = opens u := by
  induction s with
  | nil => exact opens_cons (by decide)
  | cons c s ih =>
    rw [escape, List.flatMap_cons, List.append_assoc]
    rcases escapeChar_cases c with single | plain
    · rw [single, List.singleton_append, opens]
      have notOpening : opening (c :: (escape s ++ '"' :: u)) = false := by
        cases s with
        | nil =>
          rw [escape, List.flatMap_nil, List.nil_append]
          exact opening_closed closed
        | cons e s =>
          obtain ⟨f, rest, shape, notQuote⟩ := escapeChar_head e
          rw [escape, List.flatMap_cons, shape, List.cons_append, List.cons_append, opening.eq_def]
          split <;> simp_all
      rw [escape] at notOpening ih
      rw [notOpening, ih, Bool.false_or]
    · rw [opens_append_of_not_mem plain]
      exact ih

theorem opens_quoted {s : String} {u : List Char} (closed : Closed u) : opens (quoted s u) = opens u := by
  rw [quoted, opens_cons (by decide), opens_escape closed]

theorem opens_value {entry : Option String} {u : List Char} (closed : Closed u) : opens (value entry u) = opens u := by
  cases entry with
  | none =>
    rw [value, opens_cons (by decide), opens_cons (by decide), opens_cons (by decide), opens_cons (by decide)]
  | some text => exact opens_quoted closed

theorem moreMembers_closed (entries : List (String × Option String)) : Closed (moreMembers entries) := by
  cases entries with
  | nil => exact ⟨'}', [], rfl, .inr (.inr rfl)⟩
  | cons m rest => exact ⟨',', _, rfl, .inl rfl⟩

theorem opens_member {key : String} {entry : Option String} {rest : List (String × Option String)} :
    opens (quoted key (':' :: value entry (moreMembers rest))) = opens (moreMembers rest) := by
  rw [opens_quoted ⟨':', _, rfl, .inr (.inl rfl)⟩, opens_cons (by decide), opens_value (moreMembers_closed rest)]

theorem opens_moreMembers (entries : List (String × Option String)) : opens (moreMembers entries) = false := by
  induction entries with
  | nil => rfl
  | cons m rest ih => rw [moreMembers, opens_cons (by decide), opens_member, ih]

theorem opens_members (entries : List (String × Option String)) : opens (members entries) = false := by
  cases entries with
  | nil => rfl
  | cons m rest => rw [members, opens_member, opens_moreMembers]

end Opening

theorem toList_stringify (entries : List (String × Option String)) : (stringify entries).toList = '{' :: members entries :=
  String.toList_ofList

theorem stringify_inj {a b : List (String × Option String)} (same : stringify a = stringify b) : a = b := by
  have texts := congrArg String.toList same
  rw [toList_stringify, toList_stringify] at texts
  have bodies := (List.cons.inj texts).2
  cases a with
  | nil =>
    cases b with
    | nil => rfl
    | cons _ _ => simp [members, quoted] at bodies
  | cons m a =>
    cases b with
    | nil => simp [members, quoted] at bodies
    | cons n b => exact moreMembers_inj (congrArg (',' :: ·) bodies)

/-- No text of an object with a first key is a proper suffix of the text of an object. -/
theorem stringify_suffix {a b : List (String × Option String)} {before : List Char}
    (starts : opening (stringify b).toList) (suffix : (stringify a).toList = before ++ (stringify b).toList) :
    before = [] := by
  cases before with
  | nil => rfl
  | cons c before =>
    rw [toList_stringify a, List.cons_append] at suffix
    have opened : opens (stringify b).toList := by
      rw [toList_stringify] at starts ⊢
      rw [opens, starts, Bool.true_or]
    have inside := opens_append (u := before) opened
    rw [← (List.cons.inj suffix).2, opens_members] at inside
    cases inside

end JsonObject
