import Coordinator.AdminBootstrap
import Coordinator.EnvelopeEncryption
import Coordinator.Library.UrlQuery

namespace Coordinator

/-- The URL parser: whether it takes what stands before the query, and what it makes of bytes that are no UTF-8. -/
structure UrlRuntime where
  accepts : List Char → Bool
  replaced : Bytes → String
  replacement : ∀ b, '\uFFFD' ∈ (replaced b).toList

def formBytes : List Char → Bytes
  | [] => []
  | '%' :: high :: low :: rest =>
    match hexDigit high, hexDigit low with
    | some h, some l => UInt8.ofNat (h * 16 + l) :: formBytes rest
    | _, _ => String.utf8EncodeChar '%' ++ formBytes (high :: low :: rest)
  | c :: rest => (if c = '+' then [0x20] else String.utf8EncodeChar c) ++ formBytes rest

/-- The URL parser takes out tabs and newlines wherever they stand. -/
def stripped (raw : List Char) : List Char := raw.filter fun c => ¬ (c = '\t' ∨ c = '\n' ∨ c = '\r')

/-- A name or a value of `application/x-www-form-urlencoded`. -/
def formDecode (rt : UrlRuntime) (raw : List Char) : String :=
  (String.fromUTF8? ⟨(formBytes (stripped raw)).toArray⟩).getD (rt.replaced (formBytes (stripped raw)))

def searchParams (rt : UrlRuntime) (query : List Char) : List (String × String) :=
  (query.splitOn '&').filterMap fun piece =>
    if piece = [] then none
    else some (formDecode rt (piece.takeWhile (· ≠ '=')), formDecode rt ((piece.dropWhile (· ≠ '=')).drop 1))

/-- `new URL(url, "http://localhost").searchParams.get("token")`, where it is a text that is not empty. -/
def queryToken (rt : UrlRuntime) (url : String) : Option String :=
  let main := (url.toList.rdropWhile UrlQuery.blank).takeWhile (· ≠ '#')
  if rt.accepts (main.takeWhile (· ≠ '?')) then
    (((searchParams rt ((main.dropWhile (· ≠ '?')).drop 1)).find? fun param => param.1 = "token").map Prod.snd).filter
      fun token => token ≠ ""
  else none

/-- The header that `authenticateRequest` goes on with. -/
def effectiveAuthHeader (rt : UrlRuntime) (authHeader : Option String) (method url : String) : Option String :=
  if authHeader.getD "" = "" ∧ method = "GET" then
    match queryToken rt url with
    | some token => some ("Bearer " ++ token)
    | none => authHeader
  else authHeader

/-- `token=`, in any case. -/
def startsToken (rest : List Char) : Bool := (rest.take 6).map Char.toLower = "token=".toList

/-- `[^&#]`. -/
def valueChar (c : Char) : Bool := c ≠ '&' && c ≠ '#'

/-- Replaces the matches of `/([?&]token=)[^&#]*/gi` behind the characters to skip. -/
def redactFrom : Nat → List Char → List Char
  | _, [] => []
  | skip + 1, _ :: rest => redactFrom skip rest
  | 0, c :: rest =>
    if (c = '?' || c = '&') && startsToken rest then
      c :: (rest.take 6 ++ ("[REDACTED]".toList ++ redactFrom (6 + ((rest.drop 6).takeWhile valueChar).length) rest))
    else c :: redactFrom 0 rest

def redactTokenParam (url : String) : String := String.ofList (redactFrom 0 url.toList)

def tokenReader (rt : UrlRuntime) : UrlQuery.Reader where
  accepts := rt.accepts
  isName name := formDecode rt name = "token"
  isValue value := formDecode rt value ≠ ""

/-- The URL cut at the parameter that is taken for the token. -/
def tokenSpot (rt : UrlRuntime) (url : String) : Option UrlQuery.Spot := UrlQuery.spot (tokenReader rt) url.toList

/-- URLs that differ only in the value of the token are logged alike. -/
def TokenHidden (rt : UrlRuntime) (url : String) : Prop :=
  ∀ s, tokenSpot rt url = some s → ∀ value url', tokenSpot rt url' = some (s.withValue value) →
    redactTokenParam url' = redactTokenParam url

/-- The last `&` is followed by `token=`. -/
def tokenOpen : List Char → Bool
  | [] => false
  | c :: rest => tokenOpen rest || (c = '&' && !rest.contains '&' && startsToken rest)

/-- The name is spelled `token`, or the path in front of the query holds a match that is still open. -/
def TokenCovered (s : UrlQuery.Spot) : Prop :=
  s.name = "token".toList ∨ s.before.getLast? = some '?' ∧ tokenOpen s.before.dropLast = true

def plainUrlRuntime : UrlRuntime where
  accepts _ := true
  replaced _ := "\uFFFD"
  replacement _ := by decide

example : redactTokenParam "/x?a=1&Token=first&token=second#s" = "/x?a=1&Token=[REDACTED]&token=[REDACTED]#s" := by decide +kernel

example : tokenSpot plainUrlRuntime "/api/events?a=1&%74oken=se+cret&b" = some ⟨"/api/events?a=1&".toList, "%74oken".toList,
  "se+cret".toList, "&b".toList⟩ := by decide +kernel

section scanning
variable {c b : Char} {p rest t : List Char}

theorem redactFrom_drop (skip : Nat) (text : List Char) : redactFrom skip text = redactFrom 0 (text.drop skip) := by
  induction skip generalizing text with
  | zero => rfl
  | succ skip ih =>
    cases text with
    | nil => simp [redactFrom]
    | cons c rest => rw [redactFrom, List.drop_succ_cons, ih]

theorem redact_match (mark : c = '?' ∨ c = '&') (starts : startsToken rest = true) :
    redactFrom 0 (c :: rest) =
      c :: (rest.take 6 ++ ("[REDACTED]".toList ++ redactFrom 0 ((rest.drop 6).dropWhile valueChar))) := by
  have behind : rest.drop (6 + ((rest.drop 6).takeWhile valueChar).length) = (rest.drop 6).dropWhile valueChar := by
    have whole := congrArg (List.drop ((rest.drop 6).takeWhile valueChar).length)
      (List.takeWhile_append_dropWhile (p := valueChar) (l := rest.drop 6))
    rw [List.drop_left] at whole
    rw [← List.drop_drop, whole]
  have found : ((c = '?' || c = '&') && startsToken rest) = true := by simpa [starts] using mark
  rw [redactFrom, if_pos found, redactFrom_drop (6 + _), behind]

theorem redact_plain (other : ¬ ((c = '?' ∨ c = '&') ∧ startsToken rest = true)) :
    redactFrom 0 (c :: rest) = c :: redactFrom 0 rest := by
  rw [redactFrom, if_neg]
  simpa using other

/-- Characters that begin no match are kept. -/
theorem redact_append (plain : ∀ c ∈ p, c ≠ '?' ∧ c ≠ '&') : redactFrom 0 (p ++ t) = p ++ redactFrom 0 t := by
  induction p with
  | nil => rfl
  | cons c rest ih =>
    obtain ⟨⟨notQuery, notPair⟩, plain⟩ := List.forall_mem_cons.mp plain
    rw [List.cons_append, redact_plain (by simp [notQuery, notPair]), ih plain, List.cons_append]

theorem length_of_startsToken (starts : startsToken rest = true) : 6 ≤ rest.length := by
  have taken := congrArg List.length (of_decide_eq_true starts)
  rw [List.length_map, List.length_take] at taken
  have six : "token=".toList.length = 6 := rfl
  omega

/-- No mark lies inside `token=`, so what follows a mark does not matter. -/
theorem startsToken_append (mark : b = '?' ∨ b = '&') : startsToken (p ++ b :: t) = startsToken p := by
  by_cases long : 6 ≤ p.length
  · rw [startsToken, startsToken, List.take_append_of_le_length long]
  · have short : startsToken p = false := Bool.eq_false_iff.mpr fun starts => long (length_of_startsToken starts)
    rw [short]
    refine Bool.eq_false_iff.mpr fun starts => ?_
    have taken : ((p ++ b :: t).take 6).map Char.toLower = "token=".toList := of_decide_eq_true starts
    obtain ⟨n, room⟩ : ∃ n, 6 - p.length = n + 1 := ⟨5 - p.length, by omega⟩
    have inside : b.toLower ∈ ((p ++ b :: t).take 6).map Char.toLower := by
      refine List.mem_map_of_mem ?_
      rw [List.take_append, room, List.take_succ_cons]
      exact List.mem_append_right _ List.mem_cons_self
    rw [taken] at inside
    rcases mark with rfl | rfl
    · exact absurd inside (by decide)
    · exact absurd inside (by decide)

theorem tokenOpen_cons_other (other : c ≠ '&') : tokenOpen (c :: rest) = tokenOpen rest := by
  simp [tokenOpen, other]

theorem tokenOpen_cons_unstarted (unstarted : startsToken rest = false) : tokenOpen (c :: rest) = tokenOpen rest := by
  simp [tokenOpen, unstarted]

theorem tokenOpen_append : tokenOpen (p ++ '&' :: t) = tokenOpen ('&' :: t) := by
  induction p with
  | nil => rfl
  | cons c rest ih => rw [List.cons_append, tokenOpen, ih]; simp

theorem not_mem_take_of_startsToken (starts : startsToken rest = true) : '&' ∉ rest.take 6 := by
  intro inside
  have lower : ('&' : Char).toLower ∈ (rest.take 6).map Char.toLower := List.mem_map_of_mem inside
  rw [of_decide_eq_true starts] at lower
  exact absurd lower (by decide)

/-- A match in front of a mark is written out, and its value goes on behind the mark where nothing ends it before. -/
theorem redact_match_append (mark : c = '?' ∨ c = '&') (starts : startsToken rest = true) (bound : b = '?' ∨ b = '&') :
    redactFrom 0 (c :: rest ++ b :: t) =
      (c :: (rest.take 6 ++ "[REDACTED]".toList)) ++ redactFrom 0 ((rest.drop 6 ++ b :: t).dropWhile valueChar) := by
  have long := length_of_startsToken starts
  have still : startsToken (rest ++ b :: t) = true := (startsToken_append bound).trans starts
  rw [List.cons_append, redact_match mark still, List.take_append_of_le_length long, List.drop_append_of_le_length long]
  simp

theorem tokenOpen_of_value (starts : startsToken rest = true) (behind : (rest.drop 6).dropWhile valueChar = []) :
    tokenOpen ('&' :: rest) = true := by
  have alone : '&' ∉ rest := by
    rw [← List.take_append_drop 6 rest, List.mem_append, not_or]
    refine ⟨not_mem_take_of_startsToken starts, fun inside => ?_⟩
    exact absurd (List.dropWhile_eq_nil_iff.mp behind '&' inside) (by decide)
  simp [tokenOpen, alone, starts]

/-- Where a value ends, the rest of the text tells whether one is open. -/
theorem tokenOpen_behind {d : Char} {more : List Char} (free : ∀ e ∈ rest, e ≠ '#')
    (behind : (rest.drop 6).dropWhile valueChar = d :: more) : tokenOpen (c :: rest) = tokenOpen (d :: more) := by
  have parts : c :: rest = (c :: (rest.take 6 ++ (rest.drop 6).takeWhile valueChar)) ++ d :: more := by
    rw [← behind, List.cons_append, List.append_assoc, List.takeWhile_append_dropWhile, List.take_append_drop]
  have stops : valueChar d = false := by
    have head := List.head?_dropWhile_not valueChar (rest.drop 6)
    rwa [behind] at head
  have pair : d = '&' := by
    have notFragment : d ≠ '#' :=
      free d (List.mem_of_mem_drop ((List.dropWhile_suffix valueChar).subset (behind ▸ List.mem_cons_self)))
    by_contra other
    simp [valueChar, other, notFragment] at stops
  subst pair
  rw [parts, tokenOpen_append]

/-- What stands in front of a mark decides how it is written, and whether a match is open at the mark. -/
theorem redact_prefix (p : List Char) : ∃ (out : List Char) (inside : Bool),
    (∀ b t, (b = '?' ∨ b = '&') →
      redactFrom 0 (p ++ b :: t) = out ++ redactFrom 0 (if inside then (b :: t).dropWhile valueChar else b :: t)) ∧
    ((∀ c ∈ p, c ≠ '?' ∧ c ≠ '#') → inside = tokenOpen p) := by
  induction size : p.length using Nat.strong_induction_on generalizing p with
  | _ n ih =>
    cases p with
    | nil => exact ⟨[], false, fun _ _ _ => rfl, fun _ => rfl⟩
    | cons c rest =>
      by_cases found : (c = '?' ∨ c = '&') ∧ startsToken rest = true
      · obtain ⟨mark, starts⟩ := found
        cases behind : (rest.drop 6).dropWhile valueChar with
        | nil =>
          refine ⟨c :: (rest.take 6 ++ "[REDACTED]".toList), true, fun b t bound => ?_, fun free => ?_⟩
          · rw [redact_match_append mark starts bound, List.dropWhile_append, behind]
            rfl
          · rw [mark.resolve_left (free c List.mem_cons_self).1]
            exact (tokenOpen_of_value starts behind).symm
        | cons d more =>
          have tail := (List.dropWhile_suffix (l := rest.drop 6) valueChar)
          rw [behind] at tail
          obtain ⟨out, inside, scans, opens⟩ := ih (d :: more).length (by
            have shorter := tail.length_le
            rw [List.length_drop] at shorter
            have whole : rest.length + 1 = n := size
            omega) (d :: more) rfl
          refine ⟨(c :: (rest.take 6 ++ "[REDACTED]".toList)) ++ out, inside, fun b t bound => ?_, fun free => ?_⟩
          · rw [redact_match_append mark starts bound, List.dropWhile_append, behind, List.isEmpty_cons,
              if_neg Bool.false_ne_true, scans b t bound, List.append_assoc]
          · obtain ⟨-, free⟩ := List.forall_mem_cons.mp free
            rw [opens fun e listed => free e (List.mem_of_mem_drop (tail.subset listed))]
            exact (tokenOpen_behind (fun e listed => (free e listed).2) behind).symm
      · obtain ⟨out, inside, scans, opens⟩ := ih rest.length (by rw [← size, List.length_cons]; omega) rest rfl
        refine ⟨c :: out, inside, fun b t bound => ?_, fun free => ?_⟩
        · have unfound : ¬ ((c = '?' ∨ c = '&') ∧ startsToken (rest ++ b :: t) = true) := by
            rwa [startsToken_append bound]
          rw [List.cons_append, redact_plain unfound, scans b t bound, List.cons_append]
        · obtain ⟨⟨notQuery, -⟩, free⟩ := List.forall_mem_cons.mp free
          rw [opens free]
          by_cases pair : c = '&'
          · exact (tokenOpen_cons_unstarted (Bool.eq_false_iff.mpr fun starts => found ⟨.inr pair, starts⟩)).symm
          · exact (tokenOpen_cons_other pair).symm

end scanning

section naming
variable {rt : UrlRuntime} {raw : List Char}

/-- Only the bytes of `token` are read as `token`. -/
theorem bytes_of_token (named : formDecode rt raw = "token") : formBytes (stripped raw) = utf8 "token" := by
  rw [formDecode, String.fromUTF8?] at named
  split at named
  · rename_i valid
    have text : String.fromUTF8 ⟨(formBytes (stripped raw)).toArray⟩ valid = "token" := named
    have bytes := congrArg utf8 text
    exact bytes
  · rename_i invalid
    have mark := rt.replacement (formBytes (stripped raw))
    rw [Option.getD_none] at named
    rw [named] at mark
    exact absurd mark (by decide)

theorem query_mem_formBytes : '?' ∈ raw → (63 : UInt8) ∈ formBytes raw := by
  fun_induction formBytes raw with
  | case1 => exact fun inside => absurd inside List.not_mem_nil
  | case2 high low rest h l isLow isHigh ih =>
    have noDigit : hexDigit '?' = none := by decide
    intro inside
    simp only [List.mem_cons] at inside
    rcases inside with same | rfl | rfl | inside
    · cases same
    · cases noDigit.symm.trans isHigh
    · cases noDigit.symm.trans isLow
    · exact List.mem_cons_of_mem _ (ih inside)
  | case3 high low rest plain ih =>
    intro inside
    rcases List.mem_cons.mp inside with same | inside
    · cases same
    · exact List.mem_append_right _ (ih inside)
  | case4 c rest unescaped ih =>
    intro inside
    rcases List.mem_cons.mp inside with rfl | inside
    · exact List.mem_append_left _ (by decide)
    · exact List.mem_append_right _ (ih inside)

theorem formBytes_plain (plain : ∀ c ∈ raw, c ≠ '%' ∧ c ≠ '+') : formBytes raw = raw.flatMap String.utf8EncodeChar := by
  fun_induction formBytes raw with
  | case1 => rfl
  | case2 => exact absurd rfl (plain '%' List.mem_cons_self).1
  | case3 => exact absurd rfl (plain '%' List.mem_cons_self).1
  | case4 c rest unescaped ih =>
    obtain ⟨⟨-, notPlus⟩, plain⟩ := List.forall_mem_cons.mp plain
    rw [if_neg notPlus, ih plain, List.flatMap_cons]

/-- The name of the token holds no question mark. -/
theorem not_query_mem_name (named : formDecode rt raw = "token") : '?' ∉ raw := by
  intro inside
  have kept : '?' ∈ stripped raw := List.mem_filter.mpr ⟨inside, by decide⟩
  have byte := query_mem_formBytes kept
  rw [bytes_of_token named] at byte
  exact absurd byte (by decide +kernel)

/-- A character that the parser neither takes out nor decodes. -/
def literal (c : Char) : Bool := !(c = '%' || c = '+' || c = '\t' || c = '\n' || c = '\r')

theorem bytes_literal (plain : ∀ c ∈ raw, literal c = true) : formBytes (stripped raw) = utf8 (String.ofList raw) := by
  have kept : stripped raw = raw := List.filter_eq_self.mpr fun c inside => by
    have shown := plain c inside
    simp only [literal, Bool.not_eq_true', Bool.or_eq_false_iff, decide_eq_false_iff_not] at shown
    simp [shown.1.2, shown.2, shown.1.1.2]
  have escapes : ∀ c ∈ raw, c ≠ '%' ∧ c ≠ '+' := fun c inside => by
    have shown := plain c inside
    simp only [literal, Bool.not_eq_true', Bool.or_eq_false_iff, decide_eq_false_iff_not] at shown
    exact shown.1.1.1
  rw [kept, formBytes_plain escapes]
  simp [utf8, List.utf8Encode]

theorem formDecode_literal (plain : ∀ c ∈ raw, literal c = true) : formDecode rt raw = String.ofList raw := by
  have valid : String.fromUTF8? ⟨(utf8 (String.ofList raw)).toArray⟩ = some (String.ofList raw) := by
    rw [utf8, Array.toArray_toList]
    exact dif_pos (String.ofList raw).isValidUTF8
  rw [formDecode, bytes_literal plain, valid, Option.getD_some]

/-- A name that the expression matches and the parser takes is spelled `token`. -/
theorem name_eq_of_matched (named : formDecode rt raw = "token") (matched : raw.map Char.toLower = "token".toList) :
    raw = "token".toList := by
  have plain : ∀ c ∈ raw, literal c = true := by
    intro c inside
    have lower : c.toLower ∈ "token".toList := matched ▸ List.mem_map_of_mem inside
    by_contra special
    simp only [literal, Bool.not_eq_true', Bool.not_eq_false, Bool.or_eq_true, decide_eq_true_eq] at special
    rcases special with (((rfl | rfl) | rfl) | rfl) | rfl
    all_goals exact absurd lower (by decide)
  rw [formDecode_literal plain] at named
  rw [← named, String.toList_ofList]

end naming

section parameters
variable {rt : UrlRuntime}

theorem formDecode_nil : formDecode rt [] = "" := formDecode_literal fun _ inside => absurd inside List.not_mem_nil

/-- The first parameter of the name is the spot's. -/
theorem find_params (before behind : List Char) (pieces : List (List Char)) :
    (((pieces.filterMap fun piece =>
      if piece = [] then none
      else some (formDecode rt (piece.takeWhile (· ≠ '=')), formDecode rt ((piece.dropWhile (· ≠ '=')).drop 1))).find?
        fun param => param.1 = "token").map Prod.snd).filter (fun token => token ≠ "") =
      (UrlQuery.spotIn (tokenReader rt) before behind pieces).map fun s => formDecode rt s.value := by
  induction pieces generalizing before with
  | nil => rfl
  | cons piece rest ih =>
    rw [UrlQuery.spotIn]
    by_cases named : formDecode rt (piece.takeWhile (· ≠ '=')) = "token"
    · have some : piece ≠ [] := by
        rintro rfl
        rw [List.takeWhile_nil, formDecode_nil] at named
        exact absurd named (by decide)
      have isName : (tokenReader rt).isName (piece.takeWhile (· ≠ '=')) = true := decide_eq_true named
      rw [if_pos isName, List.filterMap_cons, if_neg some]
      dsimp only
      rw [List.find?_cons]
      simp only [named, decide_true]
      cases piece.dropWhile (· ≠ '=') with
      | nil => simp [formDecode_nil]
      | cons mark value =>
        by_cases empty : formDecode rt value = ""
        · simp [tokenReader, empty]
        · simp [tokenReader, empty]
    · have notName : ¬ (tokenReader rt).isName (piece.takeWhile (· ≠ '=')) = true := fun isName =>
        named (of_decide_eq_true isName)
      rw [if_neg notName, ← ih, List.filterMap_cons]
      by_cases none : piece = []
      · rw [if_pos none]
      · rw [if_neg none]
        dsimp only
        rw [List.find?_cons_of_neg (by simpa using named)]

/-- The token is what stands at the spot. -/
theorem queryToken_eq (url : String) : queryToken rt url = (tokenSpot rt url).map fun s => formDecode rt s.value := by
  rw [queryToken, tokenSpot, UrlQuery.spot]
  cases shape : ((url.toList.rdropWhile UrlQuery.blank).takeWhile (· ≠ '#')).dropWhile (· ≠ '?') with
  | nil =>
    have params : searchParams rt [] = [] := rfl
    simp [params]
  | cons mark query =>
    have accepts : (tokenReader rt).accepts = rt.accepts := rfl
    dsimp only [List.drop_succ_cons, List.drop_zero]
    rw [accepts]
    split
    · exact find_params _ _ (query.splitOn '&')
    · rfl

/-- The bearer token of a GET request without a header. -/
theorem effectiveAuthHeader_get (url : String) : effectiveAuthHeader rt none "GET" url =
    (tokenSpot rt url).map fun s => "Bearer " ++ formDecode rt s.value := by
  rw [effectiveAuthHeader, if_pos ⟨rfl, rfl⟩, queryToken_eq]
  cases tokenSpot rt url with
  | none => rfl
  | some s => rfl

end parameters

section covering
variable {rt : UrlRuntime} {url : String} {s : UrlQuery.Spot}

/-- Behind the name `token` the value is replaced, whatever it is. -/
theorem redact_token {b : Char} (mark : b = '?' ∨ b = '&') {value : List Char} (plain : ∀ c ∈ value, valueChar c = true)
    (after : List Char) : redactFrom 0 (b :: ("token".toList ++ '=' :: (value ++ after))) =
      b :: ("token=".toList ++ ("[REDACTED]".toList ++ redactFrom 0 (after.dropWhile valueChar))) := by
  have starts : startsToken ("token".toList ++ '=' :: (value ++ after)) = true := rfl
  have behind : ("token".toList ++ '=' :: (value ++ after)).drop 6 = value ++ after := rfl
  rw [redact_match mark starts, behind, List.dropWhile_append_of_pos plain]
  rfl

theorem token_named (found : tokenSpot rt url = some s) : formDecode rt s.name = "token" := by
  obtain ⟨⟨-, -, -, named⟩, -⟩ := UrlQuery.spot_parts found
  exact of_decide_eq_true named

theorem value_plain (found : tokenSpot rt url = some s) : ∀ c ∈ s.value, valueChar c = true := by
  obtain ⟨-, pair, fragment, -⟩ := UrlQuery.spot_parts found
  intro c inside
  have notPair : c ≠ '&' := fun same => pair (same ▸ inside)
  have notFragment : c ≠ '#' := fun same => fragment (same ▸ inside)
  simp [valueChar, notPair, notFragment]

/-- The mark in front of the token. -/
theorem spot_mark (found : tokenSpot rt url = some s) : ∃ p b, s.before = p ++ [b] ∧ (b = '?' ∨ b = '&') ∧
    (b = '?' → ∀ c ∈ p, c ≠ '?' ∧ c ≠ '#') ∧
      ∀ value, (s.withValue value).text = p ++ b :: (s.name ++ '=' :: (value ++ s.after)) := by
  have text (p : List Char) (b : Char) (opens : s.before = p ++ [b]) (value : List Char) :
      (s.withValue value).text = p ++ b :: (s.name ++ '=' :: (value ++ s.after)) := by
    rw [UrlQuery.Spot.text, UrlQuery.Spot.withValue, opens, List.append_assoc]
    rfl
  rcases UrlQuery.before_cases found with ⟨p, opens, free⟩ | ⟨p, opens⟩
  · exact ⟨p, '?', opens, .inl rfl, fun _ => free, text p '?' opens⟩
  · exact ⟨p, '&', opens, .inr rfl, fun same => absurd same (by decide), text p '&' opens⟩

/-- A match that is open ends at an ampersand. -/
theorem unopened {inside : Bool} {b : Char} (unmatched : ¬ (inside = true ∧ b = '?')) (mark : b = '?' ∨ b = '&')
    (t : List Char) : (if inside then (b :: t).dropWhile valueChar else b :: t) = b :: t := by
  split
  · rename_i matching
    have pair : b = '&' := mark.resolve_left fun query => unmatched ⟨matching, query⟩
    rw [pair]
    exact List.dropWhile_cons_of_neg (by decide)
  · rfl

/-- A covered token is logged alike whatever its value. -/
theorem redact_covered (found : tokenSpot rt url = some s) (covered : TokenCovered s) : ∃ out, ∀ value : List Char,
    (∀ c ∈ value, valueChar c = true) → redactFrom 0 (s.withValue value).text = out := by
  obtain ⟨p, b, opens, mark, free, text⟩ := spot_mark found
  obtain ⟨out, inside, scans, within⟩ := redact_prefix p
  by_cases matching : inside = true ∧ b = '?'
  · -- the match of the path goes on over the name and the value
    obtain ⟨matching, rfl⟩ := matching
    obtain ⟨⟨-, pair, fragment, -⟩, -⟩ := UrlQuery.spot_parts found
    refine ⟨out ++ redactFrom 0 (s.after.dropWhile valueChar), fun value plain => ?_⟩
    have through : ∀ c ∈ '?' :: (s.name ++ '=' :: value), valueChar c = true := by
      intro c listed
      rcases List.mem_cons.mp listed with rfl | listed
      · decide
      · rcases List.mem_append.mp listed with inName | listed
        · have notPair : c ≠ '&' := fun same => pair (same ▸ inName)
          have notFragment : c ≠ '#' := fun same => fragment (same ▸ inName)
          simp [valueChar, notPair, notFragment]
        · rcases List.mem_cons.mp listed with rfl | listed
          · decide
          · exact plain c listed
    have cut : ('?' :: (s.name ++ '=' :: value) ++ s.after).dropWhile valueChar = s.after.dropWhile valueChar :=
      List.dropWhile_append_of_pos through
    rw [List.cons_append, List.append_assoc, List.cons_append] at cut
    rw [text, scans '?' _ mark, if_pos matching, cut]
  · have named : s.name = "token".toList := by
      rcases covered with named | ⟨query, opened⟩
      · exact named
      · rw [opens, List.getLast?_concat] at query
        have isQuery : b = '?' := Option.some.inj query
        rw [opens, List.dropLast_concat, ← within (free isQuery)] at opened
        exact absurd ⟨opened, isQuery⟩ matching
    refine ⟨out ++ b :: ("token=".toList ++ ("[REDACTED]".toList ++ redactFrom 0 (s.after.dropWhile valueChar))),
      fun value plain => ?_⟩
    rw [text, scans b _ mark, unopened matching mark, named, redact_token mark plain]

theorem eq_of_toLower {c : Char} (lower : c.toLower = '=') : c = '=' := by
  delta Char.toLower at lower
  split at lower
  · rename_i upper
    have shifted : c.val + 32 = 61 := congrArg Char.val lower
    have first : 65 ≤ c.val.toNat := UInt32.le_iff_toNat_le.mp upper.1
    have last : c.val.toNat ≤ 90 := UInt32.le_iff_toNat_le.mp upper.2
    have sum := congrArg UInt32.toNat shifted
    rw [UInt32.toNat_add] at sum
    change (c.val.toNat + 32) % 2 ^ 32 = 61 at sum
    omega
  · exact lower

theorem matched_of_startsToken {name t : List Char} (free : '=' ∉ name) (starts : startsToken (name ++ '=' :: t) = true) :
    name.map Char.toLower = "token".toList := by
  have taken : ((name ++ '=' :: t).take 6).map Char.toLower = "token=".toList := of_decide_eq_true starts
  have whole := List.take_append_drop 6 ((name ++ '=' :: t).map Char.toLower)
  rw [← List.map_take, taken, List.map_append, List.map_cons] at whole
  have nameFree : ∀ c ∈ name.map Char.toLower, c ≠ '=' := by
    intro c inside same
    obtain ⟨d, listed, lower⟩ := List.mem_map.mp inside
    exact free (eq_of_toLower (lower.trans same) ▸ listed)
  have ours := (UrlQuery.cut_at (b := ('=' : Char).toLower :: t.map Char.toLower) nameFree fun c first =>
    (Option.some.inj first).symm).1
  rw [← whole] at ours
  exact ours.symm.trans rfl

/-- Any other token stands in the log as it is. -/
theorem redact_uncovered (found : tokenSpot rt url = some s) (uncovered : ¬ TokenCovered s) : ∃ out behind, ∀ c : Char,
    (c ≠ '?' ∧ c ≠ '&') → redactFrom 0 (s.withValue [c]).text = out ++ c :: behind := by
  obtain ⟨p, b, opens, mark, free, text⟩ := spot_mark found
  obtain ⟨out, inside, scans, within⟩ := redact_prefix p
  obtain ⟨⟨equals, pair, -, -⟩, -⟩ := UrlQuery.spot_parts found
  have unmatched : ¬ (inside = true ∧ b = '?') := by
    rintro ⟨matching, rfl⟩
    refine uncovered (.inr ⟨by rw [opens, List.getLast?_concat], ?_⟩)
    rw [opens, List.dropLast_concat, ← within (free rfl), matching]
  have unstarted (t : List Char) : ¬ ((b = '?' ∨ b = '&') ∧ startsToken (s.name ++ '=' :: t) = true) := by
    rintro ⟨-, starts⟩
    exact uncovered (.inl (name_eq_of_matched (token_named found) (matched_of_startsToken equals starts)))
  refine ⟨out ++ b :: (s.name ++ ['=']), redactFrom 0 s.after, fun c plain => ?_⟩
  have kept : ∀ d ∈ s.name ++ '=' :: [c], d ≠ '?' ∧ d ≠ '&' := by
    intro d listed
    rcases List.mem_append.mp listed with inName | listed
    · refine ⟨fun same => ?_, fun same => pair (same ▸ inName)⟩
      exact not_query_mem_name (token_named found) (same ▸ inName)
    · rcases List.mem_cons.mp listed with rfl | listed
      · decide
      · rw [List.mem_singleton.mp listed]
        exact plain
  have written := redact_append (t := s.after) kept
  rw [List.append_assoc, List.cons_append] at written
  rw [text, scans b _ mark, unopened unmatched mark, redact_plain (unstarted _), written]
  simp

/-- URLs with another token are logged alike just when the token is covered. -/
theorem tokenHidden_iff (rt : UrlRuntime) (url : String) :
    TokenHidden rt url ↔ ∀ s, tokenSpot rt url = some s → TokenCovered s := by
  constructor
  · intro hidden s found
    by_contra uncovered
    obtain ⟨out, behind, written⟩ := redact_uncovered found uncovered
    have other (c : Char) (free : '&' ∉ [c] ∧ '#' ∉ [c]) (plain : literal c = true)
        (shown : UrlQuery.blank c = false) : tokenSpot rt (String.ofList (s.withValue [c]).text) = some (s.withValue [c]) := by
      have valued : (tokenReader rt).isValue [c] = true := by
        refine decide_eq_true fun empty => ?_
        rw [formDecode_literal (List.forall_mem_singleton.mpr plain)] at empty
        have chars := congrArg String.toList empty
        rw [String.toList_ofList] at chars
        cases chars
      rw [tokenSpot, String.toList_ofList]
      exact UrlQuery.spot_withValue found free valued ⟨c, rfl, shown⟩
    have first := hidden s found ['a'] _ (other 'a' (by decide) (by decide) (by decide))
    have second := hidden s found ['b'] _ (other 'b' (by decide) (by decide) (by decide))
    have same := congrArg String.toList (first.trans second.symm)
    rw [redactTokenParam, redactTokenParam, String.toList_ofList, String.toList_ofList, String.toList_ofList,
      String.toList_ofList, written 'a' (by decide), written 'b' (by decide)] at same
    have letters := (List.cons.inj (List.append_cancel_left same)).1
    exact absurd letters (by decide)
  · intro covered s found value url' found'
    obtain ⟨out, written⟩ := redact_covered found (covered s found)
    have own := written s.value (value_plain found)
    have others := written value (value_plain found')
    have text : s.text = url.toList := UrlQuery.spot_text found
    have text' : (s.withValue value).text = url'.toList := UrlQuery.spot_text found'
    have same : (s.withValue s.value).text = url.toList := text
    rw [redactTokenParam, redactTokenParam, ← same, ← text', own, others]

/-- With the name spelled `%74oken` the token stands in the log. -/
theorem not_tokenHidden : ¬ ∀ (rt : UrlRuntime) (url : String), TokenHidden rt url := by
  intro claim
  have leaked := claim plainUrlRuntime "/api/events?%74oken=secret"
    ⟨"/api/events?".toList, "%74oken".toList, "secret".toList, []⟩ (by decide +kernel) "other".toList
    "/api/events?%74oken=other" (by decide +kernel)
  exact absurd leaked (by decide +kernel)

end covering

end Coordinator
