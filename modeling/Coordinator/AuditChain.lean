import Coordinator.Library.JsonObject
import Mathlib.Data.List.Chain
import Mathlib.Data.List.Induction
import Mathlib.Tactic.Tauto

namespace Coordinator

structure AuditChainFields where
  action : String
  actorOrgId : Option String
  actorIp : Option String
  actorUserAgent : Option String
  actorUserId : Option String
  metadataJson : Option String
  outcome : Option String
  requestId : Option String
  target : Option String
  deriving DecidableEq, Repr

def canonicalRowFields (row : AuditChainFields) : String :=
  JsonObject.stringify [
    ("action", some row.action),
    ("actor_org_id", row.actorOrgId),
    ("actor_ip", row.actorIp),
    ("actor_user_agent", row.actorUserAgent),
    ("actor_user_id", row.actorUserId),
    ("metadata_json", row.metadataJson),
    ("outcome", row.outcome),
    ("request_id", row.requestId),
    ("target", row.target)]

def genesisHash : String := String.ofList (List.replicate 64 '0')

inductive ChainAlgorithm
  | sha256
  | hmacV1
  deriving DecidableEq, Repr

def hmacPrefix : String := "hmac-sha256-v1:"

def algorithmOf (storedRowHash : String) : ChainAlgorithm :=
  if hmacPrefix.toList <+: storedRowHash.toList then .hmacV1 else .sha256

def hexDigits : List Char := "0123456789abcdef".toList

def HexText (text : String) : Prop := ∀ c ∈ text.toList, c ∈ hexDigits

/-- The two digests of `node:crypto` that the chain uses, in hexadecimal. -/
structure ChainCrypto (Key : Type) where
  sha256Hex : String → String
  hmacHex : Key → String → String
  sha256Hex_hex : ∀ text, HexText (sha256Hex text)
  hmacHex_hex : ∀ key text, HexText (hmacHex key text)

variable {Key : Type} (crypto : ChainCrypto Key)

def computeRowHash (prevHash : String) (row : AuditChainFields) : Option Key → String
  | some key => hmacPrefix ++ crypto.hmacHex key (prevHash ++ canonicalRowFields row)
  | none => crypto.sha256Hex (prevHash ++ canonicalRowFields row)

/-- A row of `audit_log`, with the columns that the chain reads. -/
structure ChainedRow where
  id : Int
  fields : AuditChainFields
  prevHash : Option String
  rowHash : Option String
  deriving DecidableEq, Repr

inductive RowFinding
  | missingHash (id : Int)
  | wrongRowHash (id : Int) (expected actual : String)
  | wrongPrevHash (id : Int) (expected actual : String)
  | idGapBefore (id gapSize : Int)
  | noKeyForHmac (id : Int)
  | downgradedAlg (id : Int)
  deriving DecidableEq, Repr

structure VerifyState where
  findings : List RowFinding
  prevHash : Option String
  prevId : Option Int
  sawHmac : Bool

namespace VerifyState

def start : VerifyState := ⟨[], none, none, false⟩

def note (st : VerifyState) (finding : RowFinding) : VerifyState := { st with findings := st.findings ++ [finding] }

def noteGap (st : VerifyState) (row : ChainedRow) : VerifyState :=
  match st.prevId with
  | some prevId =>
    if row.id ≠ prevId + 1 then { st.note (.idGapBefore row.id (row.id - prevId - 1)) with prevHash := none } else st
  | none => st

def notePrev (st : VerifyState) (row : ChainedRow) (rowPrev : String) : VerifyState :=
  match st.prevHash with
  | some expected => if rowPrev ≠ expected then st.note (.wrongPrevHash row.id expected rowPrev) else st
  | none => st

/-- The end of the loop body: recompute under `key`, and move the pointers on. -/
def recompute (st : VerifyState) (row : ChainedRow) (rowPrev stored : String) (key : Option Key) : VerifyState :=
  let recomputed := computeRowHash crypto rowPrev row.fields key
  let st := if recomputed ≠ stored then st.note (.wrongRowHash row.id recomputed stored) else st
  { st with prevHash := some stored, prevId := some row.id }

end VerifyState

open VerifyState

def verifyRow (chainKey : Option Key) (st : VerifyState) (row : ChainedRow) : VerifyState :=
  let st := st.noteGap row
  match row.prevHash, row.rowHash with
  | some rowPrev, some stored =>
    let st := st.notePrev row rowPrev
    match algorithmOf stored, chainKey with
    | .hmacV1, none =>
      { st.note (.noKeyForHmac row.id) with prevHash := some stored, prevId := some row.id, sawHmac := true }
    | .hmacV1, some key => { st with sawHmac := true }.recompute crypto row rowPrev stored (some key)
    | .sha256, _ =>
      let st := if st.sawHmac then st.note (.downgradedAlg row.id) else st
      st.recompute crypto row rowPrev stored none
  | _, _ => { st.note (.missingHash row.id) with prevId := some row.id }

def verify (rows : List ChainedRow) (chainKey : Option Key) : List RowFinding :=
  (rows.foldl (verifyRow crypto chainKey) .start).findings

def RowFinding.isGap : RowFinding → Bool
  | .idGapBefore _ _ => true
  | _ => false

/-- `ok` of the report: a gap alone does not fail the verification. -/
def reportOk (findings : List RowFinding) : Bool := findings.all RowFinding.isGap

section Hashes
variable {crypto}

theorem canonicalRowFields_inj {row other : AuditChainFields} (same : canonicalRowFields row = canonicalRowFields other) :
    row = other := by
  have entries := JsonObject.stringify_inj same
  simp only [List.cons.injEq, Prod.mk.injEq, Option.some.injEq, true_and, and_true] at entries
  cases row
  cases other
  simpa using entries

theorem canonicalRowFields_opening (fields : AuditChainFields) :
    JsonObject.opening (canonicalRowFields fields).toList := by
  rw [canonicalRowFields, JsonObject.toList_stringify]
  rfl

/-- The text that is hashed determines the fields, whatever hash stands before them. -/
theorem canonicalRowFields_cancel {prevHash otherPrev : String} {fields other : AuditChainFields}
    (same : prevHash ++ canonicalRowFields fields = otherPrev ++ canonicalRowFields other) : fields = other := by
  have texts := congrArg String.toList same
  rw [String.toList_append, String.toList_append, List.append_eq_append_iff] at texts
  refine canonicalRowFields_inj (String.toList_inj.mp ?_)
  rcases texts with ⟨between, -, suffix⟩ | ⟨between, -, suffix⟩
  · have nothing := JsonObject.stringify_suffix (canonicalRowFields_opening other) suffix
    rw [suffix, nothing, List.nil_append]
  · have nothing := JsonObject.stringify_suffix (canonicalRowFields_opening fields) suffix
    rw [suffix, nothing, List.nil_append]

theorem HexText.not_keyed {text : String} (hex : HexText text) : algorithmOf text = .sha256 := by
  rw [algorithmOf, if_neg]
  intro keyed
  have marker : 'h' ∈ text.toList := keyed.mem (by decide)
  exact absurd (hex 'h' marker) (by decide)

theorem algorithmOf_computeRowHash {prevHash : String} {row : AuditChainFields} {used : Option Key} :
    algorithmOf (computeRowHash crypto prevHash row used) = .hmacV1 ↔ used.isSome := by
  cases used with
  | none =>
    rw [computeRowHash, (crypto.sha256Hex_hex _).not_keyed]
    simp
  | some key =>
    have starts : hmacPrefix.toList <+: (computeRowHash crypto prevHash row (some key)).toList := by
      rw [computeRowHash, String.toList_append]
      exact List.prefix_append _ _
    rw [algorithmOf, if_pos starts]
    simp

/-- A hash tells whether it was made with a key. -/
theorem computeRowHash_alike {prevHash otherPrev : String} {row other : AuditChainFields} {used again : Option Key}
    (same : computeRowHash crypto prevHash row used = computeRowHash crypto otherPrev other again) :
    used.isSome ↔ again.isSome := by
  have keyed : algorithmOf (computeRowHash crypto prevHash row used) = .hmacV1 ↔ used.isSome :=
    algorithmOf_computeRowHash
  rw [← keyed, same, algorithmOf_computeRowHash]

/-- Neither digest gives two texts the same value. -/
structure ChainCrypto.CollisionFree (crypto : ChainCrypto Key) : Prop where
  sha256 : Function.Injective crypto.sha256Hex
  hmac : ∀ key, Function.Injective (crypto.hmacHex key)

theorem ChainCrypto.CollisionFree.text_eq (free : crypto.CollisionFree) {prevHash otherPrev : String}
    {row other : AuditChainFields} {used : Option Key}
    (same : computeRowHash crypto prevHash row used = computeRowHash crypto otherPrev other used) :
    prevHash ++ canonicalRowFields row = otherPrev ++ canonicalRowFields other := by
  cases used with
  | none => exact free.sha256 same
  | some key => exact free.hmac key ((String.append_right_inj hmacPrefix).mp same)

end Hashes

section Verified
variable {crypto} {chainKey : Option Key}

def ChainedRow.keyed (row : ChainedRow) : Prop := ∃ stored, row.rowHash = some stored ∧ algorithmOf stored = .hmacV1

/-- Both hashes stand, and the row's own one is that of its fields, unkeyed or under the verifier's key. -/
def Recomputes (crypto : ChainCrypto Key) (chainKey : Option Key) (row : ChainedRow) : Prop :=
  ∃ rowPrev used, row.prevHash = some rowPrev ∧ (used = none ∨ used = chainKey) ∧
    row.rowHash = some (computeRowHash crypto rowPrev row.fields used)

def Linked (row next : ChainedRow) : Prop := next.id = row.id + 1 → next.prevHash = row.rowHash

def KeyKept (row next : ChainedRow) : Prop := row.keyed → next.keyed

/-- What `verify` checks of a table, without its scan. -/
structure Verifies (crypto : ChainCrypto Key) (chainKey : Option Key) (rows : List ChainedRow) : Prop where
  recomputes : ∀ row ∈ rows, Recomputes crypto chainKey row
  linked : rows.Pairwise Linked
  keyKept : rows.Pairwise KeyKept

/-- What the scan remembers of the rows behind it. -/
structure Tracks (rows : List ChainedRow) (st : VerifyState) : Prop where
  prevId : st.prevId = rows.getLast?.map ChainedRow.id
  prevHash : st.prevHash = rows.getLast?.bind ChainedRow.rowHash
  sawHmac : st.sawHmac = true ↔ ∃ row ∈ rows, row.keyed

@[simp] theorem reportOk_note {st : VerifyState} {finding : RowFinding} :
    reportOk (st.note finding).findings = (reportOk st.findings && finding.isGap) := by
  simp [VerifyState.note, reportOk]

namespace VerifyState
variable {st : VerifyState} {row : ChainedRow} {rowPrev stored : String} {used : Option Key}

@[simp] theorem reportOk_noteGap : reportOk (st.noteGap row).findings = reportOk st.findings := by
  unfold noteGap
  split
  · split
    · change reportOk (st.note _).findings = _
      rw [reportOk_note, RowFinding.isGap, Bool.and_true]
    · rfl
  · rfl

@[simp] theorem noteGap_sawHmac : (st.noteGap row).sawHmac = st.sawHmac := by
  unfold noteGap
  split
  · split <;> rfl
  · rfl

@[simp] theorem reportOk_notePrev :
    reportOk (st.notePrev row rowPrev).findings ↔
      reportOk st.findings ∧ ∀ expected, st.prevHash = some expected → rowPrev = expected := by
  unfold notePrev
  split
  next expected prevHash =>
    split
    next differs => simp [RowFinding.isGap, prevHash, differs]
    next equal => simp_all
  next none => simp [none]

@[simp] theorem notePrev_sawHmac : (st.notePrev row rowPrev).sawHmac = st.sawHmac := by
  unfold notePrev
  split
  · split <;> rfl
  · rfl

@[simp] theorem reportOk_recompute :
    reportOk (st.recompute crypto row rowPrev stored used).findings ↔
      reportOk st.findings ∧ computeRowHash crypto rowPrev row.fields used = stored := by
  simp only [recompute]
  split
  next differs => simp [RowFinding.isGap, differs]
  next equal => simp_all

@[simp] theorem recompute_prevHash : (st.recompute crypto row rowPrev stored used).prevHash = some stored := rfl

@[simp] theorem recompute_prevId : (st.recompute crypto row rowPrev stored used).prevId = some row.id := rfl

@[simp] theorem recompute_sawHmac : (st.recompute crypto row rowPrev stored used).sawHmac = st.sawHmac := by
  simp only [recompute]
  split <;> rfl

end VerifyState

variable {row : ChainedRow} {rowPrev stored : String} {rows : List ChainedRow} {st : VerifyState}

/-- After the gap check the scan holds the hash of the row just before, and of no other row. -/
theorem Tracks.noteGap_prevHash (tracks : Tracks rows st) (hashed : ∀ last ∈ rows, last.rowHash.isSome)
    (row : ChainedRow) (rowPrev : String) :
    (∀ expected, (st.noteGap row).prevHash = some expected → rowPrev = expected) ↔
      ∀ last ∈ rows.getLast?, row.id = last.id + 1 → some rowPrev = last.rowHash := by
  unfold VerifyState.noteGap
  rw [tracks.prevId]
  cases atEnd : rows.getLast? with
  | none => simp [tracks.prevHash, atEnd]
  | some last =>
    obtain ⟨stored, hash⟩ := Option.isSome_iff_exists.mp (hashed last (List.mem_of_getLast? atEnd))
    have prevHash : st.prevHash = some stored := by rw [tracks.prevHash, atEnd, Option.bind_some, hash]
    simp only [Option.map_some, Option.mem_def, Option.some.injEq]
    split
    next gap => simp [gap]
    next next' => simp_all

theorem recomputes_unkeyed (prevHash : row.prevHash = some rowPrev) (rowHash : row.rowHash = some stored)
    (unkeyed : algorithmOf stored = .sha256) :
    Recomputes crypto chainKey row ↔ computeRowHash crypto rowPrev row.fields none = stored := by
  constructor
  · rintro ⟨prev, used, samePrev, -, sameHash⟩
    obtain rfl : rowPrev = prev := Option.some.inj (prevHash.symm.trans samePrev)
    obtain rfl : stored = computeRowHash crypto rowPrev row.fields used := Option.some.inj (rowHash.symm.trans sameHash)
    cases used with
    | none => rfl
    | some key =>
      rw [algorithmOf_computeRowHash.mpr rfl] at unkeyed
      cases unkeyed
  · rintro rfl
    exact ⟨rowPrev, none, prevHash, .inl rfl, rowHash⟩

theorem recomputes_keyed (prevHash : row.prevHash = some rowPrev) (rowHash : row.rowHash = some stored)
    (keyed : algorithmOf stored = .hmacV1) :
    Recomputes crypto chainKey row ↔
      ∃ key, chainKey = some key ∧ computeRowHash crypto rowPrev row.fields (some key) = stored := by
  constructor
  · rintro ⟨prev, used, samePrev, choice, sameHash⟩
    obtain rfl : rowPrev = prev := Option.some.inj (prevHash.symm.trans samePrev)
    obtain rfl : stored = computeRowHash crypto rowPrev row.fields used := Option.some.inj (rowHash.symm.trans sameHash)
    obtain ⟨key, rfl⟩ := Option.isSome_iff_exists.mp (algorithmOf_computeRowHash.mp keyed)
    rcases choice with none | same
    · cases none
    · exact ⟨key, same.symm, rfl⟩
  · rintro ⟨key, rfl, rfl⟩
    exact ⟨rowPrev, some key, prevHash, .inr rfl, rowHash⟩

/-- Under digests without collisions a verified hash determines the fields. -/
theorem Recomputes.fields_eq (free : crypto.CollisionFree) {other : ChainedRow} (recomputes : Recomputes crypto chainKey row)
    (again : Recomputes crypto chainKey other) (rowHash : row.rowHash = other.rowHash) : row.fields = other.fields := by
  obtain ⟨rowPrev, used, -, choice, hash⟩ := recomputes
  obtain ⟨otherPrev, usedAgain, -, choiceAgain, hashAgain⟩ := again
  have same : computeRowHash crypto rowPrev row.fields used = computeRowHash crypto otherPrev other.fields usedAgain :=
    Option.some.inj (hash.symm.trans (rowHash.trans hashAgain))
  obtain rfl : used = usedAgain := by
    have alike := computeRowHash_alike same
    rcases choice with rfl | rfl <;> rcases choiceAgain with rfl | rfl <;> simp_all
  exact canonicalRowFields_cancel (free.text_eq same)

theorem Recomputes.hashed (recomputes : Recomputes crypto chainKey row) : row.rowHash.isSome := by
  obtain ⟨rowPrev, used, -, -, rowHash⟩ := recomputes
  rw [rowHash]
  rfl

/-- One round of the scan adds no failure exactly when the row recomputes, continues
the row before it, and is keyed if any row behind it is. -/
theorem Tracks.verifyRow_ok (tracks : Tracks rows st) (hashed : ∀ last ∈ rows, last.rowHash.isSome) :
    reportOk (verifyRow crypto chainKey st row).findings ↔
      reportOk st.findings ∧ Recomputes crypto chainKey row ∧ (∀ last ∈ rows.getLast?, Linked last row) ∧
        ((∃ earlier ∈ rows, earlier.keyed) → row.keyed) := by
  unfold verifyRow
  split
  next rowPrev stored prevHash rowHash =>
    have link := tracks.noteGap_prevHash hashed row rowPrev
    simp only [Linked, prevHash, ChainedRow.keyed, rowHash, Option.some.injEq, exists_eq_left']
    split
    next keyed =>
      rw [recomputes_keyed prevHash rowHash keyed]
      simp [VerifyState.note, RowFinding.isGap, reportOk]
    next key keyed =>
      rw [recomputes_keyed prevHash rowHash keyed]
      simp only [VerifyState.reportOk_recompute, VerifyState.reportOk_notePrev, VerifyState.reportOk_noteGap, link]
      simp [keyed]
      tauto
    next unkeyed =>
      rw [recomputes_unkeyed prevHash rowHash unkeyed]
      have seen := tracks.sawHmac
      simp only [ChainedRow.keyed] at seen
      rw [← seen]
      split
      next downgraded =>
        simp [unkeyed, RowFinding.isGap] at downgraded ⊢
        simp [downgraded]
      next fresh =>
        simp only [VerifyState.reportOk_recompute, VerifyState.reportOk_notePrev, VerifyState.reportOk_noteGap, link]
        simp at fresh
        simp [fresh]
        tauto
  next missing =>
    constructor
    · intro ok
      simp [VerifyState.note, RowFinding.isGap, reportOk] at ok
    · rintro ⟨-, ⟨rowPrev, used, prevHash, -, rowHash⟩, -⟩
      exact absurd rowHash (missing _ _ prevHash)

theorem verifyRow_hashed (crypto : ChainCrypto Key) (chainKey : Option Key) (st : VerifyState)
    (prevHash : row.prevHash = some rowPrev) (rowHash : row.rowHash = some stored) :
    (verifyRow crypto chainKey st row).prevHash = some stored ∧
      (verifyRow crypto chainKey st row).prevId = some row.id ∧
        ((verifyRow crypto chainKey st row).sawHmac = true ↔ st.sawHmac = true ∨ row.keyed) := by
  have keyed : row.keyed ↔ algorithmOf stored = .hmacV1 := by simp [ChainedRow.keyed, rowHash]
  rw [keyed]
  unfold verifyRow
  simp only [prevHash, rowHash]
  split
  next hmac => simp [hmac]
  next key hmac => simp [hmac]
  next unkeyed =>
    split
    · simp_all [VerifyState.note]
    · simp_all

theorem Tracks.step (tracks : Tracks rows st) (recomputes : Recomputes crypto chainKey row) :
    Tracks (rows ++ [row]) (verifyRow crypto chainKey st row) := by
  obtain ⟨rowPrev, used, prevHash, choice, rowHash⟩ := recomputes
  obtain ⟨hash, id, saw⟩ := verifyRow_hashed crypto chainKey st prevHash rowHash
  constructor
  · simp [id]
  · simp [hash, rowHash]
  · rw [saw, tracks.sawHmac]
    simp [or_and_right, exists_or]

theorem verifyRow_mono (ok : reportOk (verifyRow crypto chainKey st row).findings) : reportOk st.findings := by
  simp only [verifyRow] at ok
  split at ok
  · split at ok
    · simp [VerifyState.note, RowFinding.isGap, reportOk] at ok
    · simp_all
    · split at ok <;> simp_all
  · simp [VerifyState.note, RowFinding.isGap, reportOk] at ok

theorem tracks_scan (recomputes : ∀ row ∈ rows, Recomputes crypto chainKey row) :
    Tracks rows (rows.foldl (verifyRow crypto chainKey) .start) := by
  induction rows using List.reverseRecOn with
  | nil => constructor <;> simp [VerifyState.start]
  | append_singleton rows row ih =>
    rw [List.foldl_append]
    have before := ih fun r member => recomputes r (List.mem_append_left _ member)
    exact before.step (recomputes row (by simp))

theorem verify_snoc_ok (recomputes : ∀ earlier ∈ rows, Recomputes crypto chainKey earlier) :
    reportOk (verify crypto (rows ++ [row]) chainKey) ↔
      reportOk (verify crypto rows chainKey) ∧ Recomputes crypto chainKey row ∧
        (∀ last ∈ rows.getLast?, Linked last row) ∧ ((∃ earlier ∈ rows, earlier.keyed) → row.keyed) := by
  rw [verify, List.foldl_append]
  exact (tracks_scan recomputes).verifyRow_ok fun last member => (recomputes last member).hashed

theorem verify_ok_iff_chain :
    reportOk (verify crypto rows chainKey) ↔
      (∀ row ∈ rows, Recomputes crypto chainKey row) ∧ rows.IsChain Linked ∧ rows.Pairwise KeyKept := by
  induction rows using List.reverseRecOn with
  | nil => simp [verify, VerifyState.start, reportOk]
  | append_singleton rows row ih =>
    constructor
    · intro ok
      have earlierOk : reportOk (verify crypto rows chainKey) := by
        rw [verify, List.foldl_append] at ok
        exact verifyRow_mono ok
      obtain ⟨recomputes, linked, kept⟩ := ih.mp earlierOk
      obtain ⟨-, last, link, keep⟩ := (verify_snoc_ok recomputes).mp ok
      refine ⟨?_, ?_, ?_⟩
      · intro r member
        rcases List.mem_append.mp member with before | atEnd
        · exact recomputes r before
        · rwa [List.mem_singleton.mp atEnd]
      · rw [List.isChain_append]
        exact ⟨linked, .singleton row, by simpa using link⟩
      · rw [List.pairwise_append]
        refine ⟨kept, List.pairwise_singleton _ _, ?_⟩
        intro r before s atEnd keyed
        rw [List.mem_singleton.mp atEnd]
        exact keep ⟨r, before, keyed⟩
    · rintro ⟨recomputes, linked, kept⟩
      rw [List.isChain_append] at linked
      rw [List.pairwise_append] at kept
      have before : ∀ r ∈ rows, Recomputes crypto chainKey r := fun r member =>
        recomputes r (List.mem_append_left _ member)
      refine (verify_snoc_ok before).mpr ⟨ih.mpr ⟨before, linked.1, kept.1⟩, recomputes row (by simp), ?_, ?_⟩
      · simpa using linked.2.2
      · rintro ⟨earlier, member, keyed⟩
        exact kept.2.2 earlier member row (by simp) keyed

/-- With increasing ids only neighbours can have consecutive ids. -/
theorem linked_pairwise_iff (ordered : rows.Pairwise fun r s => r.id < s.id) :
    rows.Pairwise Linked ↔ rows.IsChain Linked := by
  constructor
  · exact List.Pairwise.isChain
  · intro linked
    induction rows with
    | nil => exact .nil
    | cons r rest ih =>
      rw [List.pairwise_cons] at ordered ⊢
      rw [List.isChain_cons] at linked
      refine ⟨?_, ih ordered.2 linked.2⟩
      intro s member
      cases rest with
      | nil => cases member
      | cons t rest =>
        rcases List.mem_cons.mp member with rfl | later
        · exact linked.1 s rfl
        · intro consecutive
          have below := ordered.1 t List.mem_cons_self
          have above := List.rel_of_pairwise_cons ordered.2 later
          omega

/-- `verify` finds no failure exactly in the tables whose rows each recompute, follow
the row with the id before, and stay keyed once a row is. -/
theorem verify_ok_iff (ordered : rows.Pairwise fun r s => r.id < s.id) :
    reportOk (verify crypto rows chainKey) ↔ Verifies crypto chainKey rows := by
  rw [verify_ok_iff_chain, ← linked_pairwise_iff ordered]
  constructor
  · rintro ⟨recomputes, linked, kept⟩
    exact ⟨recomputes, linked, kept⟩
  · rintro ⟨recomputes, linked, kept⟩
    exact ⟨recomputes, linked, kept⟩

end Verified

section Spelled

/-- A digest without collisions: every character in unary. -/
def spell (text : String) : String :=
  String.ofList (text.toList.flatMap fun c => List.replicate c.toNat '0' ++ ['1'])

theorem spell_hex (text : String) : HexText (spell text) := by
  intro c member
  rw [spell, String.toList_ofList] at member
  obtain ⟨d, -, inside⟩ := List.mem_flatMap.mp member
  rcases List.mem_append.mp inside with zero | one
  · rw [List.eq_of_mem_replicate zero]
    decide
  · rw [List.mem_singleton.mp one]
    decide

theorem unary_cancel {m n : Nat} {u v : List Char}
    (same : List.replicate m '0' ++ '1' :: u = List.replicate n '0' ++ '1' :: v) : m = n ∧ u = v := by
  induction m generalizing n with
  | zero =>
    cases n with
    | zero => exact ⟨rfl, (List.cons.inj same).2⟩
    | succ n => simp [List.replicate_succ] at same
  | succ m ih =>
    cases n with
    | zero => simp [List.replicate_succ] at same
    | succ n =>
      obtain ⟨rfl, after⟩ := ih (List.cons.inj same).2
      exact ⟨rfl, after⟩

theorem spell_inj {text other : String} (same : spell text = spell other) : text = other := by
  have spelled := String.ofList_injective same
  refine String.toList_inj.mp ?_
  generalize text.toList = s at spelled ⊢
  generalize other.toList = t at spelled ⊢
  induction s generalizing t with
  | nil =>
    cases t with
    | nil => rfl
    | cons d t => simp at spelled
  | cons c s ih =>
    cases t with
    | nil => simp at spelled
    | cons d t =>
      simp only [List.flatMap_cons, List.append_assoc, List.singleton_append] at spelled
      obtain ⟨codes, after⟩ := unary_cancel spelled
      rw [Char.toNat_inj.mp codes, ih t after]

def ChainCrypto.spelled : ChainCrypto String where
  sha256Hex := spell
  hmacHex key text := spell (key ++ text)
  sha256Hex_hex := spell_hex
  hmacHex_hex _ _ := spell_hex _

theorem spelled_collisionFree : ChainCrypto.spelled.CollisionFree := by
  constructor
  · exact fun _ _ same => spell_inj same
  · exact fun key _ _ same => (String.append_right_inj key).mp (spell_inj same)

end Spelled

end Coordinator
