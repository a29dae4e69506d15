import Coordinator.AuthContext
import Coordinator.Schema
import Coordinator.Library.Base64Url
import Coordinator.Library.IdealAead

namespace Coordinator
open IdealAead

abbrev Bytes : Type := List UInt8

abbrev ByteSealing : Type := Sealing Bytes Bytes Bytes Bytes

inductive EncryptionError
  | malformedCiphertext (message : String)
  | dekUnwrapFailed (message : String)
  | dataDecryptFailed (message : String)
  | unknownCipherVersion (message : String)
  | fieldTooLong (message : String)
  deriving DecidableEq, Repr

/-- AES-256-GCM, by the ciphertext and the tag it gives, and the text that `toString` makes
of bytes that are no UTF-8. -/
structure CryptoRuntime where
  gcm : ByteSealing → Bytes × Bytes
  length_ciphertext : ∀ s, (gcm s).1.length = s.plaintext.length
  length_tag : ∀ s, (gcm s).2.length = 16
  replaced : Bytes → String

/-- `Buffer.from(text, "utf8")`. -/
def utf8 (text : String) : Bytes := text.toByteArray.data.toList

/-- `buffer.toString("utf8")`. -/
def utf8Text (rt : CryptoRuntime) (b : Bytes) : String := (String.fromUTF8? ⟨b.toArray⟩).getD (rt.replaced b)

def subarray (b : Bytes) (start stop : Nat) : Bytes := (b.drop start).take (stop - start)

def writeUInt16BE (n : Nat) : Bytes := [UInt8.ofNat (n / 256), UInt8.ofNat (n % 256)]

def IdpColumn.text : IdpColumn → String
  | .idpAccessToken => "idp_access_token"
  | .idpRefreshToken => "idp_refresh_token"

/-- A field of the associated data, after its length. -/
def aadField (b : Bytes) : Bytes := writeUInt16BE b.length ++ b

def aad (context : EncryptionContext) : Except EncryptionError Bytes :=
  let org := utf8 context.orgId
  let col := utf8 context.column.text
  let usr := utf8 context.userId
  if 65535 < org.length ∨ 65535 < col.length ∨ 65535 < usr.length then
    .error (.fieldTooLong "EncryptionContext field too long for AAD (>65535 bytes)")
  else .ok (0x01 :: (aadField org ++ (aadField col ++ aadField usr)))

def prefixV1 : String := "enc:v1:"

/-- The version that `/^enc:v([1-9]\d{0,2}):/` reads. -/
def versionMatch (ciphertext : String) : Option String :=
  match ciphertext.toList with
  | 'e' :: 'n' :: 'c' :: ':' :: 'v' :: rest =>
    let digits := rest.takeWhile Char.isDigit
    if digits.length ≤ 3 ∧ (digits.head?.any fun d => d ≠ '0') ∧ (rest.drop digits.length).head? = some ':' then
      some (String.ofList digits)
    else none
  | _ => none

structure EnvelopeEncryption where
  masterKey : Bytes
  length_key : masterKey.length = 32
  deriving DecidableEq

/-- What `randomBytes` gives to one `encrypt`. -/
structure EncryptRandom where
  dek : Bytes
  nonceData : Bytes
  nonceDek : Bytes
  length_dek : dek.length = 32
  length_nonceData : nonceData.length = 12
  length_nonceDek : nonceDek.length = 12

namespace EnvelopeEncryption

def create (masterKey : Bytes) : Except String EnvelopeEncryption :=
  if valid : masterKey.length = 32 then .ok ⟨masterKey, valid⟩
  else
    .error ("EnvelopeEncryption requires a 32-byte master key for AES-256 (got " ++ toString masterKey.length ++
      "). Generate with: openssl rand -base64 32")

/-- Also gives the sealings made. -/
def encrypt (rt : CryptoRuntime) (random : EncryptRandom) (plaintext : String) (context : EncryptionContext)
    (e : EnvelopeEncryption) : Except EncryptionError (String × List ByteSealing) :=
  match aad context with
  | .error failure => .error failure
  | .ok aad =>
    let data : ByteSealing := ⟨random.dek, random.nonceData, aad, utf8 plaintext⟩
    let (ciphertext, tagData) := rt.gcm data
    let wrap : ByteSealing := ⟨e.masterKey, random.nonceDek, [], random.dek⟩
    let (wrappedDek, tagDek) := rt.gcm wrap
    let wrappedDekBlob := random.nonceDek ++ tagDek ++ wrappedDek
    let blob := wrappedDekBlob ++ random.nonceData ++ tagData ++ ciphertext
    .ok (prefixV1 ++ String.ofList (Base64Url.encode blob), [data, wrap])

/-- The second half of `decrypt`: open the data key, and the text with it. What opens is what has been sealed
among the sealings `made`. -/
def openSealed (rt : CryptoRuntime) (made : List ByteSealing) (nonceDek : Bytes) (wrapped : Bytes × Bytes)
    (nonceData : Bytes) (data : Bytes × Bytes) (context : EncryptionContext) (e : EnvelopeEncryption) :
    Except EncryptionError String :=
  match reveal rt.gcm made e.masterKey nonceDek [] wrapped with
  | none => .error (.dekUnwrapFailed "wrapped DEK authentication failed — wrong master key or corrupted wrap header")
  | some dek =>
    let failure := EncryptionError.dataDecryptFailed
      "ciphertext authentication failed — data corruption or AAD mismatch (cross-row/column swap?)"
    match aad context with
    | .error _ => .error failure
    | .ok aad =>
      match reveal rt.gcm made dek nonceData aad data with
      | none => .error failure
      | some pt => .ok (utf8Text rt pt)

def decrypt (rt : CryptoRuntime) (made : List ByteSealing) (ciphertext : String) (context : EncryptionContext)
    (e : EnvelopeEncryption) : Except EncryptionError String :=
  match versionMatch ciphertext with
  | none =>
    if startsWith ciphertext "enc:v" then
      .error (.malformedCiphertext ("ciphertext has enc:v prefix but version is malformed " ++
        "(must be enc:v1: through enc:v999: with no leading zeros)"))
    else .ok ciphertext
  | some version =>
    if version ≠ "1" then
      .error (.unknownCipherVersion ("Cannot decrypt enc:v" ++ version ++ ": prefix. This daemon only understands enc:v1:. " ++
        "Upgrade or roll back the daemon to the version that wrote this row."))
    else
      let blob := Base64Url.decode (ciphertext.toList.drop prefixV1.length)
      if blob.length < 88 then
        .error (.malformedCiphertext ("ciphertext too short (got " ++ toString blob.length ++ " bytes, need >=88)"))
      else
        let nonceDek := subarray blob 0 12
        let tagDek := subarray blob 12 28
        let wrappedDek := subarray blob 28 60
        let nonceData := subarray blob 60 72
        let tagData := subarray blob 72 88
        let dataCt := blob.drop 88
        e.openSealed rt made nonceDek (wrappedDek, tagDek) nonceData (dataCt, tagData) context

end EnvelopeEncryption

theorem utf8_injective {s t : String} (same : utf8 s = utf8 t) : s = t := by
  refine String.toByteArray_inj.mp ?_
  have data : s.toByteArray.data = t.toByteArray.data := Array.toList_inj.mp same
  exact ByteArray.ext data

theorem utf8Text_utf8 (rt : CryptoRuntime) (s : String) : utf8Text rt (utf8 s) = s := by
  rw [utf8Text, utf8, Array.toArray_toList]
  have valid : String.fromUTF8? s.toByteArray = some s := dif_pos s.isValidUTF8
  rw [valid, Option.getD_some]

theorem writeUInt16BE_inj {m n : Nat} (smallM : m ≤ 65535) (smallN : n ≤ 65535)
    (same : writeUInt16BE m = writeUInt16BE n) : m = n := by
  obtain ⟨high, low, -⟩ :
      UInt8.ofNat (m / 256) = UInt8.ofNat (n / 256) ∧ UInt8.ofNat (m % 256) = UInt8.ofNat (n % 256) ∧ True := by
    simpa [writeUInt16BE] using same
  have highNat := congrArg UInt8.toNat high
  have lowNat := congrArg UInt8.toNat low
  simp only [UInt8.toNat_ofNat'] at highNat lowNat
  omega

/-- A field is told from whatever follows it. -/
theorem aadField_append_inj {b c rest rest' : Bytes} (smallB : b.length ≤ 65535) (smallC : c.length ≤ 65535)
    (same : aadField b ++ rest = aadField c ++ rest') : b = c ∧ rest = rest' := by
  rw [aadField, aadField, List.append_assoc, List.append_assoc] at same
  obtain ⟨lengths, following⟩ := List.append_inj same rfl
  exact List.append_inj following (writeUInt16BE_inj smallB smallC lengths)

theorem IdpColumn.text_injective {c d : IdpColumn} (same : c.text = d.text) : c = d := by
  cases c <;> cases d
  · rfl
  · exact absurd same (by decide)
  · exact absurd same (by decide)
  · rfl

/-- The fields of the context fit the length prefix of the associated data. -/
structure EncryptionContext.Fits (context : EncryptionContext) : Prop where
  org : (utf8 context.orgId).length ≤ 65535
  col : (utf8 context.column.text).length ≤ 65535
  usr : (utf8 context.userId).length ≤ 65535

theorem aad_of_fits {context : EncryptionContext} (fits : context.Fits) :
    aad context = .ok (0x01 :: (aadField (utf8 context.orgId) ++
      (aadField (utf8 context.column.text) ++ aadField (utf8 context.userId)))) := by
  obtain ⟨org, col, usr⟩ := fits
  refine if_neg ?_
  omega

theorem fits_of_aad {context : EncryptionContext} {a : Bytes} (encoded : aad context = .ok a) : context.Fits := by
  rw [aad] at encoded
  split at encoded
  · cases encoded
  · rename_i short
    exact ⟨by omega, by omega, by omega⟩

/-- The associated data binds all three fields. -/
theorem aad_inj {c d : EncryptionContext} {a : Bytes} (first : aad c = .ok a) (second : aad d = .ok a) : c = d := by
  obtain ⟨orgC, colC, usrC⟩ := fits_of_aad first
  obtain ⟨orgD, colD, usrD⟩ := fits_of_aad second
  have encoded := first.trans second.symm
  rw [aad_of_fits ⟨orgC, colC, usrC⟩, aad_of_fits ⟨orgD, colD, usrD⟩] at encoded
  have fields := (List.cons.inj (Except.ok.inj encoded)).2
  obtain ⟨org, fields⟩ := aadField_append_inj orgC orgD fields
  obtain ⟨col, fields⟩ := aadField_append_inj colC colD fields
  have ends : aadField (utf8 c.userId) ++ [] = aadField (utf8 d.userId) ++ [] := by simpa using fields
  have usr := (aadField_append_inj usrC usrD ends).1
  cases c
  cases d
  rw [EncryptionContext.mk.injEq]
  exact ⟨utf8_injective org, IdpColumn.text_injective (utf8_injective col), utf8_injective usr⟩

theorem aad_ne_nil {context : EncryptionContext} {a : Bytes} (encoded : aad context = .ok a) : a ≠ [] := by
  rw [aad_of_fits (fits_of_aad encoded)] at encoded
  rw [← Except.ok.inj encoded]
  exact List.cons_ne_nil _ _

theorem subarray_append {a b c : Bytes} {start stop : Nat} (before : a.length = start) (within : start + b.length = stop) :
    subarray (a ++ (b ++ c)) start stop = b := by
  subst before
  rw [subarray, List.drop_left, ← within, Nat.add_sub_cancel_left, List.take_left]

/-- A call of `encrypt`. -/
structure EncryptCall where
  provider : EnvelopeEncryption
  random : EncryptRandom
  plaintext : String
  context : EncryptionContext

namespace EncryptCall

def run (rt : CryptoRuntime) (call : EncryptCall) : Except EncryptionError (String × List ByteSealing) :=
  call.provider.encrypt rt call.random call.plaintext call.context

def data (call : EncryptCall) (a : Bytes) : ByteSealing :=
  ⟨call.random.dek, call.random.nonceData, a, utf8 call.plaintext⟩

def wrap (call : EncryptCall) : ByteSealing := ⟨call.provider.masterKey, call.random.nonceDek, [], call.random.dek⟩

/-- The sealings that calls of `encrypt` have made. -/
def made (rt : CryptoRuntime) (calls : List EncryptCall) : List ByteSealing :=
  calls.flatMap fun call =>
    match call.run rt with
    | .ok (_, sealings) => sealings
    | .error _ => []

def blob (rt : CryptoRuntime) (call : EncryptCall) (a : Bytes) : Bytes :=
  call.random.nonceDek ++ ((rt.gcm call.wrap).2 ++ ((rt.gcm call.wrap).1 ++ (call.random.nonceData ++
    ((rt.gcm (call.data a)).2 ++ (rt.gcm (call.data a)).1))))

def text (rt : CryptoRuntime) (call : EncryptCall) (a : Bytes) : String :=
  prefixV1 ++ String.ofList (Base64Url.encode (call.blob rt a))

variable {rt : CryptoRuntime} {calls : List EncryptCall} {call : EncryptCall} {a : Bytes}

theorem run_eq (encoded : aad call.context = .ok a) : call.run rt = .ok (call.text rt a, [call.data a, call.wrap]) := by
  rw [run, EnvelopeEncryption.encrypt, encoded, text, blob]
  simp only [List.append_assoc]
  rfl

theorem run_ok {ciphertext : String} {sealings : List ByteSealing} (ended : call.run rt = .ok (ciphertext, sealings)) :
    ∃ a, aad call.context = .ok a ∧ ciphertext = call.text rt a := by
  cases encoded : aad call.context with
  | error failure =>
    rw [run, EnvelopeEncryption.encrypt, encoded] at ended
    cases ended
  | ok a =>
    rw [run_eq encoded] at ended
    cases ended
    exact ⟨a, rfl, rfl⟩

/-- A sealing is of the text of a call or of its data key. -/
theorem mem_made {s : ByteSealing} :
    s ∈ made rt calls ↔ ∃ call ∈ calls, ∃ a, aad call.context = .ok a ∧ (s = call.data a ∨ s = call.wrap) := by
  rw [made, List.mem_flatMap]
  constructor
  · rintro ⟨call, member, sealed⟩
    cases encoded : aad call.context with
    | error failure =>
      rw [run, EnvelopeEncryption.encrypt, encoded] at sealed
      cases sealed
    | ok a =>
      rw [run_eq encoded] at sealed
      exact ⟨call, member, a, encoded, by simpa using sealed⟩
  · rintro ⟨call, member, a, encoded, sealed⟩
    refine ⟨call, member, ?_⟩
    rw [run_eq encoded]
    simpa using sealed

theorem length_wrapped : (rt.gcm call.wrap).1.length = 32 := (rt.length_ciphertext _).trans call.random.length_dek

/-- The parts of a blob lie where `decrypt` cuts them out. -/
theorem cuts (rt : CryptoRuntime) (call : EncryptCall) (a : Bytes) :
    88 ≤ (call.blob rt a).length ∧ subarray (call.blob rt a) 0 12 = call.random.nonceDek ∧
      subarray (call.blob rt a) 12 28 = (rt.gcm call.wrap).2 ∧ subarray (call.blob rt a) 28 60 = (rt.gcm call.wrap).1 ∧
      subarray (call.blob rt a) 60 72 = call.random.nonceData ∧
      subarray (call.blob rt a) 72 88 = (rt.gcm (call.data a)).2 ∧ (call.blob rt a).drop 88 = (rt.gcm (call.data a)).1 := by
  have nonceDek := call.random.length_nonceDek
  have tagDek := rt.length_tag call.wrap
  have wrapped : (rt.gcm call.wrap).1.length = 32 := length_wrapped
  have nonceData := call.random.length_nonceData
  have tagData := rt.length_tag (call.data a)
  rw [blob]
  generalize (rt.gcm (call.data a)).1 = dataCt
  generalize (rt.gcm (call.data a)).2 = tagD at tagData ⊢
  generalize (rt.gcm call.wrap).1 = wrappedDek at wrapped ⊢
  generalize (rt.gcm call.wrap).2 = tagK at tagDek ⊢
  generalize call.random.nonceDek = nonceK at nonceDek ⊢
  generalize call.random.nonceData = nonceD at nonceData ⊢
  refine ⟨?_, ?_, ?_, ?_, ?_, ?_, ?_⟩
  · simp only [List.length_append]
    omega
  · exact subarray_append (a := []) rfl (by omega)
  · exact subarray_append nonceDek (by omega)
  · rw [← List.append_assoc nonceK]
    exact subarray_append (by simp only [List.length_append]; omega) (by omega)
  · rw [← List.append_assoc tagK, ← List.append_assoc nonceK]
    exact subarray_append (by simp only [List.length_append]; omega) (by omega)
  · rw [← List.append_assoc wrappedDek, ← List.append_assoc tagK, ← List.append_assoc nonceK]
    exact subarray_append (by simp only [List.length_append]; omega) (by omega)
  · rw [← List.append_assoc nonceD, ← List.append_assoc wrappedDek, ← List.append_assoc tagK, ← List.append_assoc nonceK]
    exact List.drop_left' (by simp only [List.length_append]; omega)

theorem toList_prefixV1_append (t : List Char) :
    (prefixV1 ++ String.ofList t).toList = 'e' :: 'n' :: 'c' :: ':' :: 'v' :: '1' :: ':' :: t := by
  rw [String.toList_append, String.toList_ofList]
  rfl

theorem versionMatch_prefixV1 (t : List Char) : versionMatch (prefixV1 ++ String.ofList t) = some "1" := by
  have digits : ('1' :: ':' :: t).takeWhile Char.isDigit = ['1'] := rfl
  rw [versionMatch, toList_prefixV1_append]
  simp only [digits]
  rfl

/-- Decrypting what a call gave comes down to opening its two sealings. -/
theorem decrypt_text (rt : CryptoRuntime) (sealings : List ByteSealing) (call : EncryptCall) (a : Bytes)
    (context : EncryptionContext) (e : EnvelopeEncryption) :
    e.decrypt rt sealings (call.text rt a) context =
      e.openSealed rt sealings call.random.nonceDek (rt.gcm call.wrap) call.random.nonceData (rt.gcm (call.data a))
        context := by
  obtain ⟨long, nonceDek, tagDek, wrapped, nonceData, tagData, dataCt⟩ := cuts rt call a
  have chars : (call.text rt a).toList.drop prefixV1.length = Base64Url.encode (call.blob rt a) := by
    rw [text, toList_prefixV1_append]
    rfl
  have version : versionMatch (call.text rt a) = some "1" := versionMatch_prefixV1 _
  rw [EnvelopeEncryption.decrypt, version, chars, Base64Url.decode_encode]
  simp only [ne_eq, not_true_eq_false, if_false, if_neg (Nat.not_lt.mpr long), nonceDek, tagDek, wrapped, nonceData,
    tagData, dataCt]

end EncryptCall

namespace EnvelopeEncryption
variable {rt : CryptoRuntime} {sealings : List ByteSealing} {e : EnvelopeEncryption} {context : EncryptionContext}

/-- What is returned has been sealed under a data key that was wrapped under the master key. -/
theorem openSealed_ok {nonceDek nonceData : Bytes} {wrapped data : Bytes × Bytes} {q : String}
    (opened : e.openSealed rt sealings nonceDek wrapped nonceData data context = .ok q) :
    ∃ dek a pt, reveal rt.gcm sealings e.masterKey nonceDek [] wrapped = some dek ∧ aad context = .ok a ∧
      reveal rt.gcm sealings dek nonceData a data = some pt ∧ q = utf8Text rt pt := by
  unfold openSealed at opened
  split at opened
  · cases opened
  · rename_i dek unwrapped
    dsimp only at opened
    split at opened
    · cases opened
    · rename_i a encoded
      split at opened
      · cases opened
      · rename_i pt revealed
        cases opened
        exact ⟨dek, a, pt, unwrapped, encoded, revealed, rfl⟩

theorem openSealed_eq {nonceDek nonceData dek a pt : Bytes} {wrapped data : Bytes × Bytes}
    (unwrapped : reveal rt.gcm sealings e.masterKey nonceDek [] wrapped = some dek) (encoded : aad context = .ok a)
    (revealed : reveal rt.gcm sealings dek nonceData a data = some pt) :
    e.openSealed rt sealings nonceDek wrapped nonceData data context = .ok (utf8Text rt pt) := by
  simp only [openSealed, unwrapped, encoded, revealed]

/-- A text that comes back is the text given, without the prefix, or was opened. -/
theorem decrypt_ok {ciphertext q : String} (opened : e.decrypt rt sealings ciphertext context = .ok q) :
    (q = ciphertext ∧ startsWith ciphertext "enc:v" = false) ∨
      ∃ nonceDek wrapped nonceData data, e.openSealed rt sealings nonceDek wrapped nonceData data context = .ok q := by
  unfold decrypt at opened
  split at opened
  · split at opened
    · cases opened
    · rename_i plain
      cases opened
      exact .inl ⟨rfl, Bool.eq_false_iff.mpr plain⟩
  · split at opened
    · cases opened
    · dsimp only at opened
      split at opened
      · cases opened
      · exact .inr ⟨_, _, _, _, opened⟩

end EnvelopeEncryption

/-- The laws of envelope encryption over the calls of `encrypt` that were ever made, under any master keys. -/
structure EnvelopeLaws (rt : CryptoRuntime) (calls : List EncryptCall) : Prop where
  round_trip : ∀ call ∈ calls, call.context.Fits → ∃ ciphertext sealings, call.run rt = .ok (ciphertext, sealings) ∧
    call.provider.decrypt rt (EncryptCall.made rt calls) ciphertext call.context = .ok call.plaintext
  context_bound : ∀ call ∈ calls, ∀ ciphertext sealings, call.run rt = .ok (ciphertext, sealings) →
    ∀ (e : EnvelopeEncryption) context, context ≠ call.context →
      ∃ failure, e.decrypt rt (EncryptCall.made rt calls) ciphertext context = .error failure
  key_bound : ∀ call ∈ calls, ∀ ciphertext sealings, call.run rt = .ok (ciphertext, sealings) →
    ∀ (e : EnvelopeEncryption) context, e.masterKey ≠ call.provider.masterKey →
      ∃ failure, e.decrypt rt (EncryptCall.made rt calls) ciphertext context = .error failure
  outcome : ∀ (e : EnvelopeEncryption) ciphertext context q,
    e.decrypt rt (EncryptCall.made rt calls) ciphertext context = .ok q →
      (q = ciphertext ∧ startsWith ciphertext "enc:v" = false) ∨
        ∃ call ∈ calls, call.context = context ∧ call.plaintext = q ∧
          ∃ wrapping ∈ calls, wrapping.provider.masterKey = e.masterKey ∧ wrapping.random.dek = call.random.dek

section laws
variable {rt : CryptoRuntime} {calls : List EncryptCall} {e : EnvelopeEncryption} {context : EncryptionContext}

theorem EncryptCall.decrypt_own_text (ideal : Unambiguous rt.gcm (EncryptCall.made rt calls)) {call : EncryptCall}
    (member : call ∈ calls) {a : Bytes} (encoded : aad call.context = .ok a) :
    call.provider.decrypt rt (EncryptCall.made rt calls) (call.text rt a) call.context = .ok call.plaintext := by
  rw [EncryptCall.decrypt_text]
  have unwrapped := reveal_made ideal (EncryptCall.mem_made.mpr ⟨call, member, a, encoded, .inr rfl⟩)
  have revealed := reveal_made ideal (EncryptCall.mem_made.mpr ⟨call, member, a, encoded, .inl rfl⟩)
  have opened := EnvelopeEncryption.openSealed_eq (e := call.provider) unwrapped encoded revealed
  exact opened.trans (congrArg Except.ok (utf8Text_utf8 rt call.plaintext))

/-- The text of a call comes back only in its context and under its master key. -/
theorem EncryptCall.bound (ideal : Unambiguous rt.gcm (EncryptCall.made rt calls)) {call : EncryptCall}
    (member : call ∈ calls) {ciphertext q : String} {sealings : List ByteSealing}
    (ended : call.run rt = .ok (ciphertext, sealings))
    (opened : e.decrypt rt (EncryptCall.made rt calls) ciphertext context = .ok q) :
    context = call.context ∧ e.masterKey = call.provider.masterKey := by
  obtain ⟨a, encoded, rfl⟩ := EncryptCall.run_ok ended
  rw [EncryptCall.decrypt_text] at opened
  obtain ⟨dek, b, pt, unwrapped, other, revealed, -⟩ := EnvelopeEncryption.openSealed_ok opened
  have dataMade : call.data a ∈ made rt calls := mem_made.mpr ⟨call, member, a, encoded, .inl rfl⟩
  have wrapMade : call.wrap ∈ made rt calls := mem_made.mpr ⟨call, member, a, encoded, .inr rfl⟩
  have sameAad : b = a := (eq_of_reveal ideal dataMade revealed).2.2.1
  have sameKey : e.masterKey = call.provider.masterKey := (eq_of_reveal ideal wrapMade unwrapped).1
  subst sameAad
  exact ⟨aad_inj other encoded, sameKey⟩

/-- What opens was encrypted by a call in the same context. -/
theorem EncryptCall.of_openSealed {nonceDek nonceData : Bytes} {wrapped data : Bytes × Bytes} {q : String}
    (opened : e.openSealed rt (EncryptCall.made rt calls) nonceDek wrapped nonceData data context = .ok q) :
    ∃ call ∈ calls, call.context = context ∧ call.plaintext = q ∧
      ∃ wrapping ∈ calls, wrapping.provider.masterKey = e.masterKey ∧ wrapping.random.dek = call.random.dek := by
  obtain ⟨dek, a, pt, unwrapped, encoded, revealed, rfl⟩ := EnvelopeEncryption.openSealed_ok opened
  obtain ⟨wrapping, inCalls, b, wrappingEncoded, fromData | fromWrap⟩ := EncryptCall.mem_made.mp (mem_of_reveal unwrapped).1
  · have empty : [] = b := congrArg Sealing.aad fromData
    exact absurd empty.symm (aad_ne_nil wrappingEncoded)
  · obtain ⟨call, member, c, callEncoded, ofData | ofWrap⟩ := EncryptCall.mem_made.mp (mem_of_reveal revealed).1
    · have sameAad : a = c := congrArg Sealing.aad ofData
      have sameText : pt = utf8 call.plaintext := congrArg Sealing.plaintext ofData
      have wrappedDek : dek = wrapping.random.dek := congrArg Sealing.plaintext fromWrap
      have usedDek : dek = call.random.dek := congrArg Sealing.key ofData
      subst sameAad
      refine ⟨call, member, aad_inj callEncoded encoded, ?_, wrapping, inCalls, ?_, wrappedDek.symm.trans usedDek⟩
      · rw [sameText, utf8Text_utf8]
      · exact (congrArg Sealing.key fromWrap).symm
    · have empty : a = [] := congrArg Sealing.aad ofWrap
      exact absurd empty (aad_ne_nil encoded)

end laws

/-- AES-256-GCM being ideal, that is, no two sealings look alike and nothing else opens, envelope
encryption round-trips, and binds the context and the master key. -/
theorem envelopeLaws (rt : CryptoRuntime) (calls : List EncryptCall)
    (ideal : Unambiguous rt.gcm (EncryptCall.made rt calls)) : EnvelopeLaws rt calls where
  round_trip call member fits := by
    obtain ⟨a, encoded⟩ : ∃ a, aad call.context = .ok a := ⟨_, aad_of_fits fits⟩
    exact ⟨_, _, EncryptCall.run_eq encoded, EncryptCall.decrypt_own_text ideal member encoded⟩
  context_bound call member ciphertext sealings ended e context other := by
    cases opened : e.decrypt rt (EncryptCall.made rt calls) ciphertext context with
    | error failure => exact ⟨failure, rfl⟩
    | ok q => exact absurd (EncryptCall.bound ideal member ended opened).1 other
  key_bound call member ciphertext sealings ended e context other := by
    cases opened : e.decrypt rt (EncryptCall.made rt calls) ciphertext context with
    | error failure => exact ⟨failure, rfl⟩
    | ok q => exact absurd (EncryptCall.bound ideal member ended opened).2 other
  outcome e ciphertext context q opened := by
    rcases EnvelopeEncryption.decrypt_ok opened with plain | ⟨nonceDek, wrapped, nonceData, data, opened⟩
    · exact .inl plain
    · exact .inr (EncryptCall.of_openSealed opened)

/-- What AES-256-GCM makes of the two sealings of the call below. -/
def vectorRuntime : CryptoRuntime where
  gcm s :=
    if s.plaintext = utf8 "hello" then
      ([60, 75, 201, 90, 45], [130, 217, 104, 197, 128, 111, 112, 134, 93, 113, 204, 131, 110, 154, 110, 152])
    else if s.plaintext.length = 32 then
      ([144, 62, 251, 204, 218, 191, 190, 209, 126, 155, 37, 223, 69, 152, 130, 12, 76, 155, 200, 166, 120, 70, 253, 166, 199,
        27, 123, 232, 42, 111, 255, 58],
        [103, 152, 128, 11, 237, 231, 98, 181, 197, 200, 88, 57, 165, 181, 55, 62])
    else (s.plaintext, List.replicate 16 0)
  length_ciphertext s := by
    split
    · rename_i hello
      rw [hello]
      rfl
    · split
      · rename_i long
        rw [long]
        rfl
      · rfl
  length_tag s := by
    split
    · rfl
    · split
      · rfl
      · rfl
  replaced _ := ""

/-- The call behind the pinned ciphertext of the tests. -/
def vectorCall : EncryptCall where
  provider := ⟨utf8 "0123456789abcdef0123456789abcdef", by decide +kernel⟩
  random :=
    { dek := [41, 242, 125, 9, 126, 118, 156, 250, 14, 145, 192, 177, 17, 98, 138, 24, 33, 208, 177, 228, 113, 67, 228, 9, 180, 51,
        195, 197, 21, 55, 180, 75]
      nonceData := [24, 182, 212, 39, 146, 181, 37, 84, 121, 40, 55, 112]
      nonceDek := [31, 178, 244, 27, 216, 120, 99, 120, 159, 156, 69, 135]
      length_dek := rfl
      length_nonceData := rfl
      length_nonceDek := rfl }
  plaintext := "hello"
  context := ⟨"org-1", .idpAccessToken, "user-1"⟩

example : ((vectorCall.run vectorRuntime).map Prod.fst).toOption =
    some ("enc:v1:H7L0G9h4Y3ifnEWHZ5iAC-3nYrXFyFg5pbU3PpA--8zav77Rfpsl30WYggxMm8imeEb9pscbe-gqb_86GLbUJ5K1JVR5KDdwgt" ++
      "loxYBvcIZdccyDbppumDxLyVot") := by
  decide +kernel

/-- The two sealings of the call differ in length. -/
theorem unambiguous_vector : Unambiguous vectorRuntime.gcm (EncryptCall.made vectorRuntime [vectorCall]) := by
  intro s sealed t sealed' same
  obtain ⟨call, member, a, encoded, kind⟩ := EncryptCall.mem_made.mp sealed
  obtain ⟨call', member', b, encoded', kind'⟩ := EncryptCall.mem_made.mp sealed'
  cases List.mem_singleton.mp member
  cases List.mem_singleton.mp member'
  have sameAad : a = b := Except.ok.inj (encoded.symm.trans encoded')
  have lengths : s.plaintext.length = t.plaintext.length := by
    rw [← vectorRuntime.length_ciphertext s, ← vectorRuntime.length_ciphertext t, same]
  have short : (utf8 "hello").length = 5 := by decide +kernel
  have long : vectorCall.wrap.plaintext.length = 32 := vectorCall.random.length_dek
  rcases kind with rfl | rfl
  · rcases kind' with rfl | rfl
    · rw [sameAad]
    · exact absurd (short.symm.trans (lengths.trans long)) (by decide)
  · rcases kind' with rfl | rfl
    · exact absurd (short.symm.trans (lengths.symm.trans long)) (by decide)
    · rfl

theorem envelopeLaws_vector : EnvelopeLaws vectorRuntime [vectorCall] :=
  envelopeLaws vectorRuntime [vectorCall] unambiguous_vector

end Coordinator
