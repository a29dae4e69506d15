import Mathlib.Logic.Function.Basic
import Coordinator.AuthContext
import Coordinator.Library.GuardedRun
import Coordinator.Library.Table

namespace Coordinator

structure MembershipCacheEntry where
  memberships : List String
  ts : Int
  deriving DecidableEq

structure MembershipCacheMetrics where
  hits : Nat
  misses : Nat
  staleServed : Nat

structure StaleServedEvent where
  userId : String
  provider : String
  ageSeconds : Int

inductive MembershipError
  | idp (failure : IdpFailure)
  | providerCapability (capability : String)

/-- The hash and the case folding of the runtime. -/
structure MembershipEnv where
  sha256 : String → String
  toLowerCase : String → String

def positiveTtlS : Int := 60

def staleMaxS : Int := 600

structure MembershipCache where
  cache : Table (String × MembershipCacheEntry) Prod.fst
  metrics : MembershipCacheMetrics
  /-- Whether the optional shared store was given. -/
  shared : Bool

namespace MembershipCache

def create (shared : Bool) : MembershipCache := { cache := Table.empty, metrics := ⟨0, 0, 0⟩, shared }

def get (key : String) (c : MembershipCache) : Option MembershipCacheEntry := (c.cache.find key).map Prod.snd

def set (key : String) (entry : MembershipCacheEntry) (c : MembershipCache) : MembershipCache :=
  { c with cache := c.cache.put (key, entry) }

/-- The LRU lets go of a key, for its capacity or its own clock. -/
def drop (key : String) (c : MembershipCache) : MembershipCache :=
  { c with cache := c.cache.delete fun e => e.1 = key }

def hit (c : MembershipCache) : MembershipCache := { c with metrics.hits := c.metrics.hits + 1 }

def miss (c : MembershipCache) : MembershipCache := { c with metrics.misses := c.metrics.misses + 1 }

def stale (c : MembershipCache) : MembershipCache := { c with metrics.staleServed := c.metrics.staleServed + 1 }

@[simp] theorem get_create (shared : Bool) (key : String) : (create shared).get key = none := rfl

@[simp] theorem get_hit (key : String) (c : MembershipCache) : c.hit.get key = c.get key := rfl

@[simp] theorem get_miss (key : String) (c : MembershipCache) : c.miss.get key = c.get key := rfl

theorem get_set (key key' : String) (entry : MembershipCacheEntry) (c : MembershipCache) :
    (c.set key entry).get key' = if key = key' then some entry else c.get key' := by
  rw [get, set, Table.find_put]
  split
  · rfl
  · rfl

theorem get_drop {key key' : String} {entry : MembershipCacheEntry} {c : MembershipCache}
    (held : (c.drop key).get key' = some entry) : c.get key' = some entry := by
  rw [get, drop, Table.find_delete, Option.map_eq_some_iff] at held
  obtain ⟨row, kept, same⟩ := held
  rw [get, (Option.filter_eq_some_iff.mp kept).1, Option.map_some, same]

end MembershipCache

/-- What the shared store answers: it may fail, or know nothing, or give an entry written to it before. -/
inductive SharedRead
  | failed
  | missing
  | found (n : Nat)

def sharedGet (writes : List (String × MembershipCacheEntry)) (key : String) : SharedRead → Option MembershipCacheEntry
  | .failed => none
  | .missing => none
  | .found n => (writes[n]?.filter fun written => written.1 = key).map Prod.snd

theorem mem_of_sharedGet {writes : List (String × MembershipCacheEntry)} {key : String} {read : SharedRead}
    {entry : MembershipCacheEntry} (found : sharedGet writes key read = some entry) : (key, entry) ∈ writes := by
  cases read with
  | failed => cases found
  | missing => cases found
  | found n =>
    obtain ⟨written, at_n, rfl⟩ := Option.map_eq_some_iff.mp found
    obtain ⟨listed, same⟩ := Option.filter_eq_some_iff.mp at_n
    rw [← of_decide_eq_true same]
    exact List.mem_of_getElem? listed

/-- A call, with what its surroundings answer: the shared store if it is read,
the provider's `listMemberships` if it is called. -/
structure MembershipCall where
  now : Int
  userId : String
  provider : IdPProvider
  accessToken : String
  read : SharedRead
  listMemberships : String → Except IdpFailure (List String)

def MembershipCall.pair (call : MembershipCall) : String × String := (call.userId, call.provider.name)

/-- What a call returns, and what `listMemberships` gave it if it came to that. -/
structure MembershipAnswer where
  result : Except MembershipError (List String)
  idp : Option (Except IdpFailure (List String))
  staleServed : Option StaleServedEvent

def cacheKey (env : MembershipEnv) (pair : String × String) : String := env.sha256 (pair.1 ++ "|" ++ pair.2)

def younger (limit now : Int) (entry : Option MembershipCacheEntry) : Option MembershipCacheEntry :=
  entry.filter fun e => now - e.ts < limit

theorem younger_eq_some {limit now : Int} {entry : Option MembershipCacheEntry} {e : MembershipCacheEntry} :
    younger limit now entry = some e ↔ entry = some e ∧ now - e.ts < limit := by
  rw [younger, Option.filter_eq_some_iff, decide_eq_true_iff]

/-- The fresh entry of the shared store that a call finds. -/
def sharedFresh (env : MembershipEnv) (call : MembershipCall) (writes : List (String × MembershipCacheEntry))
    (c : MembershipCache) : Option MembershipCacheEntry :=
  if c.shared then younger positiveTtlS call.now (sharedGet writes (cacheKey env call.pair) call.read) else none

def getMemberships (env : MembershipEnv) (call : MembershipCall) (writes : List (String × MembershipCacheEntry))
    (c : MembershipCache) : MembershipCache × List (String × MembershipCacheEntry) × MembershipAnswer :=
  let key := cacheKey env call.pair
  let cached := c.get key
  match younger positiveTtlS call.now cached with
  | some entry => (c.hit, writes, ⟨.ok entry.memberships, none, none⟩)
  | none =>
    match sharedFresh env call writes c with
    | some entry => ((c.set key entry).hit, writes, ⟨.ok entry.memberships, none, none⟩)
    | none =>
      if call.provider.listMemberships then
        match call.listMemberships call.accessToken with
        | .ok raw =>
          let entry := { memberships := raw.map env.toLowerCase, ts := call.now }
          ((c.set key entry).miss, if c.shared then writes ++ [(key, entry)] else writes,
            ⟨.ok entry.memberships, some (.ok raw), none⟩)
        | .error failure =>
          match if failure = .transient then younger staleMaxS call.now cached else none with
          | some entry =>
            (c.stale, writes, ⟨.ok entry.memberships, some (.error failure),
              some ⟨call.userId, call.provider.name, call.now - entry.ts⟩⟩)
          | none => (c, writes, ⟨.error (.idp failure), some (.error failure), none⟩)
      else (c, writes, ⟨.error (.providerCapability "listMemberships"), none, none⟩)

/-- The ways a call can end. -/
inductive MembershipOutcome (env : MembershipEnv) (call : MembershipCall) (writes : List (String × MembershipCacheEntry))
    (c : MembershipCache) : MembershipCache × List (String × MembershipCacheEntry) × MembershipAnswer → Prop
  | fresh {entry} : c.get (cacheKey env call.pair) = some entry → call.now - entry.ts < positiveTtlS →
      MembershipOutcome env call writes c (c.hit, writes, ⟨.ok entry.memberships, none, none⟩)
  | shared {entry} : c.shared = true → (cacheKey env call.pair, entry) ∈ writes → call.now - entry.ts < positiveTtlS →
      MembershipOutcome env call writes c
        ((c.set (cacheKey env call.pair) entry).hit, writes, ⟨.ok entry.memberships, none, none⟩)
  | listed {raw} : call.listMemberships call.accessToken = .ok raw →
      MembershipOutcome env call writes c
        ((c.set (cacheKey env call.pair) ⟨raw.map env.toLowerCase, call.now⟩).miss,
          if c.shared then writes ++ [(cacheKey env call.pair, ⟨raw.map env.toLowerCase, call.now⟩)] else writes,
          ⟨.ok (raw.map env.toLowerCase), some (.ok raw), none⟩)
  | stale {entry} : c.get (cacheKey env call.pair) = some entry → call.now - entry.ts < staleMaxS →
      MembershipOutcome env call writes c
        (c.stale, writes, ⟨.ok entry.memberships, some (.error .transient),
          some ⟨call.userId, call.provider.name, call.now - entry.ts⟩⟩)
  | refused {failure} : younger positiveTtlS call.now (c.get (cacheKey env call.pair)) = none →
      sharedFresh env call writes c = none → call.provider.listMemberships = true →
      call.listMemberships call.accessToken = .error failure →
      MembershipOutcome env call writes c (c, writes, ⟨.error (.idp failure), some (.error failure), none⟩)
  | incapable : call.provider.listMemberships = false →
      MembershipOutcome env call writes c (c, writes, ⟨.error (.providerCapability "listMemberships"), none, none⟩)

theorem getMemberships_outcome (env : MembershipEnv) (call : MembershipCall)
    (writes : List (String × MembershipCacheEntry)) (c : MembershipCache) :
    MembershipOutcome env call writes c (getMemberships env call writes c) := by
  unfold getMemberships
  dsimp only
  split
  · rename_i entry young
    obtain ⟨held, fresh⟩ := younger_eq_some.mp young
    exact .fresh held fresh
  · rename_i old
    split
    · rename_i entry found
      rw [sharedFresh] at found
      split at found
      · rename_i shares
        obtain ⟨read, fresh⟩ := younger_eq_some.mp found
        exact .shared shares (mem_of_sharedGet read) fresh
      · cases found
    · rename_i unshared
      split
      · rename_i capable
        split
        · rename_i raw listing
          exact .listed listing
        · rename_i failure failing
          split
          · rename_i entry usable
            split at usable
            · rename_i transient
              subst transient
              obtain ⟨held, fresh⟩ := younger_eq_some.mp usable
              exact .stale held fresh
            · cases usable
          · exact .refused old unshared capable failing
      · rename_i incapable
        exact .incapable (Bool.eq_false_iff.mpr incapable)

/-- A call that has ended. -/
structure MembershipDone where
  call : MembershipCall
  answer : MembershipAnswer

/-- The instances, what was ever written to the store they share, and the calls so far. -/
structure MembershipHistory where
  instances : Nat → MembershipCache
  writes : List (String × MembershipCacheEntry)
  done : List MembershipDone

inductive MembershipEvent
  | call (i : Nat) (call : MembershipCall)
  | drop (i : Nat) (key : String)

namespace MembershipHistory

def start (sharing : Nat → Bool) : MembershipHistory :=
  { instances := fun i => .create (sharing i), writes := [], done := [] }

def step (env : MembershipEnv) (h : MembershipHistory) : MembershipEvent → MembershipHistory
  | .call i call =>
    let (c, writes, answer) := getMemberships env call h.writes (h.instances i)
    { instances := Function.update h.instances i c, writes, done := h.done ++ [⟨call, answer⟩] }
  | .drop i key => { h with instances := Function.update h.instances i ((h.instances i).drop key) }

end MembershipHistory

namespace MembershipDone

/-- The call got a list for its pair from `listMemberships`. -/
def Lists (d : MembershipDone) (pair : String × String) (raw : List String) : Prop :=
  d.call.pair = pair ∧ d.answer.idp = some (.ok raw)

def Revoked (d : MembershipDone) (pair : String × String) : Prop :=
  d.call.pair = pair ∧ d.answer.result = .error (.idp .tokenRevoked)

end MembershipDone

/-- A call for the pair has ended with `IdPTokenRevoked`, and no listing of the pair has succeeded since. -/
def RevokedSince (done : List MembershipDone) (pair : String × String) : Prop :=
  ∃ before r after, done = before ++ r :: after ∧ r.Revoked pair ∧ ∀ d ∈ after, ∀ raw, ¬ d.Lists pair raw

/-- Freshness of the calls of a history, in order. -/
structure MembershipFreshness (env : MembershipEnv) (done : List MembershipDone) : Prop where
  produced : ∀ before d memberships, before ++ [d] <+: done → d.answer.result = .ok memberships →
    ∃ source ∈ before ++ [d], ∃ raw, source.Lists d.call.pair raw ∧ memberships = raw.map env.toLowerCase ∧
      d.call.now - source.call.now < 600 ∧
      (60 < d.call.now - source.call.now → d.answer.idp = some (.error .transient))
  revoked : ∀ before d memberships, before ++ [d] <+: done → RevokedSince before d.call.pair →
    d.answer.result = .ok memberships → ∃ raw, d.Lists d.call.pair raw

namespace MembershipHistory

/-- Something a call for the key could return without a new listing. -/
def Leftover (h : MembershipHistory) (key : String) (now : Int) : Prop :=
  ∃ i, (∃ entry, (h.instances i).get key = some entry ∧ now - entry.ts < staleMaxS) ∨
    ((h.instances i).shared = true ∧ ∃ entry, (key, entry) ∈ h.writes ∧ now - entry.ts < positiveTtlS)

/-- The clock has not gone back. -/
def Timely (h : MembershipHistory) : MembershipEvent → Prop
  | .call _ call => ∀ d ∈ h.done, d.call.now ≤ call.now
  | .drop _ _ => True

/-- The cache key tells the call's pair from every other pair called so far, and the provider
answers `IdPTokenRevoked` only to calls for pairs of which nothing is left to serve. -/
def Clears (env : MembershipEnv) (h : MembershipHistory) : MembershipEvent → Prop
  | .call i call =>
    (∀ d ∈ h.done, cacheKey env d.call.pair = cacheKey env call.pair → d.call.pair = call.pair) ∧
      (younger positiveTtlS call.now ((h.instances i).get (cacheKey env call.pair)) = none →
        sharedFresh env call h.writes (h.instances i) = none → call.provider.listMemberships = true →
        call.listMemberships call.accessToken = .error .tokenRevoked →
          ¬ h.Leftover (cacheKey env call.pair) call.now)
  | .drop _ _ => True

end MembershipHistory

namespace MembershipOutcome
variable {env : MembershipEnv} {call : MembershipCall} {writes writes' : List (String × MembershipCacheEntry)}
  {c c' : MembershipCache} {answer : MembershipAnswer}

theorem shared_kept (out : MembershipOutcome env call writes c (c', writes', answer)) : c'.shared = c.shared := by
  cases out with
  | fresh => rfl
  | shared => rfl
  | listed => rfl
  | stale => rfl
  | refused => rfl
  | incapable => rfl

/-- An entry that a call leaves in the cache was there, or comes from the shared store, or from a new listing. -/
theorem held {key : String} {entry : MembershipCacheEntry}
    (out : MembershipOutcome env call writes c (c', writes', answer))
    (after : c'.get key = some entry) :
    c.get key = some entry ∨
      (cacheKey env call.pair = key ∧ c.shared = true ∧ (key, entry) ∈ writes ∧ call.now - entry.ts < positiveTtlS) ∨
      (cacheKey env call.pair = key ∧
        ∃ raw, answer.idp = some (.ok raw) ∧ entry = ⟨raw.map env.toLowerCase, call.now⟩) := by
  cases out with
  | fresh => exact .inl after
  | stale => exact .inl after
  | refused => exact .inl after
  | incapable => exact .inl after
  | shared shares written young =>
    rw [MembershipCache.get_hit, MembershipCache.get_set] at after
    split at after
    · rename_i same
      cases after
      subst same
      exact .inr (.inl ⟨rfl, shares, written, young⟩)
    · exact .inl after
  | @listed raw =>
    rw [MembershipCache.get_miss, MembershipCache.get_set] at after
    split at after
    · rename_i same
      cases after
      exact .inr (.inr ⟨same, raw, rfl, rfl⟩)
    · exact .inl after

theorem written {key : String} {entry : MembershipCacheEntry}
    (out : MembershipOutcome env call writes c (c', writes', answer))
    (after : (key, entry) ∈ writes') :
    (key, entry) ∈ writes ∨
      (cacheKey env call.pair = key ∧
        ∃ raw, answer.idp = some (.ok raw) ∧ entry = ⟨raw.map env.toLowerCase, call.now⟩) := by
  cases out with
  | fresh => exact .inl after
  | stale => exact .inl after
  | refused => exact .inl after
  | incapable => exact .inl after
  | shared => exact .inl after
  | @listed raw =>
    split at after
    · rcases List.mem_append.mp after with old | new
      · exact .inl old
      · cases List.mem_singleton.mp new
        exact .inr ⟨rfl, raw, rfl, rfl⟩
    · exact .inl after

/-- A list that a call returns is a new listing, or was left by an earlier one. -/
theorem returned {memberships : List String}
    (out : MembershipOutcome env call writes c (c', writes', answer))
    (result : answer.result = .ok memberships) :
    (∃ raw, answer.idp = some (.ok raw) ∧ memberships = raw.map env.toLowerCase) ∨
      ∃ entry, memberships = entry.memberships ∧
        (c.get (cacheKey env call.pair) = some entry ∨ (c.shared = true ∧ (cacheKey env call.pair, entry) ∈ writes)) ∧
        (call.now - entry.ts < positiveTtlS ∨
          (c.get (cacheKey env call.pair) = some entry ∧ call.now - entry.ts < staleMaxS ∧
            answer.idp = some (.error .transient))) := by
  cases out with
  | @fresh entry found young =>
    cases result
    exact .inr ⟨entry, rfl, .inl found, .inl young⟩
  | @shared entry shares inStore young =>
    cases result
    exact .inr ⟨entry, rfl, .inr ⟨shares, inStore⟩, .inl young⟩
  | @listed raw =>
    cases result
    exact .inl ⟨raw, rfl, rfl⟩
  | @stale entry found usable =>
    cases result
    exact .inr ⟨entry, rfl, .inl found, .inr ⟨found, usable, rfl⟩⟩
  | refused => cases result
  | incapable => cases result

theorem revoked (out : MembershipOutcome env call writes c (c', writes', answer))
    (result : answer.result = .error (.idp .tokenRevoked)) :
    answer.idp = some (.error .tokenRevoked) ∧ younger positiveTtlS call.now (c.get (cacheKey env call.pair)) = none ∧
      sharedFresh env call writes c = none ∧ call.provider.listMemberships = true ∧
      call.listMemberships call.accessToken = .error .tokenRevoked := by
  cases out with
  | fresh => cases result
  | shared => cases result
  | listed => cases result
  | stale => cases result
  | incapable => cases result
  | refused old unshared capable failing =>
    cases result
    exact ⟨rfl, old, unshared, capable, failing⟩

end MembershipOutcome

theorem RevokedSince.snoc {done : List MembershipDone} {d : MembershipDone} {pair : String × String}
    (since : RevokedSince (done ++ [d]) pair) :
    d.Revoked pair ∨ (RevokedSince done pair ∧ ∀ raw, ¬ d.Lists pair raw) := by
  obtain ⟨before, r, after, split, revoked, none⟩ := since
  rcases List.eq_nil_or_concat after with rfl | ⟨rest, last, rfl⟩
  · have ends := List.append_inj' split rfl
    cases ends.2
    exact .inl revoked
  · have regrouped : done ++ [d] = (before ++ r :: rest) ++ [last] := by
      rw [split, List.concat_eq_append, List.append_assoc, List.cons_append]
    have ends := List.append_inj' regrouped rfl
    cases ends.2
    refine .inr ⟨⟨before, r, rest, ends.1, revoked, ?_⟩, none d (by simp)⟩
    intro e member
    exact none e (by simp [member])

namespace MembershipHistory
variable {env : MembershipEnv} {h : MembershipHistory} {key : String} {now : Int}

/-- An entry stems from a listing of a pair with its key. -/
def From (env : MembershipEnv) (done : List MembershipDone) (key : String) (entry : MembershipCacheEntry) : Prop :=
  ∃ source ∈ done, ∃ raw, cacheKey env source.call.pair = key ∧ source.answer.idp = some (.ok raw) ∧
    entry = ⟨raw.map env.toLowerCase, source.call.now⟩

/-- Every entry stems from a listing, the calls so far were fresh, and nothing is left of a revoked pair. -/
structure Sound (env : MembershipEnv) (h : MembershipHistory) : Prop where
  cached : ∀ i key entry, (h.instances i).get key = some entry → From env h.done key entry
  written : ∀ key entry, (key, entry) ∈ h.writes → From env h.done key entry
  fresh : MembershipFreshness env h.done
  cleared : ∀ pair now, (∀ d ∈ h.done, d.call.now ≤ now) → RevokedSince h.done pair →
    ¬ h.Leftover (cacheKey env pair) now

theorem sound_start (sharing : Nat → Bool) : Sound env (start sharing) where
  cached i key entry held := by
    rw [start, MembershipCache.get_create] at held
    cases held
  written key entry listed := by cases listed
  fresh :=
    { produced := fun before d _ prefixed _ => absurd (List.prefix_nil.mp prefixed) (by simp)
      revoked := fun before d _ prefixed _ _ => absurd (List.prefix_nil.mp prefixed) (by simp) }
  cleared pair now _ since := by
    obtain ⟨before, r, after, split, -⟩ := since
    cases before with
    | nil => cases split
    | cons first rest => cases split

theorem Leftover.earlier {now' : Int} (left : h.Leftover key now') (order : now ≤ now') : h.Leftover key now := by
  obtain ⟨i, ⟨entry, held, young⟩ | ⟨shares, entry, written, young⟩⟩ := left
  · exact ⟨i, .inl ⟨entry, held, by omega⟩⟩
  · exact ⟨i, .inr ⟨shares, entry, written, by omega⟩⟩

theorem From.grow {done : List MembershipDone} {entry : MembershipCacheEntry} (source : From env done key entry)
    (d : MembershipDone) : From env (done ++ [d]) key entry := by
  obtain ⟨source, member, rest⟩ := source
  exact ⟨source, List.mem_append_left _ member, rest⟩

theorem get_update {i j : Nat} {c : MembershipCache} {entry : MembershipCacheEntry}
    (held : (Function.update h.instances i c j).get key = some entry) :
    (j = i ∧ c.get key = some entry) ∨ (h.instances j).get key = some entry := by
  by_cases same : j = i
  · subst same
    rw [Function.update_self] at held
    exact .inl ⟨rfl, held⟩
  · rw [Function.update_of_ne same] at held
    exact .inr held

/-- Letting go of an entry keeps a history sound. -/
theorem Sound.drop (sound : Sound env h) (i : Nat) (key : String) : Sound env (h.step env (.drop i key)) where
  cached j key' entry held := by
    rcases get_update held with ⟨rfl, dropped⟩ | old
    · exact sound.cached j key' entry (MembershipCache.get_drop dropped)
    · exact sound.cached j key' entry old
  written := sound.written
  fresh := sound.fresh
  cleared pair now late since left := by
    refine sound.cleared pair now late since ?_
    obtain ⟨j, ⟨entry, held, young⟩ | ⟨shares, entry, written, young⟩⟩ := left
    · rcases get_update held with ⟨rfl, dropped⟩ | old
      · exact ⟨j, .inl ⟨entry, MembershipCache.get_drop dropped, young⟩⟩
      · exact ⟨j, .inl ⟨entry, old, young⟩⟩
    · refine ⟨j, .inr ⟨?_, entry, written, young⟩⟩
      by_cases same : j = i
      · subst same
        simpa [step, MembershipCache.drop] using shares
      · simpa [step, Function.update_of_ne same] using shares

section call
variable {i : Nat} {call : MembershipCall} {c' : MembershipCache} {writes' : List (String × MembershipCacheEntry)}
  {answer : MembershipAnswer}

/-- What a call for the pair returns or leaves, it may find under its own key only. -/
theorem From.pair {entry : MembershipCacheEntry} (source : From env h.done (cacheKey env call.pair) entry)
    (own : ∀ d ∈ h.done, cacheKey env d.call.pair = cacheKey env call.pair → d.call.pair = call.pair) :
    ∃ source ∈ h.done, ∃ raw, source.Lists call.pair raw ∧ entry = ⟨raw.map env.toLowerCase, source.call.now⟩ := by
  obtain ⟨source, member, raw, same, listed, rfl⟩ := source
  exact ⟨source, member, raw, ⟨own source member same, listed⟩, rfl⟩

/-- A call that returns what was left of an earlier listing. -/
theorem leftover_of_entry {entry : MembershipCacheEntry}
    (place : (h.instances i).get (cacheKey env call.pair) = some entry ∨
      ((h.instances i).shared = true ∧ (cacheKey env call.pair, entry) ∈ h.writes))
    (age : call.now - entry.ts < positiveTtlS ∨
      ((h.instances i).get (cacheKey env call.pair) = some entry ∧ call.now - entry.ts < staleMaxS ∧
        answer.idp = some (.error .transient))) : h.Leftover (cacheKey env call.pair) call.now := by
  rcases age with young | ⟨held, usable, -⟩
  · rcases place with held | ⟨shares, written⟩
    · exact ⟨i, .inl ⟨entry, held, young.trans (by decide)⟩⟩
    · exact ⟨i, .inr ⟨shares, entry, written, young⟩⟩
  · exact ⟨i, .inl ⟨entry, held, usable⟩⟩

theorem Sound.fresh_call (sound : Sound env h) (timely : ∀ d ∈ h.done, d.call.now ≤ call.now)
    (own : ∀ d ∈ h.done, cacheKey env d.call.pair = cacheKey env call.pair → d.call.pair = call.pair)
    (out : MembershipOutcome env call h.writes (h.instances i) (c', writes', answer)) :
    MembershipFreshness env (h.done ++ [⟨call, answer⟩]) where
  produced before d memberships prefixed result := by
    rcases List.prefix_concat_iff.mp prefixed with last | earlier
    · obtain ⟨rfl, ends⟩ := List.append_inj' last rfl
      cases ends
      rcases out.returned result with ⟨raw, listed, rfl⟩ | ⟨entry, rfl, place, age⟩
      · exact ⟨_, List.mem_append_right _ List.mem_cons_self, raw, ⟨rfl, listed⟩, rfl, by omega, fun old => by omega⟩
      · have stems : From env h.done (cacheKey env call.pair) entry := by
          rcases place with held | ⟨-, written⟩
          · exact sound.cached i _ _ held
          · exact sound.written _ _ written
        obtain ⟨source, member, raw, listed, rfl⟩ := stems.pair own
        refine ⟨source, List.mem_append_left _ member, raw, listed, rfl, ?_, ?_⟩
        · rcases age with young | ⟨-, usable, -⟩
          · exact young.trans (by decide : positiveTtlS < 600)
          · exact usable
        · intro old
          rcases age with young | ⟨-, -, transient⟩
          · exact absurd young (not_lt.mpr old.le)
          · exact transient
    · exact sound.fresh.produced before d memberships earlier result
  revoked before d memberships prefixed since result := by
    rcases List.prefix_concat_iff.mp prefixed with last | earlier
    · obtain ⟨rfl, ends⟩ := List.append_inj' last rfl
      cases ends
      rcases out.returned result with ⟨raw, listed, -⟩ | ⟨entry, -, place, age⟩
      · exact ⟨raw, rfl, listed⟩
      · exact absurd (leftover_of_entry place age) (sound.cleared call.pair call.now timely since)
    · exact sound.fresh.revoked before d memberships earlier since result

/-- What a call leaves of a pair was there before, unless it has listed the pair. -/
theorem leftover_of_call {pair : String × String} (order : call.now ≤ now)
    (out : MembershipOutcome env call h.writes (h.instances i) (c', writes', answer))
    (left : Leftover ⟨Function.update h.instances i c', writes', h.done ++ [⟨call, answer⟩]⟩ (cacheKey env pair) now) :
    h.Leftover (cacheKey env pair) call.now ∨
      (cacheKey env call.pair = cacheKey env pair ∧ ∃ raw, answer.idp = some (.ok raw)) := by
  obtain ⟨j, ⟨entry, held, young⟩ | ⟨shares, entry, written, young⟩⟩ := left.earlier order
  · rcases get_update held with ⟨rfl, after⟩ | old
    · rcases out.held after with old | ⟨same, shares, written, fresh⟩ | ⟨same, raw, listed, -⟩
      · exact .inl ⟨j, .inl ⟨entry, old, young⟩⟩
      · exact .inl ⟨j, .inr ⟨shares, entry, written, fresh⟩⟩
      · exact .inr ⟨same, raw, listed⟩
    · exact .inl ⟨j, .inl ⟨entry, old, young⟩⟩
  · have shared : (h.instances j).shared = true := by
      by_cases same : j = i
      · subst same
        rw [← out.shared_kept]
        simpa using shares
      · simpa [Function.update_of_ne same] using shares
    rcases out.written written with old | ⟨same, raw, listed, -⟩
    · exact .inl ⟨j, .inr ⟨shared, entry, old, young⟩⟩
    · exact .inr ⟨same, raw, listed⟩

theorem From.listing {entry : MembershipCacheEntry} {raw : List String} (same : cacheKey env call.pair = key)
    (listed : answer.idp = some (.ok raw)) (made : entry = ⟨raw.map env.toLowerCase, call.now⟩) :
    From env (h.done ++ [⟨call, answer⟩]) key entry :=
  ⟨⟨call, answer⟩, List.mem_append_right _ List.mem_cons_self, raw, same, listed, made⟩

/-- A timely call that leaves nothing to serve of a pair whose revocation it meets keeps a history sound. -/
theorem Sound.calls (sound : Sound env h) (timely : h.Timely (.call i call)) (clears : h.Clears env (.call i call)) :
    Sound env (h.step env (.call i call)) := by
  obtain ⟨own, clearing⟩ := clears
  have out := getMemberships_outcome env call h.writes (h.instances i)
  rw [step]
  generalize getMemberships env call h.writes (h.instances i) = ended at out ⊢
  obtain ⟨c', writes', answer⟩ := ended
  refine ⟨?_, ?_, sound.fresh_call timely own out, ?_⟩
  · intro j key entry held
    rcases get_update held with ⟨rfl, after⟩ | old
    · rcases out.held after with old | ⟨same, -, written, -⟩ | ⟨same, raw, listed, made⟩
      · exact (sound.cached j key entry old).grow _
      · exact (sound.written key entry written).grow _
      · exact .listing same listed made
    · exact (sound.cached j key entry old).grow _
  · intro key entry after
    rcases out.written after with old | ⟨same, raw, listed, made⟩
    · exact (sound.written key entry old).grow _
    · exact .listing same listed made
  · intro pair now late since left
    have order : call.now ≤ now := late ⟨call, answer⟩ (List.mem_append_right _ List.mem_cons_self)
    rcases since.snoc with ⟨rfl, result⟩ | ⟨before, unlisted⟩
    · obtain ⟨refused, old, unshared, capable, failing⟩ := out.revoked result
      rcases leftover_of_call order out left with still | ⟨-, raw, listed⟩
      · exact clearing old unshared capable failing still
      · rw [refused] at listed
        cases listed
    · rcases leftover_of_call order out left with still | ⟨same, raw, listed⟩
      · exact sound.cleared pair call.now timely before still
      · obtain ⟨done, r, after, split, ⟨ofPair, -⟩, -⟩ := before
        have member : r ∈ h.done := by
          rw [split]
          exact List.mem_append_right _ List.mem_cons_self
        have samePair : call.pair = pair := by
          rw [← ofPair]
          exact (own r member (by rw [ofPair, same])).symm
        exact unlisted raw ⟨samePair, listed⟩

end call

/-- A call for the pair that the provider fails. -/
def unanswered (pair : String × String) (now : Int) (read : SharedRead) : MembershipCall :=
  { now, userId := pair.1, provider := ⟨pair.2, none, false, true⟩, accessToken := "", read
    listMemberships := fun _ => .error .transient }

theorem served_fresh {pair : String × String} {i : Nat} {entry : MembershipCacheEntry} (read : SharedRead)
    (young : younger positiveTtlS now ((h.instances i).get (cacheKey env pair)) = some entry) :
    (getMemberships env (unanswered pair now read) h.writes (h.instances i)).2.2 =
      ⟨.ok entry.memberships, none, none⟩ := by
  unfold getMemberships
  simp only [unanswered, MembershipCall.pair, young]

theorem served_shared {pair : String × String} {i n : Nat} {entry : MembershipCacheEntry}
    (aged : younger positiveTtlS now ((h.instances i).get (cacheKey env pair)) = none)
    (shares : (h.instances i).shared = true) (written : h.writes[n]? = some (cacheKey env pair, entry))
    (fresh : now - entry.ts < positiveTtlS) :
    (getMemberships env (unanswered pair now (.found n)) h.writes (h.instances i)).2.2 =
      ⟨.ok entry.memberships, none, none⟩ := by
  have found : sharedFresh env (unanswered pair now (.found n)) h.writes (h.instances i) = some entry := by
    rw [sharedFresh, if_pos shares, younger_eq_some]
    refine ⟨?_, fresh⟩
    have own : (cacheKey env pair, entry).1 = cacheKey env (unanswered pair now (.found n)).pair := rfl
    show (h.writes[n]?.filter fun write => write.1 = cacheKey env (unanswered pair now (.found n)).pair).map Prod.snd =
      some entry
    rw [written, Option.filter_some, if_pos (decide_eq_true own)]
    rfl
  unfold getMemberships
  rw [found]
  simp only [unanswered, MembershipCall.pair, aged]

theorem served_stale {pair : String × String} {i : Nat} {entry : MembershipCacheEntry}
    (aged : younger positiveTtlS now ((h.instances i).get (cacheKey env pair)) = none)
    (kept : younger staleMaxS now ((h.instances i).get (cacheKey env pair)) = some entry) :
    (getMemberships env (unanswered pair now .missing) h.writes (h.instances i)).2.2 =
      ⟨.ok entry.memberships, some (.error .transient), some ⟨pair.1, pair.2, now - entry.ts⟩⟩ := by
  have unshared : sharedFresh env (unanswered pair now .missing) h.writes (h.instances i) = none := by
    rw [sharedFresh]
    split
    · rfl
    · rfl
  unfold getMemberships
  rw [unshared]
  simp only [unanswered, MembershipCall.pair, aged, kept, if_true]

/-- A pair can be answered without a new listing exactly when something is left of it. -/
theorem served_iff_leftover (pair : String × String) :
    (∃ i call memberships, call.pair = pair ∧ call.now = now ∧
      (getMemberships env call h.writes (h.instances i)).2.2.result = .ok memberships ∧
        ∀ raw, (getMemberships env call h.writes (h.instances i)).2.2.idp ≠ some (.ok raw)) ↔
      h.Leftover (cacheKey env pair) now := by
  constructor
  · rintro ⟨i, call, memberships, rfl, rfl, result, unlisted⟩
    have out := getMemberships_outcome env call h.writes (h.instances i)
    rcases out.returned result with ⟨raw, listed, -⟩ | ⟨entry, -, place, age⟩
    · exact absurd listed (unlisted raw)
    · exact leftover_of_entry place age
  · rintro ⟨i, left⟩
    cases young : younger positiveTtlS now ((h.instances i).get (cacheKey env pair)) with
    | some fresh =>
      have answer := served_fresh .missing young
      exact ⟨i, unanswered pair now .missing, fresh.memberships, rfl, rfl, by rw [answer], by simp [answer]⟩
    | none =>
      rcases left with ⟨entry, held, usable⟩ | ⟨shares, entry, written, fresh⟩
      · have answer := served_stale young (younger_eq_some.mpr ⟨held, usable⟩)
        exact ⟨i, unanswered pair now .missing, entry.memberships, rfl, rfl, by rw [answer], by simp [answer]⟩
      · obtain ⟨n, at_n⟩ := List.mem_iff_getElem?.mp written
        have answer := served_shared young shares at_n fresh
        exact ⟨i, unanswered pair now (.found n), entry.memberships, rfl, rfl, by rw [answer], by simp [answer]⟩

/-- Where a revocation leaves something of its pair, the next call can be answered with it. -/
theorem exists_unfresh {before : List MembershipDone} {r : MembershipDone} {pair : String × String}
    (ended : h.done = before ++ [r]) (revoked : r.Revoked pair) (left : h.Leftover (cacheKey env pair) now) :
    ∃ i call, call.now = now ∧ ¬ MembershipFreshness env (h.step env (.call i call)).done := by
  obtain ⟨i, call, memberships, rfl, rfl, result, unlisted⟩ := (served_iff_leftover pair).mpr left
  refine ⟨i, call, rfl, fun fresh => ?_⟩
  have since : RevokedSince h.done call.pair := ⟨before, r, [], ended, revoked, by simp⟩
  obtain ⟨raw, -, listed⟩ := fresh.revoked h.done ⟨call, _⟩ memberships (List.prefix_refl _) since result
  exact unlisted raw listed

/-- In every timely run in which the provider answers `IdPTokenRevoked` only to pairs of which
nothing is left to serve, every call was fresh. -/
theorem membershipFreshness (env : MembershipEnv) (sharing : Nat → Bool) (events : List MembershipEvent)
    (timely : GuardedRun.Meets (step env) Timely (start sharing) events)
    (clears : GuardedRun.Meets (step env) (Clears env) (start sharing) events) :
    MembershipFreshness env (events.foldl (step env) (start sharing)).done := by
  have run := GuardedRun.of_meets (timely.and clears)
  refine (run.invariant (P := Sound env) ?_ (sound_start sharing)).fresh
  intro h event sound guarded
  cases event with
  | call i call => exact sound.calls guarded.1 guarded.2
  | drop i key => exact sound.drop i key

/-- The hash and the case folding, as far as the runs below come to them. -/
def sampleEnv : MembershipEnv where
  sha256 s := if s = "user-1|github" then "0e158338916930a38db4f04c1a1b98f4ab5fd53a8a8e3d9b42376d5ae757bab1" else ""
  toLowerCase := id

def sampleCall (now : Int) (answer : Except IdpFailure (List String)) : MembershipCall :=
  { now, userId := "user-1", provider := ⟨"github", none, false, true⟩, accessToken := "tok", read := .missing
    listMemberships := fun _ => answer }

/-- Ten minutes after a listing nothing is left of it when the token is found revoked. -/
theorem membershipFreshness_revoked_late :
    MembershipFreshness sampleEnv
      ([.call 0 (sampleCall 0 (.ok ["acme"])), .call 0 (sampleCall 600 (.error .tokenRevoked))].foldl (step sampleEnv)
        (start fun _ => false)).done := by
  have listed : ((start fun _ => false).step sampleEnv (.call 0 (sampleCall 0 (.ok ["acme"])))).done =
      [⟨sampleCall 0 (.ok ["acme"]), ⟨.ok ["acme"], some (.ok ["acme"]), none⟩⟩] := rfl
  have cleared : ¬ ((start fun _ => false).step sampleEnv (.call 0 (sampleCall 0 (.ok ["acme"])))).Leftover
      (cacheKey sampleEnv ("user-1", "github")) 600 := by
    rintro ⟨i, ⟨entry, held, young⟩ | ⟨-, entry, written, -⟩⟩
    · rcases get_update held with ⟨-, own⟩ | old
      · cases own.symm.trans (rfl : _ = some (⟨["acme"], 0⟩ : MembershipCacheEntry))
        exact absurd young (by decide)
      · cases old
    · cases written
  have timely : GuardedRun.Meets (step sampleEnv) Timely (start fun _ => false)
      [.call 0 (sampleCall 0 (.ok ["acme"])), .call 0 (sampleCall 600 (.error .tokenRevoked))] := by
    refine ⟨?_, ?_, trivial⟩
    · intro d none
      cases none
    · rw [Timely, listed]
      exact List.forall_mem_singleton.mpr (by decide)
  have clears : GuardedRun.Meets (step sampleEnv) (Clears sampleEnv) (start fun _ => false)
      [.call 0 (sampleCall 0 (.ok ["acme"])), .call 0 (sampleCall 600 (.error .tokenRevoked))] := by
    refine ⟨⟨?_, ?_⟩, ⟨?_, fun _ _ _ _ => cleared⟩, trivial⟩
    · intro d none
      cases none
    · intro _ _ _ failing
      cases failing
    · rw [listed]
      exact List.forall_mem_singleton.mpr fun _ => rfl
  exact membershipFreshness sampleEnv (fun _ => false) _ timely clears

/-- The list of second 0 is returned at second 130, after a revocation at second 100. -/
theorem not_membershipFreshness_revoked :
    ¬ ∀ env sharing events, GuardedRun.Meets (step env) Timely (start sharing) events →
      MembershipFreshness env (events.foldl (step env) (start sharing)).done := by
  intro fresh
  have timely : GuardedRun.Meets (step sampleEnv) Timely (start fun _ => false)
      [.call 0 (sampleCall 0 (.ok ["acme"])), .call 0 (sampleCall 100 (.error .tokenRevoked)),
        .call 0 (sampleCall 130 (.error .transient))] := by
    refine ⟨?_, ?_, ?_, trivial⟩
    · intro d none
      cases none
    · exact List.forall_mem_singleton.mpr (by decide)
    · exact List.forall_mem_cons.mpr ⟨by decide, List.forall_mem_singleton.mpr (by decide)⟩
  have ended := (fresh sampleEnv (fun _ => false) _ timely).revoked
    [⟨sampleCall 0 (.ok ["acme"]), ⟨.ok ["acme"], some (.ok ["acme"]), none⟩⟩,
      ⟨sampleCall 100 (.error .tokenRevoked), ⟨.error (.idp .tokenRevoked), some (.error .tokenRevoked), none⟩⟩]
    ⟨sampleCall 130 (.error .transient), ⟨.ok ["acme"], some (.error .transient), some ⟨"user-1", "github", 130⟩⟩⟩ ["acme"]
    (List.prefix_refl _) ⟨[_], _, [], rfl, ⟨rfl, rfl⟩, by simp⟩ rfl
  obtain ⟨raw, -, listed⟩ := ended
  cases listed

end MembershipHistory

end Coordinator
