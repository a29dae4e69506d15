import Mathlib.Logic.Function.Basic
import Coordinator.Library.GuardedRun

namespace Coordinator

/-- The token set of one grant. Refresh tokens are numbered in the order in
which the server issued them. -/
structure TokenSet where
  accessToken : String
  refreshToken : Nat
  accessExpiresAt : Nat
  deriving DecidableEq, Repr

/-- What the token endpoint answers next to the new refresh token. -/
structure TokenResponse where
  accessToken : String
  expiresIn : Nat
  deriving DecidableEq, Repr

/-- The shared token store, and how often a set was saved to it. -/
structure TokenStore where
  tokens : Option TokenSet
  saves : Nat
  deriving DecidableEq, Repr

/-- A client, and how many saves the store had seen when the client last took
its set from the store or saved it there. -/
structure SdkClient where
  tokens : Option TokenSet
  seen : Nat
  deriving DecidableEq, Repr

/-- Where the client that holds the refresh lock stands in `refresh`. -/
inductive RefreshPhase where
  | locked
  | requesting
  | awaiting
  | saving (newSet : TokenSet)
  deriving DecidableEq, Repr

/-- A `refresh_token` grant request, and the refresh token that the store held when it was sent. -/
structure GrantRequest where
  sent : Nat
  saved : Option Nat
  deriving DecidableEq, Repr

/-- Clients in different processes with one store and one lock. The clock is in
milliseconds; `issued` counts the refresh tokens of the server. -/
structure SdkWorld where
  clock : Nat
  store : TokenStore
  client : Nat → SdkClient
  lock : Option (Nat × RefreshPhase)
  issued : Nat
  requests : List GrantRequest

inductive SdkEvent where
  | tick (ms : Nat)
  | loadFromStore (client : Nat)
  | acquire (client : Nat)
  | next
  | answer (response : Option TokenResponse)
  | crash (client : Nat)
  deriving DecidableEq, Repr

namespace SdkWorld

def initial (found : Option TokenSet) : SdkWorld :=
  ⟨0, ⟨found, 0⟩, fun _ => ⟨none, 0⟩, none, found.elim 0 (·.refreshToken + 1), []⟩

def setClient (w : SdkWorld) (c : Nat) (client : SdkClient) : SdkWorld :=
  { w with client := Function.update w.client c client }

/-- The stored access token has more than a minute left. -/
def fresh (w : SdkWorld) (stored : TokenSet) : Bool := decide (w.clock / 1000 + 60 < stored.accessExpiresAt)

/-- The start of `doRefresh`. -/
def doRefresh (w : SdkWorld) (c : Nat) : SdkWorld :=
  match (w.client c).tokens with
  | some _ => { w with lock := some (c, .requesting) }
  | none => { w with lock := none }

/-- The store is read again under the lock; its set is taken when it is still fresh. -/
def reread (w : SdkWorld) (c : Nat) : SdkWorld :=
  match w.store.tokens with
  | some stored =>
    if w.fresh stored then { w.setClient c ⟨some stored, w.store.saves⟩ with lock := none } else w.doRefresh c
  | none => w.doRefresh c

/-- The request carries the client's own refresh token. -/
def send (w : SdkWorld) (c : Nat) : SdkWorld :=
  match (w.client c).tokens with
  | some tokens =>
    { w with
      lock := some (c, .awaiting)
      requests := w.requests ++ [⟨tokens.refreshToken, w.store.tokens.map TokenSet.refreshToken⟩] }
  | none => { w with lock := none }

def save (w : SdkWorld) (c : Nat) (newSet : TokenSet) : SdkWorld :=
  { w.setClient c ⟨(w.client c).tokens, w.store.saves + 1⟩ with
    store := ⟨some newSet, w.store.saves + 1⟩
    lock := none }

def receive (w : SdkWorld) (c : Nat) (response : TokenResponse) : SdkWorld :=
  let newSet : TokenSet := ⟨response.accessToken, w.issued, w.clock / 1000 + response.expiresIn⟩
  { w.setClient c ⟨some newSet, (w.client c).seen⟩ with
    lock := some (c, .saving newSet)
    issued := w.issued + 1 }

/-- The next step of the holder of the lock, when it does not wait for the server. -/
def advance (w : SdkWorld) : SdkWorld :=
  match w.lock with
  | some (c, .locked) => w.reread c
  | some (c, .requesting) => w.send c
  | some (c, .saving newSet) => w.save c newSet
  | some (_, .awaiting) => w
  | none => w

/-- An answer of the token endpoint, or a failure on the way to it, which ends the refresh. -/
def answered (w : SdkWorld) (response : Option TokenResponse) : SdkWorld :=
  match w.lock with
  | some (c, .awaiting) => response.elim { w with lock := none } (w.receive c)
  | some (_, .requesting) => response.elim { w with lock := none } fun _ => w
  | _ => w

def step (w : SdkWorld) : SdkEvent → SdkWorld
  | .tick ms => { w with clock := w.clock + ms }
  | .loadFromStore c =>
    match (w.client c).tokens with
    | some _ => w
    | none => w.setClient c ⟨w.store.tokens, w.store.saves⟩
  | .acquire c => if w.lock = none then { w with lock := some (c, .locked) } else w
  | .next => w.advance
  | .answer response => w.answered response
  | .crash c =>
    { w.setClient c ⟨none, 0⟩ with lock := if w.lock.map Prod.fst = some c then none else w.lock }

/-- Every grant request so far carried the refresh token most recently saved in the store. -/
def CarriesSaved (w : SdkWorld) : Prop := ∀ request ∈ w.requests, request.saved = some request.sent

instance (w : SdkWorld) : Decidable w.CarriesSaved := inferInstanceAs (Decidable (∀ request ∈ w.requests, _))

/-- A client that is about to send a grant request was the last to save to the
store, or has taken its set from the store since the last save. -/
def SawLastSave (w : SdkWorld) : SdkEvent → Prop
  | .next => ∀ c, w.lock = some (c, .requesting) → (w.client c).seen = w.store.saves
  | _ => True

/-- The set of a client against the store's: the same one, or an older one that
others have rotated since. -/
def Follows (store : TokenStore) (client : SdkClient) (tokens : TokenSet) : Prop :=
  client.seen = store.saves ∧ store.tokens = some tokens ∨
    client.seen < store.saves ∧ ∃ stored, store.tokens = some stored ∧ tokens.refreshToken < stored.refreshToken

structure Consistent (w : SdkWorld) : Prop where
  storeIssued : ∀ stored, w.store.tokens = some stored → stored.refreshToken < w.issued
  issued : ∀ c tokens, (w.client c).tokens = some tokens → tokens.refreshToken < w.issued
  follows : ∀ c tokens, (w.client c).tokens = some tokens →
    (∃ newSet, w.lock = some (c, .saving newSet)) ∨ Follows w.store (w.client c) tokens
  requesting : ∀ c, w.lock = some (c, .requesting) → ∃ tokens, (w.client c).tokens = some tokens
  saving : ∀ c newSet, w.lock = some (c, .saving newSet) →
    (w.client c).tokens = some newSet ∧
      (∀ stored, w.store.tokens = some stored → stored.refreshToken < newSet.refreshToken) ∧
      ∀ d tokens, d ≠ c → (w.client d).tokens = some tokens → tokens.refreshToken < newSet.refreshToken
  carried : w.CarriesSaved

variable {w : SdkWorld}

theorem setClient_self (w : SdkWorld) (c : Nat) (client : SdkClient) : (w.setClient c client).client c = client :=
  Function.update_self ..

theorem setClient_other {c d : Nat} (apart : d ≠ c) (client : SdkClient) : (w.setClient c client).client d = w.client d :=
  Function.update_of_ne apart ..

theorem client_lock (w : SdkWorld) (lock : Option (Nat × RefreshPhase)) : ({ w with lock } : SdkWorld).client = w.client := rfl

/-- The lock is given up, or taken, by a client that is not in the middle of a save. -/
theorem Consistent.relock (consistent : w.Consistent) {lock : Option (Nat × RefreshPhase)}
    (idle : ∀ c newSet, w.lock ≠ some (c, .saving newSet)) (quiet : ∀ c newSet, lock ≠ some (c, .saving newSet))
    (ready : ∀ c, lock = some (c, .requesting) → ∃ tokens, (w.client c).tokens = some tokens) :
    ({ w with lock } : SdkWorld).Consistent := by
  refine ⟨consistent.storeIssued, consistent.issued, ?_, ready, ?_, consistent.carried⟩
  · intro c tokens held
    rcases consistent.follows c tokens held with ⟨newSet, saving⟩ | follows
    · exact absurd saving (idle c newSet)
    · exact .inr follows
  · intro c newSet saving
    exact absurd saving (quiet c newSet)

/-- A client drops its set, or takes the one in the store. -/
theorem Consistent.retake (consistent : w.Consistent) {c : Nat} {client : SdkClient}
    {lock : Option (Nat × RefreshPhase)} (other : ∀ d phase, d ≠ c → w.lock = some (d, phase) → lock = some (d, phase))
    (left : ∀ d phase, lock = some (d, phase) → w.lock = some (d, phase))
    (taken : client.tokens = none ∨ client.tokens = w.store.tokens ∧ client.seen = w.store.saves)
    (mine : ∀ phase, lock = some (c, phase) → phase = .locked ∨ phase = .awaiting) :
    ({ w.setClient c client with lock } : SdkWorld).Consistent := by
  have own : ∀ tokens, client.tokens = some tokens → w.store.tokens = some tokens ∧ client.seen = w.store.saves := by
    intro tokens held
    rcases taken with none | ⟨stored, seen⟩
    · rw [none] at held
      cases held
    · exact ⟨stored.symm.trans held, seen⟩
  have busy : ∀ phase, lock = some (c, phase) → phase ≠ .requesting ∧ ∀ newSet, phase ≠ .saving newSet := by
    intro phase held
    rcases mine phase held with rfl | rfl <;> simp
  refine ⟨consistent.storeIssued, ?_, ?_, ?_, ?_, consistent.carried⟩
  · intro d tokens held
    rw [client_lock] at held
    by_cases same : d = c
    · rw [same, setClient_self] at held
      exact consistent.storeIssued tokens (own tokens held).1
    · rw [setClient_other same] at held
      exact consistent.issued d tokens held
  · intro d tokens held
    rw [client_lock] at held ⊢
    by_cases same : d = c
    · rw [same, setClient_self] at held ⊢
      exact .inr (.inl ⟨(own tokens held).2, (own tokens held).1⟩)
    · rw [setClient_other same] at held ⊢
      rcases consistent.follows d tokens held with ⟨newSet, saving⟩ | follows
      · exact .inl ⟨newSet, other d _ same saving⟩
      · exact .inr follows
  · intro d requesting
    have same : d ≠ c := fun same => (busy _ (same ▸ requesting)).1 rfl
    rw [client_lock, setClient_other same]
    exact consistent.requesting d (left d _ requesting)
  · intro d newSet saving
    have same : d ≠ c := fun same => (busy _ (same ▸ saving)).2 newSet rfl
    obtain ⟨held, above, others⟩ := consistent.saving d newSet (left d _ saving)
    rw [client_lock, setClient_other same]
    refine ⟨held, above, fun b tokens apart holds => ?_⟩
    by_cases mine : b = c
    · rw [mine, setClient_self] at holds
      exact above tokens (own tokens holds).1
    · rw [setClient_other mine] at holds
      exact others b tokens apart holds

theorem Consistent.doRefresh (consistent : w.Consistent) {c : Nat} (locked : w.lock = some (c, .locked)) :
    (w.doRefresh c).Consistent := by
  have idle : ∀ d newSet, w.lock ≠ some (d, .saving newSet) := by
    intro d newSet saving
    cases locked.symm.trans saving
  unfold SdkWorld.doRefresh
  split
  · rename_i tokens held
    refine consistent.relock idle (by simp) ?_
    intro d requesting
    cases requesting
    exact ⟨tokens, held⟩
  · exact consistent.relock idle (by simp) (by simp)

theorem Consistent.reread (consistent : w.Consistent) {c : Nat} (locked : w.lock = some (c, .locked)) :
    (w.reread c).Consistent := by
  unfold SdkWorld.reread
  split
  · rename_i stored found
    split
    · refine consistent.retake ?_ (by simp) (.inr ⟨found.symm, rfl⟩) (by simp)
      intro d phase apart held
      cases locked.symm.trans held
      exact absurd rfl apart
    · exact consistent.doRefresh locked
  · exact consistent.doRefresh locked

/-- The request of a client that saw the last save carries the token in the store. -/
theorem Consistent.send (consistent : w.Consistent) {c : Nat} (requesting : w.lock = some (c, .requesting))
    (seen : (w.client c).seen = w.store.saves) : (w.send c).Consistent := by
  have idle : ∀ d newSet, w.lock ≠ some (d, .saving newSet) := by
    intro d newSet saving
    cases requesting.symm.trans saving
  unfold SdkWorld.send
  split
  · rename_i tokens held
    have awaiting : ({ w with lock := some (c, .awaiting) } : SdkWorld).Consistent :=
      consistent.relock idle (by simp) (by simp)
    refine { awaiting with carried := ?_ }
    intro request logged
    rcases List.mem_append.mp logged with old | new
    · exact consistent.carried request old
    · obtain rfl := List.mem_singleton.mp new
      rcases consistent.follows c tokens held with ⟨newSet, saving⟩ | ⟨_, stored⟩ | ⟨behind, _⟩
      · exact absurd saving (idle c newSet)
      · rw [stored, Option.map_some]
      · omega
  · exact consistent.relock idle (by simp) (by simp)

theorem Consistent.receive (consistent : w.Consistent) {c : Nat} (awaiting : w.lock = some (c, .awaiting))
    (response : TokenResponse) : (w.receive c response).Consistent := by
  have following : ∀ d tokens, (w.client d).tokens = some tokens → Follows w.store (w.client d) tokens := by
    intro d tokens held
    rcases consistent.follows d tokens held with ⟨newSet, saving⟩ | follows
    · cases awaiting.symm.trans saving
    · exact follows
  refine ⟨?_, ?_, ?_, ?_, ?_, consistent.carried⟩
  · intro stored found
    exact Nat.lt_succ_of_lt (consistent.storeIssued stored found)
  · intro d tokens held
    simp only [SdkWorld.receive] at held ⊢
    by_cases same : d = c
    · subst same
      rw [setClient_self] at held
      cases held
      exact Nat.lt_succ_self _
    · rw [setClient_other same] at held
      exact Nat.lt_succ_of_lt (consistent.issued d tokens held)
  · intro d tokens held
    simp only [SdkWorld.receive] at held ⊢
    by_cases same : d = c
    · subst same
      exact .inl ⟨_, rfl⟩
    · rw [setClient_other same] at held ⊢
      exact .inr (following d tokens held)
  · intro d requesting
    cases requesting
  · intro d newSet saving
    simp only [SdkWorld.receive] at saving ⊢
    cases saving
    refine ⟨by rw [setClient_self], consistent.storeIssued, ?_⟩
    intro b tokens apart held
    rw [setClient_other apart] at held
    exact consistent.issued b tokens held

theorem Consistent.save (consistent : w.Consistent) {c : Nat} {newSet : TokenSet}
    (saving : w.lock = some (c, .saving newSet)) : (w.save c newSet).Consistent := by
  obtain ⟨own, above, others⟩ := consistent.saving c newSet saving
  refine ⟨?_, ?_, ?_, by simp [SdkWorld.save], by simp [SdkWorld.save], consistent.carried⟩
  · intro stored found
    obtain rfl := Option.some.inj found
    exact consistent.issued c newSet own
  · intro d tokens held
    simp only [SdkWorld.save] at held ⊢
    by_cases same : d = c
    · subst same
      rw [setClient_self] at held
      exact consistent.issued d tokens held
    · rw [setClient_other same] at held
      exact consistent.issued d tokens held
  · intro d tokens held
    simp only [SdkWorld.save] at held ⊢
    by_cases same : d = c
    · subst same
      rw [setClient_self] at held ⊢
      exact .inr (.inl ⟨rfl, own.symm.trans held⟩)
    · rw [setClient_other same] at held ⊢
      have older := others d tokens same held
      rcases consistent.follows d tokens held with ⟨other, theirs⟩ | follows
      · cases saving.symm.trans theirs
        exact absurd rfl same
      · have behind : (w.client d).seen ≤ w.store.saves := by
          rcases follows with ⟨level, _⟩ | ⟨below, _⟩ <;> omega
        exact .inr (.inr ⟨Nat.lt_succ_of_le behind, newSet, rfl, older⟩)

theorem Consistent.loadFromStore (consistent : w.Consistent) (c : Nat) : (w.step (.loadFromStore c)).Consistent := by
  simp only [SdkWorld.step]
  split
  · exact consistent
  · rename_i none
    have same : ∀ d phase, w.lock = some (d, phase) → w.lock = some (d, phase) := fun _ _ held => held
    refine consistent.retake (fun d phase _ => same d phase) same (.inr ⟨rfl, rfl⟩) ?_
    intro phase held
    cases phase with
    | locked => exact .inl rfl
    | awaiting => exact .inr rfl
    | requesting =>
      obtain ⟨tokens, some⟩ := consistent.requesting c held
      cases none.symm.trans some
    | saving newSet => cases none.symm.trans (consistent.saving c newSet held).1

/-- A client that crashes loses its set, and the lock if it has it. -/
theorem Consistent.crash (consistent : w.Consistent) (c : Nat) : (w.step (.crash c)).Consistent := by
  refine consistent.retake ?_ ?_ (.inl rfl) ?_
  · intro d phase apart held
    rw [held, Option.map_some, if_neg (by simpa using apart)]
  · intro d phase held
    split at held
    · cases held
    · exact held
  · intro phase held
    split at held
    · cases held
    · rename_i apart
      rw [held] at apart
      exact absurd rfl apart

theorem Consistent.answered (consistent : w.Consistent) (response : Option TokenResponse) :
    (w.answered response).Consistent := by
  unfold SdkWorld.answered
  split
  · rename_i c awaiting
    cases response with
    | none => exact consistent.relock (by simp [awaiting]) (by simp) (by simp)
    | some answer => exact consistent.receive awaiting answer
  · rename_i c requesting
    cases response with
    | none => exact consistent.relock (by simp [requesting]) (by simp) (by simp)
    | some answer => exact consistent
  · exact consistent

/-- A step in which no client sends without having seen the last save keeps the invariant. -/
theorem Consistent.step (e : SdkEvent) (consistent : w.Consistent) (saw : w.SawLastSave e) : (w.step e).Consistent := by
  cases e with
  | tick ms => exact ⟨consistent.1, consistent.2, consistent.3, consistent.4, consistent.5, consistent.6⟩
  | loadFromStore c => exact consistent.loadFromStore c
  | acquire c =>
    simp only [SdkWorld.step]
    split
    · rename_i free
      exact consistent.relock (by simp [free]) (by simp) (by simp)
    · exact consistent
  | crash c => exact consistent.crash c
  | next =>
    change w.advance.Consistent
    unfold SdkWorld.advance
    split
    · exact consistent.reread ‹_›
    · rename_i c requesting
      exact consistent.send requesting (saw c requesting)
    · exact consistent.save ‹_›
    · exact consistent
    · exact consistent
  | answer response => exact consistent.answered response

end SdkWorld
end Coordinator
