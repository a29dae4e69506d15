import Coordinator.RateLimiter
import Coordinator.Library.GuardedRun

namespace Coordinator

/-- A row of `oauth_state`. -/
structure OAuthStateRow where
  state : String
  codeVerifier : String
  redirectUri : String
  provider : String
  createdAt : Int
  expiresAt : Int
  consumedAt : Option Int
  nonce : Option String
  deriving DecidableEq

abbrev OAuthStates := Table OAuthStateRow OAuthStateRow.state

def oauthStateTtlS : Int := 600

/-- `none` where the state is taken, and the INSERT throws. -/
def createOAuthStateWithVerifier (now : Int) (provider redirectUri codeVerifier : String) (nonce : Option String)
    (state : String) (T : OAuthStates) : Option OAuthStates :=
  T.insert
    { state, codeVerifier, redirectUri, provider, createdAt := now, expiresAt := now + oauthStateTtlS, consumedAt := none,
      nonce }

def OAuthStateRow.consume (now : Int) (r : OAuthStateRow) : OAuthStateRow := { r with consumedAt := some now }

@[simp] theorem OAuthStateRow.consume_state (now : Int) (r : OAuthStateRow) : (r.consume now).state = r.state := rfl

/-- `consumed_at IS NULL AND expires_at > ?`. -/
def OAuthStateRow.live (now : Int) (r : OAuthStateRow) : Bool := r.consumedAt.isNone && now < r.expiresAt

/-- The `UPDATE … RETURNING`. -/
def consumeOAuthState (now : Int) (state : String) (T : OAuthStates) : OAuthStates × Option OAuthStateRow :=
  (T.update (fun r => r.state = state && r.live now) (OAuthStateRow.consume now) (OAuthStateRow.consume_state now),
    (T.find state).filter (OAuthStateRow.live now))

inductive OAuthStateStatus
  | unknown
  | expired
  | consumed
  deriving DecidableEq

/-- `none` where the source throws. -/
def inspectOAuthState (now : Int) (state : String) (T : OAuthStates) : Option OAuthStateStatus :=
  match T.find state with
  | none => some .unknown
  | some row => if row.consumedAt ≠ none then some .consumed else if row.expiresAt ≤ now then some .expired else none

/-- The settings of the server: `bindState` is the HMAC under the state-binding
key, `computeChallenge` the S256 challenge. -/
structure OAuthEnv where
  publicUrl : String
  bindState : String → String
  computeChallenge : String → String

/-- `publicUrl.replace(/\/$/, "")`. -/
def issuer (publicUrl : String) : String :=
  if publicUrl.toList.getLast? = some '/' then String.ofList publicUrl.toList.dropLast else publicUrl

def OAuthEnv.redirectUri (env : OAuthEnv) : String := issuer env.publicUrl ++ "/api/auth/oauth/callback"

/-- What `GET /auth/login` reads of its request. -/
structure AuthLoginRequest where
  remoteAddress : Option String
  provider : Option String
  deriving DecidableEq

/-- The random values that `GET /auth/login` draws. -/
structure LoginDraws where
  state : String
  codeVerifier : String
  nonce : String
  deriving DecidableEq

/-- A login that was sent to its provider: what the authorize URL is built
from, what is kept for the callback, and the cookie that the browser gets. -/
structure Issued where
  state : String
  codeVerifier : String
  codeChallenge : String
  nonce : String
  provider : String
  redirectUri : String
  cookie : String
  time : Int
  deriving DecidableEq

inductive AuthLoginReply
  | rateLimited (retryAfterSeconds : Int)
  | unknownProvider (observed : String)
  | picker (names : List String)
  | noIdpConfigured
  | redirected (login : Issued)
  | thrown
  deriving DecidableEq

/-- What the callback reads of its request. -/
structure CallbackRequest where
  state : Option String
  code : Option String
  error : Option String
  errorDescription : Option String
  stateCookie : Option String
  deriving DecidableEq

/-- A call of a provider's `exchangeCode`, with the state and the cookie it was made for. -/
structure Exchange where
  state : String
  cookie : String
  provider : String
  code : String
  redirectUri : String
  codeVerifier : String
  nonce : Option String
  time : Int
  deriving DecidableEq

/-- A refusal, with the audit event that goes with it and its reason. -/
structure CallbackRefusal where
  status : Nat
  code : String
  message : String
  audit : Option (String × Option String)
  deriving DecidableEq

inductive CallbackReply
  | refused (refusal : CallbackRefusal)
  | exchanging (exchange : Exchange)
  | thrown
  deriving DecidableEq

/-- The exchange that a callback has begun. -/
def CallbackReply.exchange? : CallbackReply → Option Exchange
  | .exchanging exchange => some exchange
  | .refused _ | .thrown => none

/-- The table of states with the server in front of it. `providers` are the
registered ones in the order of their registration. -/
structure OAuthWorld where
  clock : Int
  limiter : RateLimiter
  providers : List String
  states : OAuthStates
  issued : List Issued
  consumed : List String
  exchanges : List Exchange

/-- `later` is the clock when `inspectOAuthState` reads it. `sweep` deletes a
batch of the rows that are past their expiry by the buffer. -/
inductive OAuthEvent
  | tick (seconds : Int)
  | restart (providers : List String)
  | login (request : AuthLoginRequest) (draws : LoginDraws)
  | callback (request : CallbackRequest) (later : Int)
  | sweep (victims : List String)

namespace OAuthWorld

def boot (clock : Int) (providers : List String) : OAuthWorld :=
  ⟨clock, .fresh, providers, .empty, [], [], []⟩

/-- The provider of a login, or the answer to a request that names none. -/
def selectProvider (providers : List String) : Option String → Except AuthLoginReply String
  | some requested => if requested ∈ providers then .ok requested else .error (.unknownProvider requested)
  | none =>
    if 1 < providers.length then .error (.picker providers)
    else match providers.head? with
      | none => .error .noIdpConfigured
      | some provider => .ok provider

def loginLimit : RateLimitConfig := { per := 30, windowSeconds := 60 }

def handleAuthLogin (env : OAuthEnv) (request : AuthLoginRequest) (draws : LoginDraws) (w : OAuthWorld) :
    OAuthWorld × AuthLoginReply :=
  let (limiter, rate) := w.limiter.check ("auth-login:" ++ request.remoteAddress.getD "unknown") loginLimit w.clock
  let w := { w with limiter }
  match rate with
  | .denied retryAfterSeconds => (w, .rateLimited retryAfterSeconds)
  | .allowed _ _ =>
    match selectProvider w.providers request.provider with
    | .error reply => (w, reply)
    | .ok provider =>
      match createOAuthStateWithVerifier w.clock provider env.redirectUri draws.codeVerifier draws.nonce draws.state
        w.states with
      | none => (w, .thrown)
      | some states =>
        let login : Issued :=
          { state := draws.state, codeVerifier := draws.codeVerifier, codeChallenge := env.computeChallenge draws.codeVerifier,
            nonce := draws.nonce, provider, redirectUri := env.redirectUri, cookie := env.bindState draws.state,
            time := w.clock }
        ({ w with states, issued := w.issued ++ [login] }, .redirected login)

def stateReplay (reason : String) (status : Nat) (code message : String) : CallbackReply :=
  .refused ⟨status, code, message, some ("auth.state.replay", some reason)⟩

/-- The answer to a state that could not be consumed. -/
def refuseState : Option OAuthStateStatus → CallbackReply
  | some .unknown => stateReplay "state_unknown" 400 "UNKNOWN_STATE" "State not recognized"
  | some .consumed =>
    stateReplay "state_consumed" 409 "STATE_ALREADY_CONSUMED" "This authorization was already completed"
  | some .expired => stateReplay "state_expired" 400 "STATE_EXPIRED" "Authorization expired; please retry"
  | none => .thrown

/-- `none` is a cookie that is missing or empty. -/
def checkStateCookie (env : OAuthEnv) (state : String) : Option String → Except CallbackReply String
  | none => .error (stateReplay "cookie_missing" 400 "INVALID_STATE" "State validation failed")
  | some cookie =>
    if cookie = "" then .error (stateReplay "cookie_missing" 400 "INVALID_STATE" "State validation failed")
    else if cookie = env.bindState state then .ok cookie
    else .error (stateReplay "hmac_mismatch" 400 "INVALID_STATE" "State validation failed")

/-- The callback from the binding check on, up to the `await` of `exchangeCode`. -/
def redeem (env : OAuthEnv) (state code : String) (stateCookie : Option String) (later : Int) (w : OAuthWorld) :
    OAuthWorld × CallbackReply :=
  match checkStateCookie env state stateCookie with
  | .error reply => (w, reply)
  | .ok cookie =>
    match consumeOAuthState w.clock state w.states with
    | (_, none) => (w, refuseState (inspectOAuthState later state w.states))
    | (states, some row) =>
      let w := { w with states, consumed := w.consumed ++ [state] }
      if row.provider ∈ w.providers then
        let exchange : Exchange :=
          { state, cookie, provider := row.provider, code, redirectUri := row.redirectUri, codeVerifier := row.codeVerifier,
            nonce := row.nonce, time := w.clock }
        ({ w with exchanges := w.exchanges ++ [exchange] }, .exchanging exchange)
      else
        (w, .refused ⟨400, "PROVIDER_MISMATCH", "State does not match a registered provider",
          some ("auth.state.provider_unregistered", none)⟩)

/-- An absent parameter and an empty one count the same. -/
def handleOAuthCallback (env : OAuthEnv) (request : CallbackRequest) (later : Int) (w : OAuthWorld) :
    OAuthWorld × CallbackReply :=
  match request.error.filter (· ≠ "") with
  | some idpError =>
    (w, .refused ⟨400, "OAUTH_DENIED", request.errorDescription.getD ("OAuth provider returned error: " ++ idpError),
      some ("auth.login.failure", none)⟩)
  | none =>
    match request.state.filter (· ≠ ""), request.code.filter (· ≠ "") with
    | some state, some code => w.redeem env state code request.stateCookie later
    | _, _ => (w, .refused ⟨400, "INVALID_REQUEST", "Missing state or code", none⟩)

def step (env : OAuthEnv) (w : OAuthWorld) : OAuthEvent → OAuthWorld
  | .tick seconds => { w with clock := w.clock + seconds }
  | .restart providers => { w with providers, limiter := .fresh }
  | .login request draws => (w.handleAuthLogin env request draws).1
  | .callback request later => (w.handleOAuthCallback env request later).1
  | .sweep victims =>
    { w with states := w.states.delete fun r => victims.contains r.state && decide (r.expiresAt < w.clock - 60) }

/-- No login draws a state that was drawn before. -/
def Fresh (w : OAuthWorld) : OAuthEvent → Prop
  | .login _ draws => ∀ i ∈ w.issued, i.state ≠ draws.state
  | _ => True

instance (w : OAuthWorld) : (e : OAuthEvent) → Decidable (w.Fresh e)
  | .login _ draws => inferInstanceAs (Decidable (∀ i ∈ w.issued, i.state ≠ draws.state))
  | .tick _ | .restart _ | .callback _ _ | .sweep _ => .isTrue trivial

/-- The exchange answers the login: it is made with what the login kept, on
the login's cookie, and within its ten minutes. -/
structure Answers (x : Exchange) (i : Issued) : Prop where
  state : x.state = i.state
  cookie : x.cookie = i.cookie
  provider : x.provider = i.provider
  redirectUri : x.redirectUri = i.redirectUri
  codeVerifier : x.codeVerifier = i.codeVerifier
  nonce : x.nonce = some i.nonce
  timely : x.time < i.time + oauthStateTtlS

/-- What holds of the logins and the callbacks, whoever sends them. -/
structure LoginFlow (env : OAuthEnv) (w : OAuthWorld) : Prop where
  /-- No state is consumed twice, so that no login leads to two exchanges. -/
  once : w.consumed.Nodup
  exchanged : (w.exchanges.map Exchange.state).Sublist w.consumed
  /-- Every exchange answers a login. -/
  origin : ∀ x ∈ w.exchanges, ∃ i ∈ w.issued, Answers x i
  /-- The browser that got another login's cookie is turned away. -/
  binding : ∀ x ∈ w.exchanges, ∀ i ∈ w.issued, i.cookie = x.cookie → Answers x i
  /-- A state still stored is marked as consumed when it was. -/
  spent : ∀ r ∈ w.states.rows, r.consumedAt ≠ none ↔ r.state ∈ w.consumed
  /-- `inspectOAuthState` finds a reason for every state that was not consumed. -/
  explained : ∀ request later, w.clock ≤ later → (w.handleOAuthCallback env request later).2 ≠ .thrown

section
variable {env : OAuthEnv} {w : OAuthWorld}

/-- A login stores its state and gives out its cookie, or changes nothing but the limiter. -/
theorem handleAuthLogin_cases (env : OAuthEnv) (request : AuthLoginRequest) (draws : LoginDraws) (w : OAuthWorld) :
    ∃ limiter, (w.handleAuthLogin env request draws).1 = { w with limiter } ∨ ∃ provider states,
      createOAuthStateWithVerifier w.clock provider env.redirectUri draws.codeVerifier draws.nonce draws.state w.states =
        some states ∧
      (w.handleAuthLogin env request draws).1 = { w with
        limiter, states, issued := w.issued ++ [⟨draws.state, draws.codeVerifier, env.computeChallenge draws.codeVerifier,
          draws.nonce, provider, env.redirectUri, env.bindState draws.state, w.clock⟩] } := by
  refine ⟨(w.limiter.check ("auth-login:" ++ request.remoteAddress.getD "unknown") loginLimit w.clock).1, ?_⟩
  simp only [handleAuthLogin]
  split
  · exact .inl rfl
  · split
    · exact .inl rfl
    · split
      · exact .inl rfl
      · rename_i states created
        exact .inr ⟨_, states, created, rfl⟩

/-- A callback changes nothing, or it consumes a live state on the cookie bound to it. -/
theorem handleOAuthCallback_cases (env : OAuthEnv) (request : CallbackRequest) (later : Int) (w : OAuthWorld) :
    (w.handleOAuthCallback env request later).1 = w ∨ ∃ state row, w.states.find state = some row ∧ row.live w.clock ∧
      ((w.handleOAuthCallback env request later).1 = { w with
          states := (consumeOAuthState w.clock state w.states).1, consumed := w.consumed ++ [state] } ∨
        ∃ code, (w.handleOAuthCallback env request later).1 = { w with
          states := (consumeOAuthState w.clock state w.states).1, consumed := w.consumed ++ [state],
          exchanges := w.exchanges ++ [⟨state, env.bindState state, row.provider, code, row.redirectUri,
            row.codeVerifier, row.nonce, w.clock⟩] }) := by
  unfold handleOAuthCallback
  split
  · exact .inl rfl
  · split
    · rename_i state code _ _
      unfold redeem
      cases checked : checkStateCookie env state request.stateCookie with
      | error reply => exact .inl rfl
      | ok cookie =>
        have bound : cookie = env.bindState state := by
          unfold checkStateCookie at checked
          split at checked
          · cases checked
          · split at checked
            · cases checked
            · split at checked
              · rename_i same
                rw [← same]
                exact (Except.ok.inj checked).symm
              · cases checked
        subst bound
        simp only [consumeOAuthState]
        cases found : (w.states.find state).filter (OAuthStateRow.live w.clock) with
        | none => exact .inl rfl
        | some row =>
          obtain ⟨stored, live⟩ := Option.filter_eq_some_iff.mp found
          refine .inr ⟨state, row, stored, live, ?_⟩
          simp only
          split
          · exact .inr ⟨code, rfl⟩
          · exact .inl rfl
    · exact .inl rfl

/-- The row is the one that the login stored. -/
structure Stored (r : OAuthStateRow) (i : Issued) : Prop where
  state : r.state = i.state
  provider : r.provider = i.provider
  redirectUri : r.redirectUri = i.redirectUri
  codeVerifier : r.codeVerifier = i.codeVerifier
  nonce : r.nonce = some i.nonce
  expiresAt : r.expiresAt = i.time + oauthStateTtlS

/-- What every event keeps. -/
structure Kept (env : OAuthEnv) (w : OAuthWorld) : Prop where
  logins : ∀ i ∈ w.issued, i.cookie = env.bindState i.state
  distinct : (w.issued.map Issued.state).Nodup
  rows : ∀ r ∈ w.states.rows, ∃ i ∈ w.issued, Stored r i
  drawn : ∀ state ∈ w.consumed, ∃ i ∈ w.issued, i.state = state
  once : w.consumed.Nodup
  exchanged : (w.exchanges.map Exchange.state).Sublist w.consumed
  origin : ∀ x ∈ w.exchanges, ∃ i ∈ w.issued, Answers x i
  spent : ∀ r ∈ w.states.rows, r.consumedAt ≠ none ↔ r.state ∈ w.consumed

theorem Kept.boot (env : OAuthEnv) (clock : Int) (providers : List String) : Kept env (boot clock providers) where
  logins := nofun
  distinct := .nil
  rows := nofun
  drawn := nofun
  once := .nil
  exchanged := .slnil
  origin := nofun
  spent := nofun

theorem Kept.issue (kept : Kept env w) {login : Issued} {states : OAuthStates} {row : OAuthStateRow}
    (inserted : w.states.insert row = some states) (stored : Stored row login) (unspent : row.consumedAt = none)
    (bound : login.cookie = env.bindState login.state) (fresh : ∀ i ∈ w.issued, i.state ≠ login.state)
    (limiter : RateLimiter) : Kept env { w with limiter, states, issued := w.issued ++ [login] } where
  logins i inIssued := by
    rcases List.mem_append.mp inIssued with before | now
    · exact kept.logins i before
    · rw [List.mem_singleton] at now
      subst now
      exact bound
  distinct := by
    simp only [List.map_append, List.map_cons, List.map_nil]
    refine List.nodup_append.mpr ⟨kept.distinct, List.nodup_singleton _, ?_⟩
    intro a before b now
    obtain ⟨i, inIssued, rfl⟩ := List.mem_map.mp before
    rw [List.mem_singleton] at now
    subst now
    exact fresh i inIssued
  rows r inRows := by
    rcases (Table.mem_insert inserted).mp inRows with before | rfl
    · obtain ⟨i, inIssued, same⟩ := kept.rows r before
      exact ⟨i, List.mem_append_left _ inIssued, same⟩
    · exact ⟨login, by simp, stored⟩
  drawn state inConsumed := by
    obtain ⟨i, inIssued, same⟩ := kept.drawn state inConsumed
    exact ⟨i, List.mem_append_left _ inIssued, same⟩
  once := kept.once
  exchanged := kept.exchanged
  origin x inExchanges := by
    obtain ⟨i, inIssued, same⟩ := kept.origin x inExchanges
    exact ⟨i, List.mem_append_left _ inIssued, same⟩
  spent r inRows := by
    rcases (Table.mem_insert inserted).mp inRows with before | rfl
    · exact kept.spent r before
    · -- a state that is drawn only now cannot have been consumed
      refine iff_of_false (fun spent => spent unspent) fun inConsumed => ?_
      obtain ⟨i, inIssued, same⟩ := kept.drawn _ inConsumed
      exact fresh i inIssued (same.trans stored.state)

theorem consumeOAuthState_rows {now : Int} {state : String} {T : OAuthStates} {r : OAuthStateRow} :
    r ∈ (consumeOAuthState now state T).1.rows ↔ ∃ old ∈ T.rows,
      (if old.state = state ∧ old.live now then old.consume now else old) = r := by
  simp only [consumeOAuthState, Table.mem_update, Bool.and_eq_true, decide_eq_true_eq]

theorem Kept.consume (kept : Kept env w) {state : String} {row : OAuthStateRow}
    (found : w.states.find state = some row) (live : row.live w.clock) {exchanges : List Exchange}
    (added : exchanges = w.exchanges ∨ ∃ code, exchanges = w.exchanges ++ [⟨state, env.bindState state, row.provider, code,
      row.redirectUri, row.codeVerifier, row.nonce, w.clock⟩]) :
    Kept env { w with
      states := (consumeOAuthState w.clock state w.states).1, consumed := w.consumed ++ [state], exchanges } := by
  obtain ⟨inRows, named⟩ := Table.find_eq_some.mp found
  rw [OAuthStateRow.live, Bool.and_eq_true, Option.isNone_iff_eq_none, decide_eq_true_eq] at live
  have unspent : state ∉ w.consumed := fun spent => (kept.spent row inRows).mpr (named ▸ spent) live.1
  obtain ⟨i, inIssued, stored⟩ := kept.rows row inRows
  have only : ∀ r ∈ w.states.rows, r.state = state → r = row := by
    intro r listed same
    exact Option.some.inj ((Table.find_eq_some.mpr ⟨listed, same⟩).symm.trans found)
  refine ⟨kept.logins, kept.distinct, ?_, ?_, ?_, ?_, ?_, ?_⟩
  · intro r listed
    obtain ⟨old, before, rfl⟩ := consumeOAuthState_rows.mp listed
    obtain ⟨j, inIssued', same⟩ := kept.rows old before
    refine ⟨j, inIssued', ?_⟩
    split
    · exact ⟨same.state, same.provider, same.redirectUri, same.codeVerifier, same.nonce, same.expiresAt⟩
    · exact same
  · intro s inConsumed
    rcases List.mem_append.mp inConsumed with before | now
    · exact kept.drawn s before
    · rw [List.mem_singleton] at now
      exact ⟨i, inIssued, stored.state.symm.trans (named.trans now.symm)⟩
  · refine List.nodup_append.mpr ⟨kept.once, List.nodup_singleton _, ?_⟩
    intro a before b now same
    rw [List.mem_singleton] at now
    exact unspent (now ▸ same ▸ before)
  · rcases added with rfl | ⟨code, rfl⟩
    · exact kept.exchanged.trans (List.sublist_append_left _ _)
    · rw [List.map_append]
      exact kept.exchanged.append (List.Sublist.refl _)
  · intro x listed
    rcases added with rfl | ⟨code, rfl⟩
    · exact kept.origin x listed
    · rcases List.mem_append.mp listed with before | now
      · exact kept.origin x before
      · rw [List.mem_singleton] at now
        subst now
        refine ⟨i, inIssued, named.symm.trans stored.state, ?_, stored.provider, stored.redirectUri, stored.codeVerifier,
          stored.nonce, ?_⟩
        · rw [kept.logins i inIssued, ← stored.state, named]
        · rw [← stored.expiresAt]
          exact live.2
  · intro r listed
    obtain ⟨old, before, rfl⟩ := consumeOAuthState_rows.mp listed
    have spent := kept.spent old before
    by_cases here : old.state = state
    · have same := only old before here
      subst same
      rw [if_pos ⟨here, by simp [OAuthStateRow.live, live]⟩]
      refine iff_of_true nofun ?_
      rw [OAuthStateRow.consume_state]
      exact List.mem_append_right _ (List.mem_singleton.mpr here)
    · rw [if_neg fun both => here both.1, spent, List.mem_append, List.mem_singleton]
      simp [here]

theorem Kept.step (kept : Kept env w) (e : OAuthEvent) (fresh : w.Fresh e) : Kept env (w.step env e) := by
  cases e with
  | tick seconds => exact ⟨kept.logins, kept.distinct, kept.rows, kept.drawn, kept.once, kept.exchanged, kept.origin, kept.spent⟩
  | restart providers =>
    exact ⟨kept.logins, kept.distinct, kept.rows, kept.drawn, kept.once, kept.exchanged, kept.origin, kept.spent⟩
  | login request draws =>
    obtain ⟨limiter, same | ⟨provider, states, created, same⟩⟩ := handleAuthLogin_cases env request draws w
    · rw [OAuthWorld.step, same]
      exact ⟨kept.logins, kept.distinct, kept.rows, kept.drawn, kept.once, kept.exchanged, kept.origin, kept.spent⟩
    · rw [OAuthWorld.step, same]
      refine kept.issue created ?_ rfl rfl ?_ limiter
      · exact ⟨rfl, rfl, rfl, rfl, rfl, rfl⟩
      · exact fresh
  | callback request later =>
    rw [OAuthWorld.step]
    rcases handleOAuthCallback_cases env request later w with same | ⟨state, row, found, live, same | ⟨code, same⟩⟩
    · rwa [same]
    · rw [same]
      exact kept.consume found live (.inl rfl)
    · rw [same]
      exact kept.consume found live (.inr ⟨code, rfl⟩)
  | sweep victims =>
    have listed : ∀ r ∈ (w.states.delete fun r => victims.contains r.state && decide (r.expiresAt < w.clock - 60)).rows,
        r ∈ w.states.rows := fun r inRows => (Table.mem_delete.mp inRows).1
    exact ⟨kept.logins, kept.distinct, fun r inRows => kept.rows r (listed r inRows), kept.drawn, kept.once, kept.exchanged,
      kept.origin, fun r inRows => kept.spent r (listed r inRows)⟩

/-- A state that is not live by then was consumed, has expired or is not known. -/
theorem inspectOAuthState_explains {now later : Int} {state : String} {T : OAuthStates} (order : now ≤ later)
    (failed : (T.find state).filter (OAuthStateRow.live now) = none) : inspectOAuthState later state T ≠ none := by
  unfold inspectOAuthState
  cases found : T.find state with
  | none => simp
  | some row =>
    rw [found, Option.filter_some] at failed
    by_cases consumed : row.consumedAt = none
    · have expired : row.expiresAt ≤ now := by
        by_contra early
        simp [OAuthStateRow.live, consumed, not_le.mp early] at failed
      simp [consumed, expired.trans order]
    · simp [consumed]

theorem callback_explained (env : OAuthEnv) (request : CallbackRequest) {later : Int} (order : w.clock ≤ later) :
    (w.handleOAuthCallback env request later).2 ≠ .thrown := by
  unfold handleOAuthCallback
  split
  · simp
  · split
    · rename_i state code _ _
      unfold redeem
      cases checked : checkStateCookie env state request.stateCookie with
      | error reply =>
        rintro rfl
        unfold checkStateCookie stateReplay at checked
        split at checked
        · cases checked
        · split at checked
          · cases checked
          · split at checked <;> cases checked
      | ok cookie =>
        simp only [consumeOAuthState]
        cases found : (w.states.find state).filter (OAuthStateRow.live w.clock) with
        | none =>
          have explains := inspectOAuthState_explains order found
          simp only
          cases status : inspectOAuthState later state w.states with
          | none => exact absurd status explains
          | some reason => cases reason <;> simp [refuseState, stateReplay]
        | some row =>
          simp only
          split <;> simp
    · simp

theorem Kept.flow (kept : Kept env w) (keyed : Function.Injective env.bindState) : LoginFlow env w where
  once := kept.once
  exchanged := kept.exchanged
  origin := kept.origin
  binding x inExchanges i inIssued same := by
    obtain ⟨j, inIssued', answers⟩ := kept.origin x inExchanges
    have bound : env.bindState i.state = env.bindState j.state := by
      rw [← kept.logins i inIssued, same, answers.cookie, kept.logins j inIssued']
    rwa [List.inj_on_of_nodup_map kept.distinct inIssued inIssued' (keyed bound)]
  spent := kept.spent
  explained request _ order := callback_explained env request order

end

theorem checkStateCookie_error {env : OAuthEnv} {state : String} {cookie : Option String}
    {reply : CallbackReply} (refused : checkStateCookie env state cookie = .error reply) : reply.exchange? = none := by
  unfold checkStateCookie at refused
  split at refused
  · cases refused
    rfl
  · split at refused
    · cases refused
      rfl
    · split at refused
      · cases refused
      · cases refused
        rfl

theorem refuseState_exchange? (status : Option OAuthStateStatus) : (refuseState status).exchange? = none := by
  cases status with
  | none => rfl
  | some status => cases status <;> rfl

/-- The exchange is noted when it is begun, and only then. -/
theorem callback_exchanges (env : OAuthEnv) (request : CallbackRequest) (later : Int) (w : OAuthWorld) :
    (w.handleOAuthCallback env request later).1.exchanges =
      w.exchanges ++ (w.handleOAuthCallback env request later).2.exchange?.toList := by
  have quiet : ∀ {reply : CallbackReply}, reply.exchange? = none → w.exchanges = w.exchanges ++ reply.exchange?.toList := by
    intro reply none
    rw [none]
    exact (List.append_nil _).symm
  unfold handleOAuthCallback
  split
  · exact quiet rfl
  · split
    · rename_i state code _ _
      unfold redeem
      cases checked : checkStateCookie env state request.stateCookie with
      | error reply => exact quiet (checkStateCookie_error checked)
      | ok cookie =>
        simp only [consumeOAuthState]
        cases found : (w.states.find state).filter (OAuthStateRow.live w.clock) with
        | none => exact quiet (refuseState_exchange? _)
        | some row =>
          simp only
          split
          · rfl
          · exact quiet rfl
    · exact quiet rfl

theorem login_exchanges (env : OAuthEnv) (request : AuthLoginRequest) (draws : LoginDraws) (w : OAuthWorld) :
    (w.handleAuthLogin env request draws).1.exchanges = w.exchanges := by
  obtain ⟨limiter, same | ⟨provider, states, -, same⟩⟩ := handleAuthLogin_cases env request draws w <;> rw [same]

theorem Kept.limit {env : OAuthEnv} {w : OAuthWorld} (kept : Kept env w) (limiter : RateLimiter) :
    Kept env { w with limiter } :=
  ⟨kept.logins, kept.distinct, kept.rows, kept.drawn, kept.once, kept.exchanged, kept.origin, kept.spent⟩

/-- The browser flow, over every run of logins, callbacks, sweeps and restarts,
forged callbacks among them, as long as no state is drawn twice. -/
theorem oauth_login_flow (env : OAuthEnv) (keyed : Function.Injective env.bindState) (clock : Int)
    (providers : List String) (events : List OAuthEvent)
    (fresh : GuardedRun.Meets (step env) Fresh (boot clock providers) events) :
    LoginFlow env (events.foldl (step env) (boot clock providers)) :=
  ((GuardedRun.of_meets fresh).invariant (fun _ e kept => kept.step e) (Kept.boot env clock providers)).flow keyed

def sampleOAuthEnv : OAuthEnv where
  publicUrl := "https://coordinator.example/"
  bindState state := "hmac:" ++ state
  computeChallenge verifier := "s256:" ++ verifier

/-- A login, its callback, and the callback again. -/
def sampleFlow : List OAuthEvent :=
  [.login ⟨some "10.0.0.1", none⟩ ⟨"s1", "v1", "n1"⟩, .tick 30,
    .callback ⟨some "s1", some "c1", none, none, some "hmac:s1"⟩ 30,
    .callback ⟨some "s1", some "c2", none, none, some "hmac:s1"⟩ 30]

theorem oauth_login_flow_replayed :
    ((sampleFlow.foldl (step sampleOAuthEnv) (boot 0 ["github"])).exchanges.map Exchange.code = ["c1"]) ∧
      LoginFlow sampleOAuthEnv (sampleFlow.foldl (step sampleOAuthEnv) (boot 0 ["github"])) :=
  ⟨by decide +kernel, oauth_login_flow sampleOAuthEnv (fun _ _ same => String.append_right_inj _ |>.mp same) 0 ["github"]
    sampleFlow (by decide +kernel)⟩

end OAuthWorld

end Coordinator
