import Coordinator.AuthWorld

namespace Coordinator

def approveFailureThreshold : Nat := 5

/-- A row of `device_auth_requests`. -/
structure DeviceAuthRequest where
  deviceCode : String
  userCode : String
  approvedUserId : Option String
  approvedAt : Option Int
  deniedAt : Option Int
  deniedReason : Option String
  expiresAt : Int
  interval : Int
  lastPolledAt : Option Int
  failedApprovalAttempts : Nat
  deriving DecidableEq, Repr

namespace DeviceAuthRequest

/-- `last_polled_at IS NULL OR now - last_polled_at >= interval`. -/
def due (row : DeviceAuthRequest) (now : Int) : Bool := row.lastPolledAt.all fun last => now - last ≥ row.interval

def polled (now : Int) (row : DeviceAuthRequest) : DeviceAuthRequest := { row with lastPolledAt := some now }

def approve (userId : String) (now : Int) (row : DeviceAuthRequest) : DeviceAuthRequest :=
  { row with approvedUserId := some userId, approvedAt := some now }

def deny (reason : String) (now : Int) (row : DeviceAuthRequest) : DeviceAuthRequest :=
  { row with deniedAt := some now, deniedReason := some reason }

def failApproval (row : DeviceAuthRequest) : DeviceAuthRequest :=
  { row with failedApprovalAttempts := row.failedApprovalAttempts + 1 }

theorem polled_deviceCode (now : Int) (row : DeviceAuthRequest) : (row.polled now).deviceCode = row.deviceCode := rfl

theorem approve_deviceCode (userId : String) (now : Int) (row : DeviceAuthRequest) :
    (row.approve userId now).deviceCode = row.deviceCode := rfl

theorem deny_deviceCode (reason : String) (now : Int) (row : DeviceAuthRequest) :
    (row.deny reason now).deviceCode = row.deviceCode := rfl

theorem failApproval_deviceCode (row : DeviceAuthRequest) : row.failApproval.deviceCode = row.deviceCode := rfl

/-- Neither approved nor denied, and not expired. -/
def isOpen (row : DeviceAuthRequest) (now : Int) : Bool :=
  row.approvedUserId.isNone && row.deniedAt.isNone && now < row.expiresAt

end DeviceAuthRequest

/-- The user a poll mints for, and when it started to. -/
structure PolledUser where
  userId : String
  primaryOrgId : String
  role : Option String
  now : Int
  deriving DecidableEq, Repr

inductive PollReply
  | tokens (userId orgId : String) (familyId refreshJti : Nat)
  | oauthError (error description : String)
  | thrown
  deriving DecidableEq, Repr

/-- A poll answers at once, or awaits `mintTokenPair`. -/
inductive PollStage
  | minting (user : PolledUser)
  | answered (reply : PollReply)
  deriving DecidableEq, Repr

/-- A poll with the row that it read, and when. -/
structure DevicePoll where
  deviceCode : String
  read : Option (DeviceAuthRequest × Int)
  stage : PollStage
  deriving DecidableEq, Repr

namespace DevicePoll

def minting (poll : DevicePoll) : Bool :=
  match poll.stage with
  | .minting _ => true
  | .answered _ => false

/-- Answered 200. -/
def served (poll : DevicePoll) : Bool :=
  match poll.stage with
  | .answered (.tokens _ _ _ _) => true
  | _ => false

/-- The row was approved, not denied and not expired when the poll read it. -/
def ReadLive (poll : DevicePoll) : Prop :=
  ∃ p ∈ poll.read, p.1.deniedAt = none ∧ p.2 < p.1.expiresAt ∧ p.1.approvedUserId ≠ none

end DevicePoll

structure DeviceWorld where
  auth : AuthDb
  requests : Table DeviceAuthRequest DeviceAuthRequest.deviceCode
  polls : List DevicePoll

/-- `mint` continues a poll after its await; `signed` says whether the signatures succeeded. -/
inductive DeviceEvent
  | tick (seconds : Int)
  | poll (deviceCode : String)
  | mint (i : Nat) (signed : Bool)
  | approve (userCode userId : String)
  | deny (userCode : String)
  | sweep (victims : List String)
  deriving DecidableEq, Repr

namespace DeviceWorld

def boot (users : Table User User.id) (orgs : Table AllowlistOrg AllowlistOrg.id) (clock : Int)
    (requests : Table DeviceAuthRequest DeviceAuthRequest.deviceCode) : DeviceWorld where
  auth := (AuthWorld.boot users orgs clock).db
  requests := requests
  polls := []

/-- The checks of a row that was due. -/
def judge (w : DeviceWorld) (row : DeviceAuthRequest) (now : Int) : PollStage :=
  if row.expiresAt ≤ now then .answered (.oauthError "expired_token" "Device code expired")
  else if row.deniedAt ≠ none then .answered (.oauthError "access_denied" "Device request was denied")
  else match row.approvedUserId with
    | none => .answered (.oauthError "authorization_pending" "Waiting for user approval")
    | some userId =>
      match w.auth.users.find userId with
      | none => .answered (.oauthError "invalid_grant" "Approved user not found")
      | some user => .minting ⟨user.id, user.primaryOrgId, user.role, now⟩

def update (w : DeviceWorld) (p : DeviceAuthRequest → Bool) (f : DeviceAuthRequest → DeviceAuthRequest)
    (keeps : ∀ row, (f row).deviceCode = row.deviceCode) : DeviceWorld :=
  { w with requests := w.requests.update p f keeps }

/-- `handleDeviceCodeGrant` up to its await: the compare-and-set on
`last_polled_at` reads the row, and the checks follow. -/
def beginPoll (w : DeviceWorld) (deviceCode : String) : DeviceWorld × DevicePoll :=
  let now := w.auth.clock
  if deviceCode = "" then
    (w, ⟨deviceCode, none, .answered (.oauthError "invalid_request" "Missing device_code")⟩)
  else match w.requests.find deviceCode with
    | none => (w, ⟨deviceCode, none, .answered (.oauthError "invalid_grant" "Unknown device_code")⟩)
    | some row =>
      if row.due now then
        (w.update (fun r => r.deviceCode = deviceCode && r.due now) (DeviceAuthRequest.polled now)
            (DeviceAuthRequest.polled_deviceCode now),
          ⟨deviceCode, some (row.polled now, now), w.judge (row.polled now) now⟩)
      else (w, ⟨deviceCode, none,
        .answered (.oauthError "slow_down" ("Polling too fast; wait " ++ toString row.interval ++ "s"))⟩)

/-- The row that `mintTokenPair` inserts for a new session. -/
def mintedRow (w : DeviceWorld) (user : PolledUser) : RefreshRow :=
  { sessionRow w.auth user.userId user.primaryOrgId none with
    expiresAt := user.now + refreshTtlS, lastUsedAt := user.now }

/-- The end of the mint: the refresh row is inserted, the device row deleted and the pair sent. -/
def finishPoll (w : DeviceWorld) (poll : DevicePoll) (user : PolledUser) (signed : Bool) : DeviceWorld × PollReply :=
  if signed then
    match w.auth.refreshTokens.insert (w.mintedRow user) with
    | none => (w, .thrown)
    | some tokens =>
      ({ w with
          auth := { w.auth with draws := w.auth.draws + 3, refreshTokens := tokens }
          requests := w.requests.delete fun r => r.deviceCode = poll.deviceCode },
        .tokens user.userId user.primaryOrgId w.auth.draws (w.auth.draws + 1))
  else (w, .thrown)

def mint (w : DeviceWorld) (i : Nat) (signed : Bool) : DeviceWorld :=
  match w.polls[i]? with
  | none => w
  | some poll =>
    match poll.stage with
    | .answered _ => w
    | .minting user =>
      let (after, reply) := w.finishPoll poll user signed
      { after with polls := w.polls.set i { poll with stage := .answered reply } }

/-- An approval that changed no row counts against an open one, which is locked at the threshold. -/
def handleApproveFailure (w : DeviceWorld) (userCode : String) : DeviceWorld :=
  let now := w.auth.clock
  match w.requests.rows.find? fun r => r.userCode = userCode with
  | none => w
  | some row =>
    if row.isOpen now then
      let counted := w.update (fun r => r.userCode = userCode) DeviceAuthRequest.failApproval
        DeviceAuthRequest.failApproval_deviceCode
      if approveFailureThreshold ≤ row.failedApprovalAttempts + 1 then
        counted.update (fun r => r.userCode = userCode) (DeviceAuthRequest.deny "too_many_failed_approvals" now)
          (DeviceAuthRequest.deny_deviceCode _ now)
      else counted
    else w

def approve (w : DeviceWorld) (userCode userId : String) : DeviceWorld :=
  let now := w.auth.clock
  let approvable := fun r : DeviceAuthRequest =>
    r.userCode = userCode && r.isOpen now && r.failedApprovalAttempts < approveFailureThreshold
  if w.requests.rows.any approvable then
    w.update approvable (DeviceAuthRequest.approve userId now) (DeviceAuthRequest.approve_deviceCode userId now)
  else w.handleApproveFailure userCode

def deny (w : DeviceWorld) (userCode : String) : DeviceWorld :=
  let now := w.auth.clock
  w.update (fun r => r.userCode = userCode && r.isOpen now) (DeviceAuthRequest.deny "user_denied" now)
    (DeviceAuthRequest.deny_deviceCode _ now)

/-- One batch of the sweeper's DELETE of rows that expired a minute ago. -/
def sweep (w : DeviceWorld) (victims : List String) : DeviceWorld :=
  { w with requests := w.requests.delete fun r =>
      victims.contains r.deviceCode && r.expiresAt < w.auth.clock - staleBufferSeconds }

def step (w : DeviceWorld) : DeviceEvent → DeviceWorld
  | .tick seconds => { w with auth := w.auth.wait seconds }
  | .poll deviceCode =>
    let (after, poll) := w.beginPoll deviceCode
    { after with polls := w.polls ++ [poll] }
  | .mint i signed => w.mint i signed
  | .approve userCode userId => w.approve userCode userId
  | .deny userCode => w.deny userCode
  | .sweep victims => w.sweep victims

/-- At most one poll for a device code is answered 200, and only one that read
an approved row, neither denied nor expired. -/
structure SpentOnce (w : DeviceWorld) : Prop where
  once : ∀ (i j : Nat) (p q : DevicePoll), w.polls[i]? = some p → w.polls[j]? = some q → p.deviceCode = q.deviceCode →
    p.served = true → q.served = true → i = j
  live : ∀ poll ∈ w.polls, poll.served = true → poll.ReadLive

/-- A poll at this moment would go on to mint. -/
def redeemable (w : DeviceWorld) (deviceCode : String) : Bool :=
  deviceCode ≠ "" && (w.requests.find deviceCode).any fun row =>
    row.due w.auth.clock && w.auth.clock < row.expiresAt && row.deniedAt.isNone &&
      row.approvedUserId.any fun userId => (w.auth.users.find userId).isSome

/-- A poll that will mint finds no other poll for its code still minting. -/
def MintsAlone (w : DeviceWorld) : DeviceEvent → Prop
  | .poll deviceCode => w.redeemable deviceCode = true →
      ∀ poll ∈ w.polls, poll.deviceCode = deviceCode → poll.minting = false
  | _ => True

/-- A poll that holds, or has been given, a token pair. -/
def granted (poll : DevicePoll) : Prop := poll.minting = true ∨ poll.served = true

/-- What holds in every run. -/
structure Sound (w : DeviceWorld) : Prop where
  fresh : ∀ r ∈ w.auth.refreshTokens.rows, r.jti < w.auth.draws
  live : ∀ poll ∈ w.polls, granted poll → poll.ReadLive
  spent : ∀ poll ∈ w.polls, poll.served = true → w.requests.find poll.deviceCode = none

/-- At most one poll for each code holds a pair or will. -/
def Sole (w : DeviceWorld) : Prop :=
  ∀ (i j : Nat) (p q : DevicePoll), w.polls[i]? = some p → w.polls[j]? = some q → p.deviceCode = q.deviceCode →
    granted p → granted q → i = j

variable {w w' : DeviceWorld} {deviceCode : String} {poll : DevicePoll}

/-- No row that was gone comes back. -/
theorem Sound.of_requests (sound : Sound w) (auth : w'.auth.refreshTokens = w.auth.refreshTokens)
    (draws : w'.auth.draws = w.auth.draws) (polls : w'.polls = w.polls)
    (gone : ∀ code, w.requests.find code = none → w'.requests.find code = none) : Sound w' where
  fresh := by
    rw [auth, draws]
    exact sound.fresh
  live := by
    rw [polls]
    exact sound.live
  spent poll listed served := gone _ (sound.spent poll (polls ▸ listed) served)

theorem find_update_none (w : DeviceWorld) {p : DeviceAuthRequest → Bool} {f : DeviceAuthRequest → DeviceAuthRequest}
    {keeps : ∀ row, (f row).deviceCode = row.deviceCode} {code : String} (gone : w.requests.find code = none) :
    (w.update p f keeps).requests.find code = none := by
  rw [update, Table.find_update, gone]
  rfl

theorem find_delete_none (w : DeviceWorld) {p : DeviceAuthRequest → Bool} {code : String}
    (gone : w.requests.find code = none) : (w.requests.delete p).find code = none := by
  rw [Table.find_eq_none] at gone ⊢
  exact fun row listed => gone row (Table.mem_delete.mp listed).1

theorem Sound.update (sound : Sound w) (p : DeviceAuthRequest → Bool) (f : DeviceAuthRequest → DeviceAuthRequest)
    (keeps : ∀ row, (f row).deviceCode = row.deviceCode) : Sound (w.update p f keeps) :=
  sound.of_requests rfl rfl rfl fun _ gone => find_update_none w gone

theorem Sound.approve (sound : Sound w) (userCode userId : String) : Sound (w.approve userCode userId) := by
  unfold DeviceWorld.approve
  dsimp only
  split
  · exact sound.update _ _ _
  · unfold handleApproveFailure
    dsimp only
    split
    · exact sound
    · split
      · split
        · exact (sound.update _ _ _).update _ _ _
        · exact sound.update _ _ _
      · exact sound

theorem approve_polls (w : DeviceWorld) (userCode userId : String) : (w.approve userCode userId).polls = w.polls := by
  unfold approve handleApproveFailure
  dsimp only
  split
  · rfl
  · split
    · rfl
    · split
      · split <;> rfl
      · rfl

/-- A row passes all checks exactly when it is approved by a known user, not denied and not expired. -/
theorem judge_minting {row : DeviceAuthRequest} {now : Int} (code : String) (read : Option (DeviceAuthRequest × Int)) :
    (DevicePoll.mk code read (w.judge row now)).minting = true ↔ now < row.expiresAt ∧ row.deniedAt = none ∧
      (row.approvedUserId.any fun userId => (w.auth.users.find userId).isSome) = true := by
  unfold judge
  split
  · rename_i expired
    exact iff_of_false (by simp [DevicePoll.minting]) fun live => absurd live.1 (Int.not_lt.mpr expired)
  · rename_i current
    split
    · rename_i denied
      exact iff_of_false (by simp [DevicePoll.minting]) fun live => denied live.2.1
    · rename_i undenied
      rw [Decidable.not_not] at undenied
      cases approved : row.approvedUserId with
      | none => simp [DevicePoll.minting]
      | some userId =>
        cases user : w.auth.users.find userId with
        | none => simp [DevicePoll.minting, user]
        | some user' => simp [DevicePoll.minting, user, undenied, Int.not_le.mp current]

theorem judge_served {row : DeviceAuthRequest} {now : Int} (code : String) (read : Option (DeviceAuthRequest × Int)) :
    (DevicePoll.mk code read (w.judge row now)).served = false := by
  unfold judge
  split
  · rfl
  · split
    · rfl
    · split
      · rfl
      · split <;> rfl

/-- What a poll does before its await: it answers no tokens yet, mints exactly
when the row is redeemable, and then has read a live row. -/
theorem beginPoll_spec (w : DeviceWorld) (deviceCode : String) :
    let after := w.beginPoll deviceCode
    after.2.deviceCode = deviceCode ∧ after.2.served = false ∧
      (after.2.minting = true ↔ w.redeemable deviceCode = true) ∧ (after.2.minting = true → after.2.ReadLive) ∧
      (after.1 = w ∨ ∃ p, after.1 = w.update p (DeviceAuthRequest.polled w.auth.clock)
        (DeviceAuthRequest.polled_deviceCode w.auth.clock)) := by
  intro after
  unfold after beginPoll redeemable
  dsimp only
  split
  · rename_i missing
    exact ⟨rfl, rfl, by simp [DevicePoll.minting, missing], by simp [DevicePoll.minting], .inl rfl⟩
  · rename_i named
    cases found : w.requests.find deviceCode with
    | none => exact ⟨rfl, rfl, by simp [DevicePoll.minting], by simp [DevicePoll.minting], .inl rfl⟩
    | some row =>
      dsimp only
      split
      · rename_i due
        refine ⟨rfl, judge_served _ _, ?_, ?_, .inr ⟨_, rfl⟩⟩
        · rw [judge_minting]
          simp [named, due, DeviceAuthRequest.polled, and_assoc]
        · intro minting
          obtain ⟨current, undenied, approved⟩ := (judge_minting _ _).mp minting
          refine ⟨_, rfl, undenied, current, ?_⟩
          intro unapproved
          rw [unapproved] at approved
          cases approved
      · rename_i early
        exact ⟨rfl, rfl, by simp [DevicePoll.minting, early], by simp [DevicePoll.minting], .inl rfl⟩

theorem minting_of_stage {user : PolledUser} (stage : poll.stage = .minting user) : poll.minting = true := by
  rw [DevicePoll.minting, stage]

theorem served_of_thrown (poll : DevicePoll) : ¬ granted { poll with stage := .answered .thrown } := by
  rintro (minting | served)
  · cases minting
  · cases served

/-- A poll that is not minting stays as it is; one that is throws, or is given its pair as the row is deleted. -/
theorem mint_cases (w : DeviceWorld) (i : Nat) (signed : Bool) :
    w.mint i signed = w ∧ (∀ poll, w.polls[i]? = some poll → poll.minting = false) ∨
      ∃ poll user, w.polls[i]? = some poll ∧ poll.stage = .minting user ∧
        (w.mint i signed = { w with polls := w.polls.set i { poll with stage := .answered .thrown } } ∧
            (signed = true → w.auth.refreshTokens.insert (w.mintedRow user) = none) ∨
          ∃ tokens, w.auth.refreshTokens.insert (w.mintedRow user) = some tokens ∧ w.mint i signed =
            { auth := { w.auth with draws := w.auth.draws + 3, refreshTokens := tokens }
              requests := w.requests.delete fun r => r.deviceCode = poll.deviceCode
              polls := w.polls.set i
                { poll with
                  stage := .answered (.tokens user.userId user.primaryOrgId w.auth.draws (w.auth.draws + 1)) } }) := by
  rw [mint]
  cases listed : w.polls[i]? with
  | none => exact .inl ⟨rfl, fun _ absent => by cases absent⟩
  | some poll =>
    obtain ⟨code, read, stage⟩ := poll
    cases stage with
    | answered reply =>
      refine .inl ⟨rfl, ?_⟩
      intro other same
      obtain rfl := Option.some.inj same
      rfl
    | minting user =>
      refine .inr ⟨_, user, rfl, rfl, ?_⟩
      dsimp only
      unfold finishPoll
      cases signed with
      | false => exact .inl ⟨rfl, fun impossible => by cases impossible⟩
      | true =>
        cases inserted : w.auth.refreshTokens.insert (w.mintedRow user) with
        | none => exact .inl ⟨rfl, fun _ => rfl⟩
        | some tokens => exact .inr ⟨tokens, rfl, rfl⟩

/-- A poll after a mint: it was there before, for the same code, and is granted no pair it did not hold. -/
theorem mint_origin {i j : Nat} {signed : Bool} {q : DevicePoll} (listed : (w.mint i signed).polls[j]? = some q) :
    ∃ p, w.polls[j]? = some p ∧ p.deviceCode = q.deviceCode ∧ p.read = q.read ∧ (granted q → granted p) := by
  have set : ∀ {poll : DevicePoll} {user : PolledUser} {reply : PollReply}, w.polls[i]? = some poll →
      poll.stage = .minting user → (w.polls.set i { poll with stage := .answered reply })[j]? = some q →
      ∃ p, w.polls[j]? = some p ∧ p.deviceCode = q.deviceCode ∧ p.read = q.read ∧ (granted q → granted p) := by
    intro poll user reply before stage after
    rw [List.getElem?_set] at after
    split at after
    · rename_i same
      split at after
      · obtain rfl := Option.some.inj after
        exact ⟨poll, same ▸ before, rfl, rfl, fun _ => .inl (minting_of_stage stage)⟩
      · cases after
    · exact ⟨q, after, rfl, rfl, fun granted => granted⟩
  rcases mint_cases w i signed with ⟨same, -⟩ | ⟨poll, user, before, stage, ⟨same, -⟩ | ⟨tokens, -, same⟩⟩
  · rw [same] at listed
    exact ⟨q, listed, rfl, rfl, fun granted => granted⟩
  · rw [same] at listed
    exact set before stage listed
  · rw [same] at listed
    exact set before stage listed

theorem mint_other {i j : Nat} {signed : Bool} (apart : i ≠ j) : (w.mint i signed).polls[j]? = w.polls[j]? := by
  rcases mint_cases w i signed with ⟨same, -⟩ | ⟨poll, user, -, -, ⟨same, -⟩ | ⟨tokens, -, same⟩⟩
  · rw [same]
  · rw [same, List.getElem?_set_ne apart]
  · rw [same, List.getElem?_set_ne apart]

theorem Sound.mint (sound : Sound w) (i : Nat) (signed : Bool) : Sound (w.mint i signed) := by
  have live : ∀ q ∈ (w.mint i signed).polls, granted q → q.ReadLive := by
    intro q member held
    obtain ⟨j, listed⟩ := List.mem_iff_getElem?.mp member
    obtain ⟨p, before, -, read, granted⟩ := mint_origin listed
    have old := sound.live p (List.mem_of_getElem? before) (granted held)
    rwa [DevicePoll.ReadLive, read] at old
  rcases mint_cases w i signed with ⟨same, -⟩ | ⟨poll, user, listed, stage, ⟨same, -⟩ | ⟨tokens, inserted, same⟩⟩
  · rw [same]
    exact sound
  · rw [same] at live ⊢
    refine ⟨sound.fresh, live, ?_⟩
    intro q member served
    rcases List.mem_or_eq_of_mem_set member with old | rfl
    · exact sound.spent q old served
    · exact absurd (.inr served) (served_of_thrown poll)
  · rw [same] at live ⊢
    refine ⟨?_, live, ?_⟩
    · intro r member
      rcases (Table.mem_insert inserted).mp member with old | rfl
      · exact Nat.lt_add_right 3 (sound.fresh r old)
      · exact Nat.add_lt_add_left (by decide : 1 < 3) w.auth.draws
    · intro q member served
      rcases List.mem_or_eq_of_mem_set member with old | rfl
      · exact find_delete_none w (sound.spent q old served)
      · refine Table.find_eq_none.mpr ?_
        intro row listed same
        exact (Table.mem_delete.mp listed).2 (decide_eq_true same)

theorem Sole.mint (sole : Sole w) (i : Nat) (signed : Bool) : Sole (w.mint i signed) := by
  intro j k p q first second code held held'
  obtain ⟨p', before, same, -, granted⟩ := mint_origin first
  obtain ⟨q', before', same', -, granted'⟩ := mint_origin second
  exact sole j k p' q' before before' (same.trans (code.trans same'.symm)) (granted held) (granted' held')

/-- A poll that is minting, or was answered 200, is answered 200 when its mint succeeds. -/
theorem Sound.mint_serves (sound : Sound w) {i : Nat} {p : DevicePoll} (listed : w.polls[i]? = some p)
    (held : granted p) :
    ∃ p', (w.mint i true).polls[i]? = some p' ∧ p'.deviceCode = p.deviceCode ∧ p'.served = true := by
  rcases mint_cases w i true with ⟨same, idle⟩ | ⟨poll, user, before, stage, ⟨-, taken⟩ | ⟨tokens, -, same⟩⟩
  · rw [same]
    refine ⟨p, listed, rfl, held.resolve_left ?_⟩
    rw [idle p listed]
    exact Bool.false_ne_true
  · have vacant : w.auth.refreshTokens.find (w.auth.draws + 1) = none := by
      refine Table.find_eq_none.mpr ?_
      intro r member drawn
      have early := sound.fresh r member
      omega
    have inserts := Table.insert_isSome.mpr (show w.auth.refreshTokens.find (w.mintedRow user).jti = none from vacant)
    rw [taken rfl] at inserts
    cases inserts
  · obtain rfl := Option.some.inj (listed.symm.trans before)
    rw [same]
    refine ⟨_, List.getElem?_set_self (List.getElem?_eq_some_iff.mp listed).1, rfl, rfl⟩

/-- However the mints in flight end, no code is spent twice: exactly when no
code has two polls that hold a pair or are minting one. -/
theorem Sound.spentOnce_iff (sound : Sound w) :
    (∀ mints : List Nat, SpentOnce (mints.foldl (fun w i => w.mint i true) w)) ↔ Sole w := by
  constructor
  · intro spent i j p q first second code held held'
    by_contra apart
    obtain ⟨p', serves, same, served⟩ := sound.mint_serves first held
    have untouched : (w.mint i true).polls[j]? = some q := (mint_other apart).trans second
    obtain ⟨q', serves', same', served'⟩ := (sound.mint i true).mint_serves untouched held'
    have kept : ((w.mint i true).mint j true).polls[i]? = some p' := (mint_other (Ne.symm apart)).trans serves
    exact apart ((spent [i, j]).once i j p' q' kept serves' (same.trans (code.trans same'.symm)) served served')
  · intro sole mints
    induction mints generalizing w with
    | nil =>
      refine ⟨?_, fun poll listed served => sound.live poll listed (.inr served)⟩
      intro i j p q first second code served served'
      exact sole i j p q first second code (.inr served) (.inr served')
    | cons i rest ih => exact ih (sound.mint i true) (sole.mint i true)

/-- A poll joins that has no pair yet. -/
theorem Sound.append (sound : Sound w) (unserved : poll.served = false) (live : poll.minting = true → poll.ReadLive) :
    Sound { w with polls := w.polls ++ [poll] } := by
  refine ⟨sound.fresh, ?_, ?_⟩
  · intro q member held
    rcases List.mem_append.mp member with old | new
    · exact sound.live q old held
    · obtain rfl := List.mem_singleton.mp new
      exact live (held.resolve_right (Bool.not_eq_true _ ▸ unserved))
  · intro q member served
    rcases List.mem_append.mp member with old | new
    · exact sound.spent q old served
    · obtain rfl := List.mem_singleton.mp new
      rw [unserved] at served
      cases served

theorem step_poll (w : DeviceWorld) (deviceCode : String) : w.step (.poll deviceCode) =
    { (w.beginPoll deviceCode).1 with polls := (w.beginPoll deviceCode).1.polls ++ [(w.beginPoll deviceCode).2] } := by
  obtain ⟨-, -, -, -, changes⟩ := beginPoll_spec w deviceCode
  have polls : (w.beginPoll deviceCode).1.polls = w.polls := by
    rcases changes with same | ⟨p, same⟩
    · rw [same]
    · rw [same, DeviceWorld.update]
  rw [polls]
  rfl

theorem Sound.beginPoll (sound : Sound w) (deviceCode : String) : Sound (w.step (.poll deviceCode)) := by
  obtain ⟨-, unserved, -, live, changes⟩ := beginPoll_spec w deviceCode
  rw [step_poll]
  refine Sound.append ?_ unserved live
  rcases changes with same | ⟨p, same⟩
  · rw [same]
    exact sound
  · rw [same]
    exact sound.update p _ _

theorem Sound.step (sound : Sound w) (event : DeviceEvent) : Sound (w.step event) := by
  cases event with
  | tick seconds => exact sound.of_requests rfl rfl rfl fun _ gone => gone
  | poll deviceCode => exact sound.beginPoll deviceCode
  | mint i signed => exact sound.mint i signed
  | approve userCode userId => exact sound.approve userCode userId
  | deny userCode => exact sound.update _ _ _
  | sweep victims => exact sound.of_requests rfl rfl rfl fun _ gone => find_delete_none w gone

theorem Sole.of_polls (sole : Sole w) (polls : w'.polls = w.polls) : Sole w' := by
  rw [Sole, polls]
  exact sole

/-- A new poll that mints is the only one for its code: no other mints, and the row would be gone after a 200. -/
theorem Sole.beginPoll (sole : Sole w) (sound : Sound w) {deviceCode : String} (alone : w.MintsAlone (.poll deviceCode)) :
    Sole (w.step (.poll deviceCode)) := by
  obtain ⟨code, unserved, minting, -, -⟩ := beginPoll_spec w deviceCode
  have first : ∀ q ∈ w.polls, q.deviceCode = deviceCode → granted (w.beginPoll deviceCode).2 → ¬ granted q := by
    intro q listed same held held'
    have redeemable := minting.mp (held.resolve_right (by rw [unserved]; exact Bool.false_ne_true))
    rcases held' with busy | served
    · rw [alone redeemable q listed same] at busy
      cases busy
    · have gone := sound.spent q listed served
      rw [same] at gone
      rw [DeviceWorld.redeemable, gone, Option.any_none, Bool.and_false] at redeemable
      cases redeemable
  intro i j p q at_ at' same held held'
  have place : ∀ {k : Nat} {r : DevicePoll}, (w.step (.poll deviceCode)).polls[k]? = some r →
      w.polls[k]? = some r ∨ k = w.polls.length ∧ r = (w.beginPoll deviceCode).2 := by
    intro k r listed
    change (w.polls ++ [(w.beginPoll deviceCode).2])[k]? = some r at listed
    exact List.getElem?_snoc_cases listed
  rcases place at_ with old | ⟨rfl, rfl⟩
  · rcases place at' with old' | ⟨rfl, rfl⟩
    · exact sole i j p q old old' same held held'
    · exact absurd held (first p (List.mem_of_getElem? old) (same.trans code) held')
  · rcases place at' with old' | ⟨rfl, -⟩
    · exact absurd held' (first q (List.mem_of_getElem? old') (same.symm.trans code) held)
    · rfl

theorem Sole.step (sole : Sole w) (sound : Sound w) {event : DeviceEvent} (alone : w.MintsAlone event) :
    Sole (w.step event) := by
  cases event with
  | tick seconds => exact sole
  | poll deviceCode => exact sole.beginPoll sound alone
  | mint i signed => exact sole.mint i signed
  | approve userCode userId => exact sole.of_polls (approve_polls w userCode userId)
  | deny userCode => exact sole
  | sweep victims => exact sole

theorem Sole.alone {event : DeviceEvent} (sole : Sole (w.step event)) : w.MintsAlone event := by
  cases event with
  | poll deviceCode =>
    obtain ⟨code, -, minting, -, -⟩ := beginPoll_spec w deviceCode
    intro redeemable q listed same
    by_contra busy
    rw [Bool.not_eq_false] at busy
    obtain ⟨j, at_⟩ := List.mem_iff_getElem?.mp listed
    have early := (List.getElem?_eq_some_iff.mp at_).1
    have old : (w.step (.poll deviceCode)).polls[j]? = some q := by
      change (w.polls ++ [(w.beginPoll deviceCode).2])[j]? = some q
      exact List.getElem?_snoc_old at_
    have new : (w.step (.poll deviceCode)).polls[w.polls.length]? = some (w.beginPoll deviceCode).2 := by
      change (w.polls ++ [(w.beginPoll deviceCode).2])[w.polls.length]? = _
      simp
    have last := sole j w.polls.length q _ old new (same.trans code.symm) (.inl busy) (.inl (minting.mpr redeemable))
    omega
  | tick => trivial
  | mint => trivial
  | approve => trivial
  | deny => trivial
  | sweep => trivial

theorem sound_boot (users : Table User User.id) (orgs : Table AllowlistOrg AllowlistOrg.id) (clock : Int)
    (requests : Table DeviceAuthRequest DeviceAuthRequest.deviceCode) : Sound (boot users orgs clock requests) where
  fresh _ member := by cases member
  live _ listed := by cases listed
  spent _ listed := by cases listed

/-- In every state of a run, and however the mints in flight there end, a device
code yields at most one pair, and only to a poll that read a live row:
exactly when no poll reaches its mint while another for its code is minting. -/
theorem device_code_spent_once_iff (users : Table User User.id) (orgs : Table AllowlistOrg AllowlistOrg.id)
    (clock : Int) (requests : Table DeviceAuthRequest DeviceAuthRequest.deviceCode) (events : List DeviceEvent) :
    (∀ done, done <+: events → ∀ mints : List Nat,
      SpentOnce ((done ++ mints.map fun i => DeviceEvent.mint i true).foldl step (boot users orgs clock requests))) ↔
      GuardedRun.Meets step MintsAlone (boot users orgs clock requests) events := by
  simp only [List.foldl_append, List.foldl_map]
  refine GuardedRun.Meets.iff_always (P := fun w => Sound w ∧ Sole w)
    (Q := fun w => ∀ mints : List Nat, SpentOnce (mints.foldl (fun w i => w.mint i true) w)) ?_ ?_ ?_ ?_
  · exact ⟨sound_boot users orgs clock requests, fun _ _ _ _ listed => by cases listed⟩
  · intro w ⟨sound, sole⟩
    exact sound.spentOnce_iff.mpr sole
  · intro w event ⟨sound, sole⟩ alone
    exact ⟨sound.step event, sole.step sound alone⟩
  · intro w event ⟨sound, _⟩ spent
    exact ((sound.step event).spentOnce_iff.mp spent).alone

/-- A row of Ada's that she has approved. -/
def approvedRequest : DeviceAuthRequest where
  deviceCode := "dc"
  userCode := "uc"
  approvedUserId := some "ada"
  approvedAt := some 0
  deniedAt := none
  deniedReason := none
  expiresAt := 600
  interval := 5
  lastPolledAt := none
  failedApprovalAttempts := 0

def adasDevice : DeviceWorld :=
  boot ⟨[⟨"ada", "acme", some "member", "github", some "gho_ada", none, 0⟩], by decide⟩ .empty 10
    ⟨[approvedRequest], by decide⟩

/-- A second poll reads the approved row while the first is still minting, an
interval later, and both are answered 200. -/
theorem not_device_code_spent_once : ¬ ∀ users orgs clock requests events,
    SpentOnce (List.foldl step (boot users orgs clock requests) events) := by
  intro spent
  have once : SpentOnce (List.foldl step adasDevice
    [.poll "dc", .tick 5, .poll "dc", .mint 0 true, .mint 1 true]) := spent _ _ _ _ _
  have same := once.once 0 1 _ _ rfl rfl rfl rfl rfl
  exact absurd same (by decide)

end DeviceWorld

end Coordinator
