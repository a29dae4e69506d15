import Mathlib.Data.List.Basic
import Coordinator.Library.GuardedRun

namespace Coordinator

/-- Where a `save` or `clear` stands: the filesystem call it awaits, or that it
has settled. A save that has joined the queue waits for the task `behind` it
chained itself to, and then writes a temporary file of its own. -/
inductive StoreCall (T : Type) where
  | mkdir (tokens : T)
  | chmod (tokens : T)
  | writeFile (tokens : T) (behind : Option Nat)
  | rename (tokens : T)
  | saved (tokens : T)
  | unlink
  | cleared
  deriving DecidableEq, Repr

namespace StoreCall
variable {T : Type}

/-- The file as the call means to leave it. -/
def effect : StoreCall T → Option T
  | mkdir tokens | chmod tokens | writeFile tokens _ | rename tokens | saved tokens => some tokens
  | unlink | cleared => none

def isSave (c : StoreCall T) : Bool := c.effect.isSome

def settled : StoreCall T → Bool
  | saved _ | cleared => true
  | _ => false

/-- A save that stands in the queue, or has stood there. -/
def joined : StoreCall T → Bool
  | writeFile .. | rename _ | saved _ => true
  | _ => false

/-- A save that is done with the queue, or a clear that is done. -/
def passed : StoreCall T → Bool
  | rename _ | saved _ | cleared => true
  | _ => false

/-- How the states of an earlier and a later call go together. -/
structure Goes (c d : StoreCall T) : Prop where
  queued : d.joined → c.isSave → c.joined
  written : d.passed → c.isSave → c.settled
  renamed : d.isSave → d.settled → ¬ c.isSave → c.settled

/-- With the calls made before it: a save joins the queue behind the saves among
them and is renamed after their clears, and a clear unlinks after their saves. -/
def InTurn (win32 : Bool) (earlier : List (StoreCall T)) : StoreCall T → Prop
  | mkdir _ => win32 → ∀ c ∈ earlier, c.isSave → c.joined
  | chmod _ => ∀ c ∈ earlier, c.isSave → c.joined
  | rename _ => ∀ c ∈ earlier, ¬ c.isSave → c.settled
  | unlink => ∀ c ∈ earlier, c.isSave → c.settled
  | _ => True

instance (win32 : Bool) (earlier : List (StoreCall T)) : (c : StoreCall T) → Decidable (c.InTurn win32 earlier)
  | mkdir _ => inferInstanceAs (Decidable (win32 → ∀ c ∈ earlier, c.isSave → c.joined))
  | chmod _ => inferInstanceAs (Decidable (∀ c ∈ earlier, c.isSave → c.joined))
  | rename _ => inferInstanceAs (Decidable (∀ c ∈ earlier, ¬ c.isSave → c.settled))
  | unlink => inferInstanceAs (Decidable (∀ c ∈ earlier, c.isSave → c.settled))
  | writeFile .. | saved _ | cleared => .isTrue trivial

end StoreCall

/-- A store with the calls made on it, in the order in which they were made.
`writeQueue` is the save at the tail of the queue, and `file` what the JSON in
the token file says. -/
structure FileTokenStore (T : Type) where
  win32 : Bool
  calls : List (StoreCall T)
  writeQueue : Option Nat
  file : Option T
  deriving DecidableEq, Repr

/-- A call is made, or the filesystem is done with what call `i` awaits. -/
inductive StoreEvent (T : Type) where
  | save (tokens : T)
  | clear
  | resume (i : Nat)
  deriving DecidableEq, Repr

namespace FileTokenStore
variable {T : Type}

def opened (win32 : Bool) (found : Option T) : FileTokenStore T := ⟨win32, [], none, found⟩

def move (s : FileTokenStore T) (i : Nat) (c : StoreCall T) : FileTokenStore T := { s with calls := s.calls.set i c }

/-- The save takes its place in the queue. -/
def join (s : FileTokenStore T) (i : Nat) (tokens : T) : FileTokenStore T :=
  { s.move i (.writeFile tokens s.writeQueue) with writeQueue := some i }

def hasSettled (s : FileTokenStore T) (i : Nat) : Bool := (s.calls[i]?).any StoreCall.settled

/-- The code behind an await, up to the next one. -/
def resume (s : FileTokenStore T) (i : Nat) : FileTokenStore T :=
  match s.calls[i]? with
  | some (.mkdir tokens) => if ¬ s.win32 then s.move i (.chmod tokens) else s.join i tokens
  | some (.chmod tokens) => s.join i tokens
  -- the file is written once the task ahead is done
  | some (.writeFile tokens behind) => if behind.all s.hasSettled then s.move i (.rename tokens) else s
  | some (.rename tokens) => { s.move i (.saved tokens) with file := some tokens }
  -- a file that is not there is no error
  | some .unlink => { s.move i .cleared with file := none }
  | _ => s

def step (s : FileTokenStore T) : StoreEvent T → FileTokenStore T
  | .save tokens => { s with calls := s.calls ++ [.mkdir tokens] }
  | .clear => { s with calls := s.calls ++ [.unlink] }
  | .resume i => s.resume i

def AllSettled (s : FileTokenStore T) : Prop := ∀ c ∈ s.calls, c.settled

/-- The file as the last call means to leave it. -/
def lastEffect (s : FileTokenStore T) (found : Option T) : Option T := (s.calls.map StoreCall.effect).getLastD found

/-- The same from the events: the tokens of the last `save`, unless a `clear` came after it. -/
def outcome (found : Option T) (events : List (StoreEvent T)) : Option T :=
  events.foldl (fun left e => match e with | .save tokens => some tokens | .clear => none | .resume _ => left) found

/-- Every call that goes on is in its turn. -/
def InOrder (s : FileTokenStore T) : StoreEvent T → Prop
  | .resume i => ∀ c ∈ s.calls[i]?, c.InTurn s.win32 (s.calls.take i)
  | _ => True

instance (s : FileTokenStore T) : (e : StoreEvent T) → Decidable (s.InOrder e)
  | .resume i => inferInstanceAs (Decidable (∀ c ∈ s.calls[i]?, c.InTurn s.win32 (s.calls.take i)))
  | .save _ | .clear => .isTrue trivial

/-- The file, from the calls that have settled: the last of them decides. -/
def landed (found : Option T) (calls : List (StoreCall T)) : Option T :=
  calls.foldl (fun file c => if c.settled then c.effect else file) found

/-- Call `p` is one of these. -/
def Has (s : FileTokenStore T) (q : StoreCall T → Bool) (p : Nat) : Prop := ∃ c, s.calls[p]? = some c ∧ q c

/-- The task behind which save `i` stands is that of the last save made before it. -/
def Follows (s : FileTokenStore T) (i : Nat) (behind : Option Nat) : Prop :=
  ∀ j < i, s.Has StoreCall.isSave j → ∃ p < i, behind = some p ∧ j ≤ p ∧ s.Has StoreCall.isSave p

/-- The queue holds the saves in the order in which they were made, the calls
settle in that order as far as it matters, and the last to settle has left the file. -/
structure Ordered (found : Option T) (s : FileTokenStore T) : Prop where
  paired : s.calls.Pairwise StoreCall.Goes
  chained : ∀ i tokens behind, s.calls[i]? = some (.writeFile tokens behind) → s.Follows i behind
  tail : ∀ i, s.Has StoreCall.joined i → ∃ p, s.writeQueue = some p ∧ i ≤ p ∧ s.Has StoreCall.joined p
  file : s.file = landed found s.calls

variable {s : FileTokenStore T} {found : Option T} {i j : Nat} {c d : StoreCall T} {tokens : T}

theorem mem_take {calls : List (StoreCall T)} : c ∈ calls.take i ↔ ∃ j < i, calls[j]? = some c := by
  rw [List.mem_take_iff_getElem]
  constructor
  · rintro ⟨j, bound, rfl⟩
    exact ⟨j, by omega, List.getElem?_eq_getElem (by omega)⟩
  · rintro ⟨j, before, at_j⟩
    obtain ⟨bound, rfl⟩ := List.getElem?_eq_some_iff.mp at_j
    exact ⟨j, by omega, rfl⟩

theorem goes_of_lt {calls : List (StoreCall T)} (paired : calls.Pairwise StoreCall.Goes) (before : i < j)
    (at_i : calls[i]? = some c) (at_j : calls[j]? = some d) : c.Goes d := by
  obtain ⟨boundI, rfl⟩ := List.getElem?_eq_some_iff.mp at_i
  obtain ⟨boundJ, rfl⟩ := List.getElem?_eq_some_iff.mp at_j
  exact List.pairwise_iff_getElem.mp paired i j boundI boundJ before

theorem goes_of_drop {calls : List (StoreCall T)} (paired : calls.Pairwise StoreCall.Goes) (at_i : calls[i]? = some c)
    (later : d ∈ calls.drop (i + 1)) : c.Goes d := by
  obtain ⟨k, at_k⟩ := List.getElem?_of_mem later
  rw [List.getElem?_drop] at at_k
  exact goes_of_lt paired (by omega) at_i at_k

/-- A call that moves on is looked at against the earlier and against the later ones. -/
theorem paired_set {calls : List (StoreCall T)} (paired : calls.Pairwise StoreCall.Goes) (at_i : calls[i]? = some c)
    (earlier : ∀ b ∈ calls.take i, b.Goes c → b.Goes d) (later : ∀ e, c.Goes e → d.Goes e) :
    (calls.set i d).Pairwise StoreCall.Goes := by
  obtain ⟨bound, here⟩ := List.getElem?_eq_some_iff.mp at_i
  have split : calls = calls.take i ++ c :: calls.drop (i + 1) := by
    rw [← here, List.getElem_cons_drop, List.take_append_drop]
  rw [List.set_eq_take_append_cons_drop, if_pos bound]
  rw [split, List.pairwise_append, List.pairwise_cons] at paired
  obtain ⟨front, ⟨behind, back⟩, across⟩ := paired
  refine List.pairwise_append.mpr ⟨front, List.pairwise_cons.mpr ⟨fun e member => later e (behind e member), back⟩, ?_⟩
  intro b member e listed
  rcases List.mem_cons.mp listed with rfl | rest
  · exact earlier b member (across b member c List.mem_cons_self)
  · exact across b member e (List.mem_cons_of_mem _ rest)

theorem foldl_landed {calls : List (StoreCall T)} {file : Option T} (agree : ∀ c ∈ calls, c.settled → c.effect = file) :
    landed file calls = file := by
  induction calls with
  | nil => rfl
  | cons c rest ih =>
    have same : (if c.settled then c.effect else file) = file := by
      split
      · rename_i settled
        exact agree c List.mem_cons_self settled
      · rfl
    rw [landed, List.foldl_cons, same]
    exact ih fun b member => agree b (List.mem_cons_of_mem _ member)

theorem landed_split {calls : List (StoreCall T)} (at_i : calls[i]? = some c) (d : StoreCall T) :
    landed found (calls.set i d) =
      landed (if d.settled then d.effect else landed found (calls.take i)) (calls.drop (i + 1)) := by
  obtain ⟨bound, -⟩ := List.getElem?_eq_some_iff.mp at_i
  rw [List.set_eq_take_append_cons_drop, if_pos bound, landed, List.foldl_append, List.foldl_cons]
  rfl

theorem landed_set_pending {calls : List (StoreCall T)} (at_i : calls[i]? = some c) (d : StoreCall T)
    (before : ¬ c.settled) (after : ¬ d.settled) : landed found (calls.set i d) = landed found calls := by
  obtain ⟨bound, here⟩ := List.getElem?_eq_some_iff.mp at_i
  have same : calls.set i c = calls := by rw [← here, List.set_getElem_self]
  have unmoved : landed found (calls.set i c) = _ := landed_split at_i c
  rw [same, if_neg before] at unmoved
  rw [landed_split at_i d, if_neg after, unmoved]

theorem landed_set_settled {calls : List (StoreCall T)} (at_i : calls[i]? = some c) (d : StoreCall T) (settled : d.settled)
    (later : ∀ e ∈ calls.drop (i + 1), e.settled → e.effect = d.effect) : d.effect = landed found (calls.set i d) := by
  rw [landed_split at_i d, if_pos settled, foldl_landed later]

theorem calls_move (at_i : s.calls[i]? = some c) : (s.move i d).calls[j]? = if i = j then some d else s.calls[j]? := by
  obtain ⟨bound, -⟩ := List.getElem?_eq_some_iff.mp at_i
  by_cases same : i = j
  · subst same
    rw [if_pos rfl, FileTokenStore.move, List.getElem?_set_self bound]
  · rw [if_neg same, FileTokenStore.move, List.getElem?_set_ne same]

theorem has_move {q : StoreCall T → Bool} (at_i : s.calls[i]? = some c) (same : q d = q c) :
    (s.move i d).Has q j ↔ s.Has q j := by
  unfold Has
  rw [calls_move at_i]
  by_cases here : i = j
  · subst here
    simp [at_i, same]
  · simp [here]

theorem follows_move (at_i : s.calls[i]? = some c) (kind : d.isSave = c.isSave) {behind : Option Nat}
    (follows : s.Follows j behind) : (s.move i d).Follows j behind := by
  intro k before saves
  obtain ⟨p, bound, tail, above, member⟩ := follows k before ((has_move at_i kind).mp saves)
  exact ⟨p, bound, tail, above, (has_move at_i kind).mpr member⟩

namespace Ordered

/-- A call that keeps its kind and its place in the queue moves on. -/
theorem move (ordered : s.Ordered found) (at_i : s.calls[i]? = some c) (d : StoreCall T) (file : Option T)
    (kind : d.isSave = c.isSave) (place : d.joined = c.joined) (plain : ∀ tokens behind, d ≠ .writeFile tokens behind)
    (earlier : ∀ b ∈ s.calls.take i, b.Goes c → b.Goes d) (later : ∀ e, c.Goes e → d.Goes e)
    (lands : file = landed found (s.calls.set i d)) : Ordered found { s.move i d with file := file } where
  paired := paired_set ordered.paired at_i earlier later
  chained k tokens behind at_k := by
    refine follows_move at_i kind (ordered.chained k tokens behind ?_)
    replace at_k : (s.move i d).calls[k]? = some (.writeFile tokens behind) := at_k
    rw [calls_move at_i] at at_k
    split at at_k
    · exact absurd (Option.some.inj at_k) (plain tokens behind)
    · exact at_k
  tail k queued := by
    obtain ⟨p, last, above, joined⟩ := ordered.tail k ((has_move at_i place).mp queued)
    exact ⟨p, last, above, (has_move at_i place).mpr joined⟩
  file := lands

/-- Nobody behind a save that has not joined the queue has joined it, since that save would have joined first. -/
theorem joined_before (ordered : s.Ordered found) (at_i : s.calls[i]? = some c) (kind : c.isSave) (outside : ¬ c.joined)
    (queued : s.Has StoreCall.joined j) : j < i := by
  obtain ⟨d, at_j, queued⟩ := queued
  rcases Nat.lt_trichotomy j i with before | rfl | after
  · exact before
  · rw [at_i] at at_j
    cases at_j
    exact absurd queued outside
  · exact absurd ((goes_of_lt ordered.paired after at_i at_j).queued queued kind) outside

/-- The tail of the queue, for a save before which all have joined it. -/
theorem follows_tail (ordered : s.Ordered found) (at_i : s.calls[i]? = some c) (kind : c.isSave) (outside : ¬ c.joined)
    (turn : ∀ b ∈ s.calls.take i, b.isSave → b.joined) : s.Follows i s.writeQueue := by
  rintro j before ⟨b, at_j, saves⟩
  obtain ⟨p, last, above, joined⟩ := ordered.tail j ⟨b, at_j, turn b (mem_take.mpr ⟨j, before, at_j⟩) saves⟩
  have inFront := ordered.joined_before at_i kind outside joined
  obtain ⟨d, at_p, queued⟩ := joined
  refine ⟨p, inFront, last, above, d, at_p, ?_⟩
  cases d <;> first | rfl | cases queued

/-- A save joins the queue behind all the earlier ones. -/
theorem join (ordered : s.Ordered found) (at_i : s.calls[i]? = some c) (unplaced : c = .mkdir tokens ∨ c = .chmod tokens)
    (turn : ∀ b ∈ s.calls.take i, b.isSave → b.joined) : Ordered found (s.join i tokens) := by
  have kind : c.isSave = true := by rcases unplaced with rfl | rfl <;> rfl
  have outside : ¬ c.joined := by rcases unplaced with rfl | rfl <;> exact Bool.false_ne_true
  have pending : ¬ c.settled := by rcases unplaced with rfl | rfl <;> exact Bool.false_ne_true
  have moved : ∀ {k e}, (s.join i tokens).calls[k]? = some e →
      k = i ∧ e = .writeFile tokens s.writeQueue ∨ s.calls[k]? = some e := by
    intro k e at_k
    replace at_k : (s.move i (.writeFile tokens s.writeQueue)).calls[k]? = some e := at_k
    rw [calls_move at_i] at at_k
    split at at_k
    · rename_i same
      exact .inl ⟨same.symm, (Option.some.inj at_k).symm⟩
    · exact .inr at_k
  refine ⟨paired_set ordered.paired at_i ?_ ?_, ?_, ?_, ?_⟩
  · intro b member _
    exact ⟨fun _ => turn b member, fun passed => (by cases passed), fun _ settled => (by cases settled)⟩
  · intro e goes
    refine ⟨fun _ _ => rfl, fun passed => ?_, fun _ _ clear => absurd rfl clear⟩
    exact absurd (goes.written passed kind) pending
  · intro k text behind at_k
    refine follows_move (d := .writeFile tokens s.writeQueue) at_i kind.symm ?_
    rcases moved at_k with ⟨rfl, same⟩ | old
    · cases same
      exact ordered.follows_tail at_i kind outside turn
    · exact ordered.chained k text behind old
  · rintro k ⟨e, at_k, queued⟩
    refine ⟨i, rfl, ?_, .writeFile tokens s.writeQueue, (calls_move at_i).trans (if_pos rfl), rfl⟩
    rcases moved at_k with ⟨rfl, -⟩ | old
    · exact Nat.le_refl k
    · exact Nat.le_of_lt (ordered.joined_before at_i kind outside ⟨e, old, queued⟩)
  · exact ordered.file.trans (landed_set_pending at_i (.writeFile tokens s.writeQueue) pending nofun).symm

/-- A task that comes to its turn finds every earlier save settled. -/
theorem written (ordered : s.Ordered found) {behind : Option Nat} (at_i : s.calls[i]? = some (.writeFile tokens behind))
    (turn : behind.all s.hasSettled) : ∀ b ∈ s.calls.take i, b.isSave → b.settled := by
  intro b member saves
  obtain ⟨j, before, at_j⟩ := mem_take.mp member
  obtain ⟨p, bound, rfl, above, d, at_p, kind⟩ := ordered.chained i tokens behind at_i j before ⟨b, at_j, saves⟩
  simp only [Option.all_some, hasSettled, at_p, Option.any_some] at turn
  rcases Nat.lt_or_eq_of_le above with earlier | rfl
  · refine (goes_of_lt ordered.paired earlier at_j at_p).written ?_ saves
    cases d <;> first | rfl | cases turn
  · rw [at_j] at at_p
    cases at_p
    exact turn

/-- A call that is made stands behind the others and has done nothing yet. -/
theorem issue (ordered : s.Ordered found) (outside : ¬ c.joined) (unpassed : ¬ c.passed) (pending : ¬ c.settled) :
    Ordered found { s with calls := s.calls ++ [c] } := by
  have old : ∀ {k : Nat} {e : StoreCall T}, (s.calls ++ [c])[k]? = some e → e.joined → s.calls[k]? = some e := by
    intro k e at_k queued
    by_cases within : k < s.calls.length
    · rwa [List.getElem?_append_left within] at at_k
    · rw [List.getElem?_append_right (Nat.le_of_not_lt within)] at at_k
      rw [List.mem_singleton.mp (List.mem_of_getElem? at_k)] at queued
      exact absurd queued outside
  have kept : ∀ {q k}, s.Has q k → Has { s with calls := s.calls ++ [c] } q k := by
    rintro q k ⟨e, at_k, here⟩
    refine ⟨e, ?_, here⟩
    rw [List.getElem?_append_left (List.getElem?_eq_some_iff.mp at_k).1, at_k]
  refine ⟨?_, ?_, ?_, ?_⟩
  · refine List.pairwise_append.mpr ⟨ordered.paired, List.pairwise_singleton _ _, ?_⟩
    intro b _ e listed
    rw [List.mem_singleton.mp listed]
    exact ⟨fun queued => absurd queued outside, fun passed => absurd passed unpassed,
      fun _ settled => absurd settled pending⟩
  · rintro k tokens behind at_k j before ⟨b, at_j, saves⟩
    have at_k' := old at_k rfl
    have bound := (List.getElem?_eq_some_iff.mp at_k').1
    rw [List.getElem?_append_left (Nat.lt_trans before bound)] at at_j
    obtain ⟨p, inFront, last, above, member⟩ := ordered.chained k tokens behind at_k' j before ⟨b, at_j, saves⟩
    exact ⟨p, inFront, last, above, kept member⟩
  · rintro k ⟨e, at_k, queued⟩
    obtain ⟨p, last, above, joined⟩ := ordered.tail k ⟨e, old at_k queued, queued⟩
    exact ⟨p, last, above, kept joined⟩
  · rw [landed, List.foldl_append, List.foldl_cons, List.foldl_nil, if_neg pending]
    exact ordered.file

/-- What a guarded step leaves. -/
theorem step (ordered : s.Ordered found) {a : StoreEvent T} (inOrder : s.InOrder a) : Ordered found (s.step a) := by
  cases a with
  | save tokens => exact ordered.issue Bool.false_ne_true Bool.false_ne_true Bool.false_ne_true
  | clear => exact ordered.issue Bool.false_ne_true Bool.false_ne_true Bool.false_ne_true
  | resume i =>
    simp only [FileTokenStore.step, resume]
    cases at_i : s.calls[i]? with
    | none => exact ordered
    | some c =>
      have turn := inOrder c at_i
      cases c with
      | mkdir tokens =>
        simp only
        split
        · refine ordered.move at_i (.chmod tokens) s.file rfl rfl nofun ?_ ?_ ?_
          · exact fun b _ _ => ⟨nofun, nofun, nofun⟩
          · exact fun e goes => ⟨goes.queued, goes.written, goes.renamed⟩
          · exact ordered.file.trans (landed_set_pending at_i (.chmod tokens) nofun nofun).symm
        · rename_i win32
          exact ordered.join at_i (.inl rfl) (turn (not_not.mp win32))
      | chmod tokens => exact ordered.join at_i (.inr rfl) turn
      | writeFile tokens behind =>
        simp only
        split
        · rename_i ahead
          refine ordered.move at_i (.rename tokens) s.file rfl rfl nofun ?_ ?_ ?_
          · exact fun b member goes => ⟨goes.queued, fun _ => ordered.written at_i ahead b member, nofun⟩
          · exact fun e goes => ⟨fun _ _ => rfl, goes.written, goes.renamed⟩
          · exact ordered.file.trans (landed_set_pending at_i (.rename tokens) nofun nofun).symm
        · exact ordered
      | rename tokens =>
        refine ordered.move at_i (.saved tokens) (some tokens) rfl rfl nofun ?_ ?_
          (landed_set_settled at_i (.saved tokens) rfl ?_)
        · exact fun b member goes => ⟨goes.queued, goes.written, fun _ _ => turn b member⟩
        · exact fun e goes => ⟨fun _ _ => rfl, fun _ _ => rfl, fun _ _ _ => rfl⟩
        · intro e later settled
          have passed : e.passed := by cases e <;> first | rfl | cases settled
          cases (goes_of_drop ordered.paired at_i later).written passed rfl
      | unlink =>
        refine ordered.move at_i .cleared none rfl rfl nofun ?_ ?_ (landed_set_settled at_i .cleared rfl ?_)
        · exact fun b member goes => ⟨nofun, fun _ => turn b member, nofun⟩
        · exact fun e goes => ⟨fun _ => nofun, fun _ => nofun, fun _ _ _ => rfl⟩
        · intro e later settled
          cases effect : e.effect with
          | none => rfl
          | some tokens =>
            have kind : e.isSave := by rw [StoreCall.isSave, effect]; rfl
            cases (goes_of_drop ordered.paired at_i later).renamed kind settled Bool.false_ne_true
      | saved | cleared => exact ordered

theorem start (win32 : Bool) (found : Option T) : (opened win32 found).Ordered found where
  paired := .nil
  chained _ _ _ none := by cases none
  tail _ none := by obtain ⟨_, none, -⟩ := none; cases none
  file := rfl

theorem run {win32 : Bool} {events : List (StoreEvent T)}
    (inOrder : GuardedRun.Meets FileTokenStore.step InOrder (opened win32 found) events) :
    (events.foldl FileTokenStore.step (opened win32 found)).Ordered found :=
  (GuardedRun.of_meets inOrder).invariant (fun _ _ ordered ok => ordered.step ok) (start win32 found)

/-- Once all have settled the last call was the last to settle. -/
theorem file_eq (ordered : s.Ordered found) (settled : s.AllSettled) : s.file = s.lastEffect found := by
  rw [ordered.file, landed, lastEffect]
  rcases s.calls.eq_nil_or_concat' with none | ⟨before, c, calls⟩
  · rw [none]
    rfl
  · have last : c.settled := settled c (by rw [calls]; simp)
    rw [calls, List.map_append, List.map_singleton, List.getLastD_concat, List.foldl_append, List.foldl_cons,
      List.foldl_nil, if_pos last]

end Ordered

theorem effects_move (at_i : s.calls[i]? = some c) (d : StoreCall T) (same : d.effect = c.effect) :
    (s.move i d).calls.map StoreCall.effect = s.calls.map StoreCall.effect := by
  refine List.ext_getElem? fun k => ?_
  rw [List.getElem?_map, List.getElem?_map, calls_move at_i]
  split
  · rename_i here
    subst here
    rw [at_i, Option.map_some, Option.map_some, same]
  · rfl

/-- What a call is for does not change while it runs. -/
theorem effects_resume (s : FileTokenStore T) (i : Nat) :
    (s.resume i).calls.map StoreCall.effect = s.calls.map StoreCall.effect := by
  unfold resume
  cases at_i : s.calls[i]? with
  | none => rfl
  | some c =>
    cases c with
    | mkdir tokens =>
      simp only
      split
      · exact effects_move at_i (.chmod tokens) rfl
      · exact effects_move at_i (.writeFile tokens s.writeQueue) rfl
    | chmod tokens => exact effects_move at_i (.writeFile tokens s.writeQueue) rfl
    | writeFile tokens behind =>
      simp only
      split
      · exact effects_move at_i (.rename tokens) rfl
      · rfl
    | rename tokens => exact effects_move at_i (.saved tokens) rfl
    | unlink => exact effects_move at_i .cleared rfl
    | saved | cleared => rfl

theorem lastEffect_step (e : StoreEvent T) : (s.step e).lastEffect found =
    match e with | .save tokens => some tokens | .clear => none | .resume _ => s.lastEffect found := by
  cases e with
  | save tokens => simp only [step, lastEffect, List.map_append, List.map_singleton, List.getLastD_concat, StoreCall.effect]
  | clear => simp only [step, lastEffect, List.map_append, List.map_singleton, List.getLastD_concat, StoreCall.effect]
  | resume i => rw [step, lastEffect, effects_resume, lastEffect]

theorem lastEffect_run (events : List (StoreEvent T)) (s : FileTokenStore T) :
    (events.foldl step s).lastEffect found = outcome (s.lastEffect found) events := by
  induction events generalizing s with
  | nil => rfl
  | cons e rest ih => rw [List.foldl_cons, ih, lastEffect_step, outcome, outcome, List.foldl_cons]

/-- Whatever the interleaving, once all calls have settled the file is as the
last of them means to leave it, if each joined the queue, renamed and unlinked
in its turn. -/
theorem settles_last {win32 : Bool} {events : List (StoreEvent T)}
    (inOrder : GuardedRun.Meets step InOrder (opened win32 found) events)
    (settled : (events.foldl step (opened win32 found)).AllSettled) :
    (events.foldl step (opened win32 found)).file = outcome found events := by
  rw [(Ordered.run inOrder).file_eq settled, lastEffect_run]
  rfl

/-- Two saves and a logout, all under way at once. -/
def logout : List (StoreEvent String) :=
  [.save "first", .save "second", .clear, .resume 0, .resume 1, .resume 0, .resume 1, .resume 1, .resume 0, .resume 0,
    .resume 1, .resume 1, .resume 2]

theorem settles_last_logout :
    (logout.foldl step (opened false (some "old"))).AllSettled ∧
      (logout.foldl step (opened false (some "old"))).file = none := by
  have inOrder : GuardedRun.Meets step InOrder (opened false (some "old")) logout := by decide
  have settled : (logout.foldl step (opened false (some "old"))).AllSettled := by
    unfold AllSettled
    decide
  exact ⟨settled, settles_last inOrder settled⟩

/-- The same without the condition. -/
def SettlesLast : Prop :=
  ∀ (win32 : Bool) (found : Option String) (events : List (StoreEvent String)),
    (events.foldl step (opened win32 found)).AllSettled →
      (events.foldl step (opened win32 found)).file = outcome found events

/-- The unlink of a logout is done before the rename of the save it follows, and the tokens stay. -/
theorem not_settlesLast : ¬ SettlesLast := by
  intro last
  have survived := last false none [.save "first", .clear, .resume 1, .resume 0, .resume 0, .resume 0, .resume 0]
  revert survived
  unfold AllSettled
  decide

end FileTokenStore

/-- A client that keeps its tokens in such a store. -/
structure PersistingClient (T : Type) where
  tokens : Option T
  store : FileTokenStore T

inductive ClientEvent (T : Type) where
  | setTokens (tokens : T)
  | clearTokens
  | persistTokens
  | resume (i : Nat)

namespace PersistingClient
variable {T : Type} {c : PersistingClient T} {found : Option T}

/-- What the store gets to do. -/
def storeEvent (c : PersistingClient T) : ClientEvent T → Option (StoreEvent T)
  | .setTokens tokens => some (.save tokens)
  | .clearTokens => some .clear
  | .persistTokens => c.tokens.map .save
  | .resume i => some (.resume i)

def step (c : PersistingClient T) (e : ClientEvent T) : PersistingClient T where
  tokens := match e with | .setTokens tokens => some tokens | .clearTokens => none | _ => c.tokens
  store := (c.storeEvent e).elim c.store c.store.step

def InOrder (c : PersistingClient T) (e : ClientEvent T) : Prop := ∀ a ∈ c.storeEvent e, c.store.InOrder a

/-- Every call so far has left the tokens of the client as the ones to keep. -/
structure Mirrors (found : Option T) (c : PersistingClient T) : Prop where
  ordered : c.store.Ordered found
  last : c.store.calls = [] ∨ c.store.lastEffect found = c.tokens

theorem step_store (e : ClientEvent T) : (c.step e).store = (c.storeEvent e).elim c.store c.store.step := rfl

theorem Mirrors.step (mirrors : c.Mirrors found) {e : ClientEvent T} (inOrder : c.InOrder e) :
    (c.step e).Mirrors found := by
  have ordered : (c.step e).store.Ordered found := by
    rw [step_store]
    cases passed : c.storeEvent e with
    | none => exact mirrors.ordered
    | some a => exact mirrors.ordered.step (inOrder a passed)
  refine ⟨ordered, ?_⟩
  cases e with
  | setTokens tokens => exact .inr (FileTokenStore.lastEffect_step (.save tokens))
  | clearTokens => exact .inr (FileTokenStore.lastEffect_step .clear)
  | persistTokens =>
    cases held : c.tokens with
    | none =>
      have idle : (c.step .persistTokens).store = c.store := by
        rw [step_store, storeEvent, held]
        rfl
      rw [idle]
      exact mirrors.last
    | some tokens =>
      have saves : (c.step .persistTokens).store = c.store.step (.save tokens) := by
        rw [step_store, storeEvent, held]
        rfl
      rw [saves]
      exact .inr ((FileTokenStore.lastEffect_step (.save tokens)).trans held.symm)
  | resume i =>
    refine mirrors.last.imp ?_ ?_
    · intro none
      have same := FileTokenStore.effects_resume c.store i
      rw [none] at same
      exact List.map_eq_nil_iff.mp same
    · intro last
      exact (FileTokenStore.lastEffect_step (.resume i)).trans last

/-- Under the same condition the token file is what the client holds, once it
has called its store and all calls have settled. -/
theorem file_mirrors {win32 : Bool} {events : List (ClientEvent T)}
    (inOrder : GuardedRun.Meets step InOrder ⟨none, .opened win32 found⟩ events) :
    let c := events.foldl step ⟨none, .opened win32 found⟩
    c.store.calls ≠ [] → c.store.AllSettled → c.store.file = c.tokens := by
  intro c called settled
  have mirrors : c.Mirrors found := (GuardedRun.of_meets inOrder).invariant (P := Mirrors found)
    (fun _ _ mirrors ok => mirrors.step ok) ⟨.start win32 found, .inl rfl⟩
  rw [mirrors.ordered.file_eq settled]
  exact mirrors.last.resolve_left called

end PersistingClient

end Coordinator
