import Mathlib.Data.List.Perm.Subperm
import Mathlib.Logic.Function.Basic

universe u v w

/-- How requests ask for leases: a request names the lease it is for, if any,
and the time it is served; a lease is granted for `ttl`, and refused to
everybody until it runs out. -/
structure Leasing (δ : Type u) (κ : Type v) where
  lease : δ → Option κ
  time : δ → Nat
  ttl : Nat

namespace Leasing
variable {δ : Type u} {κ : Type v} {τ : Type w} [DecidableEq κ] (L : Leasing δ κ)

/-- The requests that are granted, served in the order of the list from a
state in which each lease runs out at a known time. -/
def granted (expiry : κ → Option Nat) : List δ → List δ
  | [] => []
  | d :: rest =>
    match L.lease d with
    | none => granted expiry rest
    | some k =>
      if (expiry k).all (· ≤ L.time d) then
        d :: granted (Function.update expiry k (some (L.time d + L.ttl))) rest
      else granted expiry rest

/-- The second request comes no earlier than the lease of the first runs out. -/
def Apart (d e : δ) : Prop := ∀ k, L.lease d = some k → L.lease e = some k → L.time d + L.ttl ≤ L.time e

variable {L} {expiry : κ → Option Nat} {requests chosen : List δ} {k : κ}

theorem granted_sublist : (L.granted expiry requests).Sublist requests := by
  induction requests generalizing expiry with
  | nil => exact .slnil
  | cons d rest ih =>
    unfold granted
    split
    · exact ih.cons d
    · split
      · exact ih.cons_cons d
      · exact ih.cons d

theorem granted_lease {d : δ} (member : d ∈ L.granted expiry requests) : (L.lease d).isSome := by
  induction requests generalizing expiry with
  | nil => cases member
  | cons e rest ih =>
    unfold granted at member
    split at member
    · exact ih member
    · rename_i j asks
      split at member
      · rcases List.mem_cons.mp member with rfl | later
        · rw [asks]
          rfl
        · exact ih later
      · exact ih member

/-- Nothing is granted before the lease in force has run out. -/
theorem granted_after {d : δ} {until' : Nat} (member : d ∈ L.granted expiry requests) (asks : L.lease d = some k)
    (held : expiry k = some until') : until' ≤ L.time d := by
  induction requests generalizing expiry until' with
  | nil => cases member
  | cons e rest ih =>
    unfold granted at member
    split at member
    · exact ih member held
    · rename_i j first
      split at member
      · rename_i free
        by_cases same : j = k
        · subst same
          rw [held] at free
          have ranOut : until' ≤ L.time e := of_decide_eq_true free
          rcases List.mem_cons.mp member with rfl | later
          · exact ranOut
          · have after := ih later (Function.update_self ..)
            omega
        · rcases List.mem_cons.mp member with rfl | later
          · exact absurd (Option.some.inj (first.symm.trans asks)) same
          · exact ih later (by rw [Function.update_of_ne (Ne.symm same), held])
      · exact ih member held

theorem granted_apart : (L.granted expiry requests).Pairwise L.Apart := by
  induction requests generalizing expiry with
  | nil => exact .nil
  | cons d rest ih =>
    unfold granted
    split
    · exact ih
    · rename_i j first
      split
      · refine .cons (fun e later k asks asks' => ?_) ih
        cases first.symm.trans asks
        exact granted_after later asks' (Function.update_self ..)
      · exact ih

/-- Granting whenever the lease is free grants at least as many requests for
it as anybody could pick apart from each other. -/
theorem length_le_granted (inOrder : requests.Pairwise fun d e => L.time d ≤ L.time e) (picked : chosen.Sublist requests)
    (asks : ∀ c ∈ chosen, L.lease c = some k) (apart : chosen.Pairwise L.Apart)
    (free : ∀ c ∈ chosen, (expiry k).all (· ≤ L.time c)) :
    chosen.length ≤ ((L.granted expiry requests).filter fun d => L.lease d = some k).length := by
  induction requests generalizing chosen expiry with
  | nil =>
    rw [List.sublist_nil.mp picked]
    exact Nat.le_refl 0
  | cons d rest ih =>
    rw [List.pairwise_cons] at inOrder
    -- once `d` has the lease, whoever comes after an earlier pick comes after `d`'s lease has run out
    have afterGrant : ∀ c later, (c :: later).Pairwise L.Apart → (∀ e ∈ c :: later, L.lease e = some k) →
        later.Sublist rest → L.time d ≤ L.time c →
        later.length ≤ ((L.granted (Function.update expiry k (some (L.time d + L.ttl))) rest).filter fun d =>
          L.lease d = some k).length := by
      intro c later apart asks picked after
      rw [List.pairwise_cons] at apart
      refine ih inOrder.2 picked (fun e member => asks e (List.mem_cons_of_mem c member)) apart.2 fun e member => ?_
      have ranOut := apart.1 e member k (asks c (by simp)) (asks e (List.mem_cons_of_mem c member))
      rw [Function.update_self]
      exact decide_eq_true (by omega)
    cases picked with
    | cons _ inRest =>
      unfold granted
      split
      · exact ih inOrder.2 inRest asks apart free
      · rename_i j first
        split
        · by_cases same : j = k
          · subst same
            rw [List.filter_cons_of_pos (by exact decide_eq_true first), List.length_cons]
            cases chosen with
            | nil => exact Nat.zero_le _
            | cons c later =>
              have bound := afterGrant c later apart asks ((List.sublist_cons_self c later).trans inRest)
                (inOrder.1 c (inRest.subset (by simp)))
              rw [List.length_cons]
              omega
          · rw [List.filter_cons_of_neg (by simp [first, same])]
            exact ih inOrder.2 inRest asks apart fun c member => by
              rw [Function.update_of_ne (Ne.symm same)]
              exact free c member
        · exact ih inOrder.2 inRest asks apart free
    | cons_cons _ inRest =>
      rename_i later
      have first := asks d (by simp)
      have bound := afterGrant d later apart asks inRest (Nat.le_refl _)
      unfold granted
      rw [first]
      simp only
      rw [if_pos (free d (by simp)), List.filter_cons_of_pos (by exact decide_eq_true first),
        List.length_cons, List.length_cons]
      omega

section Occasions
variable (occasion : δ → τ)

/-- The requests of one occasion ask for one lease, and come within its term. -/
structure Brief (L : Leasing δ κ) (requests : List δ) : Prop where
  lease : ∀ d ∈ requests, ∀ e ∈ requests, occasion d = occasion e → L.lease d = L.lease e
  term : ∀ d ∈ requests, ∀ e ∈ requests, occasion d = occasion e → L.time e < L.time d + L.ttl

variable {occasion}

/-- No occasion is granted its lease twice. -/
theorem Brief.once (brief : Brief occasion L requests) : ((L.granted expiry requests).map occasion).Nodup := by
  rw [List.Nodup, List.pairwise_map]
  have spaced : (L.granted expiry requests).Pairwise L.Apart := granted_apart
  refine spaced.imp_of_mem fun {d e} granted granted' apart same => ?_
  have listed := granted_sublist.subset granted
  have listed' := granted_sublist.subset granted'
  obtain ⟨k, asks⟩ := Option.isSome_iff_exists.mp (granted_lease granted)
  have asks' : L.lease e = some k := (brief.lease d listed e listed' same).symm.trans asks
  have late := apart k asks asks'
  have soon := brief.term d listed e listed' same
  omega

/-- Every occasion that asks for a lease is granted it exactly when a request
can be picked for each of them, the picks for one lease a term apart. -/
theorem Brief.all_granted_iff (inOrder : requests.Pairwise fun d e => L.time d ≤ L.time e)
    (brief : Brief occasion L requests) :
    (∀ d ∈ requests, (L.lease d).isSome → ∃ e ∈ L.granted (fun _ => none) requests, occasion e = occasion d) ↔
      ∃ chosen : List δ, chosen.Sublist requests ∧
        (∀ d ∈ requests, (L.lease d).isSome → ∃ e ∈ chosen, occasion e = occasion d) ∧ chosen.Pairwise L.Apart := by
  constructor
  · intro served
    exact ⟨_, granted_sublist, served, granted_apart⟩
  · rintro ⟨chosen, picked, covers, apart⟩ d listed asks
    obtain ⟨k, forLease⟩ := Option.isSome_iff_exists.mp asks
    let forK : δ → Bool := fun d => L.lease d = some k
    have enough : (chosen.filter forK).length ≤ ((L.granted (fun _ => none) requests).filter forK).length := by
      refine length_le_granted inOrder (List.filter_sublist.trans picked) ?_ (apart.filter _) fun _ _ => rfl
      exact fun c member => of_decide_eq_true (List.mem_filter.mp member).2
    have distinct : (((L.granted (fun _ => none) requests).filter forK).map occasion).Nodup :=
      brief.once.sublist (List.filter_sublist.map _)
    have covered : ∀ e ∈ requests, L.lease e = some k → occasion e ∈ (chosen.filter forK).map occasion := by
      intro e member asked
      obtain ⟨c, pick, same⟩ := covers e member (by rw [asked]; rfl)
      have forSame := (brief.lease c (picked.subset pick) e member same).trans asked
      exact List.mem_map.mpr ⟨c, List.mem_filter.mpr ⟨pick, decide_eq_true forSame⟩, same⟩
    have inside : ((L.granted (fun _ => none) requests).filter forK).map occasion ⊆ (chosen.filter forK).map occasion := by
      intro o member
      obtain ⟨e, inGranted, rfl⟩ := List.mem_map.mp member
      obtain ⟨granted, asked⟩ := List.mem_filter.mp inGranted
      exact covered e (granted_sublist.subset granted) (of_decide_eq_true asked)
    -- as many grants as picks, of different occasions, leave no occasion out
    have all := (List.subperm_of_subset distinct inside).perm_of_length_le (by simpa using enough)
    obtain ⟨e, inGranted, same⟩ := List.mem_map.mp (all.mem_iff.mpr (covered d listed forLease))
    exact ⟨e, (List.mem_filter.mp inGranted).1, same⟩

end Occasions

end Leasing
