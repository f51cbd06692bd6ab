import Mathlib.Data.List.Basic

/-!
# Delivery of the newest value per key over several channels

A store of bounded size holds one value per key.  Values are put in, and each of
several channels hands out, independently of the others, the keys whose value has
changed since it handed them out last.  When the store is full a new key evicts
another one, and the whole store can be cleared.

A history is the list of what happened, the newest event first.  `Due c k h` says
that channel `c` owes key `k` to its reader: a value was accepted for `k` and since
then the key was neither handed out by `c`, nor evicted, nor cleared away.
`lastAccepted k h` is the value it owes.  An implementation is correct if a read of
`c` hands out exactly the keys that are due, with these values.
-/

namespace KeyedDelivery

variable {κ χ β : Type*}

/-- What can happen to the store. -/
inductive Event (κ χ β : Type*) where
  /-- A value is accepted for a key, and possibly another key is evicted. -/
  | accepted (key : κ) (value : β) (evicted : Option κ)
  /-- A channel hands out some keys. -/
  | handedOut (channel : χ) (keys : List κ)
  | cleared

/-- The channel owes the key to its reader. -/
def Due (c : χ) (k : κ) : List (Event κ χ β) → Prop
  | [] => False
  | .accepted key _ evicted :: h => key = k ∨ (evicted ≠ some k ∧ Due c k h)
  | .handedOut channel keys :: h => Due c k h ∧ ¬(channel = c ∧ k ∈ keys)
  | .cleared :: _ => False

/-- The value of the last accepted put of a key. -/
def lastAccepted [DecidableEq κ] (k : κ) : List (Event κ χ β) → Option β
  | [] => none
  | .accepted key value _ :: h => if key = k then some value else lastAccepted k h
  | .handedOut _ _ :: h => lastAccepted k h
  | .cleared :: h => lastAccepted k h

variable {c : χ} {k : κ} {h : List (Event κ χ β)}

@[simp] theorem due_accepted {key : κ} {v : β} {evicted : Option κ} :
    Due c k (.accepted key v evicted :: h) ↔ key = k ∨ (evicted ≠ some k ∧ Due c k h) :=
  Iff.rfl

@[simp] theorem due_handedOut {d : χ} {keys : List κ} :
    Due c k (.handedOut d keys :: h) ↔ Due c k h ∧ ¬(d = c ∧ k ∈ keys) :=
  Iff.rfl

@[simp] theorem not_due_cleared : ¬ Due c k (.cleared :: h) := id

@[simp] theorem not_due_nil : ¬ Due c k ([] : List (Event κ χ β)) := id

variable [DecidableEq κ]

@[simp] theorem lastAccepted_accepted_self {v : β} {evicted : Option κ} :
    lastAccepted k (.accepted k v evicted :: h) = some v :=
  if_pos rfl

theorem lastAccepted_accepted_of_ne {key : κ} {v : β} {evicted : Option κ} (hne : key ≠ k) :
    lastAccepted k (.accepted key v evicted :: h) = lastAccepted k h :=
  if_neg hne

@[simp] theorem lastAccepted_handedOut {d : χ} {keys : List κ} :
    lastAccepted k (.handedOut d keys :: h) = lastAccepted k h := rfl

@[simp] theorem lastAccepted_cleared :
    lastAccepted k (.cleared :: h) = lastAccepted k h := rfl

end KeyedDelivery
