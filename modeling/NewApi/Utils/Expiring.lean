import Mathlib

/-!
# Keys that expire

A key of a store with expiration: a value and the last instant at which it is found, or no such
instant. Whether an expired key is still stored makes no difference to anyone, so every access
goes through `get?`.
-/

namespace NewApi

structure Expiring (α : Type*) where
  value : α
  expireAt : Option Int
deriving DecidableEq

namespace Expiring

variable {α : Type*} {now : Int} {key : Option (Expiring α)} {e : Expiring α} {x : α}

/-- What is found under the key at `now`. -/
def get? (now : Int) : Option (Expiring α) → Option α
  | none => none
  | some e => if e.expireAt.all (now ≤ ·) then some e.value else none

/-- The key with a new expiration, if it is still there. -/
def expire (now deadline : Int) (key : Option (Expiring α)) : Option (Expiring α) :=
  (get? now key).map fun x => { value := x, expireAt := some deadline }

@[simp] lemma get?_none : get? now (none : Option (Expiring α)) = none := rfl

lemma get?_eq_some : get? now key = some x ↔
    ∃ e, key = some e ∧ e.value = x ∧ ∀ t ∈ e.expireAt, now ≤ t := by
  rcases key with - | e
  · simp
  rw [get?]
  rcases he : e.expireAt with - | t
  · simp [he]
  · simp only [Option.all_some, decide_eq_true_eq, Option.some.injEq, Option.mem_def]
    by_cases ht : now ≤ t <;> simp [he, ht]

end Expiring

end NewApi
