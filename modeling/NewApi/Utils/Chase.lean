import Mathlib

/-!
# Chains of redirections

A name may redirect to another one, which may redirect again. `chase` follows such a chain and
remembers the names that it has met: it stops at a name that has no redirection or redirects to
itself, and reports a cycle at any other name that it has met before.
-/

namespace NewApi

inductive ChaseEnd (α : Type)
  | stopped (last : α)
  | cycle
deriving DecidableEq

section
variable {α : Type} [DecidableEq α]

/-- The walk from `current`, in at most `fuel` steps. -/
def chase (next : α → Option α) : ℕ → α → List α → Option (ChaseEnd α)
  | 0, _, _ => none
  | fuel + 1, current, visited =>
    match next current with
    | none => some (.stopped current)
    | some mapped =>
      if mapped ∈ visited then
        if mapped = current then some (.stopped current) else some .cycle
      else chase next fuel mapped (mapped :: visited)

variable {next next' : α → Option α} {fuel : ℕ} {current last : α} {visited : List α}

/-- Every step meets another one of the names that are redirected to, so there are at most as many
steps as such names, and one to stop. -/
lemma chase_isSome {targets : List α} (htargets : ∀ a b, next a = some b → b ∈ targets)
    (hfuel : (targets.filter (· ∉ visited)).length < fuel) :
    (chase next fuel current visited).isSome := by
  induction fuel generalizing current visited with
  | zero => omega
  | succ fuel ih =>
    rw [chase]
    split
    · rfl
    next mapped hmapped =>
    split
    · split <;> rfl
    rename_i hnew
    apply ih
    have hmem : mapped ∈ targets.filter (· ∉ visited) :=
      List.mem_filter.mpr ⟨htargets _ _ hmapped, by simpa using hnew⟩
    have hfilter : targets.filter (· ∉ mapped :: visited)
        = (targets.filter (· ∉ visited)).filter (· ≠ mapped) := by
      simp [List.filter_filter]
    have hlt : ((targets.filter (· ∉ visited)).filter (· ≠ mapped)).length
        < (targets.filter (· ∉ visited)).length :=
      List.length_filter_lt_length_iff_exists.mpr ⟨mapped, hmem, by simp⟩
    rw [hfilter]
    omega

/-- A walk does not come back to a name that it has left. -/
lemma chase_ne_stopped (hvisited : last ∈ visited) (hleft : last ≠ current) :
    chase next fuel current visited ≠ some (.stopped last) := by
  induction fuel generalizing current visited with
  | zero => simp [chase]
  | succ fuel ih =>
    rw [chase]
    split
    · simpa using hleft.symm
    next mapped hmapped =>
    split
    · split <;> simp [hleft.symm]
    · next hnew => exact ih (List.mem_cons_of_mem _ hvisited) fun h => hnew (h ▸ hvisited)

/-- With more redirections a walk ends as before, exactly if none of them leads away from the name at
which it stops. -/
lemma chase_iff_of_more (hmore : ∀ a b, next a = some b → next' a = some b) {e : ChaseEnd α}
    (hcurrent : current ∈ visited) (h : chase next fuel current visited = some e) :
    chase next' fuel current visited = some e ↔
      ∀ last, e = .stopped last → ∀ b, next' last = some b → b = last := by
  induction fuel generalizing current visited with
  | zero => cases h
  | succ fuel ih =>
    rw [chase] at h ⊢
    split at h
    · cases h
      split
      · next hnone => simp [hnone]
      next mapped hmapped =>
      simp only [ChaseEnd.stopped.injEq, forall_eq', hmapped, Option.some.injEq]
      by_cases hself : mapped = current
      · simp [hself, hcurrent]
      simp only [hself, if_false, iff_false]
      split
      · simp
      · exact chase_ne_stopped (List.mem_cons_of_mem _ hcurrent) (Ne.symm hself)
    next mapped hmapped =>
    rw [hmore _ _ hmapped]
    dsimp only
    split at h
    · next hmet =>
      rw [if_pos hmet, h]
      split at h
      · next hself =>
        cases h
        simp [hself, hmore _ _ hmapped]
      · cases h
        simp
    · next hnew =>
      rw [if_neg hnew]
      exact ih List.mem_cons_self h

end

end NewApi
