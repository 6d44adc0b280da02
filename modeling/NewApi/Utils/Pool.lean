import Mathlib

/-!
# Pools of workers

A pool is a list whose entries are addressed by their index: new workers are appended, a worker
that moves replaces its own entry. The lemmas say what such a move does to a statement about every
entry, to a statement about every entry but one, and to a sum over the entries.
-/

namespace NewApi.Pool

open List

section
variable {α : Type*} {p : α → Prop} {l : List α} {i j : ℕ} {x y : α}

/-- A property of every entry survives a move to an entry that has it. -/
lemma forall_mem_set (h : ∀ x ∈ l, p x) (hy : p y) : ∀ x ∈ l.set i y, p x := by
  intro x hx
  rcases mem_or_eq_of_mem_set hx with hx | rfl
  · exact h x hx
  · exact hy

lemma forall_mem_snoc (h : ∀ x ∈ l, p x) (hy : p y) : ∀ x ∈ l ++ [y], p x := by
  intro x hx
  rcases mem_append.mp hx with hx | hx
  · exact h x hx
  · rw [mem_singleton.mp hx]
    exact hy

/-- The worker that moves is found at its place afterwards. -/
lemma getElem?_set_of_some (h : l[i]? = some x) : (l.set i y)[i]? = some y := by
  obtain ⟨hi, -⟩ := List.getElem?_eq_some_iff.mp h
  exact List.getElem?_set_self hi

lemma eq_of_getElem?_set (h : (l.set i y)[i]? = some x) : x = y := by
  have hi : i < l.length := by
    obtain ⟨hi, -⟩ := List.getElem?_eq_some_iff.mp h
    rwa [length_set] at hi
  rw [List.getElem?_set_self hi] at h
  exact (Option.some.inj h).symm

/-- No entry but possibly the one at `i` has the property `p`. -/
def NoneBut (p : α → Prop) (l : List α) (i : ℕ) : Prop :=
  ∀ j x, l[j]? = some x → p x → j = i

namespace NoneBut

lemma of_forall (h : ∀ x ∈ l, ¬ p x) : NoneBut p l i :=
  fun _ x hx hp => absurd hp (h x (mem_of_getElem? hx))

section
variable (h : NoneBut p l i)
include h

/-- The exempt worker moves. -/
lemma set_self : NoneBut p (l.set i y) i := by
  intro j x hx hp
  by_contra hji
  rw [List.getElem?_set_ne (Ne.symm hji)] at hx
  exact hji (h j x hx hp)

/-- Another worker moves. -/
lemma set (hy : ¬ p y) : NoneBut p (l.set j y) i := by
  intro k x hx hp
  by_cases hkj : k = j
  · subst hkj
    exact absurd (eq_of_getElem?_set hx ▸ hp) hy
  · rw [List.getElem?_set_ne (Ne.symm hkj)] at hx
    exact h k x hx hp

/-- A worker joins. -/
lemma snoc (hy : ¬ p y) : NoneBut p (l ++ [y]) i := by
  intro k x hx hp
  rw [List.getElem?_append] at hx
  split at hx
  · exact h k x hx hp
  · have hxy : x = y := mem_singleton.mp (mem_of_getElem? hx)
    exact absurd (hxy ▸ hp) hy

/-- Once the exempt worker has lost the property, no worker has it. -/
lemma forall_set (hy : ¬ p y) : ∀ x ∈ l.set i y, ¬ p x := by
  intro x hx hp
  obtain ⟨j, hj⟩ := mem_iff_getElem?.mp hx
  have hji : j = i := (h.set_self (y := y)) j x hj hp
  subst hji
  exact hy (eq_of_getElem?_set hj ▸ hp)

end

end NoneBut

/-- The worker that has the property `p`, if any, is the only one. -/
def Sole (p : α → Prop) (l : List α) : Option α → Prop
  | none => ∀ x ∈ l, ¬ p x
  | some x => p x ∧ ∃ i, l[i]? = some x ∧ NoneBut p l i

namespace Sole
variable {o : Option α}

/-- A worker with the property is the one. -/
protected lemma eq (h : Sole p l o) (hx : l[i]? = some x) (hp : p x) : o = some x := by
  rcases o with - | y
  · exact absurd hp (h x (mem_of_getElem? hx))
  obtain ⟨-, j, hj, hnone⟩ := h
  obtain rfl : i = j := hnone i x hx hp
  exact hj.symm.trans hx

protected lemma noneBut (h : Sole p l (some x)) (hx : l[i]? = some x) : NoneBut p l i := by
  obtain ⟨hp, j, -, hnone⟩ := h
  obtain rfl : i = j := hnone i x hx hp
  exact hnone

/-- A worker without the property moves to a place where it still does not have it. -/
lemma set_idle (h : Sole p l o) (hx : l[i]? = some x) (hidle : ¬ p x) (hidle' : ¬ p y) :
    Sole p (l.set i y) o := by
  rcases o with - | z
  · exact forall_mem_set h hidle'
  obtain ⟨hp, j, hj, hnone⟩ := h
  have hij : i ≠ j := by
    rintro rfl
    exact hidle (Option.some.inj (hj.symm.trans hx) ▸ hp)
  exact ⟨hp, j, by rw [List.getElem?_set_ne hij, hj], hnone.set hidle'⟩

lemma snoc (h : Sole p l o) (hidle : ¬ p y) : Sole p (l ++ [y]) o := by
  rcases o with - | z
  · exact forall_mem_snoc h hidle
  obtain ⟨hp, j, hj, hnone⟩ := h
  have hlt : j < l.length := (List.getElem?_eq_some_iff.mp hj).1
  exact ⟨hp, j, by rw [List.getElem?_append_left hlt, hj], hnone.snoc hidle⟩

/-- When no worker has the property, the one that moves can take it. -/
lemma take (h : Sole p l none) (hx : l[i]? = some x) (hy : p y) : Sole p (l.set i y) (some y) :=
  ⟨hy, i, getElem?_set_of_some hx, (NoneBut.of_forall h).set_self⟩

/-- The worker that has it moves and keeps it. -/
lemma keep (h : Sole p l (some x)) (hx : l[i]? = some x) (hy : p y) : Sole p (l.set i y) (some y) :=
  ⟨hy, i, getElem?_set_of_some hx, (h.noneBut hx).set_self⟩

/-- The worker that has it moves and gives it up. -/
lemma release (h : Sole p l (some x)) (hx : l[i]? = some x) (hy : ¬ p y) :
    Sole p (l.set i y) none :=
  (h.noneBut hx).forall_set hy

end Sole

end

section
variable {α κ : Type*} {holds : α → κ → Prop} {l : List α} {i : ℕ} {x y : α}

/-- What one worker holds, no other holds. -/
def Exclusive (holds : α → κ → Prop) (l : List α) : Prop :=
  ∀ (k : κ) (i j : ℕ) (x y : α), l[i]? = some x → l[j]? = some y → holds x k → holds y k → i = j

namespace Exclusive

/-- The worker that moves keeps what it held, or takes what nobody held. -/
lemma set (h : Exclusive holds l) (hi : l[i]? = some x)
    (hy : ∀ k, holds y k → holds x k ∨ ∀ z ∈ l, ¬ holds z k) : Exclusive holds (l.set i y) := by
  have hother : ∀ (k : κ) (j : ℕ) (z : α), j ≠ i → l[j]? = some z → holds y k → ¬ holds z k := by
    intro k j z hji hz hk hzk
    rcases hy k hk with hx | hfree
    · exact hji (h k j i z x hz hi hzk hx)
    · exact hfree z (mem_of_getElem? hz) hzk
  intro k a b u v ha hb hu hv
  by_cases hai : a = i
  · subst hai
    obtain rfl := eq_of_getElem?_set ha
    by_contra hab
    rw [List.getElem?_set_ne hab] at hb
    exact hother k b v (Ne.symm hab) hb hu hv
  rw [List.getElem?_set_ne (Ne.symm hai)] at ha
  by_cases hbi : b = i
  · subst hbi
    obtain rfl := eq_of_getElem?_set hb
    exact absurd hu (hother k a u hai ha hv)
  · rw [List.getElem?_set_ne (Ne.symm hbi)] at hb
    exact h k a b u v ha hb hu hv

/-- A worker joins and holds what nobody held. -/
lemma snoc (h : Exclusive holds l) (hy : ∀ k, holds y k → ∀ z ∈ l, ¬ holds z k) :
    Exclusive holds (l ++ [y]) := by
  intro k a b u v ha hb hu hv
  rw [List.getElem?_append] at ha hb
  split at ha
  · split at hb
    · exact h k a b u v ha hb hu hv
    · obtain rfl : v = y := mem_singleton.mp (mem_of_getElem? hb)
      exact absurd hu (hy k hv u (mem_of_getElem? ha))
  obtain rfl : u = y := mem_singleton.mp (mem_of_getElem? ha)
  split at hb
  · exact absurd hv (hy k hu v (mem_of_getElem? hb))
  have ha' := (List.getElem?_eq_some_iff.mp ha).1
  have hb' := (List.getElem?_eq_some_iff.mp hb).1
  simp only [length_singleton] at ha' hb'
  omega

end Exclusive

end

section
variable {α : Type*} {l : List α} {i : ℕ} {x y : α}

/-- The number of workers with a property changes by those of the worker that moves. -/
lemma countP_set (p : α → Bool) (h : l[i]? = some x) :
    (l.set i y).countP p + (if p x then 1 else 0) = l.countP p + if p y then 1 else 0 := by
  induction l generalizing i with
  | nil => cases h
  | cons z l ih =>
    cases i with
    | zero =>
      obtain rfl : z = x := Option.some.inj h
      simp only [set_cons_zero, countP_cons]
      omega
    | succ i =>
      have := ih h
      simp only [set_cons_succ, countP_cons]
      omega

end

section
variable {α M : Type*} [AddCommGroup M] {l : List α} {i : ℕ} {x y : α}

/-- A sum over the pool changes by what the worker that moves contributes. -/
lemma sum_map_set (f : α → M) (h : l[i]? = some x) :
    ((l.set i y).map f).sum = (l.map f).sum + (f y - f x) := by
  induction l generalizing i with
  | nil => cases h
  | cons z l ih =>
    cases i with
    | zero =>
      obtain rfl : z = x := Option.some.inj h
      simp only [set_cons_zero, map_cons, sum_cons]
      abel
    | succ i =>
      simp only [set_cons_succ, map_cons, sum_cons]
      rw [ih h, add_assoc]

end

end NewApi.Pool
