import Mathlib

/-!
# Keyed tables

A database table with a primary key: a list of rows, in insertion order, no two of which have the
same key. The key's uniqueness is a field, so a table with a duplicate key cannot be built, and
every operation below carries the proof along.
-/

namespace NewApi

open List

universe u v
variable {κ : Type u} {α : Type v}

/-- Rows with pairwise different keys. -/
structure Table (key : α → κ) where
  rows : List α
  nodup : (rows.map key).Nodup

namespace Table

variable {key : α → κ}

/-- The table without rows. -/
def empty : Table key := ⟨[], by simp⟩

section
variable [DecidableEq κ] {r x : α} {k : κ} {t : Table key}

/-- The row with key `k`. -/
def get? (t : Table key) (k : κ) : Option α := t.rows.find? fun r => key r = k

/-- The rows with the row of key `key r` replaced by `r`, or `r` appended when there is none. -/
def saveRows (key : α → κ) (r : α) : List α → List α
  | [] => [r]
  | x :: xs => if key x = key r then r :: xs else x :: saveRows key r xs

lemma mem_map_saveRows {xs : List α} :
    k ∈ (saveRows key r xs).map key ↔ k ∈ xs.map key ∨ k = key r := by
  induction xs with
  | nil => simp [saveRows]
  | cons x xs ih =>
    rw [saveRows]
    split
    · next h => simp only [map_cons, mem_cons, h]; tauto
    · simp only [map_cons, mem_cons, ih]; tauto

lemma nodup_saveRows {xs : List α} (h : (xs.map key).Nodup) :
    ((saveRows key r xs).map key).Nodup := by
  induction xs with
  | nil => simp [saveRows]
  | cons x xs ih =>
    simp only [map_cons, nodup_cons] at h
    rw [saveRows]
    split
    · next hx => simpa [hx] using h
    rename_i hx
    simp only [map_cons, nodup_cons, mem_map_saveRows]
    exact ⟨fun hm => hm.elim h.1 hx, ih h.2⟩

/-- Write the row `r`. -/
def save (t : Table key) (r : α) : Table key :=
  ⟨saveRows key r t.rows, nodup_saveRows t.nodup⟩

/-- Delete the row with key `k`. -/
def erase (t : Table key) (k : κ) : Table key :=
  ⟨t.rows.filter fun r => key r ≠ k, t.nodup.sublist (filter_sublist.map key)⟩

/-- Delete the rows that do not meet `p`. -/
def filter (t : Table key) (p : α → Bool) : Table key :=
  ⟨t.rows.filter p, t.nodup.sublist (filter_sublist.map key)⟩

/-- Apply `f` to every row; `f` leaves keys alone. -/
def updateAll (t : Table key) (f : α → α) (hf : ∀ r, key (f r) = key r) : Table key :=
  ⟨t.rows.map f, by simpa [Function.comp_def, hf] using t.nodup⟩

lemma key_of_get? (h : t.get? k = some r) : key r = k := by
  have := List.find?_some h
  simpa using this

lemma mem_of_get? (h : t.get? k = some r) : r ∈ t.rows :=
  mem_of_find?_eq_some h

/-- Keys are unique: a row is what its key finds. -/
lemma get?_of_mem (h : r ∈ t.rows) : t.get? (key r) = some r := by
  obtain ⟨rows, hnd⟩ := t
  simp only [get?] at *
  induction rows with
  | nil => simp at h
  | cons x xs ih =>
    simp only [map_cons, nodup_cons] at hnd
    rcases mem_cons.mp h with rfl | hm
    · simp
    have hx : key x ≠ key r := fun he => hnd.1 (he ▸ mem_map_of_mem hm)
    rw [List.find?_cons_of_neg (by simpa using hx)]
    exact ih hnd.2 hm

lemma find?_saveRows (r : α) (xs : List α) (k : κ) :
    (saveRows key r xs).find? (fun x => key x = k)
      = if key r = k then some r else xs.find? (fun x => key x = k) := by
  induction xs with
  | nil => by_cases h : key r = k <;> simp [saveRows, h]
  | cons x xs ih =>
    rw [saveRows]
    by_cases hx : key x = key r
    · by_cases h : key r = k <;> simp [hx, h]
    rw [if_neg hx]
    by_cases h : key x = k
    · simp [h, show key r ≠ k from fun he => hx (h.trans he.symm)]
    · simp [h, ih]

/-- What a saved table holds under each key. -/
@[simp] lemma get?_save (t : Table key) (r : α) (k : κ) :
    (t.save r).get? k = if key r = k then some r else t.get? k :=
  find?_saveRows r t.rows k

lemma get?_save_self (t : Table key) (r : α) : (t.save r).get? (key r) = some r := by simp

@[simp] lemma get?_updateAll (t : Table key) (f : α → α) (hf : ∀ r, key (f r) = key r) (k : κ) :
    (t.updateAll f hf).get? k = (t.get? k).map f := by
  have hkeys : (fun r => decide (key r = k)) ∘ f = fun r => decide (key r = k) := by
    funext r
    show decide (key (f r) = k) = decide (key r = k)
    rw [hf]
  show (t.rows.map f).find? (fun r => key r = k) = (t.rows.find? fun r => key r = k).map f
  rw [List.find?_map, hkeys]

lemma get?_filter {p : α → Bool} :
    (t.filter p).get? k = some r ↔ t.get? k = some r ∧ p r = true := by
  constructor
  · intro h
    have hmem : r ∈ t.rows.filter p := mem_of_get? h
    rw [mem_filter] at hmem
    rw [← key_of_get? h]
    exact ⟨get?_of_mem hmem.1, hmem.2⟩
  · rintro ⟨h, hp⟩
    have hmem : r ∈ (t.filter p).rows := mem_filter.mpr ⟨mem_of_get? h, hp⟩
    rw [← key_of_get? h]
    exact get?_of_mem hmem

lemma mem_save (h : x ∈ (t.save r).rows) : x = r ∨ (x ∈ t.rows ∧ key x ≠ key r) := by
  have hx := get?_of_mem h
  rw [get?_save] at hx
  split at hx
  · exact Or.inl (Option.some.inj hx).symm
  · next hne => exact Or.inr ⟨mem_of_get? hx, fun he => hne he.symm⟩

lemma rows_save_of_none (h : t.get? (key r) = none) : (t.save r).rows = t.rows ++ [r] := by
  have hsave : ∀ xs : List α, (∀ x ∈ xs, key x ≠ key r) → saveRows key r xs = xs ++ [r] := by
    intro xs hxs
    induction xs with
    | nil => rfl
    | cons x xs ih =>
      rw [saveRows, if_neg (hxs x mem_cons_self)]
      rw [ih fun y hy => hxs y (mem_cons_of_mem _ hy)]
      rfl
  apply hsave
  intro x hx heq
  have hget := get?_of_mem hx
  rw [heq, h] at hget
  cases hget

lemma mem_save_self (t : Table key) (r : α) : r ∈ (t.save r).rows :=
  mem_of_get? (get?_save_self t r)

/-- A row of another key stays. -/
lemma mem_save_of_ne (h : x ∈ t.rows) (hne : key r ≠ key x) : x ∈ (t.save r).rows := by
  apply mem_of_get? (k := key x)
  rw [get?_save, if_neg hne]
  exact get?_of_mem h

lemma mem_erase : x ∈ (t.erase k).rows ↔ x ∈ t.rows ∧ key x ≠ k := by
  rw [erase, mem_filter, decide_eq_true_eq]

/-- A saved row that replaces one of the same kind does not change how many there are. -/
lemma countP_save (p : α → Bool) (h : t.get? (key r) = some x)
    (hp : p x = p r) : (t.save r).rows.countP p = t.rows.countP p := by
  have hrows : ∀ xs : List α, xs.find? (fun y => key y = key r) = some x →
      (saveRows key r xs).countP p = xs.countP p := by
    intro xs hfind
    induction xs with
    | nil => cases hfind
    | cons y ys ih =>
      rw [saveRows]
      by_cases hy : key y = key r
      · rw [List.find?_cons_of_pos (by simpa using hy), Option.some.injEq] at hfind
        subst hfind
        rw [if_pos hy, countP_cons, countP_cons, hp]
      · rw [List.find?_cons_of_neg (by simpa using hy)] at hfind
        rw [if_neg hy, countP_cons, countP_cons, ih hfind]
  exact hrows t.rows h

/-! ### Sums over a table -/

variable {M : Type*} [AddCommGroup M]

lemma sum_map_saveRows (f : α → M) (r : α) (xs : List α) :
    ((saveRows key r xs).map f).sum = (xs.map f).sum + f r
      - ((xs.find? fun x => key x = key r).map f).getD 0 := by
  induction xs with
  | nil => simp [saveRows]
  | cons x xs ih =>
    rw [saveRows]
    by_cases hx : key x = key r
    · rw [if_pos hx, List.find?_cons_of_pos (by simpa using hx)]
      simp only [map_cons, sum_cons, Option.map_some, Option.getD_some]
      abel
    rw [if_neg hx, List.find?_cons_of_neg (by simpa using hx)]
    simp only [map_cons, sum_cons]
    rw [ih]
    abel

/-- A saved row adds its own part to a sum and takes away that of the row it replaces. -/
lemma sum_map_save (f : α → M) (t : Table key) (r : α) :
    ((t.save r).rows.map f).sum =
      (t.rows.map f).sum + f r - ((t.get? (key r)).map f).getD 0 :=
  sum_map_saveRows f r t.rows

end

end Table

end NewApi
