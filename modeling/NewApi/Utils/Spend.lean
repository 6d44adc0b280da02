import NewApi.Utils.Table

/-!
# Rows that are spent once

A table holds rows that are open until they are closed, and a log records what was done with them:
an entry spends the row whose key it names. If a row is spent only while it is open, and is closed
by it, then no row is spent twice, whatever else closes rows in between. `Once` is the invariant
and has a rule for each kind of step. A step may break `Accounted` and `Certified`, and the rules say
exactly when.
-/

namespace NewApi.Spend

open List Table Option

universe u v w
variable {κ : Type u} {α : Type v} {β : Type w} [DecidableEq κ] {key : α → κ}

/-- The state of a history that began with the table `t₀` and an empty log. -/
structure Once (isOpen : α → Prop) (spends : β → Option κ) (fits : β → α → Prop)
    (t₀ t : Table key) (log : List β) : Prop where
  once : ∀ k, (log.filter fun e => spends e = some k).length ≤ 1
  /-- what was spent is closed, and fits the entry -/
  closed : ∀ e ∈ log, ∀ k, spends e = some k → ∃ row, t.get? k = some row ∧ ¬ isOpen row ∧ fits e row
  /-- what was closed at the start is as it was -/
  kept : ∀ k row, t₀.get? k = some row → ¬ isOpen row →
    t.get? k = some row ∧ ∀ e ∈ log, spends e ≠ some k

/-- A row is done only if it was at the start, or an entry spent it. -/
def Accounted (isDone : α → Prop) (spends : β → Option κ) (t₀ t : Table key) (log : List β) :
    Prop :=
  ∀ k row, t.get? k = some row → isDone row →
    (∃ row₀, t₀.get? k = some row₀ ∧ isDone row₀) ∨ ∃ e ∈ log, spends e = some k

/-- Every entry is good for the row it spent. -/
def Certified (spends : β → Option κ) (good : β → α → Prop) (t : Table key) (log : List β) : Prop :=
  ∀ e ∈ log, ∀ k, spends e = some k → ∀ row, t.get? k = some row → good e row

section
variable {isOpen isDone : α → Prop} {spends : β → Option κ} {fits good : β → α → Prop}
  {t₀ t : Table key} {log : List β} {e : β} {r row : α}

lemma mem_snoc {x y : β} : x ∈ log ++ [y] ↔ x ∈ log ∨ x = y := by
  rw [mem_append, mem_singleton]

lemma get?_save_of_ne {k : κ} (hk : key row ≠ k) : (t.save row).get? k = t.get? k := by
  rw [get?_save, if_neg hk]

namespace Once

lemma nil : Once isOpen spends fits t₀ t₀ [] where
  once _ := by simp
  closed e he := absurd he not_mem_nil
  kept _ _ hget _ := ⟨hget, nofun⟩

section
variable (h : Once isOpen spends fits t₀ t log)
include h

/-- An open row has not been spent. -/
lemma not_spent {k : κ} (hget : t.get? k = some r)
    (hopen : isOpen r) : ∀ e ∈ log, spends e ≠ some k := by
  intro e he hk
  obtain ⟨row, hrow, hclosed, -⟩ := h.closed e he k hk
  rw [hget, some.injEq] at hrow
  exact hclosed (hrow ▸ hopen)

/-- An open row was open at the start, if it was there. -/
lemma open_start {k : κ} (hget : t.get? k = some r)
    (hopen : isOpen r) {row₀ : α} (hget₀ : t₀.get? k = some row₀) : isOpen row₀ := by
  by_contra hclosed
  have hkept := (h.kept k row₀ hget₀ hclosed).1
  rw [hget, some.injEq] at hkept
  exact hclosed (hkept ▸ hopen)

/-- An entry that spends nothing. -/
lemma snoc (he : spends e = none) :
    Once isOpen spends fits t₀ t (log ++ [e]) where
  once k := by
    rw [filter_append, length_append]
    simpa [he] using h.once k
  closed e' he' k hk := by
    rcases mem_snoc.mp he' with he' | rfl
    · exact h.closed e' he' k hk
    · simp [he] at hk
  kept k row hget hclosed := by
    refine ⟨(h.kept k row hget hclosed).1, ?_⟩
    intro e' he'
    rcases mem_snoc.mp he' with he' | rfl
    · exact (h.kept k row hget hclosed).2 e' he'
    · simp [he]

/-- An open row changes, and nothing is spent. -/
lemma save (hget : t.get? (key row) = some r)
    (hopen : isOpen r) : Once isOpen spends fits t₀ (t.save row) log where
  once := h.once
  closed e he k hk := by
    have hne : key row ≠ k := by
      rintro rfl
      exact h.not_spent hget hopen e he hk
    rw [get?_save_of_ne hne]
    exact h.closed e he k hk
  kept k row₀ hget₀ hclosed := by
    have hne : key row ≠ k := by
      rintro rfl
      exact hclosed (h.open_start hget hopen hget₀)
    rw [get?_save_of_ne hne]
    exact h.kept k row₀ hget₀ hclosed

/-- An open row is spent, and closed by it. -/
lemma spend (hget : t.get? (key row) = some r)
    (hopen : isOpen r) (he : spends e = some (key row)) (hclosed : ¬ isOpen row)
    (hfits : fits e row) : Once isOpen spends fits t₀ (t.save row) (log ++ [e]) where
  once k := by
    rw [filter_append, length_append]
    by_cases hk : key row = k
    · -- the row was open, so nothing in the log has spent it
      subst hk
      have hnone : log.filter (fun e => spends e = some (key row)) = [] := by
        apply filter_eq_nil_iff.mpr
        intro e he
        simpa using h.not_spent hget hopen e he
      rw [hnone]
      simp [he]
    · simpa [he, hk] using h.once k
  closed e' he' k hk := by
    rcases mem_snoc.mp he' with he' | rfl
    · exact (h.save hget hopen).closed e' he' k hk
    rw [he, some.injEq] at hk
    subst hk
    exact ⟨row, get?_save_self t row, hclosed, hfits⟩
  kept k row₀ hget₀ hclosed₀ := by
    refine ⟨((h.save hget hopen).kept k row₀ hget₀ hclosed₀).1, ?_⟩
    intro e' he' hk
    rcases mem_snoc.mp he' with he' | rfl
    · exact (h.kept k row₀ hget₀ hclosed₀).2 e' he' hk
    rw [he, some.injEq] at hk
    subst hk
    exact hclosed₀ (h.open_start hget hopen hget₀)

/-- A row that was done at the start, or that an entry spent, is done. -/
lemma done_of (hdone : ∀ row, isDone row → ¬ isOpen row)
    (hfits : ∀ e row, fits e row → isDone row) {k : κ} (hget : t.get? k = some row)
    (hspent : (∃ row₀, t₀.get? k = some row₀ ∧ isDone row₀) ∨ ∃ e ∈ log, spends e = some k) :
    isDone row := by
  rcases hspent with ⟨row₀, hget₀, hdone₀⟩ | ⟨e, he, hk⟩
  · have hkept := (h.kept k row₀ hget₀ (hdone row₀ hdone₀)).1
    rw [hget, some.injEq] at hkept
    exact hkept ▸ hdone₀
  obtain ⟨row', hrow', -, hfit⟩ := h.closed e he k hk
  rw [hget, some.injEq] at hrow'
  exact hrow' ▸ hfits e row' hfit

end

end Once

/-! ## What is accounted for -/

lemma accounted_nil : Accounted isDone spends t₀ t₀ [] :=
  fun _ row hget hdone => .inl ⟨row, hget, hdone⟩

lemma accounted_log (he : spends e = none) :
    Accounted isDone spends t₀ t (log ++ [e]) ↔ Accounted isDone spends t₀ t log := by
  have hlog : ∀ k, (∃ e' ∈ log ++ [e], spends e' = some k) ↔ ∃ e' ∈ log, spends e' = some k := by
    intro k
    simp only [mem_snoc, or_and_right, exists_or, exists_eq_left, he, reduceCtorEq, or_false]
  simp only [Accounted, hlog]

/-- A row that is spent is accounted for. -/
lemma accounted_spend (hget : t.get? (key row) = some r) (hr : ¬ isDone r)
    (he : spends e = some (key row)) :
    Accounted isDone spends t₀ (t.save row) (log ++ [e]) ↔ Accounted isDone spends t₀ t log := by
  constructor
  · intro hacc k row' hget' hdone'
    have hne : key row ≠ k := by
      rintro rfl
      rw [hget, some.injEq] at hget'
      exact hr (hget' ▸ hdone')
    rcases hacc k row' (by rw [get?_save_of_ne hne, hget']) hdone' with hstart | ⟨e', he', hk⟩
    · exact .inl hstart
    rcases mem_snoc.mp he' with he' | rfl
    · exact .inr ⟨e', he', hk⟩
    · rw [he, some.injEq] at hk
      exact absurd hk hne
  · intro hacc k row' hget' hdone'
    rw [get?_save] at hget'
    split_ifs at hget' with hk
    · exact .inr ⟨e, mem_snoc.mpr (.inr rfl), hk ▸ he⟩
    rcases hacc k row' hget' hdone' with hstart | ⟨e', he', hk'⟩
    · exact .inl hstart
    · exact .inr ⟨e', mem_snoc.mpr (.inl he'), hk'⟩

/-- A row that is closed without being spent must not be done. -/
lemma accounted_save (h : Once isOpen spends fits t₀ t log)
    (hdone : ∀ row, isDone row → ¬ isOpen row) (hget : t.get? (key row) = some r)
    (hopen : isOpen r) :
    Accounted isDone spends t₀ (t.save row) log ↔
      Accounted isDone spends t₀ t log ∧ ¬ isDone row := by
  constructor
  · intro hacc
    constructor
    · intro k row' hget' hdone'
      have hne : key row ≠ k := by
        rintro rfl
        rw [hget, some.injEq] at hget'
        exact hdone row' hdone' (hget' ▸ hopen)
      apply hacc k row' _ hdone'
      rw [get?_save_of_ne hne, hget']
    · intro hrow
      rcases hacc (key row) row (get?_save_self t row) hrow with ⟨row₀, hget₀, hdone₀⟩ | hspent
      · exact hdone row₀ hdone₀ (h.open_start hget hopen hget₀)
      · obtain ⟨e, he, hk⟩ := hspent
        exact h.not_spent hget hopen e he hk
  · rintro ⟨hacc, hrow⟩ k row' hget' hdone'
    rw [get?_save] at hget'
    split_ifs at hget' with hk
    · rw [some.injEq] at hget'
      exact absurd (hget' ▸ hdone') hrow
    · exact hacc k row' hget' hdone'

/-! ## What is certified -/

lemma certified_nil : Certified spends good t [] := nofun

lemma certified_log (he : spends e = none) :
    Certified spends good t (log ++ [e]) ↔ Certified spends good t log := by
  constructor
  · intro hcert e' he'
    exact hcert e' (mem_snoc.mpr (.inl he'))
  · intro hcert e' he' k hk
    rcases mem_snoc.mp he' with he' | rfl
    · exact hcert e' he' k hk
    · simp [he] at hk

section
variable (h : Once isOpen spends fits t₀ t log) (hget : t.get? (key row) = some r)
  (hopen : isOpen r)
include h hget hopen

lemma certified_save : Certified spends good (t.save row) log ↔ Certified spends good t log := by
  have hsame : ∀ e ∈ log, ∀ k, spends e = some k → (t.save row).get? k = t.get? k := by
    intro e he k hk
    apply get?_save_of_ne
    rintro rfl
    exact h.not_spent hget hopen e he hk
  constructor
  · intro hcert e he k hk row' hget'
    exact hcert e he k hk row' (by rw [hsame e he k hk, hget'])
  · intro hcert e he k hk row' hget'
    exact hcert e he k hk row' (by rw [← hsame e he k hk, hget'])

lemma certified_spend (he : spends e = some (key row)) :
    Certified spends good (t.save row) (log ++ [e]) ↔
      Certified spends good t log ∧ good e row := by
  rw [← certified_save h hget hopen]
  constructor
  · intro hcert
    constructor
    · intro e' he'
      exact hcert e' (mem_snoc.mpr (.inl he'))
    · exact hcert e (mem_snoc.mpr (.inr rfl)) (key row) he row (get?_save_self t row)
  · rintro ⟨hcert, hgood⟩ e' he' k hk row' hget'
    rcases mem_snoc.mp he' with he' | rfl
    · exact hcert e' he' k hk row' hget'
    rw [he, some.injEq] at hk
    subst hk
    rw [get?_save_self, some.injEq] at hget'
    exact hget' ▸ hgood

end

end

end NewApi.Spend
