import Mathlib

/-!
# Trimming white space

`strings.TrimSpace` of Go: both ends of a string lose the runes `unicode.IsSpace` accepts.
-/

namespace NewApi

open List

/-- `unicode.IsSpace`: the Latin-1 spaces and the Unicode White Space property. -/
def isSpace (c : Char) : Bool :=
  [0x09, 0x0A, 0x0B, 0x0C, 0x0D, 0x20, 0x85, 0xA0, 0x1680, 0x2028, 0x2029, 0x202F, 0x205F,
    0x3000].contains c.toNat || (0x2000 ≤ c.toNat && c.toNat ≤ 0x200A)

/-- Drop the accepted elements at both ends of a list. -/
def trimBoth {α : Type*} (p : α → Bool) (l : List α) : List α :=
  ((l.dropWhile p).reverse.dropWhile p).reverse

/-- `strings.TrimSpace`. -/
def trimSpace (s : String) : String := String.ofList (trimBoth isSpace s.toList)

section
variable {α : Type*} {p : α → Bool} {l : List α}

lemma dropWhile_eq_self_of_suffix {l' : List α} (h : l.reverse.dropWhile p = l'.reverse)
    (hl : l.dropWhile p = l) : l'.dropWhile p = l' := by
  -- `l'` is `l` without some of its last elements, so it starts with the same element
  obtain ⟨rest, hr⟩ : ∃ rest, l = l' ++ rest := by
    refine ⟨(l.reverse.takeWhile p).reverse, ?_⟩
    have := congrArg List.reverse (takeWhile_append_dropWhile : l.reverse.takeWhile p ++ _ = _)
    rw [h] at this
    simpa using this.symm
  cases l' with
  | nil => rfl
  | cons x xs =>
    subst hr
    by_cases hx : p x
    · rw [cons_append, dropWhile_cons_of_pos hx] at hl
      have := congrArg List.length hl
      have hle := (dropWhile_sublist p (l := xs ++ rest)).length_le
      simp only [length_cons] at this
      omega
    · exact dropWhile_cons_of_neg hx

lemma dropWhile_dropWhile (p : α → Bool) (l : List α) :
    (l.dropWhile p).dropWhile p = l.dropWhile p := by
  induction l with
  | nil => rfl
  | cons x xs ih =>
    by_cases hx : p x
    · rw [dropWhile_cons_of_pos hx, ih]
    · rw [dropWhile_cons_of_neg hx, dropWhile_cons_of_neg hx]

lemma trimBoth_trimBoth : trimBoth p (trimBoth p l) = trimBoth p l := by
  unfold trimBoth
  have hfront : ((l.dropWhile p).reverse.dropWhile p).reverse.dropWhile p
      = ((l.dropWhile p).reverse.dropWhile p).reverse :=
    dropWhile_eq_self_of_suffix (by rw [reverse_reverse]) (dropWhile_dropWhile p l)
  rw [hfront, reverse_reverse, dropWhile_dropWhile]

end

@[simp] lemma trimSpace_trimSpace (s : String) : trimSpace (trimSpace s) = trimSpace s := by
  simp only [trimSpace, String.toList_ofList, trimBoth_trimBoth]

/-- A text without white space is left as it is. -/
lemma trimSpace_of_forall {s : String} (h : ∀ c ∈ s.toList, isSpace c = false) : trimSpace s = s := by
  have hdrop : ∀ l : List Char, (∀ c ∈ l, isSpace c = false) → l.dropWhile isSpace = l := by
    intro l hl
    cases l with
    | nil => rfl
    | cons c l =>
      refine dropWhile_cons_of_neg ?_
      rw [hl c mem_cons_self]
      exact Bool.false_ne_true
  have hreverse : ∀ c ∈ s.toList.reverse, isSpace c = false :=
    fun c hc => h c (mem_reverse.mp hc)
  rw [trimSpace, trimBoth, hdrop _ h, hdrop _ hreverse, reverse_reverse, String.ofList_toList]

end NewApi
