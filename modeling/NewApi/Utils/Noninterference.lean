import Mathlib

/-!
# Noninterference by unwinding

A system answers each of its labels and moves. An observer issues some of the labels, `own` says
which ones and what the observer issues with them, and sees a part of the state, `view`. The
system does not interfere with the observer when the replies to the observer and its view are
determined by what it issues itself.
-/

namespace NewApi.Noninterference

open List

variable {σ ℓ κ ρ ν : Type*}

/-- The state after the labels of `ls`. -/
def final (step : σ → ℓ → σ × ρ) : σ → List ℓ → σ
  | s, [] => s
  | s, l :: ls => final step (step s l).1 ls

/-- The replies to the observer, in order. -/
def replies (step : σ → ℓ → σ × ρ) (own : ℓ → Option κ) : σ → List ℓ → List ρ
  | _, [] => []
  | s, l :: ls =>
    match own l with
    | some _ => (step s l).2 :: replies step own (step s l).1 ls
    | none => replies step own (step s l).1 ls

/-- Labels of others do not change the view, and the answer to one of the observer's own and the
view after it are determined by the view before it. -/
structure Unwinding (step : σ → ℓ → σ × ρ) (own : ℓ → Option κ) (view : σ → ν) (Inv : σ → Prop)
    (ok : ℓ → Prop) : Prop where
  inv : ∀ s l, Inv s → ok l → Inv (step s l).1
  silent : ∀ s l, Inv s → ok l → own l = none → view (step s l).1 = view s
  answer : ∀ s t l m c, Inv s → Inv t → ok l → ok m → own l = some c → own m = some c →
    view s = view t → (step s l).2 = (step t m).2 ∧ view (step s l).1 = view (step t m).1

section
variable {step : σ → ℓ → σ × ρ} {own : ℓ → Option κ} {view : σ → ν} {Inv : σ → Prop}
  {ok : ℓ → Prop} {s t : σ} {l : ℓ} {ls ms : List ℓ}

lemma replies_cons_none (h : own l = none) :
    replies step own s (l :: ls) = replies step own (step s l).1 ls := by
  simp only [replies, h]

lemma replies_cons_some {c : κ} (h : own l = some c) :
    replies step own s (l :: ls) = (step s l).2 :: replies step own (step s l).1 ls := by
  simp only [replies, h]

/-- A run of others is not seen. -/
lemma Unwinding.run_silent (h : Unwinding step own view Inv ok) (hs : Inv s) (hok : ∀ l ∈ ls, ok l)
    (hown : ls.filterMap own = []) :
    replies step own s ls = [] ∧ view (final step s ls) = view s := by
  induction ls generalizing s with
  | nil => exact ⟨rfl, rfl⟩
  | cons l ls ih =>
    have hl : ok l := hok l mem_cons_self
    have hnone : own l = none := (filterMap_eq_nil_iff.mp hown) l mem_cons_self
    rw [filterMap_cons_none hnone] at hown
    obtain ⟨hreplies, hview⟩ :=
      ih (h.inv s l hs hl) (fun m hm => hok m (mem_cons_of_mem _ hm)) hown
    rw [replies_cons_none hnone]
    exact ⟨hreplies, hview.trans (h.silent s l hs hl hnone)⟩

/-- **Unwinding theorem.** Two runs in which the observer issues the same, from states that look the
same to it, give it the same replies and look the same to it in the end. -/
theorem Unwinding.noninterference (h : Unwinding step own view Inv ok) (hs : Inv s) (ht : Inv t)
    (hls : ∀ l ∈ ls, ok l) (hms : ∀ m ∈ ms, ok m) (hown : ls.filterMap own = ms.filterMap own)
    (hview : view s = view t) :
    replies step own s ls = replies step own t ms ∧
      view (final step s ls) = view (final step t ms) := by
  induction ls generalizing s t ms with
  | nil =>
    obtain ⟨hreplies, hend⟩ := h.run_silent ht hms hown.symm
    exact ⟨hreplies.symm, hview.trans hend.symm⟩
  | cons l ls ih =>
    have hl : ok l := hls l mem_cons_self
    have hls' : ∀ k ∈ ls, ok k := fun k hk => hls k (mem_cons_of_mem _ hk)
    rcases hlo : own l with - | c
    · rw [filterMap_cons_none hlo] at hown
      rw [replies_cons_none hlo]
      exact ih (h.inv s l hs hl) ht hls' hms hown ((h.silent s l hs hl hlo).trans hview)
    rw [filterMap_cons_some hlo] at hown
    -- the second run reaches the same label after some of others
    induction ms generalizing t with
    | nil => exact absurd hown (cons_ne_nil _ _)
    | cons m ms ihm =>
      have hm : ok m := hms m mem_cons_self
      have hms' : ∀ k ∈ ms, ok k := fun k hk => hms k (mem_cons_of_mem _ hk)
      rcases hmo : own m with - | c'
      · rw [filterMap_cons_none hmo] at hown
        rw [replies_cons_none (l := m) hmo]
        exact ihm (h.inv t m ht hm) hms' (hview.trans (h.silent t m ht hm hmo).symm) hown
      rw [filterMap_cons_some hmo] at hown
      obtain ⟨rfl, hrest⟩ := List.cons.inj hown
      obtain ⟨hreply, hview'⟩ := h.answer s t l m c hs ht hl hm hlo hmo hview
      obtain ⟨hreplies, hend⟩ :=
        ih (h.inv s l hs hl) (h.inv t m ht hm) hls' hms' hrest hview'
      rw [replies_cons_some hlo, replies_cons_some hmo, hreply, hreplies]
      exact ⟨rfl, hend⟩

end

end NewApi.Noninterference
