import Mathlib

/-!
# Runs of a step function

A system is a partial step function `step : σ → ℓ → Option σ`: the label says which party moves
and fixes everything the environment chooses, and `none` says that the label is not enabled. A run
is a list of labels, so a statement about every list of labels is a statement about every
interleaving.
-/

namespace NewApi.Runs

open List

variable {σ ℓ : Type*}

/-- The state after the labels of `ls`, if each of them is enabled in its turn. -/
def run (step : σ → ℓ → Option σ) : σ → List ℓ → Option σ
  | s, [] => some s
  | s, l :: ls => (step s l).bind fun s' => run step s' ls

/-- Every step of the run of `ls` from `s` meets `ok` in the state it is taken from. -/
def Along (step : σ → ℓ → Option σ) (ok : σ → ℓ → Prop) : σ → List ℓ → Prop
  | _, [] => True
  | s, l :: ls => ok s l ∧
      match step s l with
      | some s' => Along step ok s' ls
      | none => True

instance decidableAlong (step : σ → ℓ → Option σ) (ok : σ → ℓ → Prop)
    [∀ s l, Decidable (ok s l)] : ∀ s ls, Decidable (Along step ok s ls)
  | _, [] => isTrue trivial
  | s, l :: ls =>
    match h : step s l with
    | some s' =>
      have := decidableAlong step ok s' ls
      decidable_of_iff (ok s l ∧ Along step ok s' ls) (by simp only [Along, h])
    | none => decidable_of_iff (ok s l) (by simp only [Along, h, and_true])

section
variable {step : σ → ℓ → Option σ} {ok : σ → ℓ → Prop} {s s' t : σ} {l : ℓ} {ls ks : List ℓ}

@[simp] lemma run_nil : run step s [] = some s := rfl

/-- A run that starts with `l` takes the step of `l` first. -/
lemma run_cons : run step s (l :: ls) = some t ↔
    ∃ s', step s l = some s' ∧ run step s' ls = some t := by
  simp [run, Option.bind_eq_some_iff]

lemma run_append : run step s (ls ++ ks) = some t ↔
    ∃ s', run step s ls = some s' ∧ run step s' ks = some t := by
  induction ls generalizing s with
  | nil => simp
  | cons l ls ih =>
    rw [cons_append, run_cons]
    constructor
    · rintro ⟨s₁, h₁, h₂⟩
      obtain ⟨s₂, h₃, h₄⟩ := ih.mp h₂
      exact ⟨s₂, run_cons.mpr ⟨s₁, h₁, h₃⟩, h₄⟩
    · rintro ⟨s₂, h₁, h₂⟩
      obtain ⟨s₁, h₃, h₄⟩ := run_cons.mp h₁
      exact ⟨s₁, h₃, ih.mpr ⟨s₂, h₄, h₂⟩⟩

@[simp] lemma along_nil : Along step ok s [] := trivial

lemma along_cons (h : step s l = some s') :
    Along step ok s (l :: ls) ↔ ok s l ∧ Along step ok s' ls := by
  simp only [Along, h]

/-- **Invariant rule.** What every step meeting `ok` preserves holds at the end of every run whose
steps all meet `ok`. Since a prefix of such a run is one too, it holds in every state reached. -/
theorem run_invariant (Inv : σ → Prop)
    (hstep : ∀ s l s', Inv s → ok s l → step s l = some s' → Inv s') (h₀ : Inv s)
    (hok : Along step ok s ls) (hrun : run step s ls = some t) : Inv t := by
  induction ls generalizing s with
  | nil =>
    cases hrun
    exact h₀
  | cons l ls ih =>
    obtain ⟨s₁, h₁, h₂⟩ := run_cons.mp hrun
    rw [along_cons h₁] at hok
    exact ih (hstep s l s₁ h₀ hok.1 h₁) hok.2 h₂

/-- A condition on labels alone holds along a run when it holds of each label. -/
lemma along_of_forall_mem {p : ℓ → Prop} (h : ∀ l ∈ ls, p l) :
    Along step (fun _ l => p l) s ls := by
  induction ls generalizing s with
  | nil => trivial
  | cons l ls ih =>
    refine ⟨h l mem_cons_self, ?_⟩
    split
    · exact ih fun k hk => h k (mem_cons_of_mem _ hk)
    · trivial

/-- The invariant rule for steps that need no condition. -/
theorem run_invariant' (Inv : σ → Prop)
    (hstep : ∀ s l s', Inv s → step s l = some s' → Inv s') (h₀ : Inv s)
    (hrun : run step s ls = some t) : Inv t :=
  run_invariant Inv (fun s l s' h _ => hstep s l s' h) h₀
    (along_of_forall_mem (p := fun _ => True) fun _ _ => trivial) hrun

/-- What a step raises by at most one is raised by at most the length of a run. -/
theorem run_le_length (Inv : σ → Prop) (hinv : ∀ s l s', Inv s → step s l = some s' → Inv s')
    {f : σ → Nat} (hf : ∀ s l s', Inv s → step s l = some s' → f s' ≤ f s + 1) (h : Inv s)
    (hrun : run step s ls = some t) : f t ≤ f s + ls.length := by
  induction ls generalizing s with
  | nil =>
    cases hrun
    exact Nat.le_refl _
  | cons l ls ih =>
    obtain ⟨s', hstep, hrest⟩ := run_cons.mp hrun
    have hle := ih (hinv s l s' h hstep) hrest
    have := hf s l s' h hstep
    rw [List.length_cons]
    omega

/-- The exactness rule for labels that are all of one kind. -/
theorem along_iff_of_forall_mem (Inv F : σ → Prop) {p : ℓ → Prop}
    (hinv : ∀ s l s', Inv s → p l → step s l = some s' → Inv s')
    (hstep : ∀ s l s', Inv s → step s l = some s' → (F s' ↔ F s ∧ ok s l)) (h₀ : Inv s)
    (hp : ∀ l ∈ ls, p l) (hrun : run step s ls = some t) :
    F t ↔ F s ∧ Along step ok s ls := by
  induction ls generalizing s with
  | nil =>
    cases hrun
    simp
  | cons l ls ih =>
    obtain ⟨s₁, h₁, h₂⟩ := run_cons.mp hrun
    have hs₁ := hinv s l s₁ h₀ (hp l mem_cons_self) h₁
    rw [ih hs₁ (fun k hk => hp k (mem_cons_of_mem _ hk)) h₂, hstep s l s₁ h₀ h₁, along_cons h₁,
      and_assoc]

/-- **Exactness rule.** If a step keeps `F` exactly when it meets `ok`, and nothing brings `F` back,
then `F` holds at the end of a run exactly when all of its steps meet `ok`. -/
theorem along_iff (Inv F : σ → Prop) (hinv : ∀ s l s', Inv s → step s l = some s' → Inv s')
    (hstep : ∀ s l s', Inv s → step s l = some s' → (F s' ↔ F s ∧ ok s l)) (h₀ : Inv s)
    (hrun : run step s ls = some t) : F t ↔ F s ∧ Along step ok s ls :=
  along_iff_of_forall_mem Inv F (p := fun _ => True) (fun s l s' h _ => hinv s l s' h) hstep h₀
    (fun _ _ => trivial) hrun

/-- **Safety rule.** If a step from a state with `F` keeps it exactly when it meets `ok`, then `F`
holds in every state of a run exactly when it holds at the start and all steps meet `ok`; a later
step may well bring `F` back. -/
theorem safe_iff (Inv F : σ → Prop) (hinv : ∀ s l s', Inv s → step s l = some s' → Inv s')
    (hstep : ∀ s l s', Inv s → F s → step s l = some s' → (F s' ↔ ok s l)) (h₀ : Inv s)
    (hrun : run step s ls = some t) :
    (∀ ks, ks <+: ls → ∀ u, run step s ks = some u → F u) ↔ F s ∧ Along step ok s ls := by
  induction ls generalizing s with
  | nil =>
    constructor
    · intro h
      exact ⟨h [] nil_prefix s rfl, trivial⟩
    · rintro ⟨hs, -⟩ ks hks u hu
      rw [prefix_nil.mp hks, run_nil] at hu
      cases hu
      exact hs
  | cons l ls ih =>
    obtain ⟨s₁, h₁, h₂⟩ := run_cons.mp hrun
    have ih := ih (hinv s l s₁ h₀ h₁) h₂
    rw [along_cons h₁]
    constructor
    · intro h
      have hs : F s := h [] nil_prefix s rfl
      -- the states after `l` are those of the run from `s₁`
      obtain ⟨hs₁, hls⟩ := ih.mp fun ks hks u hu =>
        h (l :: ks) (cons_prefix_cons.mpr ⟨rfl, hks⟩) u (run_cons.mpr ⟨s₁, h₁, hu⟩)
      exact ⟨hs, (hstep s l s₁ h₀ hs h₁).mp hs₁, hls⟩
    · rintro ⟨hs, hl, hls⟩ ks hks u hu
      cases ks with
      | nil =>
        cases hu
        exact hs
      | cons k ks =>
        obtain ⟨rfl, hrest⟩ := cons_prefix_cons.mp hks
        obtain ⟨s₂, h₃, h₄⟩ := run_cons.mp hu
        rw [h₁] at h₃
        cases h₃
        exact ih.mpr ⟨(hstep s k s₁ h₀ hs h₁).mpr hl, hls⟩ ks hrest u h₄

variable {ok' : σ → ℓ → Prop}

/-- Two conditions that agree at every step from a state with `Inv` agree along a run. -/
lemma along_congr (Inv : σ → Prop)
    (hinv : ∀ s l s', Inv s → step s l = some s' → Inv s')
    (hiff : ∀ s l s', Inv s → step s l = some s' → (ok s l ↔ ok' s l)) (h₀ : Inv s)
    (hrun : run step s ls = some t) : Along step ok s ls ↔ Along step ok' s ls := by
  induction ls generalizing s with
  | nil => exact Iff.rfl
  | cons l ls ih =>
    obtain ⟨s₁, h₁, h₂⟩ := run_cons.mp hrun
    rw [along_cons h₁, along_cons h₁, hiff s l s₁ h₀ h₁, ih (hinv s l s₁ h₀ h₁) h₂]

/-- A condition that holds along a run and along what follows it holds along both. -/
lemma Along.append (h : Along step ok s ls)
    (hk : ∀ s', run step s ls = some s' → Along step ok s' ks) :
    Along step ok s (ls ++ ks) := by
  induction ls generalizing s with
  | nil => exact hk s rfl
  | cons l ls ih =>
    refine ⟨h.1, ?_⟩
    have h₂ := h.2
    split
    · next s₁ hs =>
      rw [hs] at h₂
      exact ih h₂ fun s' hs' => hk s' (run_cons.mpr ⟨s₁, hs, hs'⟩)
    · trivial

/-- A condition that holds along a run holds along its two parts. -/
lemma Along.of_append (h : Along step ok s (ls ++ ks)) (hrun : run step s ls = some t) :
    Along step ok s ls ∧ Along step ok t ks := by
  induction ls generalizing s with
  | nil =>
    cases hrun
    exact ⟨trivial, h⟩
  | cons l ls ih =>
    obtain ⟨s₁, h₁, h₂⟩ := run_cons.mp hrun
    rw [cons_append, along_cons h₁] at h
    obtain ⟨hls, hks⟩ := ih h.2 h₂
    exact ⟨(along_cons h₁).mpr ⟨h.1, hls⟩, hks⟩

lemma Along.mono (h : Along step ok s ls)
    (himp : ∀ s l, ok s l → ok' s l) : Along step ok' s ls := by
  induction ls generalizing s with
  | nil => trivial
  | cons l ls ih =>
    refine ⟨himp s l h.1, ?_⟩
    have h₂ := h.2
    split
    · next s₁ hs =>
      rw [hs] at h₂
      exact ih h₂
    · trivial

/-- Under an invariant a weaker condition may do. -/
lemma Along.mono_of_invariant (Inv : σ → Prop)
    (hinv : ∀ s l s', Inv s → ok s l → step s l = some s' → Inv s')
    (himp : ∀ s l, Inv s → ok s l → ok' s l) (h₀ : Inv s) (h : Along step ok s ls) :
    Along step ok' s ls := by
  induction ls generalizing s with
  | nil => trivial
  | cons l ls ih =>
    refine ⟨himp s l h₀ h.1, ?_⟩
    have h₂ := h.2
    split
    · next s₁ hs =>
      rw [hs] at h₂
      exact ih (hinv s l s₁ h₀ h.1 hs) h₂
    · trivial

lemma Along.and (h : Along step ok s ls) (h' : Along step ok' s ls) :
    Along step (fun s l => ok s l ∧ ok' s l) s ls := by
  induction ls generalizing s with
  | nil => trivial
  | cons l ls ih =>
    refine ⟨⟨h.1, h'.1⟩, ?_⟩
    have h₂ := h.2
    have h₂' := h'.2
    split
    · next s₁ hs =>
      rw [hs] at h₂ h₂'
      exact ih h₂ h₂'
    · trivial

/-- **Budget rule.** A counter that never falls, and ends a run where it began, does not move in
any step of it. -/
theorem along_of_counter {f : σ → Nat} (hmono : ∀ s l s', step s l = some s' → f s ≤ f s')
    (hrun : run step s ls = some t) (hend : f t ≤ f s) :
    Along step (fun s l => ∀ s', step s l = some s' → f s' = f s) s ls := by
  have hle : ∀ ls s t, run step s ls = some t → f s ≤ f t := by
    intro ls
    induction ls with
    | nil =>
      intro s t h
      cases h
      exact Nat.le_refl _
    | cons l ls ih =>
      intro s t h
      obtain ⟨s₁, h₁, h₂⟩ := run_cons.mp h
      exact Nat.le_trans (hmono s l s₁ h₁) (ih s₁ t h₂)
  induction ls generalizing s with
  | nil => trivial
  | cons l ls ih =>
    obtain ⟨s₁, h₁, h₂⟩ := run_cons.mp hrun
    have hs₁ := hmono s l s₁ h₁
    have ht := hle ls s₁ t h₂
    rw [along_cons h₁]
    refine ⟨?_, ih h₂ (by omega)⟩
    intro s' hs'
    rw [h₁, Option.some.injEq] at hs'
    subst hs'
    omega

end

/-- A loop of checks that ends without an error has passed each of them. -/
lemma forM_ok {α ε : Type} {f : α → Except ε Unit} {l : List α} (h : l.forM f = .ok ()) :
    ∀ x ∈ l, f x = .ok () := by
  induction l with
  | nil => exact nofun
  | cons x l ih =>
    change (f x >>= fun _ => l.forM f) = .ok () at h
    cases hx : f x with
    | error e =>
      rw [hx] at h
      cases h
    | ok u =>
      rw [hx] at h
      intro y hy
      rcases mem_cons.mp hy with rfl | hy
      · exact hx
      · exact ih h y hy

end NewApi.Runs
