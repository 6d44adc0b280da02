import Mathlib

/-!
# Computations that report

A computation reports events while it runs and ends with a value or an error; what it has reported
before an error stays reported.

`Ensures Q P x` is the postcondition that every event of `x` satisfies `Q` and its value, if it has
one, satisfies `P`. `Relates keep R x y` says that `x` and `y` report the same events, apart from
those that `keep` drops, and that both fail or both end with values in the relation `R`. There is one
rule for each way to build a computation.
-/

namespace NewApi

open List

structure Logged (ε α : Type) where
  log : List ε
  result : Except String α

namespace Logged

variable {ε α β γ : Type} {event : ε}

instance : Monad (Logged ε) where
  pure a := ⟨[], .ok a⟩
  bind x f :=
    match x.result with
    | .ok a => ⟨x.log ++ (f a).log, (f a).result⟩
    | .error e => ⟨x.log, .error e⟩

def tell (event : ε) : Logged ε Unit := ⟨[event], .ok ()⟩

def fail (message : String) : Logged ε α := ⟨[], .error message⟩

/-- A result without events. -/
def lift (result : Except String α) : Logged ε α := ⟨[], result⟩

/-- The computations one after the other, up to the first that fails. -/
def collect : List (Logged ε α) → Logged ε (List α)
  | [] => pure []
  | x :: xs => do
    let a ← x
    let as ← collect xs
    pure (a :: as)

section
variable {x : Logged ε α} {f : α → Logged ε β} {a : α} {e : String}

lemma pure_eq : (pure a : Logged ε α) = ⟨[], .ok a⟩ := rfl

lemma bind_ok (h : x.result = .ok a) : x >>= f = ⟨x.log ++ (f a).log, (f a).result⟩ := by
  simp only [bind, h]

lemma bind_error (h : x.result = .error e) : x >>= f = ⟨x.log, .error e⟩ := by
  simp only [bind, h]

end

lemma of_bind_ok {x : Logged ε α} {f : α → Logged ε β} {b : β} (h : (x >>= f).result = .ok b) :
    ∃ a, x.result = .ok a ∧ (f a).result = .ok b := by
  rcases hr : x.result with e | a
  · rw [bind_error hr] at h
    cases h
  · rw [bind_ok hr] at h
    exact ⟨a, rfl, h⟩

lemma id_map_eq (x : Logged ε α) : id <$> x = x := by
  change x >>= pure ∘ id = x
  rcases hr : x.result with e | a
  · rw [bind_error hr, ← hr]
  rw [bind_ok hr]
  obtain ⟨log, result⟩ := x
  rw [Function.comp_apply, pure_eq, append_nil]
  exact congrArg (Logged.mk log) hr.symm

lemma bind_bind (x : Logged ε α) (f : α → Logged ε β) (g : β → Logged ε γ) :
    x >>= f >>= g = x >>= fun a => f a >>= g := by
  rcases hx : x.result with e | a
  · rw [bind_error hx, bind_error rfl, bind_error hx]
  rw [bind_ok hx, bind_ok hx]
  rcases hf : (f a).result with e | b
  · rw [bind_error rfl, bind_error hf]
  · rw [bind_ok rfl, bind_ok hf, append_assoc]

instance : LawfulMonad (Logged ε) :=
  LawfulMonad.mk' _ id_map_eq (fun _ _ => rfl) bind_bind

/-! ## Postconditions -/

def Ensures (Q : ε → Prop) (P : α → Prop) (x : Logged ε α) : Prop :=
  (∀ event ∈ x.log, Q event) ∧ ∀ a, x.result = .ok a → P a

section
variable {Q : ε → Prop} {P : α → Prop} {R : β → Prop}

lemma ensures_pure {a : α} (h : P a) : Ensures Q P (pure a) := by
  refine ⟨nofun, ?_⟩
  rintro b ⟨⟩
  exact h

lemma ensures_fail {message : String} : Ensures Q P (fail message) :=
  ⟨nofun, nofun⟩

lemma ensures_lift {result : Except String α} (h : ∀ a, result = .ok a → P a) :
    Ensures Q P (lift result) :=
  ⟨nofun, h⟩

lemma ensures_tell (h : Q event) : Ensures Q (fun _ => True) (tell event) :=
  ⟨fun _ hevent => eq_of_mem_singleton hevent ▸ h, fun _ _ => trivial⟩

lemma Ensures.bind {x : Logged ε α} {f : α → Logged ε β} (hx : Ensures Q P x)
    (hf : ∀ a, P a → Ensures Q R (f a)) : Ensures Q R (x >>= f) := by
  rcases hr : x.result with e | a
  · rw [bind_error hr]
    exact ⟨hx.1, nofun⟩
  have ha := hf a (hx.2 a hr)
  rw [bind_ok hr]
  refine ⟨fun event hevent => ?_, ha.2⟩
  rcases mem_append.mp hevent with hlog | hlog
  · exact hx.1 event hlog
  · exact ha.1 event hlog

lemma ensures_collect {xs : List (Logged ε α)} (h : ∀ x ∈ xs, Ensures Q P x) :
    Ensures Q (fun as => ∀ a ∈ as, P a) (collect xs) := by
  induction xs with
  | nil => exact ensures_pure nofun
  | cons x xs ih =>
    apply (h x mem_cons_self).bind
    intro a ha
    apply (ih fun y hy => h y (mem_cons_of_mem _ hy)).bind
    intro as has
    apply ensures_pure
    intro b hb
    rcases mem_cons.mp hb with rfl | hb
    · exact ha
    · exact has b hb

end

/-! ## Relations between computations -/

/-- The computation, with only the events that `keep` admits. -/
def only (keep : ε → Bool) (x : Logged ε α) : Logged ε α := ⟨x.log.filter keep, x.result⟩

/-- Both end with related values, or both fail, whatever the messages. -/
inductive SameEnd (R : α → β → Prop) : Except String α → Except String β → Prop
  | ok {a : α} {b : β} (h : R a b) : SameEnd R (.ok a) (.ok b)
  | error {e e' : String} : SameEnd R (.error e) (.error e')

structure Relates (keep : ε → Bool) (R : α → β → Prop) (x : Logged ε α) (y : Logged ε β) :
    Prop where
  log : x.log.filter keep = y.log.filter keep
  result : SameEnd R x.result y.result

section
variable {δ : Type} {keep : ε → Bool} {R : α → β → Prop} {T : γ → δ → Prop} {r : Except String α}
  {y : Logged ε β}

lemma SameEnd.mono {R' : α → β → Prop} {r' : Except String β}
    (h : SameEnd R r r') (hR : ∀ a b, R a b → R' a b) : SameEnd R' r r' := by
  cases h with
  | ok h => exact .ok (hR _ _ h)
  | error => exact .error

lemma SameEnd.symm {r' : Except String α} (h : SameEnd (· = ·) r r') : SameEnd (· = ·) r' r := by
  cases h with
  | ok h => exact .ok h.symm
  | error => exact .error

lemma SameEnd.trans {r' r'' : Except String α} (h : SameEnd (· = ·) r r')
    (h' : SameEnd (· = ·) r' r'') : SameEnd (· = ·) r r'' := by
  cases h with
  | error =>
    cases h' with
    | error => exact .error
  | ok h =>
    cases h' with
    | ok h' => exact .ok (h.trans h')

lemma relates_pure {a : α} {b : β} (h : R a b) :
    Relates keep R (pure a : Logged ε α) (pure b) := ⟨rfl, .ok h⟩

lemma relates_fail {message message' : String} :
    Relates keep R (fail message : Logged ε α) (fail message') := ⟨rfl, .error⟩

lemma relates_lift {r' : Except String β} (h : SameEnd R r r') :
    Relates keep R (lift r : Logged ε α) (lift r') := ⟨rfl, h⟩

variable {x : Logged ε α}

lemma relates_only {keep' : ε → Bool} (hkeep : ∀ e ∈ x.log, keep e → keep' e)
    {R : α → α → Prop} (h : ∀ a, x.result = .ok a → R a a) : Relates keep R x (x.only keep') := by
  constructor
  · rw [only, filter_filter]
    apply filter_congr
    intro e he
    rcases hk : keep e with - | -
    · rfl
    · rw [hkeep e he hk]
      rfl
  · rw [only]
    rcases hr : x.result with e | a
    · exact .error
    · exact .ok (h a hr)

/-- A computation is related to itself on the values that it ensures. -/
lemma Ensures.relates {Q : ε → Prop} {P : α → Prop} (h : Ensures Q P x) :
    Relates keep (fun a b => a = b ∧ P a) x x := by
  refine ⟨rfl, ?_⟩
  rcases hr : x.result with e | a
  · exact .error
  · exact .ok ⟨rfl, h.2 a hr⟩

lemma Relates.mono {R' : α → β → Prop}
    (h : Relates keep R x y) (hR : ∀ a b, R a b → R' a b) : Relates keep R' x y :=
  ⟨h.log, h.result.mono hR⟩

lemma Relates.symm {y : Logged ε α} (h : Relates keep (· = ·) x y) : Relates keep (· = ·) y x :=
  ⟨h.log.symm, h.result.symm⟩

lemma Relates.trans {y z : Logged ε α} (h : Relates keep (· = ·) x y)
    (h' : Relates keep (· = ·) y z) : Relates keep (· = ·) x z :=
  ⟨h.log.trans h'.log, h.result.trans h'.result⟩

lemma Relates.bind {f : α → Logged ε γ} {g : β → Logged ε δ}
    (h : Relates keep R x y) (hf : ∀ a b, R a b → Relates keep T (f a) (g b)) :
    Relates keep T (x >>= f) (y >>= g) := by
  obtain ⟨hlog, hresult⟩ := h
  rcases hx : x.result with e | a
  · rcases hy : y.result with e' | b
    · rw [bind_error hx, bind_error hy]
      exact ⟨hlog, .error⟩
    · rw [hx, hy] at hresult
      cases hresult
  rcases hy : y.result with e' | b
  · rw [hx, hy] at hresult
    cases hresult
  rw [hx, hy] at hresult
  cases hresult with
  | ok hab =>
    have hrest := hf a b hab
    rw [bind_ok hx, bind_ok hy]
    refine ⟨?_, hrest.result⟩
    rw [filter_append, filter_append, hlog, hrest.log]

/-- An event that is dropped makes no difference. -/
lemma Relates.tell_right (hevent : keep event = false)
    (h : Relates keep R x y) : Relates keep R x (tell event >>= fun _ => y) := by
  refine ⟨?_, h.result⟩
  rw [h.log]
  exact (filter_cons_of_neg (by simp [hevent])).symm

lemma relates_collect {xs : List (Logged ε α)} {ys : List (Logged ε β)}
    (h : List.Forall₂ (Relates keep R) xs ys) :
    Relates keep (List.Forall₂ R) (collect xs) (collect ys) := by
  induction h with
  | nil => exact relates_pure .nil
  | cons hxy _ ih =>
    apply hxy.bind
    intro a b hab
    apply ih.bind
    intro as bs hall
    exact relates_pure (.cons hab hall)

end

end Logged

end NewApi
