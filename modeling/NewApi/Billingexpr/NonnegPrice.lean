import NewApi.Billingexpr.FixedExecution

/-!
# Prices that are not negative

An expression that is made of token counts and of prices that are not negative has no negative cost,
whatever the counts and the answers of the probes. Sums are an operator of the expression language,
and are assumed to be at least zero if both operands are.
-/

namespace NewApi.Billingexpr

open List Logged
open Binary64 hiding mul_comm mul_nonneg

/-- Not negative, or not a number. -/
def NonnegOrNaN (x : Binary64) : Prop := x.nonneg = true ∨ x = .nan

lemma NonnegOrNaN.mul {x y : Binary64} (hx : NonnegOrNaN x) (hy : NonnegOrNaN y) :
    NonnegOrNaN (x.mul y) := by
  rcases hx with hx | rfl
  · rcases hy with hy | rfl
    · exact Binary64.mul_nonneg hx hy
    · exact .inr (by rw [Binary64.mul_comm, nan_mul])
  · exact .inr (nan_mul y)

def countVariables : List String :=
  ["image_count", "p", "c", "len", "cr", "cc", "cc1h", "img", "img_cr", "img_o", "ai", "ao"]

def tokenCounts (params : TokenParams Binary64) : List Binary64 :=
  [params.p, params.c, params.len, params.cr, params.cc, params.cc1h, params.img, params.imgCR,
    params.imgO, params.ai, params.ao]

/-- Prices that no token counts make negative; the flag says that the value may be an integer.
Products of two integers are left out, since they wrap around. -/
inductive NonnegPrice : Bool → Node → Prop
  | count {name : String} : name ∈ countVariables → NonnegPrice false (.identifier name)
  | float {x : Binary64} : x.nonneg = true → NonnegPrice false (.float x)
  | integer {n : Int} : 0 ≤ n → NonnegPrice true (.integer n)
  | times {integral integral' : Bool} {left right : Node} : NonnegPrice integral left →
    NonnegPrice integral' right → (integral && integral') = false →
    NonnegPrice false (.binary "*" left right)
  | plus {left right : Node} : NonnegPrice false left → NonnegPrice false right →
    NonnegPrice false (.binary "+" left right)
  | conditional {integral ternary : Bool} {cond exp1 exp2 : Node} : NonnegPrice integral exp1 →
    NonnegPrice integral exp2 → NonnegPrice integral (.conditional ternary cond exp1 exp2)
  | tier {integral : Bool} {name price : Node} : NonnegPrice integral price →
    NonnegPrice false (tierCall name price)
  | fixed {integral : Bool} {price : Node} : NonnegPrice integral price →
    NonnegPrice false (fixedCall price)
  | rule {integral : Bool} {index cond factor : Node} : NonnegPrice integral factor →
    NonnegPrice false (.call (.identifier "_trace") [index, cond, factor])
  | ruleInt {integral : Bool} {index cond factor : Node} : NonnegPrice integral factor →
    NonnegPrice true (.call (.identifier "_trace_int") [index, cond, factor])

/-- The values of such a price. -/
def NonnegNumber {D : Type} (integral : Bool) (v : Value D) : Prop :=
  ∃ x, v.number = some x ∧ NonnegOrNaN x ∧ (integral = false → v = .float x)

/-- The computation fails, or its value satisfies `P`. -/
abbrev Yields {D : Type} (P : Value D → Prop) (x : Logged Event (Value D)) : Prop :=
  Ensures (fun _ => True) P x

section
variable {D S : Type} {clean : List String → D → Prop} {lang : ExprLang D S}
  {params : TokenParams Binary64} {imageCount : Int}
  {answer : HostFunction → List (Value D) → Except String (Value D)}

lemma NonnegOrNaN.float {x : Binary64} (h : NonnegOrNaN x) {integral : Bool} :
    NonnegNumber (D := D) integral (.float x) :=
  ⟨x, rfl, h, fun _ => rfl⟩

lemma yields_any (x : Logged Event (Value D)) : Yields (fun _ => True) x :=
  ⟨fun _ _ => trivial, fun _ _ => trivial⟩

/-- Sums of doubles that are not negative. -/
def SumsNonneg (lang : ExprLang D S) : Prop :=
  ∀ left right scope, Yields (NonnegNumber false) (left scope) →
    Yields (NonnegNumber false) (right scope) →
    Yields (NonnegNumber false) (lang.binary "+" left right scope)

lemma environment_count {name : String} (hname : name ∈ countVariables)
    (hparams : ∀ x ∈ tokenCounts params, x.nonneg = true) (himages : 0 ≤ imageCount) :
    ∃ x, (environment params imageCount : List (String × Value D)).lookup name = some (.float x) ∧
      x.nonneg = true := by
  simp only [tokenCounts, forall_mem_cons, not_mem_nil, false_implies, implies_true, and_true]
    at hparams
  simp only [countVariables, mem_cons, not_mem_nil, or_false] at hname
  rcases hname with rfl | rfl | rfl | rfl | rfl | rfl | rfl | rfl | rfl | rfl | rfl | rfl
  · exact ⟨_, rfl, nonneg_ofInt himages⟩
  all_goals exact ⟨_, rfl, by simp only [hparams]⟩

lemma multiply_number {x y : Binary64} {v w : Value D} (hv : v.number = some x)
    (hw : w.number = some y) (hfloat : v = .float x ∨ w = .float y) :
    multiply lang v w = .ok (.float (x.mul y)) := by
  rcases hfloat with rfl | rfl
  · cases w with
    | int n | float z =>
      obtain rfl := Option.some.inj hw
      rfl
    | _ => cases hw
  · cases v with
    | int n | float z =>
      obtain rfl := Option.some.inj hv
      rfl
    | _ => cases hv

/-- A call of a function of the environment whose last argument is a factor. -/
lemma yields_traceCall (hlang : lang.Lawful clean) {name : String} {function : Value D}
    {index cond factor : Node} {P Q : Value D → Prop} (hname : name ≠ "$env")
    (hfunction : (environment params imageCount).lookup name = some function)
    (hfactor : Yields P (evalRoot lang params imageCount answer factor))
    (hcall : ∀ i c v, P v → Yields Q (callValue answer function [i, c, v])) :
    Yields Q (evalRoot lang params imageCount answer
      (.call (.identifier name) [index, cond, factor])) := by
  rw [evalRoot_function hlang hname hfunction]
  simp only [map_cons, map_nil, collect, bind_assoc, pure_bind]
  exact (yields_any _).bind fun i _ => (yields_any _).bind fun c _ =>
    hfactor.bind fun v hv => hcall i c v hv

section
variable (hlang : lang.Lawful clean) (hsums : SumsNonneg lang)
  (hparams : ∀ x ∈ tokenCounts params, x.nonneg = true) (himages : 0 ≤ imageCount)
include hlang hsums hparams himages

/-- By induction on the price: every construct keeps what its parts yield. -/
lemma NonnegPrice.yields {integral : Bool} {node : Node} (h : NonnegPrice integral node) :
    Yields (NonnegNumber integral) (evalRoot lang params imageCount answer node) := by
  induction h with
  | count hname =>
    obtain ⟨x, hlookup, hx⟩ := environment_count (D := D) hname hparams himages
    rw [evalRoot_identifier hlang (by rintro rfl; simp [countVariables] at hname), hlookup]
    exact ensures_pure (NonnegOrNaN.float (.inl hx))
  | float hx => exact ensures_pure (NonnegOrNaN.float (.inl hx))
  | integer hn => exact ensures_pure ⟨_, rfl, .inl (nonneg_ofInt hn), fun h => by cases h⟩
  | times _ _ hkinds ihleft ihright =>
    rw [evalRoot_mul]
    apply ihleft.bind
    rintro v ⟨x, hv, hx, hfloat⟩
    apply ihright.bind
    rintro w ⟨y, hw, hy, hfloat'⟩
    rw [multiply_number hv hw ((Bool.and_eq_false_iff.mp hkinds).imp hfloat hfloat')]
    exact ensures_pure (hx.mul hy).float
  | plus _ _ ihleft ihright =>
    rw [evalRoot, eval, if_neg (by decide)]
    exact hsums _ _ _ ihleft ihright
  | conditional _ _ ih₁ ih₂ =>
    rw [evalRoot_conditional]
    apply (yields_any _).bind
    intro condition _
    split
    · exact ih₁
    · exact ih₂
    · exact ensures_fail
  | tier _ ih =>
    rw [evalRoot_tierCall hlang]
    apply (yields_any _).bind
    intro name _
    apply ih.bind
    rintro v ⟨x, hv, hx, -⟩
    unfold callTier
    split
    · next heq =>
      obtain ⟨rfl, rfl⟩ : _ ∧ _ := by simpa using heq
      rw [hv]
      exact (ensures_tell trivial).bind fun _ _ => ensures_pure hx.float
    · exact ensures_fail
  | fixed _ ih =>
    rw [fixedCall, evalRoot_function hlang (by decide) rfl]
    simp only [map_cons, map_nil, collect, bind_assoc, pure_bind]
    apply ih.bind
    rintro v ⟨x, hv, hx, -⟩
    simp only [callValue, callFixed, hv]
    exact (ensures_tell trivial).bind fun _ _ =>
      ensures_pure (hx.mul (.inl (nonneg_ofInt (by decide)))).float
  | rule _ ih =>
    apply yields_traceCall hlang (by decide) rfl ih
    rintro index condition v ⟨x, hv, hx, -⟩
    simp only [callValue]
    unfold callTrace
    split
    · next heq =>
      obtain ⟨rfl, rfl, rfl⟩ : _ ∧ _ ∧ _ := by simpa using heq
      rw [hv]
      dsimp only
      split_ifs
      · exact (ensures_tell trivial).bind fun _ _ => ensures_pure hx.float
      · exact ensures_pure (NonnegOrNaN.float (.inl (by decide +kernel)))
    · exact ensures_fail
  | ruleInt _ ih =>
    apply yields_traceCall hlang (by decide) rfl ih
    rintro index condition v ⟨x, hv, hx, -⟩
    simp only [callValue]
    unfold callTraceInt
    split
    · next heq =>
      obtain ⟨rfl, rfl, rfl⟩ : _ ∧ _ ∧ _ := by simpa using heq
      split_ifs
      · exact (ensures_tell trivial).bind fun _ _ => ensures_pure ⟨x, hv, hx, fun h => by cases h⟩
      · exact ensures_pure ⟨_, rfl, .inl (nonneg_ofInt (by decide)), fun h => by cases h⟩
    · exact ensures_fail

end

/-- The cost of a run of such a price. -/
lemma runProgram_nonneg (hlang : lang.Lawful clean) (hsums : SumsNonneg lang)
    (hparams : ∀ x ∈ tokenCounts params, x.nonneg = true) {entry : CachedEntry} {integral : Bool}
    (hprice : NonnegPrice integral entry.prog) {request : RequestInput D} {cost : Binary64}
    (h : (runProgram lang entry params request).result = .ok cost) : NonnegOrNaN cost := by
  by_cases hcount : entry.usedVars "image_count" ∧
      (entry.imageCount request < 1 ∨ maxImageN < entry.imageCount request)
  · obtain ⟨-, e, he⟩ := @runProgram_out D S lang entry params request hcount
    rw [he] at h
    cases h
  rw [(runProgram_in hcount).2] at h
  have himages : 0 ≤ entry.imageCount request := by
    unfold CachedEntry.imageCount at hcount ⊢
    split_ifs at hcount ⊢ <;> grind
  have hyields : Yields (NonnegNumber integral) (entry.execute lang params request) :=
    hprice.yields hlang hsums hparams himages
  unfold runResult at h
  split at h
  · cases h
  · next v hv =>
    obtain ⟨x, hx, hnonneg, -⟩ := hyields.2 v hv
    rw [hx] at h
    cases h
    exact hnonneg

end

end NewApi.Billingexpr
