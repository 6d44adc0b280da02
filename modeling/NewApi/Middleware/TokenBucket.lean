import NewApi.Middleware.ModelRateLimit

/-!
# The token bucket

Runs of `rate_limit.lua` on one key with the parameters of `redisRateLimitHandler`: a request takes
as many tokens as the duration has seconds, and every second brings as many as requests are allowed
in it. The products are below `2 ^ 53`, where the numbers of Lua are exact.
-/

namespace NewApi.Middleware

open List

def rateLimitCapacity (count durationSeconds : Int) : Int :=
  if count ≤ 0 ∨ durationSeconds ≤ 0 then 0
  else if (2 ^ 63 - 1) / durationSeconds < count then 2 ^ 63 - 1
  else count * durationSeconds

/-- A run of the script: when, its answer, and the tokens that it has stored. -/
structure Execution where
  time : Int
  granted : Bool
  tokens : Int

/-- The runs of the script at the clock readings `times`. -/
def executions (totalMaxCount duration : Int) : Option (Int × Int) → List Int → List Execution
  | _, [] => []
  | bucket, time :: times =>
    let result := rateLimitScript duration totalMaxCount (rateLimitCapacity totalMaxCount duration)
      time bucket
    ⟨time, result.1, result.2.1⟩ :: executions totalMaxCount duration (some result.2) times

def grants (M D : Int) (bucket : Option (Int × Int)) (times : List Int) : List Execution :=
  (executions M D bucket times).filter Execution.granted

lemma rateLimitCapacity_eq {M D : ℕ} (hM : 0 < M) (hD : 0 < D) (hfits : M * D < 2 ^ 53) :
    rateLimitCapacity M D = M * D := by
  have hle : (M : Int) ≤ (2 ^ 63 - 1) / D := by
    rw [Int.le_ediv_iff_mul_le (by omega), ← Int.natCast_mul]
    omega
  rw [rateLimitCapacity, if_neg (by omega), if_neg (by omega)]

section
variable {M D : ℕ} {s t u : Int} {bucket : Option (Int × Int)} {times : List Int}

lemma bucketTokens_le : bucketTokens M (M * D) t bucket ≤ M * D := by
  cases bucket with
  | none => exact le_rfl
  | some b => exact min_le_left _ _

/-- Between two readings no more comes in than the rate brings. -/
lemma bucketTokens_le_add (hst : s ≤ t) :
    bucketTokens M (M * D) t bucket ≤ bucketTokens M (M * D) s bucket + M * (t - s) := by
  have hnew : 0 ≤ M * (t - s) := mul_nonneg (Int.natCast_nonneg M) (Int.sub_nonneg_of_le hst)
  cases bucket with
  | none => exact Int.le_add_of_nonneg_right hnew
  | some b =>
    have hsplit : (t - b.2) * M = (s - b.2) * M + M * (t - s) := by ring
    show min (M * D : Int) (b.1 + (t - b.2) * M) ≤ min (M * D : Int) (b.1 + (s - b.2) * M) + _
    omega

/-- A reading in between makes no difference: no more comes in, and no more overflows. -/
lemma bucketTokens_refill {c : Int} (hst : s ≤ t) :
    bucketTokens M c t (some (bucketTokens M c s bucket, s)) = bucketTokens M c t bucket := by
  have hnew : 0 ≤ (t - s) * M := mul_nonneg (Int.sub_nonneg_of_le hst) (Int.natCast_nonneg M)
  cases bucket with
  | none =>
    simp only [bucketTokens]
    omega
  | some b =>
    have hsplit : (t - b.2) * M = (s - b.2) * M + (t - s) * M := by ring
    simp only [bucketTokens]
    omega

/-- The granted runs, made again without the others from a bucket that fills like the first. -/
lemma executions_grants {bucket' : Option (Int × Int)} (hclock : times.Pairwise (· ≤ ·))
    (hsame : ∀ t ∈ times, bucketTokens M (rateLimitCapacity M D) t bucket' =
      bucketTokens M (rateLimitCapacity M D) t bucket) :
    executions M D bucket' ((grants M D bucket times).map Execution.time) =
      grants M D bucket times := by
  unfold grants
  induction times generalizing bucket bucket' with
  | nil => rfl
  | cons t times ih =>
    obtain ⟨hlater, htimes⟩ := pairwise_cons.mp hclock
    obtain ⟨hnow, hsame⟩ := forall_mem_cons.mp hsame
    rw [executions, rateLimitScript]
    split_ifs with henough
    · rw [filter_cons_of_pos rfl, map_cons, executions, rateLimitScript, hnow, if_pos henough,
        ih htimes fun _ _ => rfl]
    · -- the refusal stores what a later reading finds without it
      rw [filter_cons_of_neg (by simp)]
      exact ih htimes fun u hu => (hsame u hu).trans (bucketTokens_refill (hlater u hu)).symm

variable (hfits : rateLimitCapacity M D = M * D)
include hfits

/-- One run: a grant takes its tokens, and a refusal none. -/
lemma executions_cons (bucket : Option (Int × Int)) (t : Int) (times : List Int) : ∃ granted left,
    executions M D bucket (t :: times) =
      ⟨t, granted, left⟩ :: executions M D (some (left, t)) times ∧
    (granted = true ∧ D ≤ bucketTokens M (M * D) t bucket ∧
        left = bucketTokens M (M * D) t bucket - D ∨
      granted = false ∧ bucketTokens M (M * D) t bucket < D ∧
        left = bucketTokens M (M * D) t bucket) := by
  rw [executions, rateLimitScript, hfits]
  split_ifs with henough
  · exact ⟨_, _, rfl, .inl ⟨rfl, henough, rfl⟩⟩
  · exact ⟨_, _, rfl, .inr ⟨rfl, by omega, rfl⟩⟩

/-- From the reading `s` on, the grants take no more than is there and than comes in. -/
lemma grants_le_tokens {P : Execution → Bool}
    (hP : ∀ e, P e = true → e.granted = true ∧ e.time ≤ u)
    (hclock : (s :: times).Pairwise (· ≤ ·)) :
    D * ((executions M D bucket times).countP P : Int) ≤
      max 0 (bucketTokens M (M * D) s bucket + M * (u - s)) := by
  induction times generalizing s bucket with
  | nil => simp [executions]
  | cons t times ih =>
    obtain ⟨hst, htimes⟩ := pairwise_cons.mp hclock
    obtain ⟨granted, left, hrun, hleft⟩ := executions_cons hfits bucket t times
    have htokens := @bucketTokens_le_add M D s t bucket (hst t mem_cons_self)
    have hrest := @ih t (some (left, t)) htimes
    have hkept : bucketTokens M (M * D) t (some (left, t)) ≤ left := by
      rw [bucketTokens, sub_self, zero_mul, add_zero]
      exact min_le_right _ _
    have hsplit : M * (u - s) = M * (u - t) + M * (t - s) := by ring
    rw [hrun, countP_cons]
    split_ifs with hhead
    · -- a grant in the window: what it has not taken is there for the rest
      obtain ⟨hgranted, hle⟩ := hP _ hhead
      have hin : 0 ≤ M * (u - t) := mul_nonneg (Int.natCast_nonneg M) (Int.sub_nonneg_of_le hle)
      rw [Nat.cast_add, Nat.cast_one, mul_add, mul_one]
      rcases hleft with ⟨-, henough, rfl⟩ | ⟨hrefused, -, -⟩
      · omega
      · exact absurd hgranted (hrefused ▸ Bool.false_ne_true)
    · rw [Nat.add_zero]
      omega

/-- The grants of a window take no more than a full bucket and what comes in. -/
lemma grants_le_window {P : Execution → Bool}
    (hP : ∀ e, P e = true → e.granted = true ∧ s ≤ e.time ∧ e.time ≤ u) (hsu : s ≤ u)
    (hclock : times.Pairwise (· ≤ ·)) :
    D * ((executions M D bucket times).countP P : Int) ≤ M * D + M * (u - s) := by
  have hin : 0 ≤ M * (u - s) := mul_nonneg (Int.natCast_nonneg M) (Int.sub_nonneg_of_le hsu)
  have hcapacity : (0 : Int) ≤ M * D := mul_nonneg (Int.natCast_nonneg M) (Int.natCast_nonneg D)
  induction times generalizing bucket with
  | nil =>
    rw [executions, countP_nil, Nat.cast_zero, mul_zero]
    omega
  | cons t times ih =>
    by_cases hbefore : t < s
    · -- a run before the window is not counted
      obtain ⟨granted, left, hrun, -⟩ := executions_cons hfits bucket t times
      rw [hrun, countP_cons_of_neg fun hhead => absurd (hP _ hhead).2.1 (Int.not_le.mpr hbefore)]
      exact ih hclock.of_cons
    have hfrom : (s :: t :: times).Pairwise (· ≤ ·) := by
      have hst : s ≤ t := Int.not_lt.mp hbefore
      refine pairwise_cons.mpr ⟨forall_mem_cons.mpr ⟨hst, fun t' ht' => ?_⟩, hclock⟩
      exact hst.trans (rel_of_pairwise_cons hclock ht')
    have hgrants := @grants_le_tokens M D s u bucket (t :: times) hfits P
      (fun e he => ⟨(hP e he).1, (hP e he).2.2⟩) hfrom
    have hfull := @bucketTokens_le M D s bucket
    omega

/-- What is stored lies between nothing and a full bucket. -/
lemma executions_tokens (hbucket : ∀ b ∈ bucket, 0 ≤ b.1 ∧ (b.2 :: times).Pairwise (· ≤ ·))
    (hclock : times.Pairwise (· ≤ ·)) :
    ∀ e ∈ executions M D bucket times, 0 ≤ e.tokens ∧ e.tokens ≤ M * D := by
  have hrate := Int.natCast_nonneg M
  induction times generalizing bucket with
  | nil => exact nofun
  | cons t times ih =>
    obtain ⟨granted, left, hrun, hleft⟩ := executions_cons hfits bucket t times
    have hfull := @bucketTokens_le M D t bucket
    have hnonneg : 0 ≤ bucketTokens M (M * D) t bucket := by
      have hcapacity : (0 : Int) ≤ M * D := mul_nonneg hrate (Int.natCast_nonneg D)
      cases bucket with
      | none => exact hcapacity
      | some b =>
        obtain ⟨htokens, htimes⟩ := hbucket b rfl
        have hlater := rel_of_pairwise_cons htimes mem_cons_self
        exact le_min hcapacity (add_nonneg htokens (mul_nonneg (Int.sub_nonneg_of_le hlater) hrate))
    have hstored : 0 ≤ left ∧ left ≤ M * D := by omega
    rw [hrun, forall_mem_cons]
    exact ⟨hstored, ih (by rintro _ ⟨⟩; exact ⟨hstored.1, hclock⟩) hclock.of_cons⟩

/-- After `gap` seconds there are tokens for a request again. -/
lemma executions_spaced {gap : Int} (hgap : D ≤ gap * M) (hcapacity : (D : Int) ≤ M * D)
    (hbucket : ∀ b ∈ bucket, 0 ≤ b.1 ∧ (b.2 :: times).IsChain fun t t' => t + gap ≤ t')
    (hspaced : times.IsChain fun t t' => t + gap ≤ t') :
    ∀ e ∈ executions M D bucket times, e.granted = true := by
  induction times generalizing bucket with
  | nil => exact nofun
  | cons t times ih =>
    obtain ⟨granted, left, hrun, hleft⟩ := executions_cons hfits bucket t times
    have henough : D ≤ bucketTokens M (M * D) t bucket := by
      cases bucket with
      | none => exact hcapacity
      | some b =>
        obtain ⟨htokens, htimes⟩ := hbucket b rfl
        have hlater := (isChain_cons_cons.mp htimes).1
        have hin : gap * M ≤ (t - b.2) * M :=
          mul_le_mul_of_nonneg_right (by omega) (Int.natCast_nonneg M)
        exact le_min hcapacity (by omega)
    have hgranted : granted = true ∧ 0 ≤ left := by
      rcases hleft with ⟨rfl, -, rfl⟩ | ⟨-, hshort, -⟩
      · exact ⟨rfl, by omega⟩
      · omega
    rw [hrun, forall_mem_cons]
    exact ⟨hgranted.1, ih (by rintro _ ⟨⟩; exact ⟨hgranted.2, hspaced⟩) hspaced.of_cons⟩

end

/-- **The token bucket bounds bursts.** The stored tokens stay within the bucket, a window of `T`
seconds grants what a full bucket and its refill pay for, and requests that are far enough apart are
never refused. -/
theorem token_bucket_bounds_bursts (M D : ℕ) (hM : 0 < M) (hD : 0 < D) (hfits : M * D < 2 ^ 53)
    (times : List Int) (hclock : times.Pairwise (· ≤ ·)) :
    (∀ e ∈ executions M D none times, 0 ≤ e.tokens ∧ e.tokens ≤ M * D) ∧
    (∀ (s : Int) (T : ℕ), (executions M D none times).countP
      (fun e => e.granted ∧ s ≤ e.time ∧ e.time ≤ s + T) ≤ M + M * T / D) ∧
    (times.IsChain (fun t t' : Int => t + (D ⌈/⌉ M : ℕ) ≤ t') →
      ∀ e ∈ executions M D none times, e.granted = true) := by
  have hcapacity := rateLimitCapacity_eq hM hD hfits
  refine ⟨executions_tokens hcapacity nofun hclock, fun s T => ?_, fun hspaced => ?_⟩
  · have hgrants := @grants_le_window M D s (s + T) none times hcapacity
      (fun e => e.granted ∧ s ≤ e.time ∧ e.time ≤ s + T) (fun e he => of_decide_eq_true he)
      (by omega) hclock
    rw [add_sub_cancel_left] at hgrants
    rw [← Nat.mul_add_div hD, Nat.le_div_iff_mul_le hD, Nat.mul_comm, Nat.mul_comm D M]
    exact_mod_cast hgrants
  · have hgap : D ≤ M * (D ⌈/⌉ M) := le_smul_ceilDiv hM
    have hfull : D ≤ M * D := Nat.le_mul_of_pos_left D hM
    refine executions_spaced hcapacity ?_ (by exact_mod_cast hfull) nofun hspaced
    rw [mul_comm]
    exact_mod_cast hgap

/-- Two requests in three seconds: the third one within a second is refused. -/
theorem token_bucket_bounds_two_in_three :
    (executions 2 3 none [0, 0, 1, 1]).map Execution.granted = [true, true, false, false] ∧
      ∀ e ∈ executions 2 3 none [0, 0, 1, 1], 0 ≤ e.tokens ∧ e.tokens ≤ 6 :=
  ⟨by decide, (token_bucket_bounds_bursts 2 3 (by decide) (by decide) (by decide) [0, 0, 1, 1]
    (by decide)).1⟩

/-- **Refusals leave no trace.** Without the refused requests the others are granted just the same,
and leave the same tokens, which all lie in a range where the script computes exactly. -/
theorem refusals_leave_no_trace (M D : ℕ) (hM : 0 < M) (hD : 0 < D) (hfits : M * D < 2 ^ 53)
    (bucket : Option (Int × Int)) (times : List Int)
    (hbucket : ∀ b ∈ bucket, 0 ≤ b.1 ∧ b.1 ≤ M * D ∧ ∀ t ∈ times, b.2 ≤ t)
    (hclock : times.Pairwise (· ≤ ·)) :
    (∀ e ∈ executions M D bucket times, 0 ≤ e.tokens ∧ e.tokens ≤ M * D) ∧
      executions M D bucket ((grants M D bucket times).map Execution.time) =
        grants M D bucket times := by
  refine ⟨executions_tokens (rateLimitCapacity_eq hM hD hfits) (fun b hb => ?_) hclock,
    executions_grants hclock fun _ _ => rfl⟩
  obtain ⟨htokens, -, hlater⟩ := hbucket b hb
  exact ⟨htokens, pairwise_cons.mpr ⟨hlater, hclock⟩⟩

theorem refusals_leave_no_trace_two_in_three :
    executions 2 3 none [0, 0, 2] = grants 2 3 none [0, 0, 1, 2] :=
  (refusals_leave_no_trace 2 3 (by decide) (by decide) (by decide) none [0, 0, 1, 2] nofun
    (by decide)).2

end NewApi.Middleware
