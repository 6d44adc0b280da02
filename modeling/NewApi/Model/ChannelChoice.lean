import NewApi.Utils.GoInt

/-!
# The weighted choice of a channel

The end of `GetRandomSatisfiedChannel` in `model/channel_cache.go` and of `GetChannel` in
`model/ability.go`: one of the candidates of a priority is chosen by a draw below the sum of their
weights. The two loops differ in the comparison that ends them: the loop of the database gives the
first candidate one draw too many, which the last one lacks. The list of the cache may hold a channel
more than once, and the draws of such a channel add up.
-/

namespace NewApi.Model
open List

/-! ## The loop -/

section
variable {α : Type} {w : α → ℕ} {a c : α} {cs : List α}

/-- The weights are taken off the draw until `stop` holds. -/
def pickWeighted (w : α → ℕ) (stop : Int → Bool) : List α → Int → Option α
  | [], _ => none
  | c :: cs, r => if stop (r - w c) then some c else pickWeighted w stop cs (r - w c)

/-- The draws below the first weight, and those above it. -/
lemma pick_lt {r : ℕ} (h : r < w a) : pickWeighted w (· < 0) (a :: cs) r = some a := by
  rw [pickWeighted, if_pos (by simp only [decide_eq_true_eq]; omega)]

lemma pick_add (r : ℕ) : pickWeighted w (· < 0) (a :: cs) (w a + r : ℕ)
    = pickWeighted w (· < 0) cs r := by
  rw [pickWeighted, if_neg (by simp only [decide_eq_true_eq]; omega)]
  congr 1
  omega

/-- A draw below the sum of the weights is used up before the end of the list. -/
lemma pick_some {stop : Int → Bool} (hstop : ∀ r < 0, stop r = true) {r : Int} (hr : 0 ≤ r)
    (h : r < (cs.map w).sum) : ∃ c ∈ cs, pickWeighted w stop cs r = some c := by
  induction cs generalizing r with
  | nil =>
    simp only [map_nil, sum_nil] at h
    omega
  | cons a cs ih =>
    rw [pickWeighted]
    split_ifs with hstopped
    · exact ⟨a, mem_cons_self, rfl⟩
    have hrest : 0 ≤ r - w a := Int.not_lt.mp fun hneg => hstopped (hstop _ hneg)
    rw [map_cons, sum_cons] at h
    obtain ⟨c, hc, hpick⟩ := ih hrest (by omega)
    exact ⟨c, mem_cons_of_mem _ hc, hpick⟩

variable [DecidableEq α]

/-- How many of the draws below `total` choose `c`. -/
def drawsOf (total : ℕ) (choose : Int → Option α) (c : α) : ℕ :=
  (range total).countP fun r : ℕ => choose r = some c

/-- Every draw below `total` chooses an element, and each one is chosen by its weight of them. -/
def ExactChoice (cs : List α) (w : α → ℕ) (total : ℕ) (choose : Int → Option α) : Prop :=
  (∀ r < total, ∃ c ∈ cs, choose r = some c) ∧ ∀ c ∈ cs, drawsOf total choose c = w c

instance (cs : List α) (w : α → ℕ) (total : ℕ) (choose : Int → Option α) :
    Decidable (ExactChoice cs w total choose) :=
  inferInstanceAs (Decidable (_ ∧ _))

/-- The loop that stops once the draw is below zero chooses an element by its weight, as often as it
is in the list. -/
lemma drawsOf_pick_lt :
    drawsOf (cs.map w).sum (pickWeighted w (· < 0) cs) c = cs.count c * w c := by
  unfold drawsOf
  induction cs with
  | nil => simp
  | cons a cs ih =>
    have hfirst : ∀ r ∈ range (w a), pickWeighted w (· < 0) (a :: cs) r = some a :=
      fun r hr => pick_lt (mem_range.mp hr)
    rw [map_cons, sum_cons, range_add, countP_append, countP_map]
    simp only [Function.comp_def, pick_add]
    rw [ih, count_cons, Nat.add_mul, Nat.add_comm]
    congr 1
    by_cases hac : a = c
    · subst hac
      rw [countP_eq_length.mpr fun r hr => decide_eq_true (hfirst r hr), length_range]
      simp
    · rw [countP_eq_zero.mpr fun r hr => by simp [hfirst r hr, hac]]
      simp [hac]

/-- Draws by occurrence and weight are exact, if no element with a weight is repeated. -/
lemma exactChoice_iff {total : ℕ} {choose : Int → Option α}
    (hsome : ∀ r < total, ∃ c ∈ cs, choose r = some c)
    (hdraws : ∀ c ∈ cs, drawsOf total choose c = cs.count c * w c) :
    ExactChoice cs w total choose ↔ ∀ c ∈ cs, 0 < w c → cs.count c = 1 := by
  rw [ExactChoice, and_iff_right hsome]
  refine forall₂_congr fun c hc => ?_
  rw [hdraws c hc]
  constructor
  · intro h hpos
    exact Nat.eq_of_mul_eq_mul_right hpos (h.trans (Nat.one_mul _).symm)
  · intro h
    rcases Nat.eq_zero_or_pos (w c) with hzero | hpos
    · rw [hzero, Nat.mul_zero]
    · rw [h hpos, Nat.one_mul]

/-- The loop that stops once the draw is zero gives the first element one draw too many, unless it is
the only one. -/
lemma exactChoice_le_iff (hne : cs ≠ []) (hpos : ∀ c ∈ cs, 0 < w c) :
    ExactChoice cs w (cs.map w).sum (pickWeighted w (· ≤ 0) cs) ↔ cs.length = 1 := by
  obtain ⟨a, cs, rfl⟩ := exists_cons_of_ne_nil hne
  have hfirst : ∀ r : ℕ, r ≤ w a → pickWeighted w (· ≤ 0) (a :: cs) r = some a := by
    intro r hr
    rw [pickWeighted, if_pos (by simp only [decide_eq_true_eq]; omega)]
  have hall : ∀ n ≤ w a + 1, drawsOf n (pickWeighted w (· ≤ 0) (a :: cs)) a = n := by
    intro n hn
    rw [drawsOf, countP_eq_length.mpr fun r hr => decide_eq_true
      (hfirst r (by have := mem_range.mp hr; omega)), length_range]
  cases cs with
  | nil =>
    have hsum : ([a].map w).sum = w a := by rw [map_singleton, sum_singleton]
    refine iff_of_true ⟨fun r hr => ⟨a, mem_cons_self, hfirst r (by omega)⟩, fun c hc => ?_⟩ rfl
    rw [mem_singleton.mp hc, hsum, hall _ (Nat.le_succ _)]
  | cons b rest =>
    refine iff_of_false (fun h => ?_) (by simp)
    have hb := hpos b (mem_cons_of_mem _ mem_cons_self)
    have hle : w a + 1 ≤ ((a :: b :: rest).map w).sum := by
      rw [map_cons, map_cons, sum_cons, sum_cons]
      omega
    have hmore := (range_sublist.mpr hle).countP_le
      (p := fun r : ℕ => pickWeighted w (· ≤ 0) (a :: b :: rest) r = some a)
    have hfirst := hall _ le_rfl
    have hexact := h.2 a mem_cons_self
    unfold drawsOf at hfirst hexact
    omega

end

/-! ## The two paths -/

/-- A channel of the cache or an ability of the database; a channel without a weight has weight
zero. -/
structure Candidate where
  id : ℕ
  priority : Int
  weight : ℕ
deriving DecidableEq

/-- The channels of a model in the cache, before they are sorted by priority: `InitChannelCache`
appends a channel for every entry of its list of models. -/
def cachedChannels (model : String) (channels : List (Candidate × List String)) : List Candidate :=
  channels.flatMap fun channel => (channel.2.filter (· = model)).map fun _ => channel.1

structure Smoothing where
  sumWeight : Int
  factor : ℕ
  adjustment : ℕ

def smoothing (channels : List Candidate) : Smoothing :=
  let sumWeight := int64 (channels.map Candidate.weight).sum
  if sumWeight = 0 then ⟨int64 (channels.length * 100 : ℕ), 1, 100⟩
  else if sumWeight.tdiv channels.length < 10 then ⟨sumWeight, 100, 0⟩
  else ⟨sumWeight, 1, 0⟩

/-- The bound of the draw of the cache. -/
def totalWeight (channels : List Candidate) : Int :=
  int64 ((smoothing channels).sumWeight * (smoothing channels).factor)

/-- The weight of a channel of the cache after the smoothing. -/
def effectiveWeight (channels : List Candidate) (c : Candidate) : ℕ :=
  c.weight * (smoothing channels).factor + (smoothing channels).adjustment

/-- `GetRandomSatisfiedChannel` once the priority is known; an only channel is taken without a
draw. -/
def getRandomSatisfiedChannel (channels : List Candidate) (targetPriority randomWeight : Int) :
    Option Candidate :=
  match channels with
  | [channel] => some channel
  | _ =>
    let targetChannels := channels.filter (·.priority = targetPriority)
    pickWeighted (effectiveWeight targetChannels) (· < 0) targetChannels randomWeight

/-- The weight of an ability of the database. -/
def abilityWeight (ability : Candidate) : ℕ := ability.weight + 10

/-- The bound of the draw of the database. -/
def weightSum (abilities : List Candidate) : Int := int64 (abilities.map abilityWeight).sum

/-- `GetChannel`, likewise. -/
def getChannel (abilities : List Candidate) (targetPriority weight : Int) : Option Candidate :=
  pickWeighted abilityWeight (· ≤ 0) (abilities.filter (·.priority = targetPriority)) weight

variable {cs : List Candidate}

lemma sum_affine (f k : ℕ) :
    (cs.map fun c => c.weight * f + k).sum = (cs.map Candidate.weight).sum * f + cs.length * k := by
  induction cs with
  | nil => simp
  | cons c cs ih =>
    simp only [map_cons, sum_cons, ih, length_cons, Nat.add_mul]
    omega

/-- The smoothing of weights whose sum fits. -/
lemma smoothing_cases (hfits : 100 * ((cs.map Candidate.weight).sum + cs.length) < 2 ^ 63) :
    ((cs.map Candidate.weight).sum = 0 ∧ smoothing cs = ⟨(cs.length * 100 : ℕ), 1, 100⟩) ∨
      ∃ factor ≤ 100, smoothing cs = ⟨(cs.map Candidate.weight).sum, factor, 0⟩ := by
  unfold smoothing
  dsimp only
  rw [int64_eq (x := (cs.map Candidate.weight).sum) (by omega) (by omega),
    int64_eq (x := (cs.length * 100 : ℕ)) (by omega) (by omega)]
  split_ifs with hzero
  · exact .inl ⟨Int.natCast_eq_zero.mp hzero, rfl⟩
  · exact .inr ⟨100, by decide, rfl⟩
  · exact .inr ⟨1, by decide, rfl⟩

/-- The draw is made below the sum of the effective weights. -/
lemma totalWeight_eq (hfits : 100 * ((cs.map Candidate.weight).sum + cs.length) < 2 ^ 63) :
    totalWeight cs = (cs.map (effectiveWeight cs)).sum := by
  have heffective : (cs.map (effectiveWeight cs)).sum = (cs.map Candidate.weight).sum
      * (smoothing cs).factor + cs.length * (smoothing cs).adjustment := sum_affine _ _
  rw [heffective, totalWeight]
  rcases smoothing_cases hfits with ⟨hzero, hsmooth⟩ | ⟨factor, hfactor, hsmooth⟩
  · rw [hsmooth, hzero]
    dsimp only
    rw [← Int.natCast_mul, int64_eq (by omega) (by omega), Nat.mul_one, Nat.zero_mul, Nat.zero_add]
  have hle := Nat.mul_le_mul_left (cs.map Candidate.weight).sum hfactor
  rw [hsmooth]
  dsimp only
  rw [← Int.natCast_mul, int64_eq (by omega) (by omega), Nat.mul_zero, Nat.add_zero]

section
variable {channels : List Candidate} {priority : Int}
  (hcs : channels.filter (·.priority = priority) = cs) (hne : cs ≠ [])
include hcs hne

/-- The draws of the cache. An only channel is taken whatever the draw. -/
lemma cache_draws :
    (∀ r < (cs.map (effectiveWeight cs)).sum,
      ∃ c ∈ cs, getRandomSatisfiedChannel channels priority r = some c) ∧
    ∀ c ∈ cs, drawsOf (cs.map (effectiveWeight cs)).sum
      (getRandomSatisfiedChannel channels priority) c = cs.count c * effectiveWeight cs c := by
  unfold getRandomSatisfiedChannel
  rw [hcs]
  split
  · next c =>
    obtain rfl : cs = [c] := (sublist_singleton.mp (hcs ▸ filter_sublist)).resolve_left hne
    refine ⟨fun _ _ => ⟨c, mem_cons_self, rfl⟩, fun d hd => ?_⟩
    rw [mem_singleton.mp hd, drawsOf, countP_eq_length.mpr fun _ _ => decide_eq_true rfl,
      length_range, map_singleton, sum_singleton, count_singleton_self, Nat.one_mul]
  · exact ⟨fun r hr => pick_some (fun _ h => decide_eq_true h) (Int.natCast_nonneg r) (by omega),
      fun _ _ => drawsOf_pick_lt⟩

/-- **The weighted choice of a channel.** As long as the sums fit into an `int`, every draw finds a
candidate in both paths. The cache takes a channel by its effective weight, as often as it is in the
list, and so is exact if no channel with a weight is repeated. The database is exact for a single
candidate only. -/
theorem weighted_choice_exact_iff
    (hfits : 100 * ((cs.map Candidate.weight).sum + cs.length) < 2 ^ 63) :
    (∀ r < (totalWeight cs).toNat,
      ∃ c ∈ cs, getRandomSatisfiedChannel channels priority r = some c) ∧
    (∀ c ∈ cs, drawsOf (totalWeight cs).toNat (getRandomSatisfiedChannel channels priority) c
      = cs.count c * effectiveWeight cs c) ∧
    (ExactChoice cs (effectiveWeight cs) (totalWeight cs).toNat
        (getRandomSatisfiedChannel channels priority) ↔
      ∀ c ∈ cs, 0 < effectiveWeight cs c → cs.count c = 1) ∧
    (∀ r < (weightSum cs).toNat, ∃ c ∈ cs, getChannel channels priority r = some c) ∧
    (ExactChoice cs abilityWeight (weightSum cs).toNat (getChannel channels priority) ↔
      cs.length = 1) := by
  have hability : weightSum cs = (cs.map abilityWeight).sum := by
    have hsum := @sum_affine cs 1 10
    simp only [mul_one] at hsum
    change (cs.map abilityWeight).sum = _ at hsum
    exact int64_eq (by omega) (by omega)
  obtain ⟨hsome, hdraws⟩ := cache_draws hcs hne
  rw [totalWeight_eq hfits, hability, Int.toNat_natCast, Int.toNat_natCast]
  refine ⟨hsome, hdraws, exactChoice_iff hsome hdraws, ?_⟩
  unfold getChannel
  rw [hcs]
  exact ⟨fun r hr => pick_some (fun _ h => decide_eq_true (le_of_lt h)) (Int.natCast_nonneg r)
    (by omega), exactChoice_le_iff hne fun c _ => Nat.succ_pos _⟩

end

theorem weighted_choice_exact_one :
    ExactChoice [⟨1, 0, 7⟩] abilityWeight (weightSum [⟨1, 0, 7⟩]).toNat
      (getChannel [⟨1, 0, 7⟩, ⟨2, 5, 7⟩] 0) :=
  (@weighted_choice_exact_iff [⟨1, 0, 7⟩] [⟨1, 0, 7⟩, ⟨2, 5, 7⟩] 0 rfl (by decide)
    (by decide)).2.2.2.2.mpr rfl

/-- The list of the cache for two channels, the first of which lists the model twice. -/
def listedTwice : List Candidate :=
  cachedChannels "gpt-4" [(⟨1, 0, 10⟩, ["gpt-4", "gpt-4"]), (⟨2, 0, 10⟩, ["gpt-4"])]

/-- Of two channels without a weight the database takes the first with 11 of 20 draws, and the cache
takes a channel that is listed twice with 20 of 30. -/
theorem choices_shifted :
    ¬ ExactChoice [⟨1, 0, 0⟩, ⟨2, 0, 0⟩] abilityWeight (weightSum [⟨1, 0, 0⟩, ⟨2, 0, 0⟩]).toNat
      (getChannel [⟨1, 0, 0⟩, ⟨2, 0, 0⟩] 0) ∧
    ¬ ExactChoice listedTwice (effectiveWeight listedTwice) (totalWeight listedTwice).toNat
      (getRandomSatisfiedChannel listedTwice 0) := by
  decide +kernel

end NewApi.Model
