import NewApi.Common.QuotaMath

/-!
# The price terms of a task

A task is priced at its submission with the ratio of the pair of its user's group and its using
group, and priced again from the reported tokens when it completes. The second computation only has
the task row: it takes the using group for both groups, and reads the settings of that moment.
-/

namespace NewApi.Service

open Common

/-- The ratio settings. `modelRatio` is indexed by the model name as requests have it. -/
structure TaskRatios where
  groupRatio : String → Option Binary64
  /-- the special ratio of a user group in a using group -/
  groupGroupRatio : String → String → Option Binary64
  modelRatio : String → Option Binary64
  selfUseModeEnabled : Bool

def TaskRatios.getGroupRatio (s : TaskRatios) (name : String) : Binary64 :=
  (s.groupRatio name).getD .one

/-- The ratio, and whether it is set. -/
def TaskRatios.getModelRatio (s : TaskRatios) (name : String) : Binary64 × Bool :=
  match s.modelRatio name with
  | none => ((Binary64.ofInt 75).div (Binary64.ofInt 2), s.selfUseModeEnabled)
  | some ratio => (ratio, true)

/-- The special ratio of the pair of groups, or else the ratio of the using group. -/
def TaskRatios.pairRatio (s : TaskRatios) (userGroup usingGroup : String) : Binary64 :=
  match s.groupGroupRatio userGroup usingGroup with
  | some ratio => ratio
  | none => s.getGroupRatio usingGroup

/-- A user of the one group pays in the other what its own users pay: the groups are the same, or
the special ratios of both are missing, equal, or equal to the ratio of the using group. -/
def TaskRatios.SameRatio (s : TaskRatios) (userGroup usingGroup : String) : Prop :=
  userGroup = usingGroup ∨
    match s.groupGroupRatio userGroup usingGroup, s.groupGroupRatio usingGroup usingGroup with
    | none, none => True
    | some ratio, none => ratio = s.getGroupRatio usingGroup
    | none, some ratio => ratio = s.getGroupRatio usingGroup
    | some ratio, some ratio' => ratio = ratio'

/-- The entries for a model and for a using group are the same in both settings. -/
structure TaskRatios.SameEntries (s s' : TaskRatios) (model usingGroup : String) : Prop where
  model : s'.modelRatio model = s.modelRatio model
  selfUse : s'.selfUseModeEnabled = s.selfUseModeEnabled
  group : s'.groupRatio usingGroup = s.groupRatio usingGroup
  special : s'.groupGroupRatio usingGroup usingGroup = s.groupGroupRatio usingGroup usingGroup

section
variable {s s' : TaskRatios} {model userGroup usingGroup : String}

lemma pairRatio_eq_iff : s.pairRatio usingGroup usingGroup = s.pairRatio userGroup usingGroup ↔
    s.SameRatio userGroup usingGroup := by
  unfold TaskRatios.SameRatio TaskRatios.pairRatio
  by_cases hgroup : userGroup = usingGroup
  · simp [hgroup]
  rw [or_iff_right hgroup]
  cases s.groupGroupRatio userGroup usingGroup <;> cases s.groupGroupRatio usingGroup usingGroup <;>
    simp [eq_comm]

lemma TaskRatios.SameEntries.pairRatio (h : s.SameEntries s' model usingGroup) :
    s'.pairRatio usingGroup usingGroup = s.pairRatio usingGroup usingGroup := by
  rw [TaskRatios.pairRatio, TaskRatios.pairRatio, h.special, TaskRatios.getGroupRatio, h.group]
  rfl

lemma TaskRatios.SameEntries.getModelRatio (h : s.SameEntries s' model usingGroup) :
    s'.getModelRatio model = s.getModelRatio model := by
  rw [TaskRatios.getModelRatio, TaskRatios.getModelRatio, h.model, h.selfUse]

end

/-! ## Submission -/

structure TaskBillingContext where
  groupRatio : Binary64
  modelRatio : Binary64
  /-- in the order in which the map is traversed -/
  otherRatios : List (String × Binary64)
  originModelName : String

structure PricedTask where
  group : String
  billingContext : Option TaskBillingContext
  /-- `Properties.OriginModelName` -/
  originModelName : String

structure TaskRelayInfo where
  userGroup : String
  usingGroup : String
  originModelName : String
  otherRatios : List (String × Binary64)

/-- The group that an automatic choice has settled on replaces the using group. -/
def TaskRelayInfo.group (info : TaskRelayInfo) (autoGroup : Option String) : String :=
  autoGroup.getD info.usingGroup

def handleGroupRatio (s : TaskRatios) (autoGroup : Option String) (info : TaskRelayInfo) :
    Binary64 × TaskRelayInfo :=
  let info := { info with usingGroup := info.group autoGroup }
  (s.pairRatio info.userGroup info.usingGroup, info)

def isValidOtherRatio (ratio : Binary64) : Bool := !ratio.le .zero && !ratio.isNaN && !ratio.isInf

/-- The terms of a task that is priced by ratios. -/
def submittedContext (s : TaskRatios) (autoGroup : Option String) (info : TaskRelayInfo) :
    TaskBillingContext :=
  { groupRatio := (handleGroupRatio s autoGroup info).1
    modelRatio := (s.getModelRatio info.originModelName).1
    otherRatios := info.otherRatios.filter fun ratio => isValidOtherRatio ratio.2
    originModelName := info.originModelName }

/-- The row of a submission. -/
def submittedTask (s : TaskRatios) (autoGroup : Option String) (info : TaskRelayInfo) :
    PricedTask :=
  { group := (handleGroupRatio s autoGroup info).2.usingGroup
    billingContext := some (submittedContext s autoGroup info)
    originModelName := info.originModelName }

/-! ## Completion -/

def otherRatioMultiplier (ratios : List (String × Binary64)) : Binary64 :=
  Binary64.one.mulAll
    ((ratios.map (·.2)).filter fun ratio => isValidOtherRatio ratio && !ratio.eq .one)

def taskModelName (task : PricedTask) : String :=
  match task.billingContext with
  | some bc => if bc.originModelName ≠ "" then bc.originModelName else task.originModelName
  | none => task.originModelName

/-- `QuotaFromFloatChecked`: the fraction is dropped, and the quota saturates. -/
def quotaFromFloat : Binary64 → Int
  | .nan => 0
  | .inf neg => if neg then minQuota else maxQuota
  | .finite neg mag _ => (saturateQuota (Binary64.units neg (mag / 2 ^ 1074))).1

/-- The group whose ratios are read; `userGroup` is the user's group, if the user is found. -/
def completionGroup (task : PricedTask) (userGroup : Option String) : String :=
  if task.group = "" then userGroup.getD "" else task.group

def completionRatio (s : TaskRatios) (task : PricedTask) (userGroup : Option String) : Binary64 :=
  s.pairRatio (completionGroup task userGroup) (completionGroup task userGroup)

/-- The quota for `totalTokens`, or `none` where the function declines. -/
def recalculateTaskQuotaByTokens (s : TaskRatios) (task : PricedTask)
    (userGroup : Option String) (totalTokens : Int) : Option Int :=
  if totalTokens ≤ 0 then none
  else
    let (modelRatio, hasRatioSetting) := s.getModelRatio (taskModelName task)
    if ¬ hasRatioSetting ∨ modelRatio.le .zero then none
    else
      if completionGroup task userGroup = "" then none
      else
        let other := (task.billingContext.map (·.otherRatios)).getD []
        some (quotaFromFloat ((Binary64.ofInt totalTokens).mulAll
          [modelRatio, completionRatio s task userGroup, otherRatioMultiplier other]))

/-- What the terms that were stored at the submission make of the tokens. -/
def TaskBillingContext.quota (bc : TaskBillingContext) (totalTokens : Int) : Int :=
  quotaFromFloat ((Binary64.ofInt totalTokens).mulAll
    [bc.modelRatio, bc.groupRatio, otherRatioMultiplier bc.otherRatios])

section
variable (s s' : TaskRatios) (autoGroup userGroup : Option String) (info : TaskRelayInfo)
  (totalTokens : Int) (hgroup : info.group autoGroup ≠ "") (htokens : 0 < totalTokens)

include hgroup in
lemma completionGroup_submitted :
    completionGroup (submittedTask s autoGroup info) userGroup = info.group autoGroup :=
  if_neg hgroup

include hgroup htokens in
/-- The quota from the settings of the completion. -/
lemma recalculate_submitted (hset : (s'.getModelRatio info.originModelName).2 = true)
    (hpos : (s'.getModelRatio info.originModelName).1.le .zero = false) :
    recalculateTaskQuotaByTokens s' (submittedTask s autoGroup info) userGroup totalTokens =
      some (quotaFromFloat ((Binary64.ofInt totalTokens).mulAll
        [(s'.getModelRatio info.originModelName).1,
          s'.pairRatio (info.group autoGroup) (info.group autoGroup),
          otherRatioMultiplier (submittedContext s autoGroup info).otherRatios])) := by
  have hname : taskModelName (submittedTask s autoGroup info) = info.originModelName := by
    simp [taskModelName, submittedTask, submittedContext]
  unfold recalculateTaskQuotaByTokens completionRatio
  rw [if_neg (by omega), hname, completionGroup_submitted _ _ _ _ hgroup]
  dsimp only
  rw [hset, hpos, if_neg (by decide), if_neg hgroup]
  rfl

include hgroup htokens in
/-- The group ratio of the completion is the one stored at the submission exactly when the special
ratios of the two groups are not set, equal, or equal to the ratio of the using group. The quota is
then the one of the stored terms if the entries that are read have not changed, and every quota that
is computed depends on them. -/
theorem token_settlement_terms (hset : (s.getModelRatio info.originModelName).2 = true)
    (hpos : (s.getModelRatio info.originModelName).1.le .zero = false) :
    let task := submittedTask s autoGroup info
    let bc := submittedContext s autoGroup info
    let group := info.group autoGroup
    (completionRatio s task userGroup = bc.groupRatio ↔ s.SameRatio info.userGroup group) ∧
    (s.SameRatio info.userGroup group → s.SameEntries s' info.originModelName group →
      recalculateTaskQuotaByTokens s' task userGroup totalTokens = some (bc.quota totalTokens)) ∧
    ¬ ∀ s'', recalculateTaskQuotaByTokens s'' task userGroup totalTokens =
      recalculateTaskQuotaByTokens s task userGroup totalTokens := by
  intro task bc group
  have hrecalculate := fun s' => recalculate_submitted s s' autoGroup userGroup info totalTokens
    hgroup htokens
  refine ⟨?_, fun hsame hentries => ?_, fun h => ?_⟩
  · rw [completionRatio, completionGroup_submitted _ _ _ _ hgroup, ← pairRatio_eq_iff]
    rfl
  · have hpair := hentries.pairRatio.trans (pairRatio_eq_iff.mpr hsame)
    rw [hrecalculate s' (hentries.getModelRatio ▸ hset) (hentries.getModelRatio ▸ hpos),
      hentries.getModelRatio, hpair]
    rfl
  · -- settings without the model's ratio make the function decline
    have hnone := h { s with modelRatio := fun _ => none, selfUseModeEnabled := false }
    rw [hrecalculate s hset hpos] at hnone
    unfold recalculateTaskQuotaByTokens at hnone
    rw [if_neg (by omega)] at hnone
    simp [TaskRatios.getModelRatio] at hnone

end

/-- Users of the group `vip` pay twice the ratio in the group `default`. -/
def vipSettings : TaskRatios where
  groupRatio := fun _ => some .one
  groupGroupRatio := fun userGroup usingGroup =>
    if userGroup = "vip" ∧ usingGroup = "default" then some (.ofInt 2) else none
  modelRatio := fun _ => some .one
  selfUseModeEnabled := false

def defaultTask (userGroup : String) : TaskRelayInfo :=
  ⟨userGroup, "default", "video", []⟩

theorem token_settlement_terms_default :
    completionRatio vipSettings (submittedTask vipSettings none (defaultTask "default")) none =
      (submittedContext vipSettings none (defaultTask "default")).groupRatio :=
  (token_settlement_terms vipSettings vipSettings none none (defaultTask "default") 10 (by decide)
    (by decide) (by decide) (by decide +kernel)).1.2 (.inl rfl)

theorem token_settlement_forgets_user_group :
    (submittedContext vipSettings none (defaultTask "vip")).quota 10 = 20 ∧
      recalculateTaskQuotaByTokens vipSettings (submittedTask vipSettings none (defaultTask "vip"))
        none 10 = some 10 := by
  decide +kernel

end NewApi.Service
