import NewApi.Utils.Chase
import NewApi.Relay.ModelModifier

/-!
# Model mappings

The model mapping of a channel redirects model names. The relay follows it with `ModelMappedHelper`
(`relay/helper/model_mapped.go`), the view of the task aliases with `followChannelModelMapping`
(`model/task_model_alias.go`). Only the relay looks up the base name of a name that has no entry.
-/

namespace NewApi.Relay

open Option

/-- The entries of a mapping. -/
abbrev ModelMap := List (String × String)

/-- The entry of a name, unless it is empty. -/
def ModelMap.target (modelMap : ModelMap) (name : String) : Option String :=
  (modelMap.lookup name).filter (· ≠ "")

/-- The name to which the relay redirects. -/
def ModelMap.redirect (modelMap : ModelMap) (settings : SuffixSettings) (name : String) :
    Option String :=
  (modelMap.target name).or
    (if settings.baseModelName name ≠ name then modelMap.target (settings.baseModelName name)
    else none)

structure RelayInfo where
  originModelName : String
  upstreamModelName : String
  isModelMapped : Bool
deriving DecidableEq

/-- The channel metadata at the start of a request. -/
def RelayInfo.fresh (modelName : String) : RelayInfo := ⟨modelName, modelName, false⟩

/-- `SetModelName`, where there is a request. -/
def RelayInfo.setModelName (info : RelayInfo) (request : Option String) : RelayInfo × Option String :=
  (info, request.map fun _ => info.upstreamModelName)

/-- How the loop of `ModelMappedHelper` is left. -/
inductive LoopExit
  | returned (info : RelayInfo)
  | broke (currentModel : String) (info : RelayInfo)
  | failed (message : String)

/-- The loop of `ModelMappedHelper`, for at most `fuel` steps. -/
def mappingLoop (settings : SuffixSettings) (modelMap : ModelMap) :
    ℕ → String → List String → RelayInfo → Option LoopExit
  | 0, _, _, _ => none
  | fuel + 1, currentModel, visitedModels, info =>
    match modelMap.redirect settings currentModel with
    | some mappedModel =>
      if mappedModel ∈ visitedModels then
        if mappedModel = currentModel then
          if currentModel = info.originModelName then
            some (.returned { info with isModelMapped := false })
          else some (.broke currentModel { info with isModelMapped := true })
        else some (.failed "model_mapping_contains_cycle")
      else
        mappingLoop settings modelMap fuel mappedModel (mappedModel :: visitedModels)
          { info with isModelMapped := true }
    | none => some (.broke currentModel info)

/-- What `ModelMappedHelper` does after its loop. -/
def LoopExit.finish (request : Option String) : LoopExit → Except String (RelayInfo × Option String)
  | .returned info => .ok (info, request)
  | .broke currentModel info =>
    let info := if info.isModelMapped then { info with upstreamModelName := currentModel } else info
    .ok (info.setModelName request)
  | .failed message => .error message

/-- `ModelMappedHelper`: the metadata and the model name of the request. -/
def modelMappedHelper (settings : SuffixSettings) (unmarshal : String → Option ModelMap) (fuel : ℕ)
    (modelMapping : String) (info : RelayInfo) (request : Option String) :
    Option (Except String (RelayInfo × Option String)) :=
  if modelMapping ≠ "" ∧ modelMapping ≠ "\x7b\x7d" then
    match unmarshal modelMapping with
    | none => some (.error "unmarshal_model_mapping_failed")
    | some modelMap =>
      let origin := info.originModelName
      (mappingLoop settings modelMap fuel origin [origin] info).map (LoopExit.finish request)
  else some (.ok (info.setModelName request))

/-- `followChannelModelMapping`: the last name, and whether there is a cycle. -/
def followChannelModelMapping (fuel : ℕ) (modelMap : ModelMap) (start : String) :
    Option (String × Bool) :=
  (chase modelMap.target fuel start [start]).map fun
    | .stopped current => (current, false)
    | .cycle => ("", true)

/-- The mapping that the text of a channel stands for. -/
def channelMap (unmarshal : String → Option ModelMap) (modelMapping : String) : Option ModelMap :=
  if modelMapping ≠ "" ∧ modelMapping ≠ "\x7b\x7d" then unmarshal modelMapping else some []

/-! ## The relay walks the mapping -/

/-- The upstream name of a request, or the error with which it is refused. -/
def upstreamModel (helper : Except String (RelayInfo × Option String)) : Except String String :=
  helper.map (·.1.upstreamModelName)

/-- What a walk means for a request. -/
def walked : ChaseEnd String → Except String String
  | .stopped last => .ok last
  | .cycle => .error "model_mapping_contains_cycle"

lemma walked_inj {e e' : ChaseEnd String} : walked e = walked e' ↔ e = e' := by
  cases e <;> cases e' <;> simp [walked]

section
variable {settings : SuffixSettings} {modelMap : ModelMap} {fuel : ℕ} {name target : String}
  {visited : List String} {request : Option String}

/-- A loop that is left without the flag has not moved. -/
lemma mappingLoop_walked {info : RelayInfo} (hup : info.upstreamModelName = info.originModelName)
    (hflag : info.isModelMapped = true ∨ name = info.originModelName) :
    ((mappingLoop settings modelMap fuel name visited info).map (LoopExit.finish request)).map
        upstreamModel
      = (chase (modelMap.redirect settings) fuel name visited).map walked := by
  induction fuel generalizing name visited info with
  | zero => rfl
  | succ fuel ih =>
    rw [mappingLoop, chase]
    split
    · next mapped hmapped =>
      rw [hmapped]
      dsimp only
      split
      · split
        · split
          · next horigin =>
            rw [horigin, ← hup]
            rfl
          · rfl
        · rfl
      · exact ih hup (Or.inl rfl)
    · next hnone =>
      rw [hnone]
      rcases hflag with hflag | hflag
      · simp only [map_some, LoopExit.finish, hflag]
        rfl
      · simp only [map_some, LoopExit.finish, hflag, ← hup]
        split <;> rfl

lemma mem_of_target (h : modelMap.target name = some target) :
    target ∈ modelMap.map Prod.snd := by
  have hlookup := (filter_eq_some_iff.mp h).1
  obtain ⟨before, after, rfl, -⟩ := List.lookup_eq_some_iff.mp hlookup
  simp

lemma mem_of_redirect (h : modelMap.redirect settings name = some target) :
    target ∈ modelMap.map Prod.snd := by
  rcases or_eq_some_iff.mp h with h | ⟨-, h⟩
  · exact mem_of_target h
  · split at h
    · exact mem_of_target h
    · cases h

/-- One step for each entry and one more are enough. -/
lemma chase_map_isSome {next : String → Option String}
    (hnext : ∀ a b, next a = some b → b ∈ modelMap.map Prod.snd) :
    ∃ e, chase next (modelMap.length + 1) name visited = some e := by
  refine isSome_iff_exists.mp (chase_isSome hnext ?_)
  have := List.length_filter_le (· ∉ visited) (modelMap.map Prod.snd)
  rw [List.length_map] at this
  omega

lemma modelMappedHelper_walked {unmarshal : String → Option ModelMap} {modelMapping start : String}
    (hmap : channelMap unmarshal modelMapping = some modelMap) :
    (modelMappedHelper settings unmarshal (fuel + 1) modelMapping (.fresh start) request).map
        upstreamModel
      = (chase (modelMap.redirect settings) (fuel + 1) start [start]).map walked := by
  unfold channelMap at hmap
  unfold modelMappedHelper
  split at hmap
  · next htext =>
    rw [if_pos htext, hmap]
    exact mappingLoop_walked rfl (Or.inr rfl)
  rename_i htext
  cases hmap
  rw [if_neg htext]
  simp [chase, ModelMap.redirect, ModelMap.target, walked]
  rfl

end

/-! ## Aliases and the relay -/

/-- Both report a cycle, or both end at the same name. -/
def SameModel (follow : String × Bool) (helper : Except String (RelayInfo × Option String)) : Prop :=
  upstreamModel helper =
    if follow.2 then .error "model_mapping_contains_cycle" else .ok follow.1

/-- **A task alias ends where the relay ends**, exactly if the relay does not redirect the name at
which the alias stops to another one. Both end in one step for each entry and one more. -/
theorem task_alias_follows_relay_iff (settings : SuffixSettings)
    (unmarshal : String → Option ModelMap) (modelMapping : String) (modelMap : ModelMap)
    (hmap : channelMap unmarshal modelMapping = some modelMap) (start : String)
    (request : Option String) :
    ∃ helper follow,
      modelMappedHelper settings unmarshal (modelMap.length + 1) modelMapping (.fresh start) request
        = some helper ∧
      followChannelModelMapping (modelMap.length + 1) modelMap start = some follow ∧
      (SameModel follow helper ↔
        ∀ last, follow = (last, false) → ∀ b, modelMap.redirect settings last = some b → b = last) := by
  obtain ⟨e, he⟩ := @chase_map_isSome modelMap start [start] _ fun a b => mem_of_target
  obtain ⟨e', he'⟩ :=
    @chase_map_isSome modelMap start [start] (modelMap.redirect settings) fun a b => mem_of_redirect
  have hwalk := @modelMappedHelper_walked settings modelMap modelMap.length request _ _ start hmap
  rw [he', map_some, map_eq_some_iff] at hwalk
  obtain ⟨helper, hhelper, hup⟩ := hwalk
  have hmore : ∀ a b, modelMap.target a = some b → modelMap.redirect settings a = some b :=
    fun a b h => by simp [ModelMap.redirect, h]
  have hiff := chase_iff_of_more hmore List.mem_cons_self he
  rw [he', some.injEq, ← walked_inj, ← hup] at hiff
  refine ⟨helper, _, hhelper, by rw [followChannelModelMapping, he]; rfl, ?_⟩
  cases e with
  | stopped last => simpa [SameModel, walked] using hiff
  | cycle => simpa [SameModel, walked] using hiff

/-- Every name is looked at, and there are no legacy aliases. -/
def plainSettings : SuffixSettings := ⟨fun _ => false, fun _ => none⟩

/-- An alias of a name with a modifier, whose base name has an entry of its own. -/
def modifiedMap : ModelMap := [("alias", "gpt-5@effort:high"), ("gpt-5", "gpt-5-mini")]

theorem task_alias_follows_relay_of_chain : ∃ helper follow,
    modelMappedHelper plainSettings (fun _ => some modifiedMap) 3 "text" (.fresh "gpt-5") none
      = some helper ∧
    followChannelModelMapping 3 modifiedMap "gpt-5" = some follow ∧ SameModel follow helper := by
  obtain ⟨helper, follow, hhelper, hfollow, hiff⟩ :=
    task_alias_follows_relay_iff plainSettings (fun _ => some modifiedMap) "text" modifiedMap rfl
      "gpt-5" none
  refine ⟨helper, follow, hhelper, hfollow, hiff.mpr ?_⟩
  intro last hlast b hb
  -- the walk stops at `gpt-5-mini`, which has no entry
  have hstop : followChannelModelMapping 3 modifiedMap "gpt-5" = some ("gpt-5-mini", false) := by
    decide
  obtain ⟨rfl, -⟩ := Prod.mk.inj (hlast.symm.trans (some.inj (hfollow.symm.trans hstop)))
  have hnone : modifiedMap.redirect plainSettings "gpt-5-mini" = none := by decide
  rw [hnone] at hb
  cases hb

/-- The relay serves `gpt-5-mini`, the alias is that of `gpt-5@effort:high`. -/
theorem task_alias_stops_before_relay :
    modelMappedHelper plainSettings (fun _ => some modifiedMap) 3 "text" (.fresh "alias") none
        = some (.ok (⟨"alias", "gpt-5-mini", true⟩, none)) ∧
      followChannelModelMapping 3 modifiedMap "alias" = some ("gpt-5@effort:high", false) := by
  decide

end NewApi.Relay
