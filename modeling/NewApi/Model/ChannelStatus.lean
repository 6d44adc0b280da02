import NewApi.Utils.Runs

/-!
# The states of the keys of a channel

`UpdateChannelStatus` of `model/channel.go` with the memory cache. The call changes the cached channel
first. Then it reads the stored one, and it leaves that one alone when the channel has the requested
status already, although the request may be about one key of several: the two copies part. The reasons
and times that are stored with a status are left out.
-/

namespace NewApi.Model
open Runs List

/-! ## Channels -/

def channelEnabled : Int := 1

def channelAutoDisabled : Int := 3

/-- A channel with the part of its `ChannelInfo` about several keys; a key without an entry in the
status list is enabled. -/
@[ext]
structure Channel where
  keys : List String
  isMultiKey : Bool
  status : Int
  multiKeyStatusList : Nat → Option Int

def keyEnabled (statusList : Nat → Option Int) (i : Nat) : Bool :=
  (statusList i).getD channelEnabled = channelEnabled

def hasEnabledMultiKey (keys : List String) (statusList : Nat → Option Int) : Bool :=
  (List.range keys.length).any (keyEnabled statusList)

def handlerMultiKeyUpdate (c : Channel) (usingKey : String) (status : Int) : Channel :=
  if c.keys = [] then { c with status }
  else
    match c.keys.findIdx? (· = usingKey) with
    | none => if usingKey ≠ "" then c else { c with status }
    | some i =>
      let entry := if status = channelEnabled then none else some status
      let c := { c with multiKeyStatusList := Function.update c.multiKeyStatusList i entry }
      if !hasEnabledMultiKey c.keys c.multiKeyStatusList then { c with status := channelAutoDisabled }
      else if status = channelEnabled then { c with status := channelEnabled }
      else c

/-- The part of `UpdateChannelStatus` from the read of the row on: the row that is written and whether
the abilities follow, or nothing. -/
def Channel.updateStatus (c : Channel) (usingKey : String) (status : Int) : Option (Channel × Bool) :=
  if c.status = status then none
  else if c.isMultiKey then
    let c' := handlerMultiKeyUpdate c usingKey status
    some (c', c.status ≠ c'.status)
  else some ({ c with status }, true)

structure ChannelStore where
  cached : Channel
  stored : Channel
  /-- the flags of the abilities of the channel -/
  abilities : List Bool
  /-- the calls that have returned true, the last one first -/
  accepted : List (String × Int)

def updateChannelStatus (s : ChannelStore) (usingKey : String) (status : Int) : ChannelStore :=
  if s.cached.isMultiKey = false ∧ s.cached.status = status then s
  else
    let cached :=
      if s.cached.isMultiKey then handlerMultiKeyUpdate s.cached usingKey status
      else { s.cached with status }
    match s.stored.updateStatus usingKey status with
    | none => { s with cached }
    | some (stored, follow) =>
      { cached
        stored
        abilities :=
          if follow then s.abilities.map fun _ => decide (status = channelEnabled) else s.abilities
        accepted := (usingKey, status) :: s.accepted }

def channelStep (s : ChannelStore) (call : String × Int) : Option ChannelStore :=
  some (updateChannelStatus s call.1 call.2)

/-! ## What is stated -/

/-- Every key of the channel is as the last accepted call about it wants it. -/
def KeysFollow (accepted : List (String × Int)) (c : Channel) : Prop :=
  ∀ call i, accepted.find? (·.1 = call.1) = some call → c.keys.findIdx? (· = call.1) = some i →
    (keyEnabled c.multiKeyStatusList i ↔ call.2 = channelEnabled)

/-- The stored channel is as the accepted calls want it, and the abilities follow it. -/
structure StoredFollows (s : ChannelStore) : Prop where
  keys : s.stored.isMultiKey → KeysFollow s.accepted s.stored
  single : s.stored.isMultiKey = false → ∀ call ∈ s.accepted.head?, s.stored.status = call.2
  abilities : ∀ flag ∈ s.abilities, flag = decide (s.stored.status = channelEnabled)

structure StatesAgree (s : ChannelStore) : Prop where
  status : s.cached.status = s.stored.status
  statusList : s.cached.multiKeyStatusList = s.stored.multiKeyStatusList
  cached : s.cached.isMultiKey → KeysFollow s.accepted s.cached
  stored : StoredFollows s

/-- A call for the status that a channel with several keys has already is about none of its keys, or
about one that has that status too; and if no key is enabled, the status is that of such channels. -/
def InPlace (s : ChannelStore) (call : String × Int) : Prop :=
  s.stored.isMultiKey → s.stored.status = call.2 → ∀ i, s.stored.keys.findIdx? (· = call.1) = some i →
    s.stored.multiKeyStatusList i = (if call.2 = channelEnabled then none else some call.2) ∧
      (call.2 = channelEnabled ∨ call.2 = channelAutoDisabled ∨
        hasEnabledMultiKey s.stored.keys s.stored.multiKeyStatusList)

/-! ## One call -/

variable {c : Channel} {key : String} {status : Int} {s s' : ChannelStore} {call : String × Int}
  {i : Nat}

/-- The status list after a call. -/
def handledList (c : Channel) (key : String) (status : Int) : Nat → Option Int :=
  match c.keys.findIdx? (· = key) with
  | none => c.multiKeyStatusList
  | some i =>
    Function.update c.multiKeyStatusList i (if status = channelEnabled then none else some status)

/-- The status after a call. -/
def handledStatus (c : Channel) (key : String) (status : Int) : Int :=
  match c.keys.findIdx? (· = key) with
  | none => if c.keys ≠ [] ∧ key ≠ "" then c.status else status
  | some _ =>
    if hasEnabledMultiKey c.keys (handledList c key status) = false then channelAutoDisabled
    else if status = channelEnabled then channelEnabled else c.status

lemma handler_eq (c : Channel) (key : String) (status : Int) : handlerMultiKeyUpdate c key status =
    { c with
      status := handledStatus c key status
      multiKeyStatusList := handledList c key status } := by
  unfold handlerMultiKeyUpdate handledStatus handledList
  by_cases hkeys : c.keys = []
  · simp [hkeys]
  cases c.keys.findIdx? (· = key) with
  | none => by_cases hkey : key = "" <;> simp [hkeys, hkey]
  | some i =>
    simp only [if_neg hkeys, Bool.not_eq_true']
    split_ifs
    all_goals rfl

/-- A key that has just been enabled is enabled. -/
lemma hasEnabled_handledList (hfind : c.keys.findIdx? (· = key) = some i) :
    hasEnabledMultiKey c.keys (handledList c key channelEnabled) = true := by
  obtain ⟨hlt, -⟩ := findIdx?_eq_some_iff_getElem.mp hfind
  refine any_eq_true.mpr ⟨i, mem_range.mpr hlt, ?_⟩
  simp [handledList, hfind, keyEnabled]

/-- A status that changes becomes enabled exactly when that was requested. -/
lemma handledStatus_iff (hne : c.status ≠ handledStatus c key status) :
    handledStatus c key status = channelEnabled ↔ status = channelEnabled := by
  unfold handledStatus at hne ⊢
  cases hfind : c.keys.findIdx? (· = key) with
  | none =>
    rw [hfind] at hne
    dsimp only at hne ⊢
    split_ifs at hne ⊢
    · exact absurd rfl hne
    · exact Iff.rfl
  | some i =>
    rw [hfind] at hne
    dsimp only at hne ⊢
    by_cases hstatus : status = channelEnabled
    · subst hstatus
      rw [hasEnabled_handledList hfind]
      simp
    rw [if_neg hstatus] at hne ⊢
    refine iff_of_false ?_ hstatus
    split_ifs at hne ⊢
    · decide
    · exact absurd rfl hne

/-! ## Runs -/

/-- What holds of the stored channel whatever is called. -/
structure ChannelInv (s : ChannelStore) : Prop where
  keys : s.cached.keys = s.stored.keys
  multi : s.cached.isMultiKey = s.stored.isMultiKey
  stored : StoredFollows s

/-- The two copies of the channel are equal. -/
def Same (s : ChannelStore) : Prop :=
  s.cached.status = s.stored.status ∧ s.cached.multiKeyStatusList = s.stored.multiKeyStatusList

lemma ChannelInv.eq_of_same (h : ChannelInv s) (hsame : Same s) : s.cached = s.stored :=
  Channel.ext h.keys h.multi hsame.1 hsame.2

lemma ChannelInv.agree_iff (h : ChannelInv s) : StatesAgree s ↔ Same s := by
  constructor
  · intro hagree
    exact ⟨hagree.status, hagree.statusList⟩
  · intro hsame
    refine ⟨hsame.1, hsame.2, ?_, h.stored⟩
    rw [h.eq_of_same hsame]
    exact h.stored.keys

/-- An accepted call moves its own key and no other one. -/
lemma KeysFollow.handled {accepted : List (String × Int)} (h : KeysFollow accepted c) :
    KeysFollow ((key, status) :: accepted) { c with
      status := handledStatus c key status
      multiKeyStatusList := handledList c key status } := by
  intro call i hlast hfind
  by_cases hkey : key = call.1
  · rw [find?_cons_of_pos (by simpa using hkey)] at hlast
    cases hlast
    unfold handledList
    rw [hfind]
    by_cases hstatus : status = channelEnabled <;> simp [keyEnabled, hstatus]
  rw [find?_cons_of_neg (by simpa using hkey)] at hlast
  have hold := h call i hlast hfind
  unfold handledList
  cases hother : c.keys.findIdx? (· = key) with
  | none => exact hold
  | some j =>
    have hne : i ≠ j := by
      rintro rfl
      obtain ⟨_, h₁, -⟩ := findIdx?_eq_some_iff_getElem.mp hfind
      obtain ⟨_, h₂, -⟩ := findIdx?_eq_some_iff_getElem.mp hother
      simp only [decide_eq_true_eq] at h₁ h₂
      exact hkey (h₂.symm.trans h₁)
    simpa [keyEnabled, Function.update_of_ne hne] using hold

/-- What a write of the row leaves of the invariant, whatever the cached channel becomes. -/
lemma ChannelInv.written {stored cached : Channel} {follow : Bool} (h : ChannelInv s)
    (hkeys : cached.keys = s.stored.keys) (hmulti : cached.isMultiKey = s.stored.isMultiKey)
    (hwrite : s.stored.updateStatus key status = some (stored, follow)) :
    ChannelInv
      { cached
        stored
        abilities :=
          if follow then s.abilities.map fun _ => decide (status = channelEnabled) else s.abilities
        accepted := (key, status) :: s.accepted } := by
  unfold Channel.updateStatus at hwrite
  by_cases hstatus : s.stored.status = status
  · rw [if_pos hstatus] at hwrite
    cases hwrite
  rw [if_neg hstatus] at hwrite
  by_cases hm : s.stored.isMultiKey = true
  · rw [if_pos hm, handler_eq] at hwrite
    cases hwrite
    refine ⟨hkeys, hmulti, fun _ => (h.stored.keys hm).handled, ?_, ?_⟩
    · intro hsingle
      exact absurd hm (by simp [show s.stored.isMultiKey = false from hsingle])
    · intro flag hflag
      split_ifs at hflag with hchanged
      · obtain ⟨_, -, rfl⟩ := mem_map.mp hflag
        exact decide_eq_decide.mpr (handledStatus_iff (of_decide_eq_true hchanged)).symm
      · rw [h.stored.abilities flag hflag, not_not.mp fun hne => hchanged (decide_eq_true hne)]
  · rw [if_neg hm] at hwrite
    cases hwrite
    refine ⟨hkeys, hmulti, fun hsome => absurd hsome hm, ?_, ?_⟩
    · rintro - call ⟨⟩
      rfl
    · intro flag hflag
      obtain ⟨_, -, rfl⟩ := mem_map.mp hflag
      rfl

lemma channelInv_step (h : ChannelInv s) (hstep : channelStep s call = some s') : ChannelInv s' := by
  cases hstep
  unfold updateChannelStatus
  split_ifs with hearly hmulti
  · exact h
  on_goal 1 => rw [handler_eq]
  all_goals
    cases hwrite : s.stored.updateStatus call.1 call.2 with
    | none => exact ⟨h.keys, h.multi, h.stored.keys, h.stored.single, h.stored.abilities⟩
    | some written => exact h.written h.keys h.multi hwrite

/-- A call that finds the requested status at the stored channel changes the cached one alone. -/
lemma handled_same_iff (hstatus : c.status = status) :
    handledStatus c key status = c.status ∧ handledList c key status = c.multiKeyStatusList ↔
      ∀ i, c.keys.findIdx? (· = key) = some i →
        c.multiKeyStatusList i = (if status = channelEnabled then none else some status) ∧
          (status = channelEnabled ∨ status = channelAutoDisabled ∨
            hasEnabledMultiKey c.keys c.multiKeyStatusList) := by
  subst hstatus
  unfold handledStatus
  cases hfind : c.keys.findIdx? (· = key) with
  | none => simp [handledList, hfind]
  | some i =>
    simp only [Option.some.injEq, forall_eq']
    have hlist : handledList c key c.status = c.multiKeyStatusList ↔ c.multiKeyStatusList i =
        (if c.status = channelEnabled then none else some c.status) := by
      unfold handledList
      rw [hfind]
      rw [Function.update_eq_self_iff]
      exact eq_comm
    rw [hlist, and_comm]
    refine and_congr_right fun hentry => ?_
    rw [hlist.mpr hentry]
    by_cases henabled : c.status = channelEnabled
    · have hsome := hasEnabled_handledList hfind
      rw [← henabled, hlist.mpr hentry] at hsome
      simp [hsome, henabled]
    cases hasEnabledMultiKey c.keys c.multiKeyStatusList with
    | true => simp [henabled]
    | false => simp [henabled, eq_comm]

lemma same_step (h : ChannelInv s) (hsame : Same s) (hstep : channelStep s call = some s') :
    Same s' ↔ InPlace s call := by
  have heq := h.eq_of_same hsame
  cases hstep
  unfold updateChannelStatus InPlace Channel.updateStatus
  rw [heq]
  by_cases hmulti : s.stored.isMultiKey = true
  · by_cases hstatus : s.stored.status = call.2
    · rw [if_neg (by simp [hmulti]), if_pos hstatus, if_pos hmulti, handler_eq]
      simp only [hmulti, hstatus, forall_const]
      exact handled_same_iff hstatus
    · rw [if_neg (by simp [hmulti]), if_neg hstatus, if_pos hmulti, if_pos hmulti]
      exact iff_of_true ⟨rfl, rfl⟩ fun _ hst => absurd hst hstatus
  refine iff_of_true ?_ fun hm => absurd hm hmulti
  by_cases hstatus : s.stored.status = call.2
  · rw [if_pos ⟨by simpa using hmulti, hstatus⟩]
    exact hsame
  · rw [if_neg fun hboth => hstatus hboth.2, if_neg hstatus, if_neg hmulti, if_neg hmulti]
    exact ⟨rfl, rfl⟩

/-- **The states of channels and keys.** From equal copies of a channel, the cached and the stored
states agree after every call, keys are as the last accepted calls want them and the abilities follow
the channel, exactly when no call finds the stored channel in the requested status while its key is
in another one. -/
theorem channel_states_agree_iff (s : ChannelStore) (hcopies : s.cached = s.stored)
    (habilities : ∀ flag ∈ s.abilities, flag = decide (s.stored.status = channelEnabled))
    (hfresh : s.accepted = []) (calls : List (String × Int)) (t : ChannelStore)
    (hrun : run channelStep s calls = some t) :
    (∀ ks, ks <+: calls → ∀ u, run channelStep s ks = some u → StatesAgree u) ↔
      Along channelStep InPlace s calls := by
  have hinit : ChannelInv s :=
    ⟨by rw [hcopies], by rw [hcopies], by simp [KeysFollow, hfresh], by simp [hfresh], habilities⟩
  have hsame : Same s := ⟨by rw [hcopies], by rw [hcopies]⟩
  have hsafe : (∀ ks, ks <+: calls → ∀ u, run channelStep s ks = some u → Same u) ↔
      Same s ∧ Along channelStep InPlace s calls :=
    safe_iff ChannelInv Same (fun _ _ _ => channelInv_step)
      (fun _ _ _ => same_step) hinit hrun
  rw [and_iff_right hsame] at hsafe
  rw [← hsafe]
  refine forall_congr' fun ks => forall_congr' fun _ => forall_congr' fun u =>
    forall_congr' fun hu => ?_
  exact (run_invariant' ChannelInv (fun _ _ _ => channelInv_step) hinit hu).agree_iff

/-- An enabled channel with two enabled keys, in the cache and in the database. -/
def twoKeys : ChannelStore :=
  let c : Channel := ⟨["a", "b"], true, channelEnabled, fun _ => none⟩
  ⟨c, c, [true], []⟩

theorem channel_states_agree_disable :
    Along channelStep InPlace twoKeys [("a", 2), ("b", 2)] ∧
      StatesAgree (updateChannelStatus (updateChannelStatus twoKeys "a" 2) "b" 2) := by
  have hplace : Along channelStep InPlace twoKeys [("a", 2), ("b", 2)] :=
    ⟨fun _ hst => absurd hst (by decide), fun _ hst => absurd hst (by decide), trivial⟩
  refine ⟨hplace, ?_⟩
  exact (channel_states_agree_iff twoKeys rfl (by simp [twoKeys]) rfl _ _ rfl).mpr hplace _
    prefix_rfl _ rfl

/-- Key `a` is disabled and enabled again: the channel was enabled all the time, and the stored list
keeps the key disabled. -/
theorem enabled_key_stays_disabled :
    keyEnabled (updateChannelStatus (updateChannelStatus twoKeys "a" 2) "a" 1).cached.multiKeyStatusList
        0 = true ∧
      keyEnabled
        (updateChannelStatus (updateChannelStatus twoKeys "a" 2) "a" 1).stored.multiKeyStatusList
        0 = false := by
  decide +kernel

end NewApi.Model
