import NewApi.Model.UserAuthCache
import NewApi.Utils.Pool

/-!
# Authentication versions do not go backwards

Nothing in Redis is ahead of the row: the hash and the floor hold versions that were read from it.
The floor only grows, and a publication that succeeds has raised it to what was committed. The one
thing that can be ahead of the row is a fence, and that one belongs to a transaction and lives no
longer than its TTL.
-/

namespace NewApi.Model.UserAuth

open Runs Option List Nat AuthKeys Expiring AuthCall

/-! ## What a write does to the keys -/

/-- A write of the cache that comes with the version `incoming`. -/
structure Written (incoming : Nat) (keys keys' : AuthKeys) : Prop where
  floor_le : keys.committedVersion ≤ keys'.committedVersion
  floor : keys'.committedVersion = keys.committedVersion ∨ keys'.committedVersion = incoming
  hash : ∀ e' ∈ keys'.hash, e'.value.authVersion = incoming ∨
    ∃ e ∈ keys.hash, e.value.authVersion = e'.value.authVersion
  fence : keys'.fence = none ∨ keys'.fence = keys.fence

section
variable {keys keys' : AuthKeys} {now ttl : Int} {incoming : Nat} {user : UserBase}
  {includeQuota : Bool} {field : UserField} {value : String}

lemma Written.refl (incoming : Nat) (keys : AuthKeys) : Written incoming keys keys where
  floor_le := le_refl _
  floor := .inl rfl
  hash := fun e' he' => .inr ⟨e', he', rfl⟩
  fence := .inr rfl

/-- The hash is written over, and everything else is left. -/
lemma Written.set_hash (h : Written incoming keys keys') {e' : Expiring UserHash}
    (he' : e'.value.authVersion = incoming) :
    Written incoming keys { keys' with hash := some e' } :=
  { h with
    hash := by
      intro e he
      cases he
      exact .inl he' }

lemma promote_committedVersion :
    (keys.promote now incoming).committedVersion = max keys.committedVersion incoming := by
  by_cases hlt : keys.committedVersion < incoming
  · rw [committedVersion, promote, if_pos hlt, getD_some]
    omega
  have hsame : (keys.promote now incoming).committedVersion = keys.committedVersion := by
    rw [committedVersion, promote, if_neg hlt]
    rfl
  rw [hsame]
  omega

lemma promote_written : Written incoming keys (keys.promote now incoming) where
  floor_le := by
    rw [promote_committedVersion]
    omega
  floor := by
    rw [promote_committedVersion]
    omega
  hash := fun e' he' => .inr ⟨e', he', rfl⟩
  fence := by
    rw [promote]
    split
    · exact .inl rfl
    · exact .inr rfl

lemma writeScript_written :
    Written user.authVersion keys (keys.writeScript now ttl user includeQuota).1 := by
  unfold writeScript
  dsimp only
  split
  · split
    · exact promote_written
    · exact promote_written.set_hash rfl
  · exact .refl _ _

lemma writeScript_snd :
    (keys.writeScript now ttl user includeQuota).2 = keys.admits now user.authVersion := by
  unfold writeScript
  dsimp only
  split
  · next hadmits => split <;> exact hadmits.symm
  · next hrefused => exact (Bool.eq_false_iff.mpr hrefused).symm

/-- A write that is let through has raised the floor to its version. -/
lemma writeScript_floor (hadmits : keys.admits now user.authVersion) :
    user.authVersion ≤ (keys.writeScript now ttl user includeQuota).1.committedVersion := by
  have hfloor : user.authVersion ≤ (keys.promote now user.authVersion).committedVersion := by
    rw [promote_committedVersion]
    omega
  rw [writeScript, if_pos hadmits]
  dsimp only
  split <;> exact hfloor

lemma setField_authVersion (hash : UserHash) :
    (hash.setField value field).authVersion = hash.authVersion := by
  cases field <;> rfl

lemma fieldScript_written :
    Written incoming keys (keys.fieldScript now field value incoming).1 := by
  unfold fieldScript
  dsimp only
  split
  · split
    · next e hash hkey hfound =>
      split
      · next hcurrent =>
        refine promote_written.set_hash ?_
        -- the hash is refreshed only at the version it has
        have hversion : keys.currentVersion now = hash.authVersion := by
          rw [currentVersion, show get? now keys.hash = some hash from hfound]
          rfl
        rw [← hcurrent, hversion]
        exact setField_authVersion hash
      · exact promote_written
    · exact promote_written
  · exact .refl _ _

end

section
variable {env : AuthEnv} {now : Int} {reply : Reply} {keys keys' : AuthKeys} {user : UserBase}
  {includeQuota : Bool} {outcome : CacheOutcome} {incoming : Nat} {id : Int}

/-- Whatever the reply, the keys are the old ones or those the script leaves. -/
lemma eval_written {script : AuthKeys × Bool} (h : Written incoming keys script.1) :
    Written incoming keys (eval reply keys script).1 := by
  cases reply with
  | answered | lost => exact h
  | failed => exact .refl _ _

lemma writeUserCache_written
    (h : writeUserCache env now reply keys user includeQuota = (keys', outcome)) :
    Written user.authVersion keys keys' := by
  rw [writeUserCache] at h
  split at h
  · cases h
    exact .refl _ _
  split at h
  · cases h
    exact .refl _ _
  · obtain rfl : _ = keys' := congrArg Prod.fst h
    exact eval_written writeScript_written

lemma writeUserCache_floor (hredis : env.redisEnabled) (hid : 0 < user.id)
    (h : writeUserCache env now reply keys user includeQuota = (keys', .ok)) :
    user.authVersion ≤ keys'.committedVersion := by
  rw [writeUserCache, if_neg (by simp [hredis]; omega)] at h
  split at h
  · cases h
  cases reply with
  | answered =>
    rw [eval, writeScript_snd] at h
    obtain rfl : _ = keys' := congrArg Prod.fst h
    apply writeScript_floor
    by_contra hrefused
    rw [if_neg hrefused] at h
    cases h
  | failed | lost => cases h

lemma updateField_written {field : UserField} {value : String}
    (h : updateUserCacheFieldAtVersion env now reply keys id field value incoming =
      (keys', outcome)) : Written incoming keys keys' := by
  rw [updateUserCacheFieldAtVersion] at h
  split at h
  · cases h
    exact .refl _ _
  split at h
  · cases h
    exact .refl _ _
  · obtain rfl : _ = keys' := congrArg Prod.fst h
    exact eval_written fieldScript_written

lemma publishCommitted_written
    (h : publishCommittedUserAuthVersion env now reply keys id incoming = (keys', outcome)) :
    Written incoming keys keys' := by
  rw [publishCommittedUserAuthVersion] at h
  split at h
  · cases h
    exact .refl _ _
  split at h
  · cases h
    exact .refl _ _
  · obtain rfl : _ = keys' := congrArg Prod.fst h
    exact eval_written promote_written

/-- Refused at a version: the fence, the floor or the hash is above it. -/
lemma writeUserCache_pending
    (h : writeUserCache env now reply keys user includeQuota = (keys', .pending)) :
    user.authVersion < keys.pendingVersion now ∨ user.authVersion < keys.committedVersion ∨
      user.authVersion < keys.currentVersion now := by
  rw [writeUserCache] at h
  split at h
  · cases h
  split at h
  · cases h
  cases reply with
  | answered =>
    rw [eval, writeScript_snd] at h
    by_contra hnone
    have hadmits : keys.admits now user.authVersion = true := by
      rw [admits, decide_eq_true_eq]
      omega
    rw [if_pos hadmits] at h
    cases h
  | failed | lost => cases h

end

/-! ## Publishing a fence -/

/-- The key that a transaction sets when it publishes `p`. -/
def PublishedFence.key (env : AuthEnv) (p : PublishedFence) : Expiring Nat where
  value := p.version
  expireAt := some (p.publishedAt + 1000 * userAuthFenceTTLSeconds env)

section
variable {env : AuthEnv} {now ttl : Int} {reply : Reply} {keys keys' : AuthKeys}
  {outcome : CacheOutcome} {incoming : Nat} {id : Int}

/-- A fence with a TTL is kept when it is higher, and set anew otherwise. -/
lemma fenceScript_fence (hpos : 0 < incoming) (httl : ∀ f ∈ keys.fence, f.expireAt.isSome) :
    (keys.fenceScript now ttl incoming).fence = keys.fence ∨
      (keys.fenceScript now ttl incoming).fence =
        some { value := incoming, expireAt := some (now + 1000 * ttl) } := by
  unfold fenceScript
  dsimp only
  split
  · exact .inr rfl
  split
  · next hsame =>
    -- a fence at a positive version is one that is found
    right
    rw [pendingVersion] at hsame
    rcases hfound : get? now keys.fence with - | found
    · rw [hfound, getD_none] at hsame
      omega
    · rw [hfound, getD_some] at hsame
      simp only [expire, hfound, map_some, hsame]
  · split
    · next hforever =>
      obtain ⟨f, hf, hnone⟩ := any_eq_true _ _ |>.mp hforever
      have hsome := httl f hf
      rw [isNone_iff_eq_none] at hnone
      rw [hnone] at hsome
      cases hsome
    · exact .inl rfl

lemma setFence_frame
    (h : setUserAuthVersionFence env now reply keys id incoming = (keys', outcome)) :
    keys'.hash = keys.hash ∧ keys'.committed = keys.committed := by
  rw [setUserAuthVersionFence] at h
  split at h
  · cases h
    exact ⟨rfl, rfl⟩
  split at h
  · cases h
    exact ⟨rfl, rfl⟩
  cases reply with
  | answered | lost =>
    cases h
    unfold fenceScript
    dsimp only
    split
    · exact ⟨rfl, rfl⟩
    split
    · exact ⟨rfl, rfl⟩
    · split <;> exact ⟨rfl, rfl⟩
  | failed =>
    cases h
    exact ⟨rfl, rfl⟩

lemma setFence_fence (hpos : 0 < incoming) (httl : ∀ f ∈ keys.fence, f.expireAt.isSome)
    (h : setUserAuthVersionFence env now reply keys id incoming = (keys', outcome)) :
    keys'.fence = keys.fence ∨ (env.redisEnabled ∧ reply ≠ .failed) ∧
      keys'.fence = some (PublishedFence.key env { version := incoming, publishedAt := now }) := by
  rw [setUserAuthVersionFence] at h
  split at h
  · cases h
    exact .inl rfl
  rename_i hredis
  rw [Decidable.not_not] at hredis
  split at h
  · cases h
    exact .inl rfl
  cases reply with
  | failed =>
    cases h
    exact .inl rfl
  | _ =>
    cases h
    refine (fenceScript_fence hpos httl).imp_right fun hset => ?_
    exact ⟨⟨hredis, nofun⟩, hset⟩

end

/-! ## What holds of the store and of each call -/

/-- The hash and the floor are not ahead of `version`. -/
structure Behind (version : Nat) (keys : AuthKeys) : Prop where
  floor : keys.committedVersion ≤ version
  hash : ∀ e ∈ keys.hash, e.value.authVersion ≤ version

variable {version : Nat} {keys : AuthKeys} {env : AuthEnv}

lemma Behind.written {incoming : Nat} {keys' : AuthKeys} (h : Behind version keys)
    (hw : Written incoming keys keys') (hle : incoming ≤ version) : Behind version keys' where
  floor := by
    have hfloor := h.floor
    rcases hw.floor with hsame | hnew <;> omega
  hash := by
    intro e' he'
    rcases hw.hash e' he' with hnew | ⟨e, he, hsame⟩
    · omega
    · have hold := h.hash e he
      omega

/-! The version a call has read and may still write. -/

def GetPc.carried : GetPc → Option Nat
  | .dbFloor user => some user.authVersion
  | .populate user => some user.authVersion
  | _ => none

def PublishPc.carried : PublishPc → Option Nat
  | .write user => some user.authVersion
  | _ => none

def FieldPc.carried : FieldPc → Option Nat
  | .write authVersion => some authVersion
  | _ => none

def GroupPc.carried : GroupPc → Option Nat
  | .write _ authoritative => some authoritative.authVersion
  | .verify _ authoritative => some authoritative.authVersion
  | _ => none

def TxPc.carried : TxPc → Option Nat
  | .updateCache user => some user.authVersion
  | .publishCommitted next => some next
  | _ => none

def AuthCall.carried : AuthCall → Option Nat
  | .get pc => pc.carried
  | .publish _ pc => pc.carried
  | .field _ _ pc => pc.carried
  | .group pc => pc.carried
  | .increment _ _ pc => pc.carried

/-- What a transaction has written and not yet committed. -/
def AuthCall.uncommitted : AuthCall → Option Nat
  | .increment _ _ (.decide next) => some next
  | _ => none

def AuthCall.published : AuthCall → List PublishedFence
  | .increment _ fences _ => fences
  | _ => []

/-- A publication does not lose the version that was committed when it started. -/
def PublishSafe (env : AuthEnv) (keys : AuthKeys) (version : Nat) : PublishPc → Prop
  | .dbRead => True
  | .write user => version ≤ user.authVersion
  | .returned ok => ok = true → env.redisEnabled → version ≤ keys.committedVersion

lemma PublishSafe.mono {keys' : AuthKeys} {pc : PublishPc}
    (h : PublishSafe env keys version pc)
    (hle : keys.committedVersion ≤ keys'.committedVersion) : PublishSafe env keys' version pc := by
  cases pc with
  | dbRead => trivial
  | write user => exact h
  | returned ok => exact fun hok hredis => le_trans (h hok hredis) hle

def CallPublishes (env : AuthEnv) (store : AuthStore) : AuthCall → Prop
  | .publish version pc => version ≤ store.row.authVersion ∧ PublishSafe env store.keys version pc
  | _ => True

structure CallInv (env : AuthEnv) (store : AuthStore) (i : Nat) (call : AuthCall) : Prop where
  carried : ∀ version ∈ call.carried, version ≤ store.row.authVersion
  publish : CallPublishes env store call
  /-- what is not yet committed is above the row, and nobody else holds it -/
  uncommitted : ∀ next ∈ call.uncommitted, store.holder = some i ∧ store.row.authVersion < next

lemma CallPublishes.mono {store store' : AuthStore} {call : AuthCall}
    (h : CallPublishes env store call) (hrow : store.row.authVersion ≤ store'.row.authVersion)
    (hle : store.keys.committedVersion ≤ store'.keys.committedVersion) :
    CallPublishes env store' call := by
  cases call with
  | publish version pc => exact ⟨le_trans h.1 hrow, h.2.mono hle⟩
  | _ => trivial

/-- A step of call `i`, which has published `published` by then. -/
structure Moved (env : AuthEnv) (i : Nat) (store store' : AuthStore)
    (published : List PublishedFence) : Prop where
  row_le : store.row.authVersion ≤ store'.row.authVersion
  floor_le : store.keys.committedVersion ≤ store'.keys.committedVersion
  held : ∀ j ≠ i, store.holder = some j →
    store'.holder = some j ∧ store'.row.authVersion = store.row.authVersion
  behind : Behind store'.row.authVersion store'.keys
  fence : ∀ f ∈ store'.keys.fence, f ∈ store.keys.fence ∨ ∃ p ∈ published, f = p.key env

/-- What holds of a call holds after a step of another one. -/
lemma CallInv.moved {i j : Nat} {store store' : AuthStore} {call : AuthCall}
    {published : List PublishedFence} (h : CallInv env store j call)
    (hm : Moved env i store store' published) (hij : j ≠ i) : CallInv env store' j call where
  carried := fun version hv => le_trans (h.carried version hv) hm.row_le
  publish := h.publish.mono hm.row_le hm.floor_le
  uncommitted := by
    intro next hnext
    obtain ⟨hheld, hlt⟩ := h.uncommitted next hnext
    obtain ⟨hheld', hrow⟩ := hm.held j hij hheld
    exact ⟨hheld', by omega⟩

/-! ## Readers, publications and refreshes -/

variable {pc : GetPc} {l : AuthLabel}

section
variable {env : AuthEnv} {now : Int} {reply : Reply} {row : User} {keys keys' : AuthKeys}

lemma getUserById_eq_some {user : User} (h : getUserById reply row = some user) : user = row := by
  rw [getUserById] at h
  split at h
  · cases h
  · exact (Option.some.inj h).symm

/-- The version that has just been read is the row's. -/
lemma carried_row : ∀ version ∈ some row.authVersion, version ≤ row.authVersion := by
  intro version hv
  cases hv
  exact le_refl _

/-- A cache write at a version that the row has had. -/
def WrittenBehind (row : User) (keys keys' : AuthKeys) : Prop :=
  ∃ incoming ≤ row.authVersion, Written incoming keys keys'

lemma WrittenBehind.refl : WrittenBehind row keys keys :=
  ⟨row.authVersion, le_refl _, .refl _ _⟩

lemma getStep_written {pc' : GetPc} (h : getStep env now reply row keys pc = some (keys', pc'))
    (hc : ∀ version ∈ pc.carried, version ≤ row.authVersion) :
    WrittenBehind row keys keys' ∧ ∀ version ∈ pc'.carried, version ≤ row.authVersion := by
  cases pc with
  | hashRead =>
    simp only [getStep] at h
    split at h <;> cases h <;> exact ⟨.refl, nofun⟩
  | hashFloor userCache =>
    simp only [getStep] at h
    split at h
    · cases h
      exact ⟨.refl, nofun⟩
    · split at h <;> cases h <;> exact ⟨.refl, nofun⟩
  | dbRead =>
    simp only [getStep] at h
    split at h
    · cases h
      exact ⟨.refl, nofun⟩
    rename_i user huser
    obtain rfl := getUserById_eq_some huser
    split at h <;> cases h
    · exact ⟨.refl, carried_row⟩
    · exact ⟨.refl, nofun⟩
  | dbFloor user =>
    simp only [getStep] at h
    split at h <;> cases h
    · exact ⟨.refl, nofun⟩
    · exact ⟨.refl, hc⟩
  | populate user =>
    have hle : user.authVersion ≤ row.authVersion := hc _ rfl
    simp only [getStep] at h
    split at h <;> cases h
    · next hw => exact ⟨⟨_, hle, writeUserCache_written hw⟩, nofun⟩
    · next hw => exact ⟨⟨_, hle, writeUserCache_written hw⟩, nofun⟩
  | _ => cases h

lemma publishStep_written {version : Nat} {pc pc' : PublishPc}
    (h : publishStep env now reply row keys pc = some (keys', pc'))
    (hc : ∀ version ∈ pc.carried, version ≤ row.authVersion) (hversion : version ≤ row.authVersion)
    (hsafe : PublishSafe env keys version pc) :
    WrittenBehind row keys keys' ∧ (∀ version ∈ pc'.carried, version ≤ row.authVersion) ∧
      PublishSafe env keys' version pc' := by
  cases pc with
  | dbRead =>
    simp only [publishStep] at h
    split at h
    · cases h
      exact ⟨.refl, nofun, nofun⟩
    rename_i user huser
    obtain rfl := getUserById_eq_some huser
    cases h
    exact ⟨.refl, carried_row, hversion⟩
  | write user =>
    have hle : user.authVersion ≤ row.authVersion := hc _ rfl
    rcases hw : writeUserCache env now reply keys user.toBaseUser false with ⟨keys₁, outcome⟩
    simp only [publishStep, hw] at h
    cases h
    refine ⟨⟨_, hle, writeUserCache_written hw⟩, nofun, ?_⟩
    intro hok hredis
    obtain rfl : outcome = .ok := by simpa using hok
    have hfloor : user.authVersion ≤ keys'.committedVersion :=
      writeUserCache_floor hredis user.id_pos hw
    have hread : version ≤ user.authVersion := hsafe
    omega
  | returned ok => cases h

lemma fieldStep_written {field : UserField} {value : String} {pc pc' : FieldPc}
    (h : fieldStep env now reply row keys field value pc = some (keys', pc'))
    (hc : ∀ version ∈ pc.carried, version ≤ row.authVersion) :
    WrittenBehind row keys keys' ∧ ∀ version ∈ pc'.carried, version ≤ row.authVersion := by
  cases pc with
  | dbRead =>
    simp only [fieldStep] at h
    split at h
    · cases h
      exact ⟨.refl, nofun⟩
    split at h
    · cases h
      exact ⟨.refl, nofun⟩
    rename_i user huser
    obtain rfl := getUserById_eq_some huser
    split at h <;> cases h
    · exact ⟨.refl, nofun⟩
    · exact ⟨.refl, carried_row⟩
  | write authVersion =>
    cases h
    exact ⟨⟨authVersion, hc _ rfl, updateField_written rfl⟩, nofun⟩
  | returned => cases h

lemma groupStep_written {pc pc' : GroupPc}
    (h : groupStep env now reply row keys pc = some (keys', pc'))
    (hc : ∀ version ∈ pc.carried, version ≤ row.authVersion) :
    WrittenBehind row keys keys' ∧ ∀ version ∈ pc'.carried, version ≤ row.authVersion := by
  cases pc with
  | dbRead =>
    simp only [groupStep] at h
    split at h
    · cases h
      exact ⟨.refl, nofun⟩
    split at h
    · cases h
      exact ⟨.refl, nofun⟩
    rename_i user huser
    obtain rfl := getUserById_eq_some huser
    cases h
    exact ⟨.refl, carried_row⟩
  | write left authoritative =>
    have hle : authoritative.authVersion ≤ row.authVersion := hc _ rfl
    rcases hw : updateUserCacheFieldAtVersion env now reply keys row.id .group authoritative.group
      authoritative.authVersion with ⟨keys₁, outcome⟩
    have hwritten : WrittenBehind row keys keys₁ := ⟨_, hle, updateField_written hw⟩
    simp only [groupStep, hw] at h
    split at h
    · next heq =>
      cases heq
      cases h
      exact ⟨hwritten, hc⟩
    rename_i heq _
    cases heq
    cases h
    exact ⟨hwritten, nofun⟩
  | verify left authoritative =>
    simp only [groupStep] at h
    split at h
    · cases h
      exact ⟨.refl, nofun⟩
    rename_i user huser
    obtain rfl := getUserById_eq_some huser
    split at h <;> cases h
    · exact ⟨.refl, nofun⟩
    · exact ⟨.refl, carried_row⟩
  | returned => cases h

end

/-! ## Transactions -/

section
variable {env : AuthEnv} {now : Int} {reply : Reply} {i : Nat} {store store' : AuthStore}
  {keys' : AuthKeys} {fences fences' : List PublishedFence} {holder : Option Nat} {kind : TxKind}

section
variable (hb : Behind store.row.authVersion store.keys)
include hb

lemma Moved.of_written
    (h : WrittenBehind store.row store.keys keys') :
    Moved env i store { store with keys := keys' } fences := by
  obtain ⟨incoming, hle, hw⟩ := h
  refine ⟨le_refl _, hw.floor_le, fun j _ hj => ⟨hj, rfl⟩, hb.written hw hle, ?_⟩
  intro f hf
  left
  rcases hw.fence with hnone | hsame
  · rw [mem_def, hnone] at hf
    cases hf
  · rwa [← hsame]

/-- The transaction ends, or takes the row: the keys and the committed version stay. -/
lemma Moved.of_holder
    (hheld : ∀ j ≠ i, store.holder = some j → holder = some j) :
    Moved env i store { store with holder := holder } fences where
  row_le := le_refl _
  floor_le := le_refl _
  held := fun j hij hj => ⟨hheld j hij hj, rfl⟩
  behind := hb
  fence := fun _ => .inl

lemma Moved.refl : Moved env i store store fences :=
  .of_holder hb fun _ _ hj => hj

end

/-- The lock of another transaction survives the end of this one. -/
lemma release_held : ∀ j ≠ i, store.holder = some j → (store.release i).holder = some j := by
  intro j hij hj
  rw [AuthStore.release, hj, if_neg]
  exact fun h => hij (Option.some.inj h)

lemma Moved.of_release (hb : Behind store.row.authVersion store.keys) :
    Moved env i store (store.release i) fences :=
  .of_holder hb release_held

/-- A transaction that may take the row finds no lock of another one. -/
lemma free_held (hfree : store.free i) : ∀ j ≠ i, store.holder = some j → holder = some j := by
  intro j hij hj
  rcases hfree with hnone | hown
  · rw [hnone] at hj
    cases hj
  · rw [hown] at hj
    exact absurd (Option.some.inj hj).symm hij

/-- A fence is published; whether the transaction goes on or ends does not matter. -/
lemma Moved.of_fence {incoming : Nat} {outcome : CacheOutcome}
    (hb : Behind store.row.authVersion store.keys)
    (httl : ∀ f ∈ store.keys.fence, f.expireAt.isSome) (hpos : 0 < incoming)
    (h : setUserAuthVersionFence env now reply store.keys store.row.id incoming = (keys', outcome))
    (hpublished : env.redisEnabled → reply ≠ .failed →
      { version := incoming, publishedAt := now } ∈ fences)
    (hheld : ∀ j ≠ i, store.holder = some j → holder = some j) :
    Moved env i store { store with holder := holder, keys := keys' } fences := by
  obtain ⟨hhash, hcommitted⟩ := setFence_frame h
  have hfloor : keys'.committedVersion = store.keys.committedVersion := by
    rw [committedVersion, hcommitted]
    rfl
  refine ⟨le_refl _, le_of_eq hfloor.symm, fun j hij hj => ⟨hheld j hij hj, rfl⟩, ?_, ?_⟩
  · constructor
    · show keys'.committedVersion ≤ store.row.authVersion
      rw [hfloor]
      exact hb.floor
    · show ∀ e ∈ keys'.hash, e.value.authVersion ≤ store.row.authVersion
      rw [hhash]
      exact hb.hash
  · intro f hf
    rcases setFence_fence hpos httl h with hsame | ⟨⟨hredis, hreply⟩, hset⟩
    · left
      rwa [← hsame]
    · right
      exact ⟨_, hpublished hredis hreply, Option.some.inj (hf.symm.trans hset)⟩

/-- The commit of the transaction that holds the row. -/
lemma Moved.of_commit {next : Nat} (hb : Behind store.row.authVersion store.keys)
    (hheld : store.holder = some i) (hlt : store.row.authVersion < next) :
    Moved env i store ({ store with row := store.row.afterCommit next kind }.release i) fences := by
  have hrow : (store.row.afterCommit next kind).authVersion = next := by
    cases kind <;> rfl
  refine ⟨?_, le_refl _, ?_, ?_, fun f => .inl⟩
  · show store.row.authVersion ≤ (store.row.afterCommit next kind).authVersion
    omega
  · intro j hij hj
    rw [hheld] at hj
    exact absurd (Option.some.inj hj).symm hij
  · show Behind (store.row.afterCommit next kind).authVersion store.keys
    rw [hrow]
    exact ⟨hb.floor.trans hlt.le, fun e he => (hb.hash e he).trans hlt.le⟩

/-- A transaction that carries no version and has nothing to commit. -/
lemma CallInv.idle {pc : TxPc} (hcarried : pc.carried = none)
    (huncommitted : (AuthCall.increment kind fences pc).uncommitted = none) :
    CallInv env store i (.increment kind fences pc) where
  carried := by
    rw [AuthCall.carried, hcarried]
    exact nofun
  publish := trivial
  uncommitted := by
    rw [huncommitted]
    exact nofun

lemma txStep_moved {pc pc' : TxPc}
    (h : txStep env now reply i store kind fences pc = some (store', fences', pc'))
    (hb : Behind store.row.authVersion store.keys)
    (httl : ∀ f ∈ store.keys.fence, f.expireAt.isSome)
    (hc : CallInv env store i (.increment kind fences pc)) :
    Moved env i store store' fences' ∧ CallInv env store' i (.increment kind fences' pc') ∧
      fences ⊆ fences' := by
  cases pc with
  | select left =>
    cases left with
    | zero =>
      cases h
      exact ⟨.of_release hb, .idle rfl rfl, fun _ hp => hp⟩
    | succ left =>
      simp only [txStep] at h
      split at h
      · cases h
      rename_i hfree
      split at h
      · cases h
        exact ⟨.of_release hb, .idle rfl rfl, fun _ hp => hp⟩
      cases h
      refine ⟨.of_holder hb ?_, .idle rfl rfl, fun _ hp => hp⟩
      intro j hij hj
      by_cases hlocks : env.rowLocks
      · rw [if_pos hlocks]
        have hfree' : store.free i := by
          by_contra hnot
          exact hfree ⟨hlocks, hnot⟩
        exact free_held hfree' j hij hj
      · rwa [if_neg hlocks]
  | fence left authVersion =>
    simp only [txStep] at h
    have hpos : 0 < nextVersion authVersion := by
      rw [nextVersion]
      omega
    rcases hw : setUserAuthVersionFence env now reply store.keys store.row.id
      (nextVersion authVersion) with ⟨keys₁, outcome⟩
    rw [hw] at h
    generalize hfences : (if env.redisEnabled ∧ reply ≠ .failed
      then fences ++ [{ version := nextVersion authVersion, publishedAt := now }]
      else fences) = fences₁ at h
    have hpublished : env.redisEnabled → reply ≠ .failed →
        { version := nextVersion authVersion, publishedAt := now } ∈ fences₁ := by
      intro hredis hreply
      rw [← hfences, if_pos ⟨hredis, hreply⟩]
      simp
    have hsub : fences ⊆ fences₁ := by
      rw [← hfences]
      split
      · exact subset_append_left _ _
      · exact List.Subset.refl _
    -- the transaction goes on after a fence that was answered, and rolls back otherwise
    cases outcome with
    | ok =>
      cases h
      exact ⟨.of_fence hb httl hpos hw hpublished fun _ _ hj => hj, .idle rfl rfl, hsub⟩
    | _ =>
      cases h
      exact ⟨.of_fence hb httl hpos hw hpublished release_held, .idle rfl rfl, hsub⟩
  | update left authVersion =>
    simp only [txStep] at h
    split at h
    · cases h
    rename_i hfree
    rw [Decidable.not_not] at hfree
    split at h
    · cases h
      exact ⟨.of_release hb, .idle rfl rfl, fun _ hp => hp⟩
    split at h
    · next hsame =>
      cases h
      refine ⟨.of_holder hb (free_held hfree), ⟨nofun, trivial, ?_⟩, fun _ hp => hp⟩
      intro next hnext
      cases hnext
      refine ⟨rfl, ?_⟩
      show store.row.authVersion < nextVersion authVersion
      rw [nextVersion, hsame]
      omega
    · cases h
      exact ⟨.refl hb, .idle rfl rfl, fun _ hp => hp⟩
  | decide next =>
    obtain ⟨hheld, hlt⟩ := hc.uncommitted next rfl
    have hrow : (store.row.afterCommit next kind).authVersion = next := by
      cases kind <;> rfl
    cases reply with
    | answered =>
      cases h
      refine ⟨.of_commit hb hheld hlt, ⟨?_, trivial, ?_⟩, fun _ hp => hp⟩
      · show ∀ version ∈ (afterCommitPc (store.row.afterCommit next kind) next kind).carried,
          version ≤ (store.row.afterCommit next kind).authVersion
        cases kind with
        | bump => exact nofun
        | edit columns => exact carried_row
        | delete =>
          intro version hv
          exact le_of_eq (Option.some.inj hv).symm
      · intro next' hnext
        cases kind <;> cases hnext
    | failed =>
      cases h
      exact ⟨.of_release hb, .idle rfl rfl, fun _ hp => hp⟩
    | lost =>
      cases h
      exact ⟨.of_commit hb hheld hlt, .idle rfl rfl, fun _ hp => hp⟩
  | rolledBack | committed => cases h
  | updateCache user =>
    have hle : user.authVersion ≤ store.row.authVersion := hc.carried _ rfl
    rcases hw : writeUserCache env now reply store.keys user.toBaseUser false with ⟨keys₁, outcome⟩
    simp only [txStep, hw] at h
    cases h
    exact ⟨.of_written hb ⟨_, hle, writeUserCache_written hw⟩, .idle rfl rfl,
      fun _ hp => hp⟩
  | publishCommitted next =>
    have hle : next ≤ store.row.authVersion := hc.carried _ rfl
    simp only [txStep] at h
    split at h
    · next hw =>
      cases h
      exact ⟨.of_written hb ⟨_, hle, publishCommitted_written hw⟩, .idle rfl rfl,
        fun _ hp => hp⟩
    rename_i hw
    cases h
    exact ⟨.of_written hb ⟨_, hle, publishCommitted_written hw⟩, .idle rfl rfl,
      fun _ hp => hp⟩
  | invalidate =>
    simp only [txStep] at h
    split at h <;> cases h
    · exact ⟨⟨le_refl _, le_refl _, fun _ _ hj => ⟨hj, rfl⟩, ⟨hb.floor, nofun⟩,
        fun _ => .inl⟩, .idle rfl rfl, fun _ hp => hp⟩
    · exact ⟨.refl hb, .idle rfl rfl, fun _ hp => hp⟩

end

/-! ## The invariant of a run -/

structure AuthInv (env : AuthEnv) (s : AuthState) : Prop where
  behind : Behind s.store.row.authVersion s.store.keys
  /-- a fence is one that a transaction of this run has published -/
  fence : ∀ f ∈ s.store.keys.fence, ∃ call ∈ s.calls, ∃ p ∈ call.published, f = p.key env
  calls : ∀ i call, s.calls[i]? = some call → CallInv env s.store i call

section
variable {env : AuthEnv} {now : Int} {reply : Reply} {i : Nat} {store store' : AuthStore}
  {call call' : AuthCall} {s s' : AuthState}

lemma AuthInv.ttl (h : AuthInv env s) : ∀ f ∈ s.store.keys.fence, f.expireAt.isSome := by
  intro f hf
  obtain ⟨call, -, p, -, rfl⟩ := h.fence f hf
  rfl

lemma callStep_moved (h : callStep env now reply i store call = some (store', call'))
    (hb : Behind store.row.authVersion store.keys)
    (httl : ∀ f ∈ store.keys.fence, f.expireAt.isSome) (hc : CallInv env store i call) :
    Moved env i store store' call'.published ∧ CallInv env store' i call' ∧
      call.published ⊆ call'.published := by
  cases call
  all_goals
    obtain ⟨_, hstep, hcall⟩ := map_eq_some_iff.mp h
    cases hcall
  case get =>
    obtain ⟨hw, hcarried⟩ := getStep_written hstep hc.carried
    exact ⟨.of_written hb hw, ⟨hcarried, trivial, nofun⟩, nofun⟩
  case publish =>
    obtain ⟨hversion, hsafe⟩ := hc.publish
    obtain ⟨hw, hcarried, hsafe'⟩ := publishStep_written hstep hc.carried hversion hsafe
    exact ⟨.of_written hb hw, ⟨hcarried, ⟨hversion, hsafe'⟩, nofun⟩, nofun⟩
  case field =>
    obtain ⟨hw, hcarried⟩ := fieldStep_written hstep hc.carried
    exact ⟨.of_written hb hw, ⟨hcarried, trivial, nofun⟩, nofun⟩
  case group =>
    obtain ⟨hw, hcarried⟩ := groupStep_written hstep hc.carried
    exact ⟨.of_written hb hw, ⟨hcarried, trivial, nofun⟩, nofun⟩
  case increment => exact txStep_moved hstep hb httl hc

/-- A call joins. -/
lemma AuthInv.join (h : AuthInv env s) (hc : CallInv env s.store s.calls.length call) :
    AuthInv env (s.call call) where
  behind := h.behind
  fence := by
    intro f hf
    obtain ⟨publisher, hmem, hp⟩ := h.fence f hf
    exact ⟨publisher, mem_append_left _ hmem, hp⟩
  calls := by
    intro i call' hi
    rw [AuthState.call, List.getElem?_append] at hi
    split at hi
    · exact h.calls i call' hi
    rename_i hlen
    obtain ⟨hlt, -⟩ := List.getElem?_eq_some_iff.mp hi
    have hend : i = s.calls.length := by
      simp only [length_singleton] at hlt
      omega
    subst hend
    simp only [Nat.sub_self, List.getElem?_cons_zero] at hi
    cases hi
    exact hc

/-- Nothing moves but what no call of the invariant looks at. -/
lemma AuthInv.of_row (h : AuthInv env s) {row : User}
    (hrow : row.authVersion = s.store.row.authVersion) :
    AuthInv env { s with store := { s.store with row := row } } where
  behind := by
    show Behind row.authVersion s.store.keys
    rw [hrow]
    exact h.behind
  fence := h.fence
  calls := by
    intro i call hi
    obtain ⟨hcarried, hpublish, huncommitted⟩ := h.calls i call hi
    rw [← hrow] at hcarried huncommitted
    exact ⟨hcarried, hpublish.mono (le_of_eq hrow.symm) (le_refl _), huncommitted⟩

lemma AuthInv.move (h : AuthInv env s) (hi : s.calls[i]? = some call)
    (hstep : callStep env s.now reply i s.store call = some (store', call')) :
    AuthInv env { s with store := store', calls := s.calls.set i call' } := by
  obtain ⟨hm, hc', hsub⟩ := callStep_moved hstep h.behind h.ttl (h.calls i call hi)
  refine ⟨hm.behind, ?_, ?_⟩
  · intro f hf
    have hset : (s.calls.set i call')[i]? = some call' := Pool.getElem?_set_of_some hi
    rcases hm.fence f hf with hold | ⟨p, hp, hkey⟩
    · -- the publisher is this call, which has moved, or another one, which has not
      obtain ⟨publisher, hmem, p, hp, hkey⟩ := h.fence f hold
      obtain ⟨j, hj⟩ := mem_iff_getElem?.mp hmem
      by_cases hji : j = i
      · subst hji
        obtain rfl := Option.some.inj (hi.symm.trans hj)
        exact ⟨call', mem_of_getElem? hset, p, hsub hp, hkey⟩
      have hj' : (s.calls.set i call')[j]? = some publisher := by
        rw [List.getElem?_set_ne (Ne.symm hji), hj]
      exact ⟨publisher, mem_of_getElem? hj', p, hp, hkey⟩
    · exact ⟨call', mem_of_getElem? hset, p, hp, hkey⟩
  · intro j other hj
    by_cases hji : j = i
    · subst hji
      obtain rfl := Pool.eq_of_getElem?_set hj
      exact hc'
    have hj' : s.calls[j]? = some other := by
      rwa [List.getElem?_set_ne (Ne.symm hji)] at hj
    exact (h.calls j other hj').moved hm hji

/-- A step of a call is a step of its program. -/
lemma authStep_step (h : authStep env s (.step i reply) = some s') :
    ∃ call store' call', s.calls[i]? = some call ∧
      callStep env s.now reply i s.store call = some (store', call') ∧
      s' = { s with store := store', calls := s.calls.set i call' } := by
  simp only [authStep] at h
  split at h
  · cases h
  rename_i call hcall
  split at h
  · cases h
  · next store' call' hstep =>
    exact ⟨call, store', call', hcall, hstep, (Option.some.inj h).symm⟩

lemma AuthInv.step (h : AuthInv env s) (hstep : authStep env s l = some s') : AuthInv env s' := by
  cases l with
  | tick milliseconds =>
    cases hstep
    exact { h with }
  | publish =>
    cases hstep
    exact h.join ⟨nofun, ⟨le_refl _, trivial⟩, nofun⟩
  | increment kind =>
    cases hstep
    exact h.join (.idle rfl rfl)
  | profile columns =>
    simp only [authStep] at hstep
    split at hstep <;> cases hstep
    exact h.of_row rfl
  | invalidate =>
    cases hstep
    refine ⟨⟨h.behind.floor, nofun⟩, h.fence, ?_⟩
    intro i call hi
    obtain ⟨hcarried, hpublish, huncommitted⟩ := h.calls i call hi
    exact ⟨hcarried, hpublish.mono (le_refl _) (le_refl _), huncommitted⟩
  | step i reply =>
    obtain ⟨call, store', call', hcall, hcallStep, rfl⟩ := authStep_step hstep
    exact h.move hcall hcallStep
  | _ =>
    cases hstep
    exact h.join ⟨nofun, trivial, nofun⟩

lemma authInv_initial {row : User} : AuthInv env (.initial now row) where
  behind := ⟨zero_le _, fun _ he => absurd he (not_mem_none _)⟩
  fence := fun _ hf => absurd hf (not_mem_none _)
  calls := by
    intro i call hi
    rw [AuthState.initial, List.getElem?_nil] at hi
    cases hi

end

/-! ## Readers after a publication -/

/-- A reader that will not return less than `version`. -/
def GetSafe (env : AuthEnv) (version : Nat) : GetPc → Prop
  | .hashRead => True
  | .hashFloor _ => env.redisEnabled
  | .dbRead => True
  | .dbFloor user => version ≤ user.authVersion
  | .populate user => version ≤ user.authVersion
  | .returned user => version ≤ user.authVersion
  | .refused => True
  | .failed => True

/-- `version` is committed and published, and the calls from number `n` on know it. -/
structure Published (env : AuthEnv) (version n : Nat) (s : AuthState) : Prop where
  inv : AuthInv env s
  row : version ≤ s.store.row.authVersion
  floor : env.redisEnabled → version ≤ s.store.keys.committedVersion
  readers : ∀ j pc, n ≤ j → s.calls[j]? = some (.get pc) → GetSafe env version pc

section
variable {env : AuthEnv} {now : Int} {reply : Reply} {row : User} {keys keys' : AuthKeys}
  {version n : Nat} {s s' : AuthState}

/-- A floor that is read is the higher one of the two versions. -/
lemma floor_eq {floor : Nat} (hredis : env.redisEnabled)
    (h : getUserAuthVersionFloor env now reply keys = some floor) :
    floor = max (keys.pendingVersion now) keys.committedVersion := by
  unfold getUserAuthVersionFloor at h
  rw [if_neg (not_not_intro hredis)] at h
  cases reply with
  | answered => exact (Option.some.inj h).symm
  | failed | lost => cases h

lemma getStep_safe {pc' : GetPc} (h : getStep env now reply row keys pc = some (keys', pc'))
    (hrow : version ≤ row.authVersion) (hfloor : env.redisEnabled → version ≤ keys.committedVersion)
    (hsafe : GetSafe env version pc) : GetSafe env version pc' := by
  cases pc with
  | hashRead =>
    simp only [getStep] at h
    split at h
    · next userCache hcached =>
      cases h
      show env.redisEnabled = true
      by_contra hdisabled
      rw [cachedUserBase, if_pos (.inl hdisabled)] at hcached
      cases hcached
    · cases h
      trivial
  | hashFloor userCache =>
    have hredis : env.redisEnabled = true := hsafe
    have hcommitted := hfloor hredis
    simp only [getStep] at h
    split at h
    · cases h
      trivial
    rename_i floor hread
    split at h
    · cases h
      trivial
    rename_i hle
    cases h
    show version ≤ userCache.authVersion
    have hmax := floor_eq hredis hread
    omega
  | dbRead =>
    simp only [getStep] at h
    split at h
    · cases h
      trivial
    rename_i user huser
    obtain rfl := getUserById_eq_some huser
    split at h <;> cases h
    · exact hrow
    · exact hrow
  | returned user | refused | failed => cases h
  | _ =>
    simp only [getStep] at h
    split at h <;> cases h
    · trivial
    · exact hsafe

/-- Away from the steps of the calls, at most a call joins. -/
lemma authStep_cases (h : authStep env s l = some s') :
    (∃ i reply, l = .step i reply) ∨
      s'.store.row.authVersion = s.store.row.authVersion ∧
      s'.store.keys.committedVersion = s.store.keys.committedVersion ∧
      ∀ (j : Nat) (pc : GetPc), s'.calls[j]? = some (.get pc) →
        pc = .hashRead ∨ s.calls[j]? = some (.get pc) := by
  have hjoin : ∀ (call : AuthCall) (j : Nat) (pc : GetPc),
      (s.call call).calls[j]? = some (.get pc) →
        get pc = call ∨ s.calls[j]? = some (.get pc) := by
    intro call j pc hj
    rw [AuthState.call, List.getElem?_append] at hj
    split at hj
    · exact .inr hj
    · exact .inl (mem_singleton.mp (mem_of_getElem? hj))
  cases l with
  | tick milliseconds | invalidate =>
    cases h
    exact .inr ⟨rfl, rfl, fun _ _ => .inr⟩
  | get =>
    cases h
    exact .inr ⟨rfl, rfl, fun j pc hj => (hjoin _ j pc hj).imp_left get.inj⟩
  | profile columns =>
    simp only [authStep] at h
    split at h <;> cases h
    exact .inr ⟨rfl, rfl, fun _ _ => .inr⟩
  | step i reply => exact .inl ⟨i, reply, rfl⟩
  | _ =>
    cases h
    refine .inr ⟨rfl, rfl, fun j pc hj => (hjoin _ j pc hj).imp_left ?_⟩
    intro hcall
    cases hcall

lemma Published.step (h : Published env version n s)
    (hstep : authStep env s l = some s') : Published env version n s' := by
  have hinv := h.inv.step hstep
  rcases authStep_cases hstep with ⟨i, reply, rfl⟩ | ⟨hrow, hfloor, hcalls⟩
  · obtain ⟨call, store', call', hi, hcallStep, rfl⟩ := authStep_step hstep
    obtain ⟨hm, -, -⟩ := callStep_moved hcallStep h.inv.behind h.inv.ttl (h.inv.calls i call hi)
    refine ⟨hinv, le_trans h.row hm.row_le,
      fun hredis => le_trans (h.floor hredis) hm.floor_le, ?_⟩
    intro j pc hj hget
    by_cases hji : j = i
    · subst hji
      obtain rfl := Pool.eq_of_getElem?_set hget
      -- only a reader moves to where a reader is
      cases call with
      | get pc₀ =>
        obtain ⟨⟨keys', pc'⟩, hget', hcall⟩ := map_eq_some_iff.mp hcallStep
        cases hcall
        exact getStep_safe hget' h.row h.floor (h.readers j pc₀ hj hi)
      | _ =>
        obtain ⟨_, -, hcall⟩ := map_eq_some_iff.mp hcallStep
        cases hcall
    · rw [List.getElem?_set_ne (Ne.symm hji)] at hget
      exact h.readers j pc hj hget
  · refine ⟨hinv, by rw [hrow]; exact h.row, fun hredis => by rw [hfloor]; exact h.floor hredis, ?_⟩
    intro j pc hj hget
    rcases hcalls j pc hget with rfl | hold
    · trivial
    · exact h.readers j pc hj hold

/-! ## Refusals -/

/-- A reader that is refused has read a version that the fence, the floor or the hash is above. -/
lemma getStep_refused (h : getStep env now reply row keys pc = some (keys', .refused)) :
    ∃ user, (pc = .dbFloor user ∨ pc = .populate user) ∧
      (user.authVersion < keys.pendingVersion now ∨ user.authVersion < keys.committedVersion ∨
        user.authVersion < keys.currentVersion now) := by
  cases pc with
  | hashRead =>
    simp only [getStep] at h
    split at h <;> cases h
  | dbFloor user =>
    simp only [getStep] at h
    split at h
    · next habove =>
      refine ⟨user, .inl rfl, ?_⟩
      -- the floor a reader compares with is above its snapshot
      obtain ⟨floor, hfloor, hlt⟩ := any_eq_true _ _ |>.mp habove
      rw [decide_eq_true_eq] at hlt
      by_cases hredis : env.redisEnabled
      · have hmax := floor_eq hredis hfloor
        omega
      unfold getUserAuthVersionFloor at hfloor
      rw [if_pos hredis] at hfloor
      cases hfloor
      omega
    · cases h
  | populate user =>
    simp only [getStep] at h
    split at h
    · next hw => exact ⟨user, .inr rfl, writeUserCache_pending hw⟩
    · cases h
  | returned user | refused | failed => cases h
  | _ =>
    simp only [getStep] at h
    split at h
    · cases h
    · split at h <;> cases h

/-- What is above a version that was read: a later commit, or a fence within its TTL. -/
lemma AuthInv.above (h : AuthInv env s) (habove : version < s.store.keys.pendingVersion s.now ∨
      version < s.store.keys.committedVersion ∨ version < s.store.keys.currentVersion s.now) :
    version < s.store.row.authVersion ∨
      ∃ call ∈ s.calls, ∃ p ∈ call.published, s.store.keys.fence = some (p.key env) ∧
        version < p.version ∧ s.now ≤ p.publishedAt + 1000 * userAuthFenceTTLSeconds env := by
  rcases habove with hfence | hfloor | hhash
  · right
    rw [pendingVersion] at hfence
    rcases hfound : get? s.now s.store.keys.fence with - | value
    · rw [hfound, getD_none] at hfence
      omega
    rw [hfound, getD_some] at hfence
    obtain ⟨f, hf, rfl, hlive⟩ := get?_eq_some.mp hfound
    obtain ⟨call, hmem, p, hp, rfl⟩ := h.fence f hf
    exact ⟨call, hmem, p, hp, hf, hfence, hlive _ rfl⟩
  · left
    have hle := h.behind.floor
    omega
  · left
    rw [currentVersion] at hhash
    rcases hfound : get? s.now s.store.keys.hash with - | hash
    · rw [hfound, map_none, getD_none] at hhash
      omega
    rw [hfound, map_some, getD_some] at hhash
    obtain ⟨e, he, rfl, -⟩ := get?_eq_some.mp hfound
    have hle := h.behind.hash e he
    omega

end

/-! ## The run theorem -/

/-- In every run: a reader that starts after a publication has succeeded returns at least the
version that was committed when the publication started; and a reader is refused only because a
later version has been committed since it read the row, or because of the fence of a transaction
that was published at most its TTL ago. -/
theorem auth_versions_never_go_backwards {env : AuthEnv} {now : Int} {row : User}
    {ls : List AuthLabel} {s : AuthState} (hrun : run (authStep env) (.initial now row) ls = some s) :
    (∀ i version : Nat, s.calls[i]? = some (.publish version (.returned true)) →
      ∀ (ms : List AuthLabel) (t : AuthState), run (authStep env) s ms = some t →
        ∀ (j : Nat) (user : UserBase), s.calls.length ≤ j →
          t.calls[j]? = some (.get (.returned user)) → version ≤ user.authVersion) ∧
    (∀ (j : Nat) (pc : GetPc) (reply : Reply) (t : AuthState), s.calls[j]? = some (.get pc) →
      authStep env s (.step j reply) = some t → t.calls[j]? = some (.get .refused) →
        ∃ user, (pc = .dbFloor user ∨ pc = .populate user) ∧
          (user.authVersion < s.store.row.authVersion ∨
            ∃ (k : Nat) (kind : TxKind) (fences : List PublishedFence) (txPc : TxPc),
              s.calls[k]? = some (.increment kind fences txPc) ∧
              ∃ p ∈ fences, s.store.keys.fence = some (p.key env) ∧
                user.authVersion < p.version ∧
                s.now ≤ p.publishedAt + 1000 * userAuthFenceTTLSeconds env)) := by
  have hinv : AuthInv env s := run_invariant' (AuthInv env) (fun _ _ _ => .step) authInv_initial hrun
  constructor
  · intro i version hi ms t hms j user hj hget
    obtain ⟨hrow, hsafe⟩ := (hinv.calls i _ hi).publish
    have hpublished : Published env version s.calls.length s := by
      refine ⟨hinv, hrow, hsafe rfl, ?_⟩
      intro j pc hj hget
      rw [List.getElem?_eq_none hj] at hget
      cases hget
    have hend := run_invariant' (Published env version s.calls.length) (fun _ _ _ => .step)
      hpublished hms
    exact hend.readers j _ hj hget
  · intro j pc reply t hj hstep hrefused
    obtain ⟨call, store', call', hj', hcallStep, rfl⟩ := authStep_step hstep
    obtain rfl := Option.some.inj (hj.symm.trans hj')
    obtain ⟨⟨keys', pc'⟩, hget, hcall⟩ := map_eq_some_iff.mp hcallStep
    cases hcall
    obtain rfl : GetPc.refused = pc' := get.inj (Pool.eq_of_getElem?_set hrefused)
    obtain ⟨user, hpc, habove⟩ := getStep_refused hget
    refine ⟨user, hpc, (hinv.above habove).imp_right ?_⟩
    rintro ⟨call, hmem, p, hp, hkey, hlt, hlive⟩
    obtain ⟨k, hk⟩ := mem_iff_getElem?.mp hmem
    cases call with
    | increment kind fences txPc => exact ⟨k, kind, fences, txPc, hk, p, hp, hkey, hlt, hlive⟩
    | _ => cases hp

def lockingEnv : AuthEnv where
  redisEnabled := true
  syncFrequency := 60
  rowLocks := true

def newUser : User where
  id := 1
  group := "default"
  email := ""
  quota := 0
  status := 1
  role := 1
  username := "alice"
  setting := ""
  authVersion := 1
  deleted := false
  id_pos := by decide

/-- Version 2 is committed and published. A second transaction publishes its fence and rolls back,
and a reader that has read version 2 meets the fence. -/
def rolledBackRun : List AuthLabel :=
  [.increment .bump, .step 0 .answered, .step 0 .answered, .step 0 .answered, .step 0 .answered,
    .publish, .step 1 .answered, .step 1 .answered,
    .increment .bump, .step 2 .answered, .step 2 .answered, .step 2 .failed,
    .get, .step 3 .answered, .step 3 .answered]

/-- The fence expires, and a new reader gets through. -/
def healedRun : List AuthLabel :=
  [.tick 120001, .get, .step 4 .answered, .step 4 .answered, .step 4 .answered, .step 4 .answered]

theorem auth_versions_never_go_backwards_rolled_back :
    ∃ s, run (authStep lockingEnv) (.initial 0 newUser) rolledBackRun = some s ∧
      s.calls[1]? = some (.publish 2 (.returned true)) ∧
      (∃ t user, run (authStep lockingEnv) s healedRun = some t ∧
        t.calls[4]? = some (.get (.returned user)) ∧ 2 ≤ user.authVersion) ∧
      (∃ t, authStep lockingEnv s (.step 3 .answered) = some t ∧
        t.calls[3]? = some (.get .refused)) ∧
      ∃ read : User, read.authVersion < s.store.row.authVersion ∨
        ∃ p : PublishedFence, s.store.keys.fence = some (p.key lockingEnv) ∧
          s.now ≤ p.publishedAt + 1000 * userAuthFenceTTLSeconds lockingEnv := by
  have hruns : (run (authStep lockingEnv) (.initial 0 newUser) rolledBackRun).any fun s =>
      s.calls[1]? = some (.publish 2 (.returned true)) ∧ s.calls.length = 4 ∧
      s.calls[3]? = some (.get (.dbFloor { newUser with authVersion := 2 })) ∧
      ((run (authStep lockingEnv) s healedRun).any fun t =>
        t.calls[4]? = some (.get (.returned { newUser with authVersion := 2 }.toBaseUser))) ∧
      (authStep lockingEnv s (.step 3 .answered)).any fun t =>
        t.calls[3]? = some (.get .refused) := by
    decide +kernel
  obtain ⟨s, hs, hcheck⟩ := any_eq_true _ _ |>.mp hruns
  obtain ⟨hpublished, hlength, hreader, hhealed, hrefused⟩ := of_decide_eq_true hcheck
  obtain ⟨t, ht, hreturned⟩ := any_eq_true _ _ |>.mp hhealed
  obtain ⟨u, hu, hrefused⟩ := any_eq_true _ _ |>.mp hrefused
  obtain ⟨hlater, hreasons⟩ := auth_versions_never_go_backwards hs
  refine ⟨s, hs, hpublished, ⟨t, _, ht, of_decide_eq_true hreturned, ?_⟩,
    ⟨u, hu, of_decide_eq_true hrefused⟩, ?_⟩
  · exact hlater 1 2 hpublished healedRun t ht 4 _ (by omega) (of_decide_eq_true hreturned)
  · obtain ⟨read, -, hreason⟩ := hreasons 3 _ .answered u hreader hu (of_decide_eq_true hrefused)
    refine ⟨read, hreason.imp_right ?_⟩
    rintro ⟨-, -, -, -, -, p, -, hkey, -, hlive⟩
    exact ⟨p, hkey, hlive⟩

end NewApi.Model.UserAuth
