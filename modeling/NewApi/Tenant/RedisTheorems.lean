import NewApi.Tenant.Redis

/-!
# Workspaces do not see each other in Redis

Every key of a command that is let through begins with the key of its own workspace, and no string
begins with the keys of two workspaces. So a command reads and writes only its workspace's part of
the database, and the unwinding theorem applies. It needs that the connections of the pool are left
as they were opened, and that the pattern of a scan is the one that was rewritten.
-/

namespace NewApi.Tenant

open Noninterference List Nat Option

/-! ## What strings begin with -/

lemma beginsWith_iff {s start : String} :
    beginsWith s start = true ↔ start.toList <+: s.toList := by
  rw [beginsWith, isPrefixOf_iff_prefix]

lemma beginsWith_append (start s : String) : beginsWith (start ++ s) start = true := by
  rw [beginsWith_iff, String.toList_append]
  exact prefix_append _ _

lemma workspaceKey_toList (id : Int) (key : String) :
    (workspaceKey id key).toList =
      "tenant:".toList ++ ((toString id).toList ++ (':' :: key.toList)) := by
  simp [workspaceKey, String.toList_append]

lemma toString_toList (n : Nat) : (toString (n : Int)).toList = Nat.toDigits 10 n := by
  show (Nat.repr n).toList = _
  rw [Nat.repr_eq_ofList_toDigits, String.toList_ofList]

/-- The number of a workspace has no colon in it. -/
lemma colon_not_mem_toString {id : Int} (h : 0 < id) : ':' ∉ (toString id).toList := by
  obtain ⟨n, rfl⟩ := Int.eq_ofNat_of_zero_le (Int.le_of_lt h)
  intro hmem
  rw [toString_toList] at hmem
  have hdigit := isDigit_of_mem_toDigits (by decide) (by decide) hmem
  exact absurd hdigit (by decide)

/-- What stands before the first colon is determined by the text. -/
lemma eq_of_append_colon {α : Type} {c : α} {a b x y : List α} (ha : c ∉ a) (hb : c ∉ b)
    (h : a ++ c :: x = b ++ c :: y) : a = b := by
  induction a generalizing b with
  | nil =>
    cases b with
    | nil => rfl
    | cons d b =>
      obtain ⟨rfl, -⟩ := List.cons.inj h
      exact absurd mem_cons_self hb
  | cons d a ih =>
    cases b with
    | nil =>
      obtain ⟨rfl, -⟩ := List.cons.inj h
      exact absurd mem_cons_self ha
    | cons d' b =>
      obtain ⟨rfl, hrest⟩ := List.cons.inj h
      rw [ih (fun hc => ha (mem_cons_of_mem _ hc)) (fun hc => hb (mem_cons_of_mem _ hc))
        hrest]

/-- No string begins with the keys of two workspaces: `1` is not `11`. -/
lemma workspaceKey_disjoint {i j : Int} (hi : 0 < i) (hj : 0 < j) {s : String}
    (h₁ : beginsWith s (workspaceKey i "")) (h₂ : beginsWith s (workspaceKey j "")) : i = j := by
  obtain ⟨x, hx⟩ := beginsWith_iff.mp h₁
  obtain ⟨y, hy⟩ := beginsWith_iff.mp h₂
  rw [workspaceKey_toList] at hx hy
  have heq : (toString i).toList ++ ':' :: x = (toString j).toList ++ ':' :: y := by
    have h := hx.trans hy.symm
    simpa [append_assoc] using h
  have hsame := eq_of_append_colon (colon_not_mem_toString hi) (colon_not_mem_toString hj) heq
  obtain ⟨m, rfl⟩ := Int.eq_ofNat_of_zero_le (Int.le_of_lt hi)
  obtain ⟨n, rfl⟩ := Int.eq_ofNat_of_zero_le (Int.le_of_lt hj)
  rw [toString_toList, toString_toList] at hsame
  have hvalue := congrArg (ofDigitChars 10 · 0) hsame
  simp only [ofDigitChars_ten_toDigits] at hvalue
  rw [hvalue]

/-! ## What the hook lets through -/

section
variable {own : String} {args args' : List String} {positions : List Nat} {p : Nat}

/-- The argument that is rewritten becomes an own key. -/
lemma scopeArg_spec {position : Nat} (h : scopeArg own args position = .ok args') :
    position < args.length ∧ ∃ k, args' = args.set position k ∧ beginsWith k own := by
  unfold scopeArg at h
  split at h
  · cases h
  rename_i key hkey
  obtain ⟨hlt, hget⟩ := List.getElem?_eq_some_iff.mp hkey
  refine ⟨hlt, ?_⟩
  split at h
  · next hown =>
    cases h
    refine ⟨key, ?_, hown⟩
    rw [← hget, set_getElem_self]
  split at h <;> cases h
  exact ⟨_, rfl, beginsWith_append own key⟩

lemma scopeArgs_spec (h : scopeArgs own positions args = .ok args') :
    args'.length = args.length ∧
      (∀ p ∈ positions, ∃ k, args'[p]? = some k ∧ beginsWith k own) ∧
      ∀ p ∉ positions, args'[p]? = args[p]? := by
  induction positions generalizing args with
  | nil =>
    cases h
    exact ⟨rfl, nofun, fun _ _ => rfl⟩
  | cons position positions ih =>
    unfold scopeArgs at h
    split at h
    · cases h
    rename_i args₁ hfirst
    obtain ⟨hlt, k, rfl, hown⟩ := scopeArg_spec hfirst
    obtain ⟨hlength, hkeys, hother⟩ := ih h
    refine ⟨hlength.trans length_set, ?_, ?_⟩
    · intro p hp
      by_cases hrest : p ∈ positions
      · exact hkeys p hrest
      obtain rfl : p = position := by
        rcases mem_cons.mp hp with heq | hmem
        · exact heq
        · exact absurd hmem hrest
      rw [hother p hrest]
      exact ⟨k, List.getElem?_set_self hlt, hown⟩
    · intro p hp
      rw [hother p fun hmem => hp (mem_cons_of_mem _ hmem)]
      exact List.getElem?_set_ne fun heq => hp (mem_cons.mpr (.inl heq.symm))

end

/-- The pattern of a scan, if its options are read as Redis reads them, is an own one. -/
def OwnPattern (own : String) (opts : List String) : Prop :=
  ∀ pattern, scanOptions opts = some pattern → ∃ text, pattern = some text ∧ beginsWith text own

variable {opts : List String} {k : String}

lemma scanOptions_of_no_match (h : matchOptions opts = 0) :
    ∀ pattern, scanOptions opts = some pattern → pattern = none := by
  induction opts using scanOptions.induct with
  | case1 =>
    intro pattern hp
    exact (Option.some.inj hp).symm
  | case2 option value rest hmatch ih =>
    rw [matchOptions, if_pos hmatch] at h
    omega
  | case3 option value rest hmatch hother ih =>
    rw [matchOptions, if_neg hmatch, Nat.zero_add] at h
    rw [scanOptions, if_neg hmatch, if_pos hother]
    exact ih h
  | case4 option value rest hmatch hother =>
    rw [scanOptions, if_neg hmatch, if_neg hother]
    exact nofun
  | case5 option => exact nofun

lemma matchPosition_lt {i p : Nat} (h : matchPosition i opts = some p) : i < p := by
  induction opts generalizing i with
  | nil => cases h
  | cons option opts ih =>
    rcases opts with - | ⟨value, rest⟩
    · cases h
    rw [matchPosition] at h
    split at h
    · cases h
      omega
    · have := ih h
      omega

/-- An own key is not the name of an option. -/
lemma lower_ne_option {id : Int} (h : beginsWith k (workspaceKey id "")) :
    lower k ≠ "match" ∧ ¬ (lower k = "count" ∨ lower k = "type") := by
  obtain ⟨x, hx⟩ := beginsWith_iff.mp h
  have hlower : (lower k).toList = 't' :: 'e' :: (lower k).toList.drop 2 := by
    rw [lower, String.toList_ofList, ← hx, workspaceKey_toList]
    rfl
  refine ⟨fun heq => ?_, fun heq => ?_⟩
  · rw [heq] at hlower
    exact absurd hlower (by decide)
  · rcases heq with heq | heq
    all_goals
      rw [heq] at hlower
      exact absurd hlower (by decide)

/-- With at most one `MATCH` option, the argument that is rewritten is its pattern, or the rewriting
has made the options invalid. -/
lemma ownPattern_set {id : Int} (hk : beginsWith k (workspaceKey id ""))
    (hone : matchOptions opts ≤ 1) {i p : Nat} (h : matchPosition i opts = some p) :
    i < p ∧ OwnPattern (workspaceKey id "") (opts.set (p - i) k) := by
  -- two arguments at a time, as the options are read
  induction opts using scanOptions.induct generalizing i with
  | case1 | case5 option => cases h
  | case2 option value rest hmatch ih =>
    rw [matchPosition, if_pos hmatch] at h
    cases h
    refine ⟨Nat.lt_succ_self i, ?_⟩
    rw [matchOptions, if_pos hmatch] at hone
    rw [show i + 1 - i = 1 by omega]
    intro pattern hp
    rw [set_cons_succ, set_cons_zero, scanOptions, if_pos hmatch] at hp
    obtain ⟨later, hlater, rfl⟩ := Option.map_eq_some_iff.mp hp
    obtain rfl := scanOptions_of_no_match (by omega) later hlater
    exact ⟨k, rfl, hk⟩
  | case3 option value rest hmatch hother ih =>
    rw [matchOptions, if_neg hmatch, Nat.zero_add] at hone
    rw [matchPosition, if_neg hmatch] at h
    rcases rest with - | ⟨next, rest⟩
    · cases h
    rw [matchPosition] at h
    split at h
    · -- the value of the option reads match, and the name of the next one is rewritten
      cases h
      refine ⟨by omega, ?_⟩
      rw [show i + 1 + 1 - i = 2 by omega]
      intro pattern hp
      rw [set_cons_succ, set_cons_succ, set_cons_zero, scanOptions, if_neg hmatch,
        if_pos hother] at hp
      obtain ⟨hne, hnot⟩ := lower_ne_option hk
      rcases rest with - | ⟨last, rest⟩
      · cases hp
      · rw [scanOptions, if_neg hne, if_neg hnot] at hp
        cases hp
    · obtain ⟨hlt, hpattern⟩ := ih hone h
      refine ⟨by omega, ?_⟩
      rw [show p - i = (p - (i + 1 + 1)) + 1 + 1 by omega]
      intro pattern hp
      rw [set_cons_succ, set_cons_succ, scanOptions, if_neg hmatch, if_pos hother] at hp
      exact hpattern pattern hp
  | case4 option value rest hmatch hother =>
    rw [matchPosition, if_neg hmatch] at h
    rcases rest with - | ⟨next, rest⟩
    · cases h
    have hlt : i + 1 < p := by
      have := matchPosition_lt h
      omega
    refine ⟨by omega, ?_⟩
    rw [show p - i = (p - (i + 2)) + 1 + 1 by omega]
    intro pattern hp
    rw [set_cons_succ, set_cons_succ, scanOptions, if_neg hmatch, if_neg hother] at hp
    cases hp

/-- The commands that change the connection they are sent on. -/
def statefulCommands : List String :=
  ["hello", "auth", "select", "client", "multi", "exec", "discard"]

/-- The command leaves its connection as it is, and a scan has at most one pattern. -/
def Command.Isolated (cmd : Command) : Prop :=
  cmd.name ∉ statefulCommands ∧ (cmd.name = "scan" → matchOptions (cmd.args.drop 2) ≤ 1)

instance (cmd : Command) : Decidable cmd.Isolated :=
  inferInstanceAs (Decidable (_ ∧ _))

/-- What a workspace is let send, apart from the commands about the connection. -/
inductive Scoped (id : Int) (cmd : Command) : Prop
  | scan (hname : cmd.name = "scan") (hown : OwnPattern (workspaceKey id "") (cmd.args.drop 2))
  | data (hscan : cmd.name ≠ "scan") (hdata : (documentedPositions cmd.args).isSome)
      (hown : ∀ k ∈ documentedKeys cmd.args, beginsWith k (workspaceKey id ""))

section
variable {ctx : Option Identity} {cmd cmd' : Command} {cmds cmds' : List Command}

variable {own : String} {args : List String} {positions : List Nat}

/-- The name of a command is not rewritten. -/
lemma zero_not_mem_scopePositions {name : String}
    (h : scopePositions name args = .ok positions) : 0 ∉ positions := by
  unfold scopePositions at h
  split at h
  · cases h
    decide
  split at h
  · cases h
    simp
  split at h
  · split at h
    · cases h
    split at h
    · cases h
    split at h <;> cases h
    simp
  split at h
  · split at h
    · cases h
    rename_i position hposition
    cases h
    have := matchPosition_lt hposition
    simp only [mem_singleton]
    omega
  · cases h

lemma headD_scoped {name : String} {args' : List String}
    (hpositions : scopePositions name args = .ok positions)
    (h : scopeArgs own positions args = .ok args') : args'.headD "" = args.headD "" := by
  obtain ⟨-, -, hother⟩ := scopeArgs_spec h
  rw [headD_eq_head?_getD, headD_eq_head?_getD, List.head?_eq_getElem?,
    List.head?_eq_getElem?, hother 0 (zero_not_mem_scopePositions hpositions)]

/-- The places that are rewritten are the documented ones: the number of keys of a script stands
before its keys. -/
lemma documentedPositions_scoped {args' : List String}
    (hpositions : scopePositions (lower (args.headD "")) args = .ok positions)
    (hscan : lower (args.headD "") ≠ "scan") (h : scopeArgs own positions args = .ok args') :
    documentedPositions args' = some positions := by
  obtain ⟨hlength, -, hother⟩ := scopeArgs_spec h
  unfold documentedPositions
  rw [headD_scoped hpositions h]
  unfold scopePositions at hpositions
  split at hpositions
  · next hsingle =>
    cases hpositions
    rw [if_pos hsingle]
  rename_i hsingle
  split at hpositions
  · next hall =>
    cases hpositions
    rw [if_neg hsingle, if_pos hall, hlength]
  rename_i hall
  split at hpositions
  · next hscript =>
    split at hpositions
    · cases hpositions
    split at hpositions
    · cases hpositions
    rename_i count hcount
    split at hpositions
    · cases hpositions
    cases hpositions
    have htwo : args'.getD 2 "" = args.getD 2 "" := by
      rw [getD_eq_getElem?_getD, getD_eq_getElem?_getD, hother 2 (by simp)]
    rw [if_neg hsingle, if_neg hall, if_pos hscript, htwo, hcount]
    rfl
  · cases hpositions

/-- A data command that is let through has the keys of its workspace. -/
lemma data_scoped {id : Int}
    (hpositions : scopePositions cmd.name cmd.args = .ok positions) (hscan : cmd.name ≠ "scan")
    (h : scopeArgs (workspaceKey id "") positions cmd.args = .ok args) :
    Scoped id { cmd with args := args } := by
  have hdocumented := documentedPositions_scoped hpositions hscan h
  have hname : lower (args.headD "") = cmd.name := by
    rw [headD_scoped hpositions h]
    rfl
  refine .data (fun heq => hscan (hname.symm.trans heq)) (by rw [hdocumented]; rfl) ?_
  intro k hk
  rw [documentedKeys, hdocumented] at hk
  obtain ⟨p, hp, hget⟩ := mem_filterMap.mp hk
  obtain ⟨k', hk', hown⟩ := (scopeArgs_spec h).2.1 p hp
  obtain rfl := some.inj (hget.symm.trans hk')
  exact hown

/-- A scan with one pattern has a pattern of its workspace. -/
lemma scan_scoped {id : Int}
    (hone : matchOptions (cmd.args.drop 2) ≤ 1)
    (hpositions : scopePositions cmd.name cmd.args = .ok positions) (hscan : cmd.name = "scan")
    (h : scopeArgs (workspaceKey id "") positions cmd.args = .ok args) :
    Scoped id { cmd with args := args } := by
  have hname : lower (args.headD "") = cmd.name := by
    rw [headD_scoped hpositions h]
    rfl
  refine .scan (hname.trans hscan) ?_
  rw [hscan] at hpositions
  unfold scopePositions at hpositions
  rw [if_neg (by decide), if_neg (by decide), if_neg (by decide), if_pos rfl] at hpositions
  split at hpositions
  · cases hpositions
  rename_i position hposition
  cases hpositions
  unfold scopeArgs at h
  split at h
  · cases h
  rename_i hargs
  cases h
  obtain ⟨-, k, rfl, hk⟩ := scopeArg_spec hargs
  obtain ⟨hlt, hpattern⟩ := ownPattern_set hk hone hposition
  rw [drop_set, if_neg (by omega)]
  exact hpattern

/-- A command that is let through is about the connection, or is one of its workspace. -/
lemma scopeRedisCommand_ok (hone : cmd.Isolated) (h : scopeRedisCommand ctx cmd = .ok cmd') :
    cmd'.name = cmd.name ∧ (cmd.name ∈ connectionCommands ∨ cmd.name ∉ connectionCommands ∧
      ∃ identity, fromContext ctx = .ok identity ∧ Scoped identity.id cmd') := by
  unfold scopeRedisCommand at h
  split at h
  · next hconnection =>
    cases h
    exact ⟨rfl, .inl hconnection⟩
  rename_i hconnection
  split at h
  · cases h
  rename_i own hown
  unfold contextKey at hown
  split at hown
  · cases hown
  rename_i identity hctx
  cases hown
  split at h
  · cases h
  rename_i positions hpositions
  split at h
  · cases h
  rename_i args hargs
  cases h
  refine ⟨congrArg lower (headD_scoped hpositions hargs), .inr ⟨hconnection, identity, hctx, ?_⟩⟩
  by_cases hscan : cmd.name = "scan"
  · exact scan_scoped (hone.2 hscan) hpositions hscan hargs
  · exact data_scoped hpositions hscan hargs

end

/-! ## What the server does with it -/

section
variable {V ρ : Type} {redis : Redis V ρ} {own : String} {id : Int} {db db' : Database V}

/-- No character of the beginning of a workspace's keys is special in a pattern. -/
lemma workspaceKey_literal (hid : 0 < id) : ∀ c ∈ (workspaceKey id "").toList, c ∉ globSpecial := by
  obtain ⟨n, rfl⟩ := Int.eq_ofNat_of_zero_le (Int.le_of_lt hid)
  intro c hc hspecial
  rw [workspaceKey_toList, toString_toList, mem_append, mem_append] at hc
  simp only [globSpecial, mem_cons, not_mem_nil, or_false] at hspecial
  rcases hc with hc | hc | hc
  · rcases hspecial with rfl | rfl | rfl | rfl <;> exact absurd hc (by decide)
  · have hdigit := isDigit_of_mem_toDigits (by decide) (by decide) hc
    rcases hspecial with rfl | rfl | rfl | rfl <;> exact absurd hdigit (by decide)
  · rcases hspecial with rfl | rfl | rfl | rfl <;> exact absurd hc (by decide)

lemma glob_append {start pattern key : List Char} (hstart : ∀ c ∈ start, c ∉ globSpecial)
    (h : redis.glob (start ++ pattern) key = true) : start <+: key := by
  induction start generalizing key with
  | nil => exact nil_prefix
  | cons c start ih =>
    obtain ⟨rest, rfl, hrest⟩ := redis.glob_literal c (start ++ pattern) key
      (hstart c mem_cons_self) h
    rw [cons_prefix_cons]
    exact ⟨rfl, ih (fun d hd => hstart d (mem_cons_of_mem _ hd)) hrest⟩

/-- An own pattern matches own keys only. -/
lemma glob_own (hid : 0 < id) {pattern key : String} (hp : beginsWith pattern (workspaceKey id ""))
    (h : redis.glob pattern.toList key.toList = true) : beginsWith key (workspaceKey id "") := by
  obtain ⟨rest, hrest⟩ := beginsWith_iff.mp hp
  rw [← hrest] at h
  exact beginsWith_iff.mpr (glob_append (workspaceKey_literal hid) h)

/-- The databases have the same under the keys that begin with `own`. -/
def SameOn (own : String) (db db' : Database V) : Prop :=
  ∀ k, beginsWith k own → db.value k = db'.value k

lemma SameOn.refl (own : String) (db : Database V) : SameOn own db db :=
  fun _ _ => rfl

lemma SameOn.trans {db'' : Database V} (h : SameOn own db db') (h' : SameOn own db' db'') :
    SameOn own db db'' :=
  fun k hk => (h k hk).trans (h' k hk)

lemma SameOn.mem_keys (h : SameOn own db db')
    (hk : beginsWith k own) : k ∈ db.keys ↔ k ∈ db'.keys := by
  rw [db.mem_keys, db'.mem_keys, h k hk]

/-- The keys that a command goes through or is about. -/
def touched (redis : Redis V ρ) (db : Database V) (cmd : Command) : Finset String :=
  if cmd.name ∈ connectionCommands then ∅
  else if cmd.name = "scan" then ((db.scan redis (cmd.args.drop 2)).getD ∅)
  else (documentedKeys cmd.args).toFinset

lemma Scoped.touched_own {cmd : Command} (hid : 0 < id) (h : Scoped id cmd) (db : Database V) :
    ∀ k ∈ touched redis db cmd, beginsWith k (workspaceKey id "") := by
  intro k hk
  unfold touched at hk
  split at hk
  · cases hk
  cases h with
  | scan hname hown =>
    rw [if_pos hname] at hk
    rcases hscan : db.scan redis (cmd.args.drop 2) with - | ks
    · rw [hscan] at hk
      cases hk
    rw [hscan] at hk
    obtain ⟨pattern, hpattern, rfl⟩ := map_eq_some_iff.mp hscan
    obtain ⟨text, rfl, htext⟩ := hown pattern hpattern
    exact glob_own hid htext (Finset.mem_filter.mp hk).2
  | data hscan hdata hown =>
    rw [if_neg hscan, List.mem_toFinset] at hk
    exact hown k hk

/-- A scan with an own pattern finds the same in databases that have the same own keys. -/
lemma SameOn.scan (hid : 0 < id) (hown : OwnPattern (workspaceKey id "") opts)
    (h : SameOn (workspaceKey id "") db db') : db.scan redis opts = db'.scan redis opts := by
  unfold Database.scan
  rcases hopts : scanOptions opts with - | pattern
  · rfl
  obtain ⟨text, rfl, htext⟩ := hown pattern hopts
  simp only [map_some, some.injEq]
  ext k
  rw [Finset.mem_filter, Finset.mem_filter]
  constructor
  · rintro ⟨hmem, hglob⟩
    exact ⟨(h.mem_keys (glob_own hid htext hglob)).mp hmem, hglob⟩
  · rintro ⟨hmem, hglob⟩
    exact ⟨(h.mem_keys (glob_own hid htext hglob)).mpr hmem, hglob⟩

/-- A data command changes its own keys only. -/
lemma exec_value_other (db : Database V) (args : List String)
    (hk : k ∉ documentedKeys args) : (db.exec redis args).2.value k = db.value k := by
  unfold Database.exec
  split
  · next hdata => exact redis.writes args db.value k hdata hk
  · rfl

variable (redis) in
lemma SameOn.exec {args : List String} (hdata : (documentedPositions args).isSome)
    (hown : ∀ k ∈ documentedKeys args, beginsWith k own)
    (h : SameOn own db db') : (db.exec redis args).1 = (db'.exec redis args).1 ∧
      SameOn own (db.exec redis args).2 (db'.exec redis args).2 := by
  obtain ⟨hreply, hkeys⟩ := redis.reads args db.value db'.value hdata fun k hk => h k (hown k hk)
  constructor
  · unfold Database.exec
    rw [dif_pos hdata, dif_pos hdata]
    exact hreply
  · intro k hk
    by_cases hmem : k ∈ documentedKeys args
    · unfold Database.exec
      rw [dif_pos hdata, dif_pos hdata]
      exact hkeys k hmem
    · rw [exec_value_other db args hmem, exec_value_other db' args hmem]
      exact h k hk

end

section
variable {V ρ : Type} {redis : Redis V ρ} {own : String} {cmd : Command} {cmds : List Command}

lemma execute_connection (hc : cmd.name ∈ connectionCommands) (hs : cmd.name ≠ "select")
    (dbs : Nat → Database V) (db : Nat) :
    execute redis dbs db cmd = (.value (redis.connection cmd.args), dbs, db) := by
  rw [execute, if_neg hs, if_pos hc]

lemma execute_db (hs : cmd.name ≠ "select") (dbs : Nat → Database V) (db : Nat) :
    (execute redis dbs db cmd).2.2 = db := by
  unfold execute
  rw [if_neg hs]
  split
  · rfl
  split
  · split <;> rfl
  · rfl

/-- Only the keys that a command touches change. -/
lemma execute_value_other (dbs : Nat → Database V) (hk : k ∉ touched redis (dbs 0) cmd) :
    ((execute redis dbs 0 cmd).2.1 0).value k = (dbs 0).value k := by
  unfold execute
  split
  · split
    · split <;> rfl
    · rfl
  split
  · rfl
  rename_i hconnection
  split
  · split <;> rfl
  rename_i hscan
  rw [touched, if_neg hconnection, if_neg hscan, List.mem_toFinset] at hk
  show (Function.update dbs 0 _ 0).value k = _
  rw [Function.update_self]
  exact exec_value_other (dbs 0) cmd.args hk

/-- What a command answers and leaves under the keys that begin with `own` is determined by what is
there under these keys. -/
def Determined (redis : Redis V ρ) (own : String) (cmd : Command) : Prop :=
  ∀ dbs dbs' : Nat → Database V, SameOn own (dbs 0) (dbs' 0) →
    (execute redis dbs 0 cmd).1 = (execute redis dbs' 0 cmd).1 ∧
      SameOn own ((execute redis dbs 0 cmd).2.1 0) ((execute redis dbs' 0 cmd).2.1 0)

/-- The command changes nothing under the keys that begin with `own`. -/
def Spares (redis : Redis V ρ) (own : String) (cmd : Command) : Prop :=
  ∀ dbs : Nat → Database V, SameOn own ((execute redis dbs 0 cmd).2.1 0) (dbs 0)

lemma determined_connection (hc : cmd.name ∈ connectionCommands) (hs : cmd.name ≠ "select") :
    Determined redis own cmd := by
  intro dbs dbs' h
  rw [execute_connection hc hs, execute_connection hc hs]
  exact ⟨rfl, h⟩

lemma spares_connection (hc : cmd.name ∈ connectionCommands) (hs : cmd.name ≠ "select") :
    Spares redis own cmd := by
  intro dbs
  rw [execute_connection hc hs]
  exact SameOn.refl own (dbs 0)

lemma Scoped.determined {id : Int} (hid : 0 < id) (hc : cmd.name ∉ connectionCommands)
    (h : Scoped id cmd) : Determined redis (workspaceKey id "") cmd := by
  have hselect : cmd.name ≠ "select" := fun heq => hc (heq ▸ by decide)
  intro dbs dbs' hsame
  unfold execute
  rw [if_neg hselect, if_neg hselect, if_neg hc, if_neg hc]
  cases h with
  | scan hname hown =>
    rw [if_pos hname, if_pos hname, hsame.scan hid hown]
    split <;> exact ⟨rfl, hsame⟩
  | data hscan hdata hown =>
    rw [if_neg hscan, if_neg hscan]
    obtain ⟨hreply, hleft⟩ := hsame.exec redis hdata hown
    dsimp only
    rw [hreply, Function.update_self, Function.update_self]
    exact ⟨rfl, hleft⟩

section
variable (hs : ∀ cmd ∈ cmds, cmd.name ≠ "select")
include hs

lemma executeAll_db (dbs : Nat → Database V) (db : Nat) :
    (executeAll redis dbs db cmds).2.2 = db := by
  induction cmds generalizing dbs db with
  | nil => rfl
  | cons cmd cmds ih =>
    obtain ⟨hcmd, hcmds⟩ := forall_mem_cons.mp hs
    exact (ih hcmds _ _).trans (execute_db hcmd dbs db)

lemma executeAll_determined
    (hd : ∀ cmd ∈ cmds, Determined redis own cmd) {dbs dbs' : Nat → Database V}
    (h : SameOn own (dbs 0) (dbs' 0)) :
    (executeAll redis dbs 0 cmds).1 = (executeAll redis dbs' 0 cmds).1 ∧
      SameOn own ((executeAll redis dbs 0 cmds).2.1 0) ((executeAll redis dbs' 0 cmds).2.1 0) := by
  induction cmds generalizing dbs dbs' with
  | nil => exact ⟨rfl, h⟩
  | cons cmd cmds ih =>
    obtain ⟨hcmd, hcmds⟩ := forall_mem_cons.mp hs
    obtain ⟨hdcmd, hdcmds⟩ := forall_mem_cons.mp hd
    obtain ⟨hfirst, hsame⟩ := hdcmd dbs dbs' h
    obtain ⟨hrest, hend⟩ := ih hcmds hdcmds hsame
    simp only [executeAll, execute_db hcmd]
    exact ⟨by rw [hfirst, hrest], hend⟩

lemma executeAll_spares
    (hd : ∀ cmd ∈ cmds, Spares redis own cmd) (dbs : Nat → Database V) :
    SameOn own ((executeAll redis dbs 0 cmds).2.1 0) (dbs 0) := by
  induction cmds generalizing dbs with
  | nil => exact SameOn.refl own (dbs 0)
  | cons cmd cmds ih =>
    obtain ⟨hcmd, hcmds⟩ := forall_mem_cons.mp hs
    obtain ⟨hdcmd, hdcmds⟩ := forall_mem_cons.mp hd
    simp only [executeAll, execute_db hcmd]
    exact (ih hcmds hdcmds _).trans (hdcmd dbs)

end

/-! ## Connections stay as they were opened -/

lemma serve_fresh (h : cmd.name ∉ statefulCommands) (dbs : Nat → Database V) :
    serve redis dbs .fresh cmd =
      (.answer (execute redis dbs 0 cmd).1, (execute redis dbs 0 cmd).2.1, .fresh) := by
  have hne : ∀ name ∈ statefulCommands, cmd.name ≠ name := fun name hname heq => h (heq ▸ hname)
  unfold serve
  rw [if_neg (hne "multi" (by decide)), if_neg (hne "exec" (by decide)),
    if_neg (hne "discard" (by decide))]
  show (_, _, Conn.mk (execute redis dbs 0 cmd).2.2 none) = _
  rw [execute_db (hne "select" (by decide))]
  rfl

lemma serveAll_fresh (h : ∀ cmd ∈ cmds, cmd.name ∉ statefulCommands) (dbs : Nat → Database V) :
    serveAll redis dbs .fresh cmds = ((executeAll redis dbs 0 cmds).1.map .answer,
      (executeAll redis dbs 0 cmds).2.1, .fresh) := by
  induction cmds generalizing dbs with
  | nil => rfl
  | cons cmd cmds ih =>
    obtain ⟨hcmd, hcmds⟩ := forall_mem_cons.mp h
    have hselect : cmd.name ≠ "select" := fun heq => hcmd (heq ▸ by decide)
    simp only [serveAll, executeAll, serve_fresh hcmd, ih hcmds, execute_db hselect, map_cons]

lemma serveAll_append (dbs : Nat → Database V) (conn : Conn) (cmds cmds' : List Command) :
    serveAll redis dbs conn (cmds ++ cmds') =
      let first := serveAll redis dbs conn cmds
      let second := serveAll redis first.2.1 first.2.2 cmds'
      (first.1 ++ second.1, second.2) := by
  induction cmds generalizing dbs conn with
  | nil => rfl
  | cons cmd cmds ih => simp only [cons_append, serveAll, ih]

lemma serveAll_queue (h : ∀ cmd ∈ cmds, cmd.name ∉ statefulCommands) (dbs : Nat → Database V)
    (queue : List Command) :
    (serveAll redis dbs ⟨0, some queue⟩ cmds).2 = (dbs, ⟨0, some (queue ++ cmds)⟩) := by
  induction cmds generalizing queue with
  | nil => rw [append_nil]; rfl
  | cons cmd cmds ih =>
    obtain ⟨hcmd, hcmds⟩ := forall_mem_cons.mp h
    have hne : ∀ name ∈ statefulCommands, cmd.name ≠ name :=
      fun name hname heq => hcmd (heq ▸ hname)
    have hfirst : serve redis dbs ⟨0, some queue⟩ cmd =
        (.queued, dbs, ⟨0, some (queue ++ [cmd])⟩) := by
      unfold serve
      rw [if_neg (hne "multi" (by decide)), if_neg (hne "exec" (by decide)),
        if_neg (hne "discard" (by decide))]
    simp only [serveAll, hfirst, ih hcmds, append_assoc, cons_append, nil_append]

/-- A transaction does what its commands do, and the connection is free again after it. -/
lemma serveAll_transaction (h : ∀ cmd ∈ cmds, cmd.name ∉ statefulCommands)
    (dbs : Nat → Database V) :
    transactionReplies (serveAll redis dbs .fresh (multiCommand :: cmds ++ [execCommand])).1 =
        (executeAll redis dbs 0 cmds).1.map .answer ∧
      (serveAll redis dbs .fresh (multiCommand :: cmds ++ [execCommand])).2 =
        ((executeAll redis dbs 0 cmds).2.1, .fresh) := by
  have hmulti : serve redis dbs .fresh multiCommand = (.answer .ok, dbs, ⟨0, some []⟩) := rfl
  have hexec : serve redis dbs ⟨0, some cmds⟩ execCommand =
      (.results (executeAll redis dbs 0 cmds).1, (executeAll redis dbs 0 cmds).2.1, .fresh) := by
    show (_, _, Conn.mk (executeAll redis dbs 0 cmds).2.2 none) = _
    rw [executeAll_db fun cmd hcmd heq => h cmd hcmd (heq ▸ by decide)]
    rfl
  have hqueue : (serveAll redis dbs ⟨0, some []⟩ cmds).2 = (dbs, ⟨0, some cmds⟩) :=
    serveAll_queue h dbs []
  rw [cons_append]
  simp only [serveAll, hmulti, serveAll_append dbs ⟨0, some []⟩, hqueue, hexec]
  rw [← cons_append, transactionReplies, List.getLast?_concat]
  exact ⟨rfl, trivial⟩

end

/-! ## Noninterference -/

/-- Every command of the request is isolated. -/
def ClientLabel.Isolated (l : ClientLabel) : Prop :=
  ∀ cmd ∈ l.request.commands, cmd.Isolated

instance (l : ClientLabel) : Decidable l.Isolated :=
  inferInstanceAs (Decidable (∀ cmd ∈ l.request.commands, cmd.Isolated))

/-- What workspace `id` asks for with the label. -/
def ownRequest (id : Int) (l : ClientLabel) : Option Request :=
  match fromContext l.ctx with
  | .ok identity => if identity.id = id then some l.request else none
  | .error _ => none

/-- The keys of workspace `id` and what is under them. -/
def keySpace {V : Type} (id : Int) (s : ClientState V) :
    { k : String // beginsWith k (workspaceKey id "") } → Option V :=
  fun k => (s.dbs 0).value k

/-- Every connection of the pool is as it was opened. -/
def PoolFresh {V : Type} (s : ClientState V) : Prop :=
  ∀ conn, s.conns conn = .fresh

section
variable {V ρ : Type} {redis : Redis V ρ} {s t : ClientState V} {l m : ClientLabel} {id : Int}
  {ctx ctx' : Option Identity} {cmds cmds' : List Command} {identity : Identity}

lemma keySpace_eq_iff : keySpace id s = keySpace id t ↔
    SameOn (workspaceKey id "") (s.dbs 0) (t.dbs 0) := by
  constructor
  · intro h k hk
    exact congrFun h ⟨k, hk⟩
  · intro h
    funext k
    exact h k.1 k.2

lemma ownRequest_eq_some {request : Request} (h : ownRequest id l = some request) :
    l.request = request ∧ ∃ identity, fromContext l.ctx = .ok identity ∧ identity.id = id := by
  unfold ownRequest at h
  split at h
  · next identity hctx =>
    split at h
    · next hid => exact ⟨some.inj h, identity, hctx, hid⟩
    · cases h
  · cases h

lemma ownRequest_eq_none (h : ownRequest id l = none)
    (hctx : fromContext l.ctx = .ok identity) : identity.id ≠ id := by
  intro hid
  unfold ownRequest at h
  rw [hctx] at h
  dsimp only at h
  rw [if_pos hid] at h
  cases h

lemma beforeProcess_congr (h : contextKey ctx = contextKey ctx') :
    beforeProcess ctx cmds = beforeProcess ctx' cmds := by
  induction cmds with
  | nil => rfl
  | cons cmd cmds ih => simp only [beforeProcess, scopeRedisCommand, h, ih]

lemma deliver_congr (h : contextKey ctx = contextKey ctx') (replies : List (Reply ρ)) :
    deliver ctx cmds replies = deliver ctx' cmds replies := by
  suffices hall : afterProcessAll ctx cmds replies = afterProcessAll ctx' cmds replies by
    rw [deliver, deliver, hall]
  induction cmds generalizing replies with
  | nil => rfl
  | cons cmd cmds ih =>
    cases replies with
    | nil => rfl
    | cons reply replies => simp only [afterProcessAll, afterProcess, h, ih]

/-- What holds of every command the hook makes of an isolated one holds of all that is sent. -/
lemma beforeProcess_forall {P : Command → Prop}
    (hP : ∀ cmd cmd', cmd.Isolated → scopeRedisCommand ctx cmd = .ok cmd' → P cmd')
    (hi : ∀ cmd ∈ cmds, cmd.Isolated) (h : beforeProcess ctx cmds = .ok cmds') :
    ∀ cmd ∈ cmds', P cmd := by
  induction cmds generalizing cmds' with
  | nil =>
    cases h
    exact nofun
  | cons cmd cmds ih =>
    obtain ⟨hcmd, hcmds⟩ := forall_mem_cons.mp hi
    unfold beforeProcess at h
    split at h
    · cases h
    rename_i sent hsent
    split at h
    · cases h
    rename_i rest hrest
    cases h
    exact forall_mem_cons.mpr ⟨hP cmd sent hcmd hsent, ih hcmds hrest⟩

lemma beforeProcess_stateless (hi : ∀ cmd ∈ cmds, cmd.Isolated)
    (h : beforeProcess ctx cmds = .ok cmds') : ∀ cmd ∈ cmds', cmd.name ∉ statefulCommands := by
  refine beforeProcess_forall (fun cmd cmd' hcmd hsent => ?_) hi h
  rw [(scopeRedisCommand_ok hcmd hsent).1]
  exact hcmd.1

lemma beforeProcess_determined (hctx : fromContext ctx = .ok identity)
    (hi : ∀ cmd ∈ cmds, cmd.Isolated) (h : beforeProcess ctx cmds = .ok cmds') :
    ∀ cmd ∈ cmds', Determined redis (workspaceKey identity.id "") cmd := by
  refine beforeProcess_forall (fun cmd cmd' hcmd hsent => ?_) hi h
  obtain ⟨hname, hconnection | ⟨hconnection, identity', hctx', hscoped⟩⟩ :=
    scopeRedisCommand_ok hcmd hsent
  · rw [← hname] at hconnection
    exact determined_connection hconnection fun heq => hcmd.1 (hname ▸ heq ▸ by decide)
  · obtain rfl := Except.ok.inj (hctx.symm.trans hctx')
    rw [← hname] at hconnection
    exact hscoped.determined (fromContext_pos hctx) hconnection

/-- A request of isolated commands is answered as if its commands were executed one by one, and
leaves the pool as it was. -/
lemma clientStep_sent (hs : PoolFresh s) (hl : l.Isolated)
    (h : beforeProcess l.ctx l.request.commands = .ok cmds) :
    clientStep redis s l =
      ({ s with dbs := (executeAll redis s.dbs 0 cmds).2.1 },
        deliver l.ctx cmds ((executeAll redis s.dbs 0 cmds).1.map .answer)) := by
  have hstateless := beforeProcess_stateless hl h
  have hconns : Function.update s.conns l.conn .fresh = s.conns := by
    rw [← hs l.conn, Function.update_eq_self]
  unfold clientStep
  rw [h, hs l.conn]
  rcases hrequest : l.request with cmd | sent | sent
  · simp only [serveAll_fresh hstateless, hconns]
  · simp only [serveAll_fresh hstateless, hconns]
  · have htransaction := @serveAll_transaction V ρ redis cmds hstateless s.dbs
    simp only [htransaction, hconns]

lemma clientStep_refused {e : ScopeError} (h : beforeProcess l.ctx l.request.commands = .error e) :
    clientStep redis s l = (s, l.request.commands.map fun _ => .refused e) := by
  unfold clientStep
  rw [h]

/-- The conditions of the unwinding theorem, for any workspace. -/
theorem client_unwinding (redis : Redis V ρ) (hid : 0 < id) :
    Unwinding (clientStep redis) (ownRequest id) (keySpace id) PoolFresh ClientLabel.Isolated where
  inv := by
    intro s l hs hl
    rcases h : beforeProcess l.ctx l.request.commands with e | cmds
    · rw [clientStep_refused h]
      exact hs
    · rw [clientStep_sent hs hl h]
      exact hs
  silent := by
    intro s l hs hl hown
    rcases h : beforeProcess l.ctx l.request.commands with e | cmds
    · rw [clientStep_refused h]
    rw [clientStep_sent hs hl h]
    have hstateless := beforeProcess_stateless hl h
    refine keySpace_eq_iff.mpr (executeAll_spares ?_ ?_ s.dbs)
    · intro cmd hcmd heq
      exact hstateless cmd hcmd (heq ▸ by decide)
    · refine beforeProcess_forall (fun cmd cmd' hcmd hsent => ?_) hl h
      obtain ⟨hname, hconnection | ⟨-, identity, hctx, hscoped⟩⟩ := scopeRedisCommand_ok hcmd hsent
      · rw [← hname] at hconnection
        exact spares_connection hconnection fun heq => hcmd.1 (hname ▸ heq ▸ by decide)
      · -- a command of one workspace changes nothing of another
        intro dbs k hk
        refine execute_value_other dbs fun hmem => ownRequest_eq_none hown hctx ?_
        have hpos := fromContext_pos hctx
        exact workspaceKey_disjoint hpos hid (hscoped.touched_own hpos (dbs 0) k hmem) hk
  answer := by
    intro s t l m request hs ht hl hm hown hown' hview
    obtain ⟨hrequest, identity, hctx, hid₁⟩ := ownRequest_eq_some hown
    obtain ⟨hrequest', identity', hctx', hid₂⟩ := ownRequest_eq_some hown'
    have hcontext : contextKey l.ctx = contextKey m.ctx := by
      funext key
      simp only [contextKey, hctx, hctx', hid₁.trans hid₂.symm]
    have hsame : l.request = m.request := hrequest.trans hrequest'.symm
    rcases h : beforeProcess l.ctx l.request.commands with e | cmds
    · have h' := h
      rw [beforeProcess_congr hcontext, hsame] at h'
      rw [clientStep_refused h, clientStep_refused h', hsame]
      exact ⟨rfl, hview⟩
    have h' := h
    rw [beforeProcess_congr hcontext, hsame] at h'
    rw [clientStep_sent hs hl h, clientStep_sent ht hm h']
    have hstateless := beforeProcess_stateless hl h
    have hdetermined : ∀ cmd ∈ cmds, Determined redis (workspaceKey id "") cmd := by
      rw [← hid₁]
      exact beforeProcess_determined hctx hl h
    obtain ⟨hanswers, hend⟩ := executeAll_determined
      (fun cmd hcmd heq => hstateless cmd hcmd (heq ▸ by decide)) hdetermined
      (keySpace_eq_iff.mp hview)
    refine ⟨?_, keySpace_eq_iff.mpr hend⟩
    rw [hanswers, deliver_congr hcontext]

/-- **Redis scoping isolates workspaces.** A command that is let through touches only keys of its own
workspace, and two runs in which a workspace issues the same give it the same replies and the same
key space, whatever the others issue. -/
theorem workspaces_isolated (redis : Redis V ρ) :
    (∀ (ctx : Option Identity) (cmd cmd' : Command), cmd.Isolated →
      scopeRedisCommand ctx cmd = .ok cmd' → ∀ dbs : Nat → Database V,
        (∀ k ∈ touched redis (dbs 0) cmd', ∃ identity, fromContext ctx = .ok identity ∧
          beginsWith k (workspaceKey identity.id "")) ∧
        ∀ k ∉ touched redis (dbs 0) cmd',
          ((execute redis dbs 0 cmd').2.1 0).value k = (dbs 0).value k) ∧
    ∀ (id : Int) (s t : ClientState V) (ls ms : List ClientLabel), 0 < id →
      PoolFresh s → PoolFresh t → (∀ l ∈ ls, l.Isolated) → (∀ m ∈ ms, m.Isolated) →
      ls.filterMap (ownRequest id) = ms.filterMap (ownRequest id) → keySpace id s = keySpace id t →
      replies (clientStep redis) (ownRequest id) s ls =
          replies (clientStep redis) (ownRequest id) t ms ∧
        keySpace id (final (clientStep redis) s ls) =
          keySpace id (final (clientStep redis) t ms) := by
  constructor
  · intro ctx cmd cmd' hcmd hsent dbs
    refine ⟨fun k hk => ?_, fun k => execute_value_other dbs⟩
    obtain ⟨hname, hconnection | ⟨-, identity, hctx, hscoped⟩⟩ := scopeRedisCommand_ok hcmd hsent
    · rw [touched, hname, if_pos hconnection] at hk
      cases hk
    · exact ⟨identity, hctx, hscoped.touched_own (fromContext_pos hctx) (dbs 0) k hk⟩
  · intro id s t ls ms hid hs ht hls hms hown hview
    exact (client_unwinding redis hid).noninterference hs ht hls hms hown hview

end

/-- Patterns in which only `*` is special. -/
def plainGlob : List Char → List Char → Bool
  | [], key => key.isEmpty
  | c :: pattern, key =>
    if c = '*' then key.tails.any (plainGlob pattern)
    else
      match key with
      | [] => false
      | d :: rest => c == d && plainGlob pattern rest

/-- `SET` stores its second argument, every other command reads its keys. -/
def plainRedis : Redis String (List (Option String)) where
  exec args db :=
    if lower (args.headD "") = "set" then
      ([], fun k => if k ∈ documentedKeys args then args[2]? else db k)
    else ((documentedKeys args).map db, db)
  connection _ := []
  glob := plainGlob
  writes := by
    intro args db k _ hk
    split
    · exact if_neg hk
    · rfl
  reads := by
    intro args db db' _ h
    split
    · refine ⟨rfl, fun k hk => ?_⟩
      show (if _ then _ else _) = (if _ then _ else _)
      rw [if_pos hk, if_pos hk]
    · exact ⟨map_congr_left h, h⟩
  glob_literal := by
    intro c pattern key hc h
    have hstar : c ≠ '*' := fun heq => hc (heq ▸ by decide)
    unfold plainGlob at h
    rw [if_neg hstar] at h
    cases key with
    | nil => cases h
    | cons d rest =>
      obtain ⟨hcd, hrest⟩ := (Bool.and_eq_true _ _).mp h
      obtain rfl := eq_of_beq hcd
      exact ⟨rest, rfl, hrest⟩

def emptyState : ClientState String where
  dbs _ := { value := fun _ => none, keys := ∅, mem_keys := by simp }
  conns _ := .fresh

/-- A command that workspace `id` sends on the first connection. -/
def sends (id : Int) (args : List String) : ClientLabel where
  ctx := some { id := id, slug := "" }
  conn := 0
  request := .pipeline [{ args := args, isScanCmd := false }]

theorem workspaces_isolated_plain :
    replies (clientStep plainRedis) (ownRequest 1) emptyState
        [sends 1 ["SET", "a", "x"], sends 11 ["SET", "a", "y"], sends 1 ["SCAN", "0", "MATCH", "*"]] =
      replies (clientStep plainRedis) (ownRequest 1) emptyState
        [sends 1 ["SET", "a", "x"], sends 1 ["SCAN", "0", "MATCH", "*"]] :=
  ((workspaces_isolated plainRedis).2 1 emptyState emptyState _ _ (by decide) (fun _ => rfl)
    (fun _ => rfl) (by decide) (by decide) (by decide) rfl).1

/-- Workspace 2 stores a key and workspace 1 finds it by a scan with a second pattern; workspace 2
selects another database and workspace 1 no longer finds its own key. -/
theorem second_pattern_and_select_interfere :
    let interferes := fun (l : ClientLabel) (ls ms : List ClientLabel) =>
      ownRequest 1 l = none ∧
        replies (clientStep plainRedis) (ownRequest 1) emptyState (ls ++ l :: ms) ≠
          replies (clientStep plainRedis) (ownRequest 1) emptyState (ls ++ ms)
    interferes (sends 2 ["set", "secret", "x"]) []
        [sends 1 ["scan", "0", "match", "a", "match", "*"]] ∧
      interferes (sends 2 ["select", "3"]) [sends 1 ["set", "a", "x"]] [sends 1 ["get", "a"]] := by
  decide +kernel

end NewApi.Tenant
