import NewApi.Platform.Domain
import NewApi.Utils.Pool
import NewApi.Utils.Runs

/-!
# A host leads to at most one workspace

Which host belongs to which workspace is safe in every interleaving, since the unique index decides
it: `HostsSafe`. The limit of hosts and the tie between a wildcard host and its domain rest on counts
that a transaction takes before it writes (`HostsKept`).
-/

namespace NewApi.Platform
open Tenant Runs List Table DomainState Nat

variable {server : HostServer} {s s' t : DomainState} {tenantID : Nat} {label : DomainLabel}

/-! ## What is stated -/

/-- A verified row leads from the host to the workspace. -/
def DomainState.Leads (s : DomainState) (host : String) (tenantID : Nat) : Prop :=
  ∃ b ∈ s.hosts.rows, b.host = host ∧ b.status = .verified ∧ b.tenantID = tenantID

/-- The answers of the resolver contain the token of the row, or, with the `CNAME` method, point at the
token target or at a verified host of the same workspace. -/
def Lookup.Proves (server : HostServer) (l : Lookup) : Prop :=
  l.binding.verificationToken ≠ "" ∧
    match l.binding.verificationMethod with
    | some .cname => ∃ cname ∈ l.dns.cname,
        canonicalName server cname
            = canonicalName server (l.binding.verificationToken ++ "." ++ server.verifyTarget) ∨
          ∃ b ∈ l.hosts, b.tenantID = l.binding.tenantID ∧ b.status = .verified ∧
            b.id ≠ l.binding.id ∧ canonicalName server cname = b.host
    | _ => ∃ record ∈ l.dns.txt.getD [], recordValue record = l.binding.verificationToken

/-- A verification of this very row has seen such answers. -/
def DomainState.Evidenced (server : HostServer) (s : DomainState) (b : Host) : Prop :=
  ∃ l ∈ s.lookups, l.binding = { b with status := .pending } ∧ l.Proves server

structure HostsSafe (server : HostServer) (s : DomainState) : Prop where
  at_most_one : ∀ host tenantID tenantID', s.Leads host tenantID → s.Leads host tenantID' →
    tenantID = tenantID'
  resolved : ∀ request tenantID, workspaceByHost server s request = some tenantID →
    ∃ host, normalizeHost server.text request = some host ∧ host ≠ server.platformHost ∧
      s.Leads host tenantID
  not_platform : ∀ tenantID, ¬ s.Leads server.platformHost tenantID
  evidenced : ∀ b ∈ s.hosts.rows, b.kind = .custom → b.status = .verified → s.Evidenced server b

structure HostsKept (hosts : Hosts) (domains : WildcardDomains) : Prop where
  wildcard : ∀ b ∈ hosts.rows, b.kind = .wildcard → ∃ d ∈ domains.rows,
    b.wildcardDomainID = some d.id ∧ b.host = b.label ++ "." ++ d.domain
  limit : ∀ tenantID, hosts.countOf tenantID ≤ maxHostsPerWorkspace

/-- What was counted and read still holds at the commit. An insert finds room in the workspace and the
wildcard domain under the name that was read; a domain that is renamed or deleted has no hosts. A
commit that the unique index refuses changes nothing. -/
def StillHolds (s : DomainState) : DomainLabel → Prop
  | .insert i => ∀ c b d, s.creations[i]? = some c → c.stage = .checked b d →
      (∃ b' ∈ s.hosts.rows, b'.host = b.host) ∨
        s.hosts.countOf c.tenantID < maxHostsPerWorkspace ∧
          ∀ x ∈ d, ∃ y ∈ s.domains.rows, y.id = x.id ∧ y.domain = x.domain
  | .adminCommit => ∀ tx, s.admin = some tx →
      match tx.write with
      | .insert _ _ => True
      | .update id name _ => s.hosts.used id = 0 ∨ ∀ row, s.domains.get? id = some row →
          ∀ n ∈ name, row.domain = n ∨ s.domains.hasOther id n = true
      | .delete id => s.hosts.used id = 0
  | _ => True

/-- The commits before the first statement of the transaction that the label commits. -/
def DomainState.firstRead (s : DomainState) : DomainLabel → Option Nat
  | .insert i => s.creations[i]?.map Creation.version
  | .adminCommit => s.admin.map AdminTx.version
  | _ => none

/-- No other transaction has committed since the first statement of the one that commits. -/
def Serial (s : DomainState) (label : DomainLabel) : Prop :=
  ∀ version ∈ s.firstRead label, version = s.version

instance (s : DomainState) (label : DomainLabel) : Decidable (Serial s label) :=
  inferInstanceAs (Decidable (∀ _ ∈ _, _ = _))

/-! ## The rows that are inserted -/

/-- What a transaction knows of the row it is going to insert. -/
structure BindingOk (server : HostServer) (tenantID : Nat) (b : Host) (d : Option WildcardDomain) :
    Prop where
  tenant : b.tenantID = tenantID
  host : b.host ≠ server.platformHost
  wildcard : ∀ x ∈ d, b.kind = .wildcard ∧ b.wildcardDomainID = some x.id ∧
    b.host = b.label ++ "." ++ x.domain
  custom : d = none → b.kind = .custom ∧ b.wildcardDomainID = none ∧ b.status = .pending ∧
    b.verificationMethod ≠ none

variable {b : Host} {d : Option WildcardDomain} {domains : WildcardDomains} {α : Type}
  {c : Creation}

/-- A host that is custom is not one of a wildcard domain. -/
lemma BindingOk.of_custom
    (h : BindingOk server tenantID b d) (hkind : b.kind = .custom) :
    b.kind = .custom ∧ b.wildcardDomainID = none ∧ b.status = .pending ∧
      b.verificationMethod ≠ none := by
  cases d with
  | none => exact h.custom rfl
  | some x =>
    have hwild := (h.wildcard x rfl).1
    rw [hkind] at hwild
    cases hwild

lemma wildcardBinding_ok (htext : server.text.Documented) {domain : WildcardDomain}
    {slug label : String} (h : wildcardBinding server domain tenantID slug label = .ok b) :
    BindingOk server tenantID b (some domain) := by
  unfold wildcardBinding at h
  dsimp only at h
  generalize (if trimSpace (server.text.toLower label) = "" then slug
    else trimSpace (server.text.toLower label)) = used at h
  split_ifs at h with hvalid hreserved
  split at h
  · cases h
  rename_i host hhost
  cases h
  have heq := wildcardHost_eq htext hhost
  refine ⟨rfl, ?_, ?_, nofun⟩
  · intro hplatform
    -- the prefix of the platform's own host is reserved
    apply hreserved
    have hlabel : prefixForDomain server.platformHost domain.domain = used := by
      rw [← hplatform, heq, prefixForDomain_append hvalid]
    unfold HostServer.reservedPrefixes
    dsimp only
    rw [hlabel, if_pos (ne_empty_of_validPrefix hvalid)]
    exact mem_append_right _ mem_cons_self
  · intro x hx
    cases hx
    exact ⟨rfl, rfl, heq⟩

lemma customBinding_ok {raw method : String}
    (h : customBinding server domains tenantID raw method = .ok b) :
    BindingOk server tenantID b none := by
  unfold customBinding at h
  split at h
  · cases h
  rename_i host _
  dsimp only at h
  split_ifs at h with hplatform _ hmethod hmethod
  all_goals
    cases h
    exact ⟨rfl, fun heq => hplatform (.inl heq), nofun, fun _ => ⟨rfl, rfl, rfl, nofun⟩⟩

/-- What a computation that succeeds has gone through. -/
lemma of_bind_ok {ε β : Type} {e : Except ε α} {f : α → Except ε β} {y : β}
    (h : (e >>= f) = .ok y) : ∃ x, e = .ok x ∧ f x = .ok y := by
  cases e with
  | error err => cases h
  | ok x => exact ⟨x, rfl, h⟩

lemma provision_ok (htext : server.text.Documented) (h : s.provision server c = .ok (b, d)) :
    BindingOk server c.tenantID b d ∧ ∀ x ∈ d, x ∈ s.domains.rows := by
  unfold provision at h
  dsimp only at h
  split_ifs at h
  · obtain ⟨x, hdomain, h⟩ := of_bind_ok h
    obtain ⟨b', hbinding, ⟨⟩⟩ := of_bind_ok h
    refine ⟨wildcardBinding_ok htext hbinding, ?_⟩
    intro y hy
    cases hy
    unfold enabledWildcard at hdomain
    split_ifs at hdomain
    all_goals
      split at hdomain
      · next hfind =>
        cases hdomain
        exact mem_of_find?_eq_some hfind
      · cases hdomain
  · obtain ⟨b', hbinding, ⟨⟩⟩ := of_bind_ok h
    exact ⟨customBinding_ok hbinding, nofun⟩

/-! ## The invariant -/

/-- The part about the database. -/
structure DbInv (server : HostServer) (s : DomainState) : Prop where
  unique : ∀ b ∈ s.hosts.rows, ∀ b' ∈ s.hosts.rows, b.host = b'.host → b = b'
  host_ne : ∀ b ∈ s.hosts.rows, b.host ≠ server.platformHost
  custom : ∀ b ∈ s.hosts.rows, b.kind = .custom →
    b.wildcardDomainID = none ∧ b.verificationMethod ≠ none
  host_lt : ∀ b ∈ s.hosts.rows, b.id < s.nextHost
  tenant_lt : ∀ b ∈ s.hosts.rows, b.tenantID < s.nextWorkspace
  workspace_lt : ∀ w ∈ s.workspaces, w < s.nextWorkspace
  domain_lt : ∀ d ∈ s.domains.rows, d.id < s.nextDomain
  evidenced : ∀ b ∈ s.hosts.rows, b.kind = .custom → b.status = .verified → s.Evidenced server b

/-- The part about one row. -/
structure RowOk (server : HostServer) (s : DomainState) (b : Host) : Prop where
  host_ne : b.host ≠ server.platformHost
  custom : b.kind = .custom → b.wildcardDomainID = none ∧ b.verificationMethod ≠ none
  host_lt : b.id < s.nextHost
  tenant_lt : b.tenantID < s.nextWorkspace
  evidenced : b.kind = .custom → b.status = .verified → s.Evidenced server b

lemma DbInv.row (h : DbInv server s) (hb : b ∈ s.hosts.rows) : RowOk server s b :=
  ⟨h.host_ne b hb, h.custom b hb, h.host_lt b hb, h.tenant_lt b hb, h.evidenced b hb⟩

def CreateStage.binding? : CreateStage → Option (Host × Option WildcardDomain)
  | .chosen b d => some (b, d)
  | .checked b d => some (b, d)
  | _ => none

/-- What a transaction has read holds as long as no other one commits. -/
structure CreationOk (server : HostServer) (s : DomainState) (c : Creation) : Prop where
  tenant : c.tenantID < s.nextWorkspace
  version : c.version ≤ s.version
  room : c.version = s.version → s.hosts.countOf c.tenantID < maxHostsPerWorkspace
  binding : ∀ b d, c.stage.binding? = some (b, d) → BindingOk server c.tenantID b d
  domain : ∀ b d, c.stage.binding? = some (b, d) → c.version = s.version → ∀ x ∈ d,
    x ∈ s.domains.rows

/-- The row that was read is the one of the database but for its status, as long as it is there. -/
structure VerificationOk (server : HostServer) (s : DomainState) (v : Verification) : Prop where
  id_lt : v.binding.id < s.nextHost
  custom : v.binding.kind = .custom ∧ v.binding.verificationMethod ≠ none
  row : ∀ b ∈ s.hosts.rows, b.id = v.binding.id → { b with status := .pending } = v.binding
  aliased : ∀ dns, v.stage = .aliased dns →
    v.binding.verificationToken ≠ "" ∧ v.binding.verificationMethod = some .cname
  proven : v.stage = .proven → ∃ l ∈ s.lookups, l.binding = v.binding ∧ l.Proves server

def AdminOk (s : DomainState) (tx : AdminTx) : Prop :=
  tx.version ≤ s.version ∧ (tx.version = s.version →
    match tx.write with
    | .insert _ _ => True
    | .update id name _ => s.hosts.used id = 0 ∨ ∀ row, s.domains.get? id = some row →
        ∀ n ∈ name, row.domain = n
    | .delete id => s.hosts.used id = 0)

structure DomainInv (server : HostServer) (s : DomainState) : Prop where
  db : DbInv server s
  creations : ∀ c ∈ s.creations, CreationOk server s c
  verifications : ∀ v ∈ s.verifications, VerificationOk server s v
  admin : ∀ tx ∈ s.admin, AdminOk s tx

/-- What a step can do to the parts that the transactions under way have read. -/
structure Moved (s s' : DomainState) : Prop where
  workspace_le : s.nextWorkspace ≤ s'.nextWorkspace
  host_le : s.nextHost ≤ s'.nextHost
  rows : ∀ b' ∈ s'.hosts.rows, b'.id < s.nextHost → ∃ b ∈ s.hosts.rows,
    { b' with status := HostStatus.pending } = { b with status := HostStatus.pending }
  lookups : ∀ l ∈ s.lookups, l ∈ s'.lookups
  commit : s'.hosts = s.hosts ∧ s'.domains = s.domains ∧ s'.version = s.version ∨
    s.version < s'.version

lemma CreationOk.of_moved (h : CreationOk server s c) (hmoved : Moved s s') :
    CreationOk server s' c where
  tenant := lt_of_lt_of_le h.tenant hmoved.workspace_le
  version := by
    have hle := h.version
    rcases hmoved.commit with ⟨-, -, hversion⟩ | hlt <;> omega
  room := by
    intro heq
    have hle := h.version
    rcases hmoved.commit with ⟨hhosts, -, hversion⟩ | hlt
    · rw [hhosts]
      exact h.room (heq.trans hversion)
    · omega
  binding := h.binding
  domain := by
    intro b d hstage heq
    have hle := h.version
    rcases hmoved.commit with ⟨-, hdomains, hversion⟩ | hlt
    · rw [hdomains]
      exact h.domain b d hstage (heq.trans hversion)
    · omega

lemma VerificationOk.of_moved {v : Verification} (h : VerificationOk server s v)
    (hmoved : Moved s s') : VerificationOk server s' v :=
  { h with
    id_lt := lt_of_lt_of_le h.id_lt hmoved.host_le
    row := by
      intro b' hb' hid
      obtain ⟨b, hb, heq⟩ := hmoved.rows b' hb' (hid ▸ h.id_lt)
      have hsame : b.id = b'.id := (congrArg Host.id heq).symm
      rw [heq]
      exact h.row b hb (hsame.trans hid)
    proven := by
      intro hstage
      obtain ⟨l, hl, hproves⟩ := h.proven hstage
      exact ⟨l, hmoved.lookups l hl, hproves⟩ }

lemma AdminOk.of_moved {tx : AdminTx} (h : AdminOk s tx) (hmoved : Moved s s') : AdminOk s' tx := by
  obtain ⟨hle, hread⟩ := h
  rcases hmoved.commit with ⟨hhosts, hdomains, hversion⟩ | hlt
  · unfold AdminOk
    rw [hhosts, hdomains, hversion]
    exact ⟨hle, hread⟩
  refine ⟨by omega, ?_⟩
  intro heq
  omega

/-- A step that writes neither hosts nor domains. -/
lemma Moved.quiet (hhosts : s'.hosts = s.hosts) (hdomains : s'.domains = s.domains)
    (hversion : s'.version = s.version) (hworkspace : s.nextWorkspace ≤ s'.nextWorkspace)
    (hhost : s'.nextHost = s.nextHost) (hlookups : ∀ l ∈ s.lookups, l ∈ s'.lookups) : Moved s s' where
  workspace_le := hworkspace
  host_le := le_of_eq hhost.symm
  rows := by
    intro b' hb' _
    rw [hhosts] at hb'
    exact ⟨b', hb', rfl⟩
  lookups := hlookups
  commit := .inl ⟨hhosts, hdomains, hversion⟩

/-- The rows that stay are sound, so only those that are written have to be looked at. -/
lemma DbInv.of_moved (h : DbInv server s) (hmoved : Moved s s')
    (hunique : ∀ b ∈ s'.hosts.rows, ∀ b' ∈ s'.hosts.rows, b.host = b'.host → b = b')
    (hrows : ∀ b ∈ s'.hosts.rows, b ∈ s.hosts.rows ∨ RowOk server s' b)
    (hworkspaces : ∀ w ∈ s'.workspaces, w < s'.nextWorkspace)
    (hdomains : ∀ d ∈ s'.domains.rows, d.id < s'.nextDomain) : DbInv server s' := by
  have hrow : ∀ b ∈ s'.hosts.rows, RowOk server s' b := by
    intro b hb
    rcases hrows b hb with hold | hnew
    · have hok := h.row hold
      refine ⟨hok.host_ne, hok.custom, lt_of_lt_of_le hok.host_lt hmoved.host_le,
        lt_of_lt_of_le hok.tenant_lt hmoved.workspace_le, ?_⟩
      intro hkind hstatus
      obtain ⟨l, hl, hproves⟩ := hok.evidenced hkind hstatus
      exact ⟨l, hmoved.lookups l hl, hproves⟩
    · exact hnew
  exact
    { unique := hunique
      host_ne := fun b hb => (hrow b hb).host_ne
      custom := fun b hb => (hrow b hb).custom
      host_lt := fun b hb => (hrow b hb).host_lt
      tenant_lt := fun b hb => (hrow b hb).tenant_lt
      workspace_lt := hworkspaces
      domain_lt := hdomains
      evidenced := fun b hb => (hrow b hb).evidenced }

/-- The induction step: the database is sound again, and the transactions and requests that have not
moved keep what they have read. -/
lemma DomainInv.of_moved (h : DomainInv server s) (hdb : DbInv server s') (hmoved : Moved s s')
    (hcreations : ∀ c ∈ s'.creations, c ∈ s.creations ∨ CreationOk server s' c)
    (hverifications : ∀ v ∈ s'.verifications, v ∈ s.verifications ∨ VerificationOk server s' v)
    (hadmin : ∀ tx ∈ s'.admin, tx ∈ s.admin ∨ AdminOk s' tx) : DomainInv server s' where
  db := hdb
  creations := by
    intro c hc
    rcases hcreations c hc with hold | hnew
    · exact (h.creations c hold).of_moved hmoved
    · exact hnew
  verifications := by
    intro v hv
    rcases hverifications v hv with hold | hnew
    · exact (h.verifications v hold).of_moved hmoved
    · exact hnew
  admin := by
    intro tx htx
    rcases hadmin tx htx with hold | hnew
    · exact (h.admin tx hold).of_moved hmoved
    · exact hnew

/-- Of the transactions under way only the one that moves has to be looked at. -/
lemma mem_set_or {xs : List α} {i : Nat} {c : α} {P : α → Prop} (hc : P c) :
    ∀ x ∈ xs.set i c, x ∈ xs ∨ P x := by
  intro x hx
  rcases mem_or_eq_of_mem_set hx with hold | rfl
  · exact .inl hold
  · exact .inr hc

lemma mem_append_or {xs : List α} {c : α} {P : α → Prop} (hc : P c) :
    ∀ x ∈ xs ++ [c], x ∈ xs ∨ P x := by
  intro x hx
  rcases mem_append.mp hx with hold | hnew
  · exact .inl hold
  · rw [mem_singleton.mp hnew]
    exact .inr hc

/-! ## Creating hosts -/

section
variable {i : Nat} {c : Creation} {b : Host} {d : Option WildcardDomain}

/-- A transaction that moves on without a commit. -/
lemma DomainInv.setCreation (h : DomainInv server s) (hc : CreationOk server s c) :
    DomainInv server (s.setCreation i c) := by
  have hmoved : Moved s (s.setCreation i c) := .quiet rfl rfl rfl (le_refl _) rfl fun _ hl => hl
  refine h.of_moved ?_ hmoved (mem_set_or (hc.of_moved hmoved)) (fun _ => .inl)
    (fun _ => .inl)
  exact h.db.of_moved hmoved h.db.unique (fun _ => .inl) h.db.workspace_lt h.db.domain_lt

lemma CreationOk.withStage {stage : CreateStage} (h : CreationOk server s c)
    (hbinding : ∀ b d, stage.binding? = some (b, d) → BindingOk server c.tenantID b d)
    (hdomain : ∀ b d, stage.binding? = some (b, d) → c.version = s.version →
      ∀ x ∈ d, x ∈ s.domains.rows) :
    CreationOk server s { c with stage } :=
  { h with
    binding := hbinding
    domain := hdomain }

lemma CreationOk.toDone (h : CreationOk server s c) : CreationOk server s { c with stage := .done } :=
  h.withStage (nofun)
    (nofun)

/-- A transaction that has just begun. -/
lemma creationOk_counted {slug : String} {opens : Bool} {input : HostInput}
    (htenant : tenantID < s.nextWorkspace)
    (hroom : s.hosts.countOf tenantID < maxHostsPerWorkspace) :
    CreationOk server s ⟨tenantID, slug, opens, input, s.version, .counted⟩ where
  tenant := htenant
  version := le_refl _
  room := fun _ => hroom
  binding := nofun
  domain := nofun

section
variable (h : DomainInv server s)
include h

lemma DomainInv.newCreation {next : Nat} (hnext : s.nextWorkspace ≤ next)
    (hc : CreationOk server { s with nextWorkspace := next, creations := s.creations ++ [c] } c) :
    DomainInv server { s with nextWorkspace := next, creations := s.creations ++ [c] } := by
  have hmoved : Moved s { s with nextWorkspace := next, creations := s.creations ++ [c] } :=
    .quiet rfl rfl rfl hnext rfl fun _ hl => hl
  refine h.of_moved ?_ hmoved (mem_append_or hc) (fun _ => .inl) (fun _ => .inl)
  exact h.db.of_moved hmoved h.db.unique (fun _ => .inl)
    (fun w hw => lt_of_lt_of_le (h.db.workspace_lt w hw) hnext) h.db.domain_lt

lemma DomainInv.openWorkspace (slug : String) (input : HostInput) :
    DomainInv server { s with
      nextWorkspace := s.nextWorkspace + 1
      creations := s.creations ++
        [⟨s.nextWorkspace, slug, true, input, s.version, .counted⟩] } := by
  apply h.newCreation (Nat.le_succ _)
  apply creationOk_counted (Nat.lt_succ_self _)
  -- no row belongs to a workspace that is not there yet
  have hzero : s.hosts.countOf s.nextWorkspace = 0 := by
    apply countP_eq_zero.mpr
    intro b hb
    rw [decide_eq_true_eq]
    exact Nat.ne_of_lt (h.db.tenant_lt b hb)
  show s.hosts.countOf s.nextWorkspace < maxHostsPerWorkspace
  rw [hzero]
  decide

lemma DomainInv.count (slug : String) (input : HostInput)
    (hmem : tenantID ∈ s.workspaces) (hroom : s.hosts.countOf tenantID < maxHostsPerWorkspace) :
    DomainInv server { s with
      creations := s.creations ++ [⟨tenantID, slug, false, input, s.version, .counted⟩] } :=
  h.newCreation (le_refl _) (creationOk_counted (h.db.workspace_lt _ hmem) hroom)

/-- A transaction that opens a workspace and commits. -/
lemma workspace_lt_commit (hc : CreationOk server s c) :
    ∀ w ∈ (s.commitWorkspace c).workspaces, w < s.nextWorkspace := by
  intro w hw
  unfold commitWorkspace at hw
  split_ifs at hw
  · rcases mem_append.mp hw with hold | hnew
    · exact h.db.workspace_lt w hold
    · rw [mem_singleton.mp hnew]
      exact hc.tenant
  · exact h.db.workspace_lt w hw

end

lemma DomainInv.choose (htext : server.text.Documented) (h : DomainInv server s)
    (hc : CreationOk server s c) : DomainInv server (s.choose server i c) := by
  unfold DomainState.choose
  split
  · next b d hprovision =>
    obtain ⟨hbinding, hdomain⟩ := provision_ok htext hprovision
    apply h.setCreation
    apply hc.withStage
    · rintro _ _ ⟨⟩
      exact hbinding
    · rintro _ _ ⟨⟩ _
      exact hdomain
  rename_i e _
  split_ifs
  · have hmoved : Moved s { (s.commitWorkspace c).setCreation i { c with stage := .done } with
        version := s.version + 1 } :=
      ⟨le_refl _, le_refl _, fun b hb _ => ⟨b, hb, rfl⟩, fun _ hl => hl,
        .inr (lt_succ_self _)⟩
    refine h.of_moved ?_ hmoved (mem_set_or (hc.toDone.of_moved hmoved)) (fun _ => .inl)
      (fun _ => .inl)
    exact h.db.of_moved hmoved h.db.unique (fun _ => .inl) (workspace_lt_commit h hc)
      h.db.domain_lt
  · exact h.setCreation hc.toDone

lemma DomainInv.check (h : DomainInv server s) (hc : CreationOk server s c)
    (hstage : c.stage = .chosen b d) (token : String) :
    DomainInv server (s.check i c b d token) := by
  have hread : c.stage.binding? = some (b, d) := by
    rw [hstage]
    rfl
  have hb := hc.binding b d hread
  have htoken : BindingOk server c.tenantID { b with verificationToken := token } d :=
    { hb with }
  unfold DomainState.check
  split_ifs
  · exact h.setCreation hc.toDone
  · apply h.setCreation
    apply hc.withStage
    · rintro _ _ ⟨⟩
      exact htoken
    · rintro _ _ ⟨⟩
      exact hc.domain b d hread
  apply h.setCreation
  apply hc.withStage
  · rintro _ _ ⟨⟩
    exact hb
  · rintro _ _ ⟨⟩
    exact hc.domain b d hread

/-- The rows after an insert. -/
lemma mem_hosts_insert {r : Host} (hr : r ∈ (s.hosts.save { b with id := s.nextHost }).rows) :
    r = { b with id := s.nextHost } ∨ r ∈ s.hosts.rows :=
  (mem_save hr).imp_right And.left

lemma DomainInv.insert (h : DomainInv server s) (hc : CreationOk server s c)
    (hstage : c.stage = .checked b d) : DomainInv server (s.insert i c b) := by
  have hb : BindingOk server c.tenantID b d := hc.binding b d (by rw [hstage]; rfl)
  unfold DomainState.insert
  split_ifs with htaken
  · exact h.setCreation hc.toDone
  have hfree : ∀ r ∈ s.hosts.rows, r.host ≠ b.host := by
    intro r hr heq
    apply htaken
    rw [any_eq_true]
    exact ⟨r, hr, decide_eq_true heq⟩
  have hmoved : Moved s { (s.commitWorkspace c).setCreation i { c with stage := .done } with
      hosts := s.hosts.save { b with id := s.nextHost }
      nextHost := s.nextHost + 1
      version := s.version + 1 } := by
    refine ⟨le_refl _, le_succ _, ?_, fun _ hl => hl, .inr (lt_succ_self _)⟩
    intro r hr hlt
    rcases mem_hosts_insert hr with rfl | hold
    · exact absurd hlt (lt_irrefl _)
    · exact ⟨r, hold, rfl⟩
  refine h.of_moved ?_ hmoved (mem_set_or (hc.toDone.of_moved hmoved)) (fun _ => .inl)
    (fun _ => .inl)
  refine h.db.of_moved hmoved ?_ ?_ (workspace_lt_commit h hc) h.db.domain_lt
  · intro r hr r' hr' heq
    rcases mem_hosts_insert hr with rfl | hold
    · rcases mem_hosts_insert hr' with rfl | hold'
      · rfl
      · exact absurd heq.symm (hfree r' hold')
    rcases mem_hosts_insert hr' with rfl | hold'
    · exact absurd heq (hfree r hold)
    · exact h.db.unique r hold r' hold' heq
  · intro r hr
    rcases mem_hosts_insert hr with rfl | hold
    · refine .inr ⟨hb.host, ?_, lt_succ_self _, lt_of_eq_of_lt hb.tenant hc.tenant, ?_⟩
      · intro hkind
        exact ⟨(hb.of_custom hkind).2.1, (hb.of_custom hkind).2.2.2⟩
      · -- a new custom host is pending
        intro hkind hstatus
        have hpending := (hb.of_custom hkind).2.2.1
        rw [show b.status = .verified from hstatus] at hpending
        cases hpending
    · exact .inl hold

end

/-! ## Verifying hosts -/

section
variable {j : Nat} {v : Verification} {dns : Dns} {b : Host}

lemma lookupDomain_aliased {dns' : Dns} (hmethod : b.verificationMethod ≠ none)
    (h : lookupDomain server dns b = .aliased dns') :
    dns' = dns ∧ b.verificationToken ≠ "" ∧ b.verificationMethod = some .cname := by
  unfold lookupDomain at h
  split_ifs at h with htoken _ htxt
  split at h
  · cases h
  split_ifs at h
  cases h
  refine ⟨rfl, htoken, ?_⟩
  cases hm : b.verificationMethod with
  | none => exact absurd hm hmethod
  | some m =>
    cases m with
    | txt => exact absurd hm htxt
    | cname => rfl

lemma lookupDomain_proven (hmethod : b.verificationMethod ≠ none)
    (h : lookupDomain server dns b = .proven) (hosts : List Host) :
    Lookup.Proves server ⟨b, dns, hosts⟩ := by
  unfold lookupDomain at h
  split_ifs at h with htoken hrecord htxt
  · obtain ⟨hcname, hany⟩ := hrecord
    rw [any_eq_true] at hany
    obtain ⟨record, hmem, hvalue⟩ := hany
    refine ⟨htoken, ?_⟩
    split
    · next hm => exact absurd hm hcname
    · exact ⟨record, hmem, of_decide_eq_true hvalue⟩
  split at h
  · cases h
  rename_i cname hcname
  split_ifs at h with htarget
  refine ⟨htoken, ?_⟩
  split
  · exact ⟨cname, hcname, .inl htarget⟩
  rename_i m hm
  cases hm' : b.verificationMethod with
  | none => exact absurd hm' hmethod
  | some m =>
    cases m with
    | txt => exact absurd hm' htxt
    | cname => exact absurd hm' hm

lemma lookupAliases_proven {hosts : Hosts} (htoken : b.verificationToken ≠ "")
    (hmethod : b.verificationMethod = some .cname)
    (h : lookupAliases server hosts b dns = .proven) :
    Lookup.Proves server ⟨b, dns, hosts.rows⟩ := by
  unfold lookupAliases at h
  split_ifs at h with hany
  rw [any_eq_true] at hany
  obtain ⟨r, hr, hmatch⟩ := hany
  obtain ⟨htenant, hstatus, hid, hname⟩ := of_decide_eq_true hmatch
  obtain ⟨cname, hcname, heq⟩ := Option.map_eq_some_iff.mp hname
  refine ⟨htoken, ?_⟩
  show match b.verificationMethod with
    | some .cname => _
    | _ => _
  rw [hmethod]
  exact ⟨cname, hcname, .inr ⟨r, hr, htenant, hstatus, hid, heq⟩⟩

lemma lookupAliases_ne_aliased {hosts : Hosts} {dns' : Dns} :
    lookupAliases server hosts b dns ≠ .aliased dns' := by
  unfold lookupAliases
  split_ifs <;> nofun

section
variable (h : DomainInv server s)
include h

/-- A verification that moves on after a lookup. -/
lemma DomainInv.lookedUp (l : Lookup)
    (hv : VerificationOk server { s.setVerification j v with lookups := s.lookups ++ [l] } v) :
    DomainInv server { s.setVerification j v with lookups := s.lookups ++ [l] } := by
  have hmoved : Moved s { s.setVerification j v with lookups := s.lookups ++ [l] } :=
    .quiet rfl rfl rfl (le_refl _) rfl fun _ => mem_append_left _
  refine h.of_moved ?_ hmoved (fun _ => .inl) (mem_set_or hv) (fun _ => .inl)
  exact h.db.of_moved hmoved h.db.unique (fun _ => .inl) h.db.workspace_lt h.db.domain_lt

lemma DomainInv.readBinding {id : Nat} (hget : s.hosts.get? id = some b)
    (hkind : b.kind = .custom) (hstatus : b.status = .pending) :
    DomainInv server { s with verifications := s.verifications ++ [⟨b, .read⟩] } := by
  have hmem := mem_of_get? hget
  have hmoved : Moved s { s with verifications := s.verifications ++ [⟨b, .read⟩] } :=
    .quiet rfl rfl rfl (le_refl _) rfl fun _ hl => hl
  refine h.of_moved ?_ hmoved (fun _ => .inl) (mem_append_or ?_) (fun _ => .inl)
  · exact h.db.of_moved hmoved h.db.unique (fun _ => .inl) h.db.workspace_lt h.db.domain_lt
  · refine ⟨h.db.host_lt b hmem, ⟨hkind, (h.db.custom b hmem hkind).2⟩, ?_, nofun, nofun⟩
    intro r hr hid
    have hrow : s.hosts.get? r.id = some r := Table.get?_of_mem hr
    rw [hid, show (Verification.binding ⟨b, .read⟩).id = b.id from rfl,
      show s.hosts.get? b.id = some b from Table.get?_of_mem hmem] at hrow
    cases hrow
    rw [← hstatus]

lemma DomainInv.lookup (hv : VerificationOk server s v) (dns : Dns) :
    DomainInv server
      { s.setVerification j { v with stage := lookupDomain server dns v.binding } with
        lookups := s.lookups ++ [⟨v.binding, dns, s.hosts.rows⟩] } := by
  apply h.lookedUp
  refine ⟨hv.id_lt, hv.custom, hv.row, ?_, ?_⟩
  · intro dns' hstage
    exact (lookupDomain_aliased hv.custom.2 hstage).2
  · intro hstage
    exact ⟨_, mem_append_right _ mem_cons_self, rfl, lookupDomain_proven hv.custom.2 hstage _⟩

lemma DomainInv.readAliases (hv : VerificationOk server s v)
    (hstage : v.stage = .aliased dns) :
    DomainInv server
      { s.setVerification j { v with stage := lookupAliases server s.hosts v.binding dns } with
        lookups := s.lookups ++ [⟨v.binding, dns, s.hosts.rows⟩] } := by
  obtain ⟨htoken, hmethod⟩ := hv.aliased dns hstage
  apply h.lookedUp
  refine ⟨hv.id_lt, hv.custom, hv.row, ?_, ?_⟩
  · intro dns' hnext
    exact absurd hnext lookupAliases_ne_aliased
  · intro hnext
    exact ⟨_, mem_append_right _ mem_cons_self, rfl, lookupAliases_proven htoken hmethod hnext⟩

end

/-- The rows after a verification. -/
lemma mem_hosts_confirm {r : Host} (hr : r ∈ (s.hosts.save { b with status := .verified }).rows) :
    r = { b with status := .verified } ∨ r ∈ s.hosts.rows ∧ r.id ≠ b.id :=
  mem_save hr

lemma VerificationOk.toDone (h : VerificationOk server s v) :
    VerificationOk server s { v with stage := .done } :=
  ⟨h.id_lt, h.custom, h.row, nofun, nofun⟩

lemma DomainInv.confirm (h : DomainInv server s) (hv : VerificationOk server s v)
    (hstage : v.stage = .proven) : DomainInv server (s.confirm j v) := by
  unfold DomainState.confirm
  split
  · have hmoved : Moved s (s.setVerification j { v with stage := .done }) :=
      .quiet rfl rfl rfl (le_refl _) rfl fun _ hl => hl
    refine h.of_moved ?_ hmoved (fun _ => .inl) (mem_set_or (hv.toDone.of_moved hmoved))
      (fun _ => .inl)
    exact h.db.of_moved hmoved h.db.unique (fun _ => .inl) h.db.workspace_lt h.db.domain_lt
  rename_i b hget
  have hmem := mem_of_get? hget
  have hmoved : Moved s { s.setVerification j { v with stage := .done } with
      hosts := s.hosts.save { b with status := .verified }
      version := s.version + 1 } := by
    refine ⟨le_refl _, le_refl _, ?_, fun _ hl => hl, .inr (lt_succ_self _)⟩
    intro r hr _
    rcases mem_hosts_confirm hr with rfl | ⟨hold, -⟩
    · exact ⟨b, hmem, rfl⟩
    · exact ⟨r, hold, rfl⟩
  refine h.of_moved ?_ hmoved (fun _ => .inl) (mem_set_or (hv.toDone.of_moved hmoved))
    (fun _ => .inl)
  refine h.db.of_moved hmoved ?_ ?_ h.db.workspace_lt h.db.domain_lt
  · intro r hr r' hr' heq
    rcases mem_hosts_confirm hr with rfl | ⟨hold, hne⟩
    · rcases mem_hosts_confirm hr' with rfl | ⟨hold', hne'⟩
      · rfl
      · exact absurd (congrArg Host.id (h.db.unique b hmem r' hold' heq)).symm hne'
    rcases mem_hosts_confirm hr' with rfl | ⟨hold', -⟩
    · exact absurd (congrArg Host.id (h.db.unique r hold b hmem heq)) hne
    · exact h.db.unique r hold r' hold' heq
  · intro r hr
    rcases mem_hosts_confirm hr with rfl | ⟨hold, -⟩
    · have hok := h.db.row hmem
      refine .inr { hok with evidenced := ?_ }
      intro _ _
      obtain ⟨l, hl, hbinding, hproves⟩ := hv.proven hstage
      refine ⟨l, hl, ?_, hproves⟩
      rw [hbinding, ← hv.row b hmem (key_of_get? hget)]
    · exact .inl hold

end

/-! ## Deleting hosts and changing domains -/

lemma DomainInv.deleteHost (h : DomainInv server s) (id : Nat) :
    DomainInv server { s with hosts := s.hosts.erase id, version := s.version + 1 } := by
  have hsub : ∀ r ∈ (s.hosts.erase id).rows, r ∈ s.hosts.rows := fun _ hr => (mem_erase.mp hr).1
  have hmoved : Moved s { s with hosts := s.hosts.erase id, version := s.version + 1 } :=
    ⟨le_refl _, le_refl _, fun r hr _ => ⟨r, hsub r hr, rfl⟩, fun _ hl => hl,
      .inr (lt_succ_self _)⟩
  refine h.of_moved ?_ hmoved (fun _ => .inl) (fun _ => .inl) (fun _ => .inl)
  exact h.db.of_moved hmoved (fun r hr r' hr' => h.db.unique r (hsub r hr) r' (hsub r' hr'))
    (fun r hr => .inl (hsub r hr)) h.db.workspace_lt h.db.domain_lt

lemma adminOk_of_check {op : DomainOp} {write : DomainWrite}
    (h : op.check server s.hosts s.domains = .ok write) : AdminOk s ⟨write, s.version⟩ := by
  refine ⟨Nat.le_refl _, ?_⟩
  intro _
  unfold DomainOp.check at h
  split at h
  · split at h
    · cases h
    split_ifs at h
    cases h
    trivial
  · next id domain enabled =>
    split at h
    · cases h
    rename_i row hrow
    split_ifs at h
    · split at h
      · cases h
      rename_i normalized _
      split_ifs at h with hused
      cases h
      have hid : row.id = id := key_of_get? hrow
      by_cases hzero : s.hosts.used id = 0
      · exact .inl hzero
      refine .inr ?_
      intro row' hrow' n hn
      rw [hrow] at hrow'
      cases hrow'
      cases hn
      by_contra hne
      exact hused ⟨hid ▸ Nat.pos_of_ne_zero hzero, fun heq => hne heq.symm⟩
    · cases h
      exact .inr fun _ _ _ h => by cases h
  · split_ifs at h with hused
    cases h
    exact Nat.eq_zero_of_not_pos hused

lemma DomainInv.setAdmin (h : DomainInv server s) {admin : Option AdminTx}
    (hadmin : ∀ tx ∈ admin, AdminOk s tx) : DomainInv server { s with admin } := by
  have hmoved : Moved s { s with admin } := .quiet rfl rfl rfl (le_refl _) rfl fun _ hl => hl
  refine h.of_moved ?_ hmoved (fun _ => .inl) (fun _ => .inl) ?_
  · exact h.db.of_moved hmoved h.db.unique (fun _ => .inl) h.db.workspace_lt h.db.domain_lt
  · exact fun tx htx => .inr ((hadmin tx htx).of_moved hmoved)

lemma domain_lt_apply {domains' : WildcardDomains} {next : Nat} {write : DomainWrite}
    (h : ∀ d ∈ domains.rows, d.id < next) (happly : write.apply domains next = some domains') :
    ∀ d ∈ domains'.rows, d.id < next + 1 := by
  have hold : ∀ d ∈ domains.rows, d.id < next + 1 := fun d hd => lt_succ_of_lt (h d hd)
  intro d hd
  cases write with simp only [DomainWrite.apply] at happly
  | insert domain enabled =>
    split_ifs at happly
    cases happly
    rcases mem_save hd with rfl | ⟨hmem, -⟩
    · exact lt_succ_self _
    · exact hold d hmem
  | update id domain enabled =>
    split at happly
    · cases happly
      exact hold d hd
    rename_i row hrow
    split_ifs at happly
    cases happly
    rcases mem_save hd with rfl | ⟨hmem, -⟩
    · exact hold row (mem_of_get? hrow)
    · exact hold d hmem
  | delete id =>
    cases happly
    exact hold d (mem_erase.mp hd).1

lemma DomainInv.adminCommit (h : DomainInv server s) (tx : AdminTx) :
    DomainInv server (s.adminCommit tx) := by
  unfold DomainState.adminCommit
  split
  · exact h.setAdmin nofun
  rename_i domains happly
  have hmoved : Moved s { s with
      domains := domains
      nextDomain := s.nextDomain + 1
      admin := none
      version := s.version + 1 } :=
    ⟨le_refl _, le_refl _, fun r hr _ => ⟨r, hr, rfl⟩, fun _ hl => hl,
      .inr (lt_succ_self _)⟩
  refine h.of_moved ?_ hmoved (fun _ => .inl) (fun _ => .inl) nofun
  exact h.db.of_moved hmoved h.db.unique (fun _ => .inl) h.db.workspace_lt
    (domain_lt_apply h.db.domain_lt happly)

/-! ## Runs -/

lemma domainInv_init : DomainInv server .init := by
  have hempty : ∀ {α : Type} (p : α → Prop), ∀ x ∈ ([] : List α), p x :=
    fun _ _ hx => absurd hx not_mem_nil
  refine ⟨⟨?_, ?_, ?_, ?_, ?_, ?_, ?_, ?_⟩, ?_, ?_, ?_⟩
  all_goals first
    | exact hempty _
    | intro tx htx
      cases htx

/-- The labels of the steps that write hosts or domains. -/
def DomainLabel.writes : DomainLabel → Bool
  | .insert _ => true
  | .confirm _ => true
  | .deleteHost _ _ => true
  | .adminCommit => true
  | _ => false

lemma choose_quiet {i : Nat} : (s.choose server i c).hosts = s.hosts ∧
    (s.choose server i c).domains = s.domains := by
  unfold DomainState.choose
  split
  · exact ⟨rfl, rfl⟩
  split_ifs <;> exact ⟨rfl, rfl⟩

/-- A step keeps the invariant, and the hosts and domains unless it writes them. -/
lemma domainInv_step (htext : server.text.Documented) (h : DomainInv server s)
    (hstep : domainStep server s label = some s') : DomainInv server s' ∧
      (label.writes = false → s'.hosts = s.hosts ∧ s'.domains = s.domains) := by
  cases label with simp only [domainStep] at hstep
  | openWorkspace slug input =>
    cases hstep
    exact ⟨h.openWorkspace slug input, fun _ => ⟨rfl, rfl⟩⟩
  | count tenantID slug input =>
    simp only [Option.ite_none_right_eq_some] at hstep
    obtain ⟨⟨hmem, hroom⟩, ⟨⟩⟩ := hstep
    exact ⟨h.count slug input hmem hroom, fun _ => ⟨rfl, rfl⟩⟩
  | choose i =>
    split at hstep
    · next c hc =>
      split_ifs at hstep
      cases hstep
      exact ⟨h.choose htext (h.creations c (mem_of_getElem? hc)), fun _ => choose_quiet⟩
    · cases hstep
  | check i token =>
    split at hstep
    · next c hc =>
      split at hstep
      · next b d hstage =>
        cases hstep
        refine ⟨h.check (h.creations c (mem_of_getElem? hc)) hstage token, fun _ => ?_⟩
        unfold check
        split_ifs <;> exact ⟨rfl, rfl⟩
      · cases hstep
    · cases hstep
  | insert i =>
    split at hstep
    · next c hc =>
      split at hstep
      · next b d hstage =>
        cases hstep
        exact ⟨h.insert (h.creations c (mem_of_getElem? hc)) hstage, fun h => by cases h⟩
      · cases hstep
    · cases hstep
  | abort i =>
    split at hstep
    · next c hc =>
      cases hstep
      exact ⟨h.setCreation (h.creations c (mem_of_getElem? hc)).toDone, fun _ => ⟨rfl, rfl⟩⟩
    · cases hstep
  | readBinding tenantID id =>
    split at hstep
    · next b hget =>
      split_ifs at hstep with hb
      cases hstep
      exact ⟨h.readBinding hget hb.2.1 hb.2.2, fun _ => ⟨rfl, rfl⟩⟩
    · cases hstep
  | lookup j dns =>
    split at hstep
    · next v hv =>
      split_ifs at hstep
      cases hstep
      exact ⟨h.lookup (h.verifications v (mem_of_getElem? hv)) dns, fun _ => ⟨rfl, rfl⟩⟩
    · cases hstep
  | readAliases j =>
    split at hstep
    · next v hv =>
      split at hstep
      · next dns hstage =>
        cases hstep
        exact ⟨h.readAliases (h.verifications v (mem_of_getElem? hv)) hstage, fun _ => ⟨rfl, rfl⟩⟩
      · cases hstep
    · cases hstep
  | confirm j =>
    split at hstep
    · next v hv =>
      split_ifs at hstep with hstage
      cases hstep
      exact ⟨h.confirm (h.verifications v (mem_of_getElem? hv)) hstage, fun h => by cases h⟩
    · cases hstep
  | deleteHost tenantID id =>
    split at hstep
    · split_ifs at hstep
      cases hstep
      exact ⟨h.deleteHost id, fun h => by cases h⟩
    · cases hstep
  | adminBegin op =>
    split_ifs at hstep
    split at hstep
    · next write hwrite =>
      cases hstep
      refine ⟨h.setAdmin ?_, fun _ => ⟨rfl, rfl⟩⟩
      intro tx htx
      cases htx
      exact adminOk_of_check hwrite
    · cases hstep
  | adminCommit =>
    split at hstep
    · next tx _ =>
      cases hstep
      exact ⟨h.adminCommit tx, fun h => by cases h⟩
    · cases hstep
  | adminAbort =>
    cases hstep
    exact ⟨h.setAdmin (by simp), fun _ => ⟨rfl, rfl⟩⟩

lemma DomainInv.safe (h : DomainInv server s) : HostsSafe server s where
  at_most_one := by
    rintro host tenantID tenantID' ⟨b, hb, hhost, -, rfl⟩ ⟨b', hb', hhost', -, rfl⟩
    rw [h.db.unique b hb b' hb' (hhost.trans hhost'.symm)]
  resolved := by
    intro request tenantID hresolved
    unfold workspaceByHost at hresolved
    split at hresolved
    · cases hresolved
    rename_i host hhost
    split_ifs at hresolved
    split at hresolved
    · cases hresolved
    rename_i b hfind
    split_ifs at hresolved
    cases hresolved
    have hmem := mem_of_find?_eq_some hfind
    have hfound := List.find?_some hfind
    obtain ⟨hname, hstatus⟩ := of_decide_eq_true hfound
    refine ⟨host, hhost, ?_, b, hmem, hname, hstatus, rfl⟩
    rw [← hname]
    exact h.db.host_ne b hmem
  not_platform := by
    rintro tenantID ⟨b, hb, hhost, -, -⟩
    exact h.db.host_ne b hb hhost
  evidenced := h.db.evidenced

/-! ## Limits and domains -/

/-- Two domain names under which a prefix gives the same host are equal. -/
lemma domain_eq_of_host {label a b : String} (h : label ++ "." ++ a = label ++ "." ++ b) : a = b := by
  have hlist := congrArg String.toList h
  simp only [String.toList_append, append_cancel_left_eq] at hlist
  exact String.toList_inj.mp hlist

lemma kept_insert (h : DomainInv server s)
    (hkept : HostsKept s.hosts s.domains) (hb : BindingOk server c.tenantID b d) :
    HostsKept (s.hosts.save { b with id := s.nextHost }) s.domains ↔
      s.hosts.countOf c.tenantID < maxHostsPerWorkspace ∧
        ∀ x ∈ d, ∃ y ∈ s.domains.rows, y.id = x.id ∧ y.domain = x.domain := by
  have hnone : s.hosts.get? s.nextHost = none := by
    cases hget : s.hosts.get? s.nextHost with
    | none => rfl
    | some r =>
      have hlt := h.db.host_lt r (mem_of_get? hget)
      rw [show r.id = s.nextHost from key_of_get? hget] at hlt
      exact absurd hlt (lt_irrefl _)
  have hrows : (s.hosts.save { b with id := s.nextHost }).rows
      = s.hosts.rows ++ [{ b with id := s.nextHost }] := rows_save_of_none hnone
  have hcount : ∀ tenantID, Hosts.countOf (s.hosts.save { b with id := s.nextHost }) tenantID
      = s.hosts.countOf tenantID + if c.tenantID = tenantID then 1 else 0 := by
    intro tenantID
    unfold Hosts.countOf
    rw [hrows, countP_append, countP_singleton, hb.tenant]
    simp
  constructor
  · intro hnew
    constructor
    · have hlimit := hnew.limit c.tenantID
      rw [hcount, if_pos rfl] at hlimit
      omega
    · intro x hx
      obtain ⟨hkind, hid, hhost⟩ := hb.wildcard x hx
      obtain ⟨y, hy, hyid, hyhost⟩ := hnew.wildcard _ (mem_save_self _ _) hkind
      have hsame : b.label ++ "." ++ y.domain = b.label ++ "." ++ x.domain := hyhost.symm.trans hhost
      rw [show b.wildcardDomainID = some y.id from hyid] at hid
      exact ⟨y, hy, Option.some.inj hid, domain_eq_of_host hsame⟩
  · rintro ⟨hroom, hdomain⟩
    constructor
    · intro r hr hkind
      rcases mem_hosts_insert hr with rfl | hold
      · cases d with
        | none =>
          have hcustom := (hb.custom rfl).1
          rw [show b.kind = .wildcard from hkind] at hcustom
          cases hcustom
        | some x =>
          obtain ⟨-, hid, hhost⟩ := hb.wildcard x rfl
          obtain ⟨y, hy, hyid, hydomain⟩ := hdomain x rfl
          refine ⟨y, hy, ?_, ?_⟩
          · rw [hyid]
            exact hid
          · rw [hydomain]
            exact hhost
      · exact hkept.wildcard r hold hkind
    · intro tenantID
      rw [hcount]
      have hlimit := hkept.limit tenantID
      split_ifs with heq
      · subst heq
        omega
      · exact hlimit

lemma kept_confirm {id : Nat} (hkept : HostsKept s.hosts domains)
    (hget : s.hosts.get? id = some b) :
    HostsKept (s.hosts.save { b with status := .verified }) domains where
  wildcard := by
    intro r hr hkind
    rcases mem_hosts_confirm hr with rfl | ⟨hold, -⟩
    · exact hkept.wildcard b (mem_of_get? hget) hkind
    · exact hkept.wildcard r hold hkind
  limit := by
    intro tenantID
    have hrow : s.hosts.get? b.id = some b := Table.get?_of_mem (mem_of_get? hget)
    have hcount : Hosts.countOf (s.hosts.save { b with status := .verified }) tenantID
        = s.hosts.countOf tenantID := countP_save _ hrow rfl
    rw [hcount]
    exact hkept.limit tenantID

section
variable {hosts : Hosts} {domains domains' : WildcardDomains} {id : Nat}

lemma used_eq_zero : hosts.used id = 0 ↔ ∀ b ∈ hosts.rows, b.wildcardDomainID ≠ some id := by
  unfold Hosts.used
  rw [countP_eq_zero]
  simp

lemma row_eq_of_id {row d : WildcardDomain} (hrow : domains.get? id = some row)
    (hd : d ∈ domains.rows) (hid : d.id = id) : d = row := by
  have hget : domains.get? d.id = some d := Table.get?_of_mem hd
  rw [hid, hrow] at hget
  exact (Option.some.inj hget).symm

/-- The name of a domain in use can not change, and that of a domain without hosts can. -/
lemma kept_rename {row row' : WildcardDomain} (hkept : HostsKept hosts domains)
    (hcustom : ∀ b ∈ hosts.rows, b.kind = .custom → b.wildcardDomainID = none)
    (hrow : domains.get? id = some row) (hid : row'.id = row.id) :
    HostsKept hosts (domains.save row') ↔ hosts.used id = 0 ∨ row'.domain = row.domain := by
  have hrowid : row.id = id := key_of_get? hrow
  constructor
  · intro hnew
    by_cases hused : hosts.used id = 0
    · exact .inl hused
    refine .inr ?_
    rw [used_eq_zero] at hused
    push Not at hused
    obtain ⟨b, hb, hbid⟩ := hused
    have hkind : b.kind = .wildcard := by
      cases hk : b.kind with
      | wildcard => rfl
      | custom =>
        rw [hcustom b hb hk] at hbid
        cases hbid
    -- the host shows the name of its domain before and after
    obtain ⟨d, hd, hdid, hdhost⟩ := hkept.wildcard b hb hkind
    obtain ⟨d', hd', hdid', hdhost'⟩ := hnew.wildcard b hb hkind
    rw [hbid, Option.some.injEq] at hdid hdid'
    have hold : d = row := row_eq_of_id hrow hd hdid.symm
    have hrow' : d' = row' := by
      rcases mem_save hd' with heq | ⟨-, hne⟩
      · exact heq
      · exact absurd (hdid'.symm.trans (hrowid.symm.trans hid.symm)) hne
    subst hold hrow'
    exact domain_eq_of_host (hdhost'.symm.trans hdhost)
  · intro hok
    refine ⟨?_, hkept.limit⟩
    intro b hb hkind
    obtain ⟨d, hd, hdid, hdhost⟩ := hkept.wildcard b hb hkind
    by_cases hdrow : d.id = id
    · rcases hok with hused | hname
      · rw [used_eq_zero] at hused
        rw [hdrow] at hdid
        exact absurd hdid (hused b hb)
      have hold : d = row := row_eq_of_id hrow hd hdrow
      subst hold
      refine ⟨row', mem_save_self _ _, ?_, ?_⟩
      · rw [hid]
        exact hdid
      · rw [hname]
        exact hdhost
    · have hne : row'.id ≠ d.id := by
        rw [hid, hrowid]
        exact Ne.symm hdrow
      exact ⟨d, mem_save_of_ne hd hne, hdid, hdhost⟩

lemma kept_erase (hkept : HostsKept hosts domains)
    (hcustom : ∀ b ∈ hosts.rows, b.kind = .custom → b.wildcardDomainID = none) :
    HostsKept hosts (domains.erase id) ↔ hosts.used id = 0 := by
  rw [used_eq_zero]
  constructor
  · intro hnew b hb hbid
    cases hk : b.kind with
    | custom =>
      rw [hcustom b hb hk] at hbid
      cases hbid
    | wildcard =>
      obtain ⟨d, hd, hdid, -⟩ := hnew.wildcard b hb hk
      rw [hbid, Option.some.injEq] at hdid
      exact (mem_erase.mp hd).2 hdid.symm
  · intro hused
    refine ⟨?_, hkept.limit⟩
    intro b hb hkind
    obtain ⟨d, hd, hdid, hdhost⟩ := hkept.wildcard b hb hkind
    refine ⟨d, mem_erase.mpr ⟨hd, ?_⟩, hdid, hdhost⟩
    rintro rfl
    exact hused b hb hdid

end

lemma kept_adminCommit {tx : AdminTx} (h : DomainInv server s) (hkept : HostsKept s.hosts s.domains)
    (hadmin : s.admin = some tx) :
    HostsKept (s.adminCommit tx).hosts (s.adminCommit tx).domains ↔ StillHolds s .adminCommit := by
  have hcustom : ∀ b ∈ s.hosts.rows, b.kind = .custom → b.wildcardDomainID = none :=
    fun b hb hk => (h.db.custom b hb hk).1
  obtain ⟨write, version⟩ := tx
  unfold adminCommit
  simp only [StillHolds, hadmin, Option.some.injEq, forall_eq']
  cases write with simp only [DomainWrite.apply]
  | insert domain enabled =>
    split_ifs
    · exact iff_of_true hkept trivial
    refine iff_of_true ⟨?_, hkept.limit⟩ trivial
    intro b hb hkind
    obtain ⟨d, hd, hdid, hdhost⟩ := hkept.wildcard b hb hkind
    exact ⟨d, mem_save_of_ne hd (ne_of_gt (h.db.domain_lt d hd)), hdid, hdhost⟩
  | update id name enabled =>
    cases hrow : s.domains.get? id with
    | none => exact iff_of_true hkept (.inr nofun)
    | some row =>
      simp only [Option.some.injEq, forall_eq']
      split_ifs with hother
      · -- the unique index refuses the name
        refine iff_of_true hkept (.inr ?_)
        rintro n ⟨⟩
        exact .inr hother
      show HostsKept s.hosts (s.domains.save { row with
        domain := name.getD row.domain, enabled := enabled.getD row.enabled }) ↔ _
      refine Iff.trans (kept_rename hkept hcustom hrow ?_) (or_congr_right ?_)
      · rfl
      · constructor
        · rintro hname n ⟨⟩
          exact .inl hname.symm
        · intro hname
          cases name with
          | none => rfl
          | some n =>
            rcases hname n rfl with heq | htaken
            · exact heq.symm
            · exact absurd htaken hother
  | delete id =>
    exact kept_erase hkept hcustom

/-- A step keeps the limit and the domains exactly when what was counted still holds. -/
lemma kept_step (htext : server.text.Documented) (h : DomainInv server s)
    (hkept : HostsKept s.hosts s.domains)
    (hstep : domainStep server s label = some s') :
    HostsKept s'.hosts s'.domains ↔ StillHolds s label := by
  cases label with
  | insert i =>
    simp only [domainStep] at hstep
    split at hstep
    · next c hc =>
      split at hstep
      · next b d hstage =>
        cases hstep
        have hb : BindingOk server c.tenantID b d :=
          (h.creations c (mem_of_getElem? hc)).binding b d (by rw [hstage]; rfl)
        have hguard : StillHolds s (.insert i) ↔ (∃ b' ∈ s.hosts.rows, b'.host = b.host) ∨
            s.hosts.countOf c.tenantID < maxHostsPerWorkspace ∧
              ∀ x ∈ d, ∃ y ∈ s.domains.rows, y.id = x.id ∧ y.domain = x.domain := by
          constructor
          · intro hall
            exact hall c b d hc hstage
          · intro hone c' b' d' hc' hstage'
            rw [hc] at hc'
            cases hc'
            rw [hstage] at hstage'
            cases hstage'
            exact hone
        rw [hguard]
        unfold DomainState.insert
        split_ifs with htaken
        · rw [any_eq_true] at htaken
          obtain ⟨b', hb', heq⟩ := htaken
          exact iff_of_true hkept (.inl ⟨b', hb', of_decide_eq_true heq⟩)
        refine (kept_insert h hkept hb).trans ?_
        constructor
        · exact .inr
        · rintro (⟨b', hb', heq⟩ | hroom)
          · refine absurd ?_ htaken
            rw [any_eq_true]
            exact ⟨b', hb', decide_eq_true heq⟩
          · exact hroom
      · cases hstep
    · cases hstep
  | confirm j =>
    refine iff_of_true ?_ trivial
    simp only [domainStep] at hstep
    split at hstep
    · split_ifs at hstep
      cases hstep
      unfold DomainState.confirm
      split
      · exact hkept
      · next hget => exact kept_confirm hkept hget
    · cases hstep
  | deleteHost tenantID id =>
    refine iff_of_true ?_ trivial
    simp only [domainStep] at hstep
    split at hstep
    · split_ifs at hstep
      cases hstep
      refine ⟨fun r hr => hkept.wildcard r (mem_erase.mp hr).1, fun tenantID => ?_⟩
      exact le_trans filter_sublist.countP_le (hkept.limit tenantID)
    · cases hstep
  | adminCommit =>
    simp only [domainStep] at hstep
    split at hstep
    · next tx hadmin =>
      cases hstep
      exact kept_adminCommit h hkept hadmin
    · cases hstep
  | _ =>
    refine iff_of_true ?_ trivial
    obtain ⟨hhosts, hdomains⟩ := (domainInv_step htext h hstep).2 rfl
    rw [hhosts, hdomains]
    exact hkept

/-- What a transaction has counted holds at its commit when no other one has committed. -/
lemma stillHolds_of_serial (h : DomainInv server s) (hserial : Serial s label) :
    StillHolds s label := by
  cases label with
  | insert i =>
    intro c b d hc hstage
    have hversion : c.version = s.version := hserial c.version (by simp [firstRead, hc])
    have hok := h.creations c (mem_of_getElem? hc)
    refine .inr ⟨hok.room hversion, ?_⟩
    intro x hx
    exact ⟨x, hok.domain b d (by rw [hstage]; rfl) hversion x hx, rfl, rfl⟩
  | adminCommit =>
    intro tx htx
    have hversion : tx.version = s.version := hserial tx.version (by simp [firstRead, htx])
    have hread := (h.admin tx htx).2 hversion
    split
    · trivial
    · next heq =>
      rw [heq] at hread
      refine hread.imp_right ?_
      intro hname row hrow n hn
      exact .inl (hname row hrow n hn)
    rename_i heq
    rw [heq] at hread
    exact hread
  | _ => trivial

/-- **Hosts of workspaces.** In every state of every run a host leads to at most one workspace, never
the platform's host, and a custom host only after its own token was seen. The limit and the domains
hold in all of them exactly when every commit still finds what its transaction has counted; it does
when transactions do not overlap. -/
theorem hosts_safe_and_kept_iff (server : HostServer) (htext : server.text.Documented)
    (ls : List DomainLabel) (t : DomainState) (hrun : run (domainStep server) .init ls = some t) :
    (∀ ks, ks <+: ls → ∀ u, run (domainStep server) .init ks = some u → HostsSafe server u) ∧
    ((∀ ks, ks <+: ls → ∀ u, run (domainStep server) .init ks = some u →
        HostsKept u.hosts u.domains) ↔ Along (domainStep server) StillHolds .init ls) ∧
    (Along (domainStep server) Serial .init ls → Along (domainStep server) StillHolds .init ls) := by
  have hinv : ∀ s label s', DomainInv server s → domainStep server s label = some s' →
      DomainInv server s' := fun s label s' h hstep => (domainInv_step htext h hstep).1
  refine ⟨?_, ?_, ?_⟩
  · intro ks _ u hu
    exact (run_invariant' (DomainInv server) hinv domainInv_init hu).safe
  · rw [safe_iff (DomainInv server) (fun u => HostsKept u.hosts u.domains) hinv
      (fun s label s' => kept_step htext) domainInv_init hrun]
    exact and_iff_right ⟨nofun, fun _ => zero_le _⟩
  · intro hserial
    exact hserial.mono_of_invariant (DomainInv server) (fun s label s' h _ => hinv s label s' h)
      (fun s label => stillHolds_of_serial) domainInv_init

/-- ASCII texts. -/
def plainText : HostText where
  toLower s := String.ofList (s.toList.map Char.toLower)
  toASCII s := if s.toList.all fun c => c.toNat < 128 then some s else none

lemma toLower_of_isHostChar {c : Char} (h : isHostChar c = true) : c.toLower = c := by
  have hcode := toNat_of_isHostChar h
  unfold Char.toLower
  split
  · next hupper =>
    have hlo : 65 ≤ c.toNat := hupper.1
    have hhi : c.toNat ≤ 90 := hupper.2
    omega
  · rfl

lemma plainText_documented : plainText.Documented where
  toLower_eq := by
    intro s hs
    have hmap : s.toList.map Char.toLower = s.toList := by
      apply map_congr_left (g := id) (fun c hc => toLower_of_isHostChar (hs c hc)) |>.trans
      exact map_id _
    show String.ofList (s.toList.map Char.toLower) = s
    rw [hmap, String.ofList_toList]
  toASCII_eq := by
    intro s a _ h
    simp only [plainText, Option.ite_none_right_eq_some, Option.some.injEq] at h
    exact h.2.symm

def plainServer : HostServer := ⟨plainText, some "example.com"⟩

def wildcardInput : HostInput := ⟨"", "", 0, "", ""⟩

def customInput (host method : String) : HostInput := ⟨"custom", "", 0, host, method⟩

/-- A workspace gets a host of the first wildcard domain and a custom host that points at it. -/
def shopRun : List DomainLabel :=
  [.adminBegin (.create "Apps.Example.com" none), .adminCommit,
    .openWorkspace "acme" wildcardInput, .choose 0, .check 0 "", .insert 0,
    .count 1 "acme" (customInput "shop.acme.io" "CNAME"), .choose 1, .check 1 "0f", .insert 1,
    .readBinding 1 2, .lookup 0 ⟨none, some "acme.apps.example.com."⟩, .readAliases 0, .confirm 0]

theorem hosts_safe_and_kept_shop : ∃ t, run (domainStep plainServer) .init shopRun = some t ∧
    workspaceByHost plainServer t "shop.acme.io:443" = some 1 ∧ HostsSafe plainServer t ∧
    HostsKept t.hosts t.domains := by
  have hshop : (run (domainStep plainServer) .init shopRun).map
      (fun t => workspaceByHost plainServer t "shop.acme.io:443") = some (some 1) := by
    decide +kernel
  obtain ⟨t, hrun, hresolved⟩ := Option.map_eq_some_iff.mp hshop
  obtain ⟨hsafe, hkept, hserial⟩ :=
    hosts_safe_and_kept_iff plainServer plainText_documented shopRun t hrun
  have hall := hkept.mpr (hserial (by decide +kernel))
  exact ⟨t, hrun, hresolved, hsafe shopRun (prefix_refl _) t hrun,
    hall shopRun (prefix_refl _) t hrun⟩

/-- The domain is deleted between the statement that reads it and the commit of the host. -/
def orphanRun : List DomainLabel :=
  [.adminBegin (.create "apps.example.com" none), .adminCommit,
    .openWorkspace "acme" wildcardInput, .choose 0, .check 0 "",
    .adminBegin (.delete 1), .adminCommit, .insert 0]

/-- Hosts one after the other, and two more whose counts both come before the inserts. -/
def crowdRun : List DomainLabel :=
  [.openWorkspace "acme" wildcardInput, .choose 0] ++
    (List.range 19).flatMap (fun n =>
      [.count 1 "acme" (customInput ("h" ++ toString n ++ ".acme.io") ""), .choose (n + 1),
        .check (n + 1) "0f", .insert (n + 1)]) ++
    [.count 1 "acme" (customInput "a.acme.io" ""), .count 1 "acme" (customInput "b.acme.io" ""),
      .choose 20, .check 20 "0f", .insert 20, .choose 21, .check 21 "0f", .insert 21]

theorem hosts_overtaken : (∃ t, run (domainStep plainServer) .init orphanRun = some t ∧
      workspaceByHost plainServer t "acme.apps.example.com" = some 1 ∧ t.domains.rows = []) ∧
    ∃ t, run (domainStep plainServer) .init crowdRun = some t ∧
      maxHostsPerWorkspace < t.hosts.countOf 1 := by
  constructor
  · have horphan : (run (domainStep plainServer) .init orphanRun).map
        (fun t => (workspaceByHost plainServer t "acme.apps.example.com", t.domains.rows))
          = some (some 1, []) := by
      decide +kernel
    obtain ⟨t, hrun, heq⟩ := Option.map_eq_some_iff.mp horphan
    rw [Prod.mk.injEq] at heq
    exact ⟨t, hrun, heq⟩
  · have hcrowd : (run (domainStep plainServer) .init crowdRun).map
        (fun t => t.hosts.countOf 1) = some 21 := by
      decide +kernel
    obtain ⟨t, hrun, hcount⟩ := Option.map_eq_some_iff.mp hcrowd
    refine ⟨t, hrun, ?_⟩
    rw [hcount]
    decide

end NewApi.Platform
