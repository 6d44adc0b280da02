import NewApi.Tenant.Scope

/-!
# What scoped statements reach

The filter on the owner is one more expression of the `WHERE` clause, joined by `AND` to what the
caller collected. GORM renders the expressions in order, so the filter belongs to the last
alternative only: rows that meet an earlier one are reached whoever owns them. A joined table is
filtered if its text is one that the regular expression reads.
-/

namespace NewApi.Tenant

open List Scope Statement

/-! ## What a statement means -/

/-- A table of the statement, under the name it has there. -/
structure Source where
  name : String
  table : String
deriving DecidableEq

structure Row (V : Type) where
  tenantId : Int
  data : V

/-- One row of the result: a row of each table, or none of it in an outer join. -/
abbrev Joined (V : Type) : Type := Source → Option (Row V)

/-- How the database reads the texts of a statement. -/
structure Dialect (V : Type) where
  /-- the tables that a join text brings in -/
  sources : String → List Source
  /-- the name of a table in a condition denotes this one -/
  denotes : String → Source → Bool
  /-- the conditions of the joins -/
  on : List String → Joined V → Bool
  /-- the column that a name in a list of columns denotes -/
  column : String → String

/-- The statements that the plugin scopes. Select, count and row statements are queries. -/
inductive StatementKind
  | query
  | update
  | delete
deriving DecidableEq

/-- Only queries are rendered with their joins. -/
def StatementKind.rendersJoins : StatementKind → Bool
  | .query => true
  | .update | .delete => false

/-- The callback that is registered for the statement. -/
def Scope.callback {ρ β : Type} (scope : Scope) :
    StatementKind → Statement ρ β → Statement ρ β
  | .query | .delete => scope.query
  | .update => scope.update

/-- The alternatives of a rendered condition before the last one, and the last one, if the
expressions of the current one so far are `current`. -/
def splitOr {ρ : Type} (current : List (Condition ρ)) :
    List (WhereExpr ρ) → List (List (Condition ρ)) × List (Condition ρ)
  | [] => ([], current)
  | e :: es =>
    if e.or then (current :: (splitOr [e.condition] es).1, (splitOr [e.condition] es).2)
    else splitOr (current ++ [e.condition]) es

/-- `AND` binds tighter than `OR`; the first expression has no connective. -/
def alternatives {ρ : Type} : List (WhereExpr ρ) → List (List (Condition ρ)) × List (Condition ρ)
  | [] => ([], [])
  | e :: es => splitOr [e.condition] es

section
variable {V β : Type} (dialect : Dialect V) (kind : StatementKind)

/-- The tables of the statement; the first is the one it is about. -/
def Statement.main (s : Statement (Joined V) β) : Source := ⟨s.table, s.table⟩

def Statement.sources (s : Statement (Joined V) β) : List Source :=
  s.main :: if kind.rendersJoins then s.joins.flatMap dialect.sources else []

/-- The table whose owner a condition speaks of. -/
def Statement.resolve (s : Statement (Joined V) β) : Option String → Option Source
  | none => some s.main
  | some name => (s.sources dialect kind).find? (dialect.denotes name)

def Statement.holds (s : Statement (Joined V) β) (rows : Joined V) : Condition (Joined V) → Bool
  | .caller f => f rows
  | .owner table id =>
    ((s.resolve dialect kind table).bind rows).any fun row => row.tenantId == id

/-- A table that is named in a condition is one of the statement. -/
def Statement.Resolves (s : Statement (Joined V) β) : Condition (Joined V) → Prop
  | .caller _ => True
  | .owner table _ => (s.resolve dialect kind table).isSome

variable (db : String → Set (Row V))

/-- A combination of rows of the database that the joins admit. -/
structure Candidate (s : Statement (Joined V) β) (rows : Joined V) : Prop where
  stored : ∀ source ∈ s.sources dialect kind, ∀ row, rows source = some row → row ∈ db source.table
  on : kind.rendersJoins = true → dialect.on s.joins rows = true

/-- The statement reads, changes or deletes these rows. It fails if a name denotes nothing. -/
structure Touches (s : Statement (Joined V) β) (rows : Joined V) : Prop where
  noError : s.error = none
  resolves : ∀ e ∈ s.wheres, s.Resolves dialect kind e.condition
  candidate : Candidate dialect kind db s rows
  holds : (∃ conditions ∈ (alternatives s.wheres).1,
      ∀ x ∈ conditions, s.holds dialect kind rows x = true) ∨
    ∀ x ∈ (alternatives s.wheres).2, s.holds dialect kind rows x = true

variable (scope : Scope)

/-- The rows of business tables are those of workspace `id`. -/
def Own (s : Statement (Joined V) β) (id : Int) (rows : Joined V) : Prop :=
  ∀ source ∈ s.sources dialect kind, scope.globalTables source.table = false →
    ∀ row, rows source = some row → row.tenantId = id

/-- What is promised of a statement `s` that the plugin has made `t` of. -/
structure Isolated (ofId : Int → β) (s t : Statement (Joined V) β) (id : Int) : Prop where
  own : ∀ rows, Touches dialect kind db t rows → Own dialect kind scope s id rows
  /-- an update writes into a row of a business table no owner but the one it has -/
  keepsOwner : kind = .update → scope.globalTables s.table = false →
    ∀ rows, Touches dialect kind db t rows → ∀ row, rows s.main = some row →
      ∀ kv ∈ t.dest.values.entries,
        included t.schema t.selects t.omits (columnName t.schema kv.1) = true →
        dialect.column (columnName t.schema kv.1) = "tenant_id" → kv.2 = ofId row.tenantId

/-- The rows that the filters of the plugin let through. -/
structure Filtered (s : Statement (Joined V) β) (id : Int) (rows : Joined V) : Prop where
  main : scope.globalTables s.table = false → ∃ row, rows s.main = some row ∧ row.tenantId = id
  joined : ∀ table ∈ scope.joinedBusinessTables s.joins,
    ∃ source, s.resolve dialect kind (some table) = some source ∧
      ∃ row, rows source = some row ∧ row.tenantId = id

/-- The statement is not refused by the plugin, and the tables that it names and that the plugin
filters are tables of the statement. -/
structure Accepted (s : Statement (Joined V) β) (id : Int) : Prop where
  keepsOwner : kind = .update → scope.globalTables s.table = false → s.changesOwner id = false
  resolves : ∀ e ∈ s.wheres, s.Resolves dialect kind e.condition
  filters : ∀ table ∈ scope.joinedBusinessTables s.joins,
    (s.resolve dialect kind (some table)).isSome

/-- On what the promise depends. -/
structure ReachesOnlyOwn (ofId : Int → β) (s : Statement (Joined V) β) (id : Int) : Prop where
  /-- the alternatives before the last `OR` admit own rows only -/
  earlier : Accepted dialect kind scope s id → ∀ rows, Candidate dialect kind db s rows →
    (∃ conditions ∈ (alternatives s.wheres).1,
      ∀ x ∈ conditions, s.holds dialect kind rows x = true) →
    Own dialect kind scope s id rows
  /-- and the last one admits own rows only from joined tables that are not filtered -/
  unfiltered : Accepted dialect kind scope s id → ∀ rows, Candidate dialect kind db s rows →
    (∀ x ∈ (alternatives s.wheres).2, s.holds dialect kind rows x = true) →
    Filtered dialect kind scope s id rows → Own dialect kind scope s id rows
  /-- no key of an update that reaches rows names the owner in another way -/
  keys : kind = .update → scope.globalTables s.table = false → ∀ rows,
    Touches dialect kind db (scope.update s) rows → (rows s.main).isSome →
    ∀ kv ∈ s.dest.values.entries,
      included s.schema s.selects s.omits (columnName s.schema kv.1) = true →
      columnName s.schema kv.1 ≠ "tenant_id" →
      dialect.column (columnName s.schema kv.1) = "tenant_id" → kv.2 = ofId id

end

/-! ## The rendered condition -/

/-- Plain expressions at the end belong to the last alternative. -/
lemma splitOr_append {ρ : Type} {filters : List (WhereExpr ρ)}
    (hplain : ∀ e ∈ filters, e.or = false) (ws : List (WhereExpr ρ)) :
    ∀ current, splitOr current (ws ++ filters)
      = ((splitOr current ws).1, (splitOr current ws).2 ++ filters.map (·.condition)) := by
  induction ws with
  | nil =>
    induction filters with
    | nil => simp [splitOr]
    | cons e es ih =>
      intro current
      have he : e.or = false := hplain e (by simp)
      have hrest := ih (fun x hx => hplain x (by simp [hx])) (current ++ [e.condition])
      simp only [nil_append, splitOr] at hrest ⊢
      simp [he, hrest]
  | cons e es ih =>
    intro current
    simp only [cons_append, splitOr, ih]
    split_ifs <;> rfl

lemma alternatives_append {ρ : Type} {filters : List (WhereExpr ρ)}
    (hplain : ∀ e ∈ filters, e.or = false) (ws : List (WhereExpr ρ)) :
    alternatives (ws ++ filters)
      = ((alternatives ws).1, (alternatives ws).2 ++ filters.map (·.condition)) := by
  cases ws with
  | nil =>
    cases filters with
    | nil => rfl
    | cons e es =>
      have hes : ∀ x ∈ es, x.or = false := fun x hx => hplain x (by simp [hx])
      show splitOr [e.condition] ([] ++ es) = _
      rw [splitOr_append hes]
      rfl
  | cons e es => exact splitOr_append hplain es [e.condition]

/-- Without `Or` after the first expression there is one alternative. -/
lemma alternatives_plain {ρ : Type} {ws : List (WhereExpr ρ)} (hplain : ∀ e ∈ ws.tail, e.or = false) :
    (alternatives ws).1 = [] := by
  cases ws with
  | nil => rfl
  | cons e es =>
    have h := splitOr_append hplain [] [e.condition]
    simp only [nil_append, splitOr] at h
    exact congrArg Prod.fst h

/-! ## What the callbacks do -/

section
variable {V β : Type} {dialect : Dialect V} {kind : StatementKind} {db : String → Set (Row V)}
  {scope : Scope} {s t : Statement (Joined V) β} {identity : Identity} {rows : Joined V}

/-- A statement on a table, with conditions and joins only: not a raw one, and not on a subquery. -/
structure Statement.Built {ρ : Type} (s : Statement ρ β) : Prop where
  noError : s.error = none
  notRaw : s.sql = ""
  notSubquery : s.tableExpr.any isSubquery = false

/-- The expressions that the plugin adds. -/
def Scope.filters {ρ : Type} (scope : Scope) (s : Statement ρ β) (id : Int) : List (WhereExpr ρ) :=
  (if scope.globalTables s.table then [] else [⟨false, .owner none id⟩]) ++
    (scope.joinedBusinessTables s.joins).map fun table => ⟨false, .owner (some table) id⟩

lemma filters_plain (scope : Scope) (s : Statement (Joined V) β) (id : Int) :
    ∀ e ∈ scope.filters s id, e.or = false := by
  intro e he
  simp only [filters, mem_append, mem_map] at he
  rcases he with he | ⟨table, -, rfl⟩
  · split_ifs at he
    · simp at he
    · rw [mem_singleton] at he
      rw [he]
  · rfl

lemma foldl_addOwner {ρ : Type} (id : Int) (tables : List String) : ∀ s : Statement ρ β,
    tables.foldl (fun s table => s.addOwner (some table) id) s
      = { s with
          wheres := s.wheres ++ tables.map fun table => ⟨false, .owner (some table) id⟩ } := by
  induction tables with
  | nil =>
    intro s
    simp
  | cons table tables ih =>
    intro s
    rw [foldl_cons, ih]
    simp [addOwner]

lemma query_scoped (hbuilt : s.Built) (hctx : fromContext s.context = .ok identity) :
    scope.query s = { s with wheres := s.wheres ++ scope.filters s identity.id } := by
  obtain ⟨sql, table, tableExpr, joins, wheres, context, error, schema, dest, owner, selects,
    omits⟩ := s
  obtain ⟨herror, hraw, hsub⟩ := hbuilt
  subst herror hraw
  cases hglobal : scope.globalTables table with
  | false =>
    simp only [query, hglobal, hsub, hctx, foldl_addOwner]
    simp [filters, addOwner, hglobal]
  | true =>
    by_cases hjoins : joins = []
    · simp [query, filters, hglobal, hjoins, joinedBusinessTables]
    · simp [query, filters, hglobal, hjoins, hctx, foldl_addOwner]

/-- Without an identity nothing gets past the plugin. -/
lemma query_refused (hbuilt : s.Built) (hbusiness : scope.globalTables s.table = false ∨ s.joins ≠ [])
    {e : ScopeError} (hctx : fromContext s.context = .error e) :
    (scope.query s).error = some (.scope e) := by
  have hscoped : ¬(scope.globalTables s.table = true ∧ s.joins = []) := by
    rintro ⟨hglobal, hjoins⟩
    rcases hbusiness with h | h
    · rw [h] at hglobal
      cases hglobal
    · exact h hjoins
  unfold query
  simp only [hbuilt.noError, hbuilt.notRaw, hctx]
  simp [hscoped, addError, hbuilt.noError]

/-- The columns that an update leaves out. -/
def Scope.omits {ρ : Type} (scope : Scope) (kind : StatementKind) (s : Statement ρ β) : List String :=
  if kind = .update ∧ scope.globalTables s.table = false then s.omits ++ ["tenant_id"] else s.omits

/-- What the callback of a statement makes of it: the filters and the omitted owner, or an error if
it is an update that names another owner. -/
lemma callback_scoped (scope : Scope) (kind : StatementKind) (hbuilt : s.Built)
    (hctx : fromContext s.context = .ok identity) :
    if kind = .update ∧ scope.globalTables s.table = false ∧ s.changesOwner identity.id = true then
      (scope.callback kind s).error = some (.scope .mismatch)
    else
      scope.callback kind s = { s with
        wheres := s.wheres ++ scope.filters s identity.id
        omits := scope.omits kind s } := by
  cases kind with
  | update =>
    have hchanges : ∀ wheres error, ({ s with wheres := wheres, error := error } :
        Statement (Joined V) β).changesOwner identity.id = s.changesOwner identity.id :=
      fun _ _ => rfl
    simp only [Scope.callback, Scope.update, query_scoped hbuilt hctx, hbuilt.noError, hctx,
      hchanges, Scope.omits]
    cases hglobal : scope.globalTables s.table with
    | true => simp
    | false =>
      cases hchange : s.changesOwner identity.id with
      | true => simp [Statement.addError]
      | false => simp
  | _ => simp [Scope.callback, Scope.omits, query_scoped hbuilt hctx]

/-! ## What is touched -/

lemma filters_hold (id : Int) :
    (∀ e ∈ scope.filters s id, s.holds dialect kind rows e.condition = true) ↔
      Filtered dialect kind scope s id rows := by
  have hjoined : ∀ table : Option String,
      s.holds dialect kind rows (.owner table id) = true ↔
        ∃ source, s.resolve dialect kind table = some source ∧
          ∃ row, rows source = some row ∧ row.tenantId = id := by
    intro table
    simp [holds, Option.any_eq_true, Option.bind_eq_some_iff]
    grind
  simp only [filters, mem_append, mem_map]
  constructor
  · intro h
    refine ⟨?_, ?_⟩
    · intro hbusiness
      have hmain := (hjoined none).mp (h ⟨false, .owner none id⟩ (.inl (by simp [hbusiness])))
      obtain ⟨source, hsource, row, hrow, hid⟩ := hmain
      cases hsource
      exact ⟨row, hrow, hid⟩
    · intro table htable
      exact (hjoined (some table)).mp (h _ (.inr ⟨table, htable, rfl⟩))
  · rintro ⟨hmain, hothers⟩ e (he | ⟨table, htable, rfl⟩)
    · split_ifs at he with hglobal
      · simp at he
      rw [mem_singleton] at he
      rw [he]
      obtain ⟨row, hrow, hid⟩ := hmain (by simpa using hglobal)
      exact (hjoined none).mpr ⟨_, rfl, row, hrow, hid⟩
    · exact (hjoined (some table)).mpr (hothers table htable)

lemma filters_resolve (id : Int) :
    (∀ e ∈ s.wheres ++ scope.filters s id, s.Resolves dialect kind e.condition) ↔
      (∀ e ∈ s.wheres, s.Resolves dialect kind e.condition) ∧
        ∀ table ∈ scope.joinedBusinessTables s.joins,
          (s.resolve dialect kind (some table)).isSome := by
  simp only [mem_append, filters, mem_map]
  constructor
  · intro h
    refine ⟨fun e he => h e (.inl he), fun table htable => ?_⟩
    exact h ⟨false, .owner (some table) id⟩ (.inr (.inr ⟨table, htable, rfl⟩))
  · rintro ⟨hcaller, hjoined⟩ e (he | he | ⟨table, htable, rfl⟩)
    · exact hcaller e he
    · split_ifs at he
      · simp at he
      rw [mem_singleton] at he
      rw [he]
      rfl
    · exact hjoined table htable

/-- The last alternative is met with the filters of the plugin. -/
lemma last_alternative (id : Int) :
    (∀ x ∈ (alternatives (s.wheres ++ scope.filters s id)).2,
        s.holds dialect kind rows x = true) ↔
      (∀ x ∈ (alternatives s.wheres).2, s.holds dialect kind rows x = true) ∧
        Filtered dialect kind scope s id rows := by
  rw [← filters_hold, alternatives_append (filters_plain scope s id)]
  simp only [mem_append, mem_map]
  constructor
  · intro h
    exact ⟨fun x hx => h x (.inl hx), fun e he => h _ (.inr ⟨e, he, rfl⟩)⟩
  · rintro ⟨hcaller, hfilters⟩ x (hx | ⟨e, he, rfl⟩)
    · exact hcaller x hx
    · exact hfilters e he

/-- The filters are part of the last alternative only. -/
lemma touches_iff (hbuilt : s.Built) (hctx : fromContext s.context = .ok identity) :
    Touches dialect kind db (scope.callback kind s) rows ↔
      Accepted dialect kind scope s identity.id ∧ Candidate dialect kind db s rows ∧
        ((∃ conditions ∈ (alternatives s.wheres).1,
            ∀ x ∈ conditions, s.holds dialect kind rows x = true) ∨
          (∀ x ∈ (alternatives s.wheres).2, s.holds dialect kind rows x = true) ∧
            Filtered dialect kind scope s identity.id rows) := by
  have hcallback := callback_scoped scope kind hbuilt hctx
  have halternatives := alternatives_append (filters_plain scope s identity.id) s.wheres
  split_ifs at hcallback with hrefused
  · constructor
    · intro h
      have herror := h.noError
      rw [hcallback] at herror
      cases herror
    · rintro ⟨haccepted, -⟩
      have := haccepted.keepsOwner hrefused.1 hrefused.2.1
      rw [hrefused.2.2] at this
      cases this
  · -- the tables and the joins are those of `s`
    rw [hcallback]
    constructor
    · rintro ⟨-, hresolves, ⟨hstored, hon⟩, hholds⟩
      obtain ⟨hcaller, hfilters⟩ := (filters_resolve identity.id).mp hresolves
      refine ⟨⟨?_, hcaller, hfilters⟩, ⟨hstored, hon⟩, ?_⟩
      · intro hkind hbusiness
        simpa [hkind, hbusiness] using hrefused
      · rw [← last_alternative]
        rw [halternatives] at hholds ⊢
        exact hholds
    · rintro ⟨haccepted, ⟨hstored, hon⟩, hholds⟩
      refine ⟨hbuilt.noError, (filters_resolve identity.id).mpr
        ⟨haccepted.resolves, haccepted.filters⟩, ⟨hstored, hon⟩, ?_⟩
      rw [← last_alternative] at hholds
      rw [halternatives] at hholds ⊢
      exact hholds

/-- The columns that an update writes if it reaches anything: those it wrote before, without the
owner. -/
lemma update_writes (hbuilt : s.Built) (hctx : fromContext s.context = .ok identity)
    (howner : columnName s.schema "tenant_id" = "tenant_id")
    (hbusiness : scope.globalTables s.table = false)
    (htouches : Touches dialect .update db (scope.callback .update s) rows) :
    (scope.callback .update s).dest = s.dest ∧ (scope.callback .update s).schema = s.schema ∧
      ∀ column, included s.schema (scope.callback .update s).selects
          (scope.callback .update s).omits column = true ↔
        included s.schema s.selects s.omits column = true ∧ column ≠ "tenant_id" := by
  have hcallback := callback_scoped scope .update hbuilt hctx
  split_ifs at hcallback with hrefused
  · have herror := htouches.noError
    rw [hcallback] at herror
    cases herror
  rw [hcallback]
  refine ⟨rfl, rfl, fun column => ?_⟩
  simp only [Scope.omits, hbusiness, and_self, if_true]
  simp [included, howner]
  grind

lemma isolated_iff (ofId : Int → β) (hbuilt : s.Built) (hctx : fromContext s.context = .ok identity)
    (howner : columnName s.schema "tenant_id" = "tenant_id") :
    Isolated dialect kind db scope ofId s (scope.callback kind s) identity.id ↔
      ReachesOnlyOwn dialect kind db scope ofId s identity.id := by
  have htouches := fun rows => @touches_iff _ _ dialect kind db scope s identity rows hbuilt hctx
  constructor
  · rintro ⟨hown, hkeeps⟩
    refine ⟨?_, ?_, ?_⟩
    · intro haccepted rows hcandidate hearlier
      exact hown rows ((htouches rows).mpr ⟨haccepted, hcandidate, .inl hearlier⟩)
    · intro haccepted rows hcandidate hlast hfiltered
      exact hown rows ((htouches rows).mpr ⟨haccepted, hcandidate, .inr ⟨hlast, hfiltered⟩⟩)
    · rintro rfl hbusiness rows ht hsome kv hkv hincluded hname hcolumn
      obtain ⟨row, hrow⟩ := Option.isSome_iff_exists.mp hsome
      obtain ⟨hdest, hschema, hwrites⟩ := update_writes hbuilt hctx howner hbusiness ht
      rw [← hown rows ht s.main (by simp [sources]) hbusiness row hrow]
      refine hkeeps rfl hbusiness rows ht row hrow kv (by rwa [hdest]) ?_ ?_
      · rw [hschema, hwrites]
        exact ⟨hincluded, hname⟩
      · rwa [hschema]
  · rintro ⟨hearlier, hunfiltered, hkeys⟩
    have hown : ∀ rows, Touches dialect kind db (scope.callback kind s) rows →
        Own dialect kind scope s identity.id rows := by
      intro rows ht
      obtain ⟨haccepted, hcandidate, hholds | ⟨hlast, hfiltered⟩⟩ := (htouches rows).mp ht
      · exact hearlier haccepted rows hcandidate hholds
      · exact hunfiltered haccepted rows hcandidate hlast hfiltered
    refine ⟨hown, ?_⟩
    rintro rfl hbusiness rows ht row hrow kv hkv hincluded hcolumn
    obtain ⟨hdest, hschema, hwrites⟩ := update_writes hbuilt hctx howner hbusiness ht
    rw [hown rows ht s.main (by simp [sources]) hbusiness row hrow]
    rw [hdest] at hkv
    rw [hschema, hwrites] at hincluded
    rw [hschema] at hcolumn
    exact hkeys rfl hbusiness rows ht (by rw [hrow]; rfl) kv hkv hincluded.1 hincluded.2 hcolumn

/-- Statements without `Or` whose joined business tables are all read by the regular expression. -/
lemma reachesOnlyOwn_plain (ofId : Int → β) {id : Int} (hplain : ∀ e ∈ s.wheres.tail, e.or = false)
    (hjoined : ∀ source ∈ s.sources dialect kind, source ≠ s.main →
      scope.globalTables source.table = false →
      ∃ table ∈ scope.joinedBusinessTables s.joins,
        s.resolve dialect kind (some table) = some source)
    (hkeys : kind = .update → ∀ kv ∈ s.dest.values.entries,
      columnName s.schema kv.1 ≠ "tenant_id" →
      dialect.column (columnName s.schema kv.1) ≠ "tenant_id") :
    ReachesOnlyOwn dialect kind db scope ofId s id := by
  refine ⟨?_, ?_, ?_⟩
  · intro _ rows _ hearlier
    rw [alternatives_plain hplain] at hearlier
    obtain ⟨conditions, hmem, -⟩ := hearlier
    cases hmem
  · intro _ rows _ _ hfiltered source hsource hbusiness row hrow
    -- the filter of the table has found a row of the workspace, and `rows` has no other one
    have hfound : ∃ row', rows source = some row' ∧ row'.tenantId = id := by
      by_cases hmain : source = s.main
      · rw [hmain] at hbusiness ⊢
        exact hfiltered.main hbusiness
      obtain ⟨table, htable, hresolve⟩ := hjoined source hsource hmain hbusiness
      obtain ⟨source', hsource', row', hrow', hid⟩ := hfiltered.joined table htable
      rw [hresolve] at hsource'
      cases hsource'
      exact ⟨row', hrow', hid⟩
    obtain ⟨row', hrow', hid⟩ := hfound
    rw [hrow] at hrow'
    cases hrow'
    exact hid
  · intro hkind _ rows _ _ kv hkv _ hname hcolumn
    exact absurd hcolumn (hkeys hkind kv hkv hname)

/-- A statement of a context without a workspace fails before it reaches the database. With a
workspace, what the statement reaches is its own if and only if the conditions before the last `OR`
and the joined tables without a filter admit no foreign rows, and no key of an update names the
owner in a way that neither the plugin nor GORM knows. -/
theorem scoped_statement_isolated_iff (scope : Scope) (dialect : Dialect V) (kind : StatementKind)
    (db : String → Set (Row V)) (ofId : Int → β) (s : Statement (Joined V) β) (hbuilt : s.Built)
    (hbusiness : scope.globalTables s.table = false ∨ s.joins ≠ [])
    (howner : columnName s.schema "tenant_id" = "tenant_id") :
    (∀ e, fromContext s.context = .error e →
      (scope.callback kind s).error = some (.scope e)) ∧
    ∀ identity, fromContext s.context = .ok identity →
      (Isolated dialect kind db scope ofId s (scope.callback kind s) identity.id ↔
        ReachesOnlyOwn dialect kind db scope ofId s identity.id) := by
  refine ⟨?_, fun identity hctx => isolated_iff ofId hbuilt hctx howner⟩
  intro e hctx
  have hquery := query_refused hbuilt hbusiness hctx
  cases kind with
  | update => simp [callback, update, hquery]
  | query | delete => exact hquery

end

/-! ### Statements that reach own rows, and statements that do not -/

/-- A database that reads two join texts, and names as they are written. -/
def plainDialect : Dialect (Nat × Nat) where
  sources text :=
    if ["JOIN vendors ON vendors.id = models.vendor_id",
        "STRAIGHT_JOIN vendors ON vendors.id = models.vendor_id"].contains text then
      [⟨"vendors", "vendors"⟩]
    else []
  denotes name source := source.name == name
  on joins rows := joins.isEmpty ||
    (rows ⟨"models", "models"⟩).map (·.data.2) == (rows ⟨"vendors", "vendors"⟩).map (·.data.1)
  column name := name

/-- A table of workspace 1 and one of workspace 2, whose model has the vendor of workspace 1. -/
def plainRows : String → Set (Row (Nat × Nat))
  | "models" => {⟨1, (1, 10)⟩, ⟨2, (2, 10)⟩}
  | "vendors" => {⟨1, (10, 0)⟩, ⟨2, (10, 0)⟩}
  | _ => ∅

def businessScope : Scope where
  globalTables table := table == "tenants"
  beforeCreate _ _ := .ok ()

/-- A statement of workspace 1 on the models. -/
def modelStatement (joins : List String) (wheres : List (WhereExpr (Joined (Nat × Nat)))) :
    Statement (Joined (Nat × Nat)) Int where
  sql := ""
  table := "models"
  tableExpr := none
  joins := joins
  wheres := wheres
  context := some ⟨1, "own"⟩
  error := none
  schema := none
  dest := .struct ⟨[], .nil⟩
  modelOwner := none
  selects := []
  omits := []

/-- `WHERE models.id = id`. -/
def modelIs (id : Nat) : Condition (Joined (Nat × Nat)) :=
  .caller fun rows => (rows ⟨"models", "models"⟩).any (·.data.1 == id)

lemma modelStatement_built (joins : List String)
    (wheres : List (WhereExpr (Joined (Nat × Nat)))) : (modelStatement joins wheres).Built :=
  ⟨rfl, rfl, rfl⟩

/-- The models and their vendors, as they are searched by the name of a vendor. -/
theorem scoped_statement_isolated_vendors :
    Isolated plainDialect .query plainRows businessScope id
      (modelStatement ["JOIN vendors ON vendors.id = models.vendor_id"] [⟨false, modelIs 1⟩])
      (businessScope.callback .query
        (modelStatement ["JOIN vendors ON vendors.id = models.vendor_id"] [⟨false, modelIs 1⟩])) 1 := by
  refine ((scoped_statement_isolated_iff businessScope plainDialect .query plainRows id _
    (modelStatement_built _ _) (.inl (by decide)) rfl).2 ⟨1, "own"⟩ rfl).mpr ?_
  refine reachesOnlyOwn_plain id (by decide) ?_ nofun
  intro source hsource hmain _
  have hvendors : source = ⟨"vendors", "vendors"⟩ := by
    have hsources : source = ⟨"models", "models"⟩ ∨ source = ⟨"vendors", "vendors"⟩ := by
      simpa [sources, main, modelStatement, plainDialect,
        StatementKind.rendersJoins] using hsource
    exact hsources.resolve_left hmain
  subst hvendors
  exact ⟨"vendors", by decide, by decide⟩

/-- Workspace 1 asks for its model 1 or model 2, and reads the model of workspace 2; it joins the
vendors by a text that the regular expression does not read, and reads the vendor of workspace 2. -/
theorem scoped_statement_reads_foreign_rows :
    (∃ rows, Touches plainDialect .query plainRows
        (businessScope.callback .query
          (modelStatement [] [⟨false, modelIs 2⟩, ⟨true, modelIs 1⟩])) rows ∧
      (rows ⟨"models", "models"⟩).map (·.tenantId) = some 2) ∧
    ∃ rows, Touches plainDialect .query plainRows
        (businessScope.callback .query
          (modelStatement ["STRAIGHT_JOIN vendors ON vendors.id = models.vendor_id"]
            [⟨false, modelIs 1⟩])) rows ∧
      (rows ⟨"vendors", "vendors"⟩).map (·.tenantId) = some 2 := by
  have hctx : ∀ joins wheres, fromContext (modelStatement joins wheres).context = .ok ⟨1, "own"⟩ :=
    fun _ _ => rfl
  constructor
  · refine ⟨fun source => if source = ⟨"models", "models"⟩ then some ⟨2, (2, 10)⟩ else none, ?_, rfl⟩
    refine (touches_iff (modelStatement_built _ _) (hctx _ _)).mpr
      ⟨⟨nofun, ?_, by decide⟩, ⟨?_, fun _ => rfl⟩, .inl ⟨[modelIs 2], .head _, ?_⟩⟩
    · simp [modelStatement, modelIs, Statement.Resolves]
    · simp [sources, main, modelStatement, StatementKind.rendersJoins, plainRows]
    · simp [modelIs, holds]
  · refine ⟨fun source => if source = ⟨"models", "models"⟩ then some ⟨1, (1, 10)⟩
      else some ⟨2, (10, 0)⟩, ?_, rfl⟩
    refine (touches_iff (modelStatement_built _ _) (hctx _ _)).mpr
      ⟨⟨nofun, ?_, by decide⟩, ⟨?_, fun _ => rfl⟩, .inr ⟨?_, ?_, ?_⟩⟩
    · simp [modelStatement, modelIs, Statement.Resolves]
    · simp [sources, main, modelStatement, StatementKind.rendersJoins,
        plainDialect, plainRows]
    · simp [modelStatement, alternatives, splitOr, modelIs, holds]
    · exact fun _ => ⟨_, rfl, rfl⟩
    · decide

end NewApi.Tenant
