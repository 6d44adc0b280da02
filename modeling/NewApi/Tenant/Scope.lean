import NewApi.Tenant.Context

/-!
# The plugin that scopes statements

`tenant/scope.go` is called by GORM before it renders a statement. It adds the owner to the
conditions of the table and of the joined tables it finds (`query`), takes the owner out of updates
(`update`) and writes it into inserts (`create`).

What the statement then means to GORM and the database is at the end of the module. How they read
the names and join texts of a statement is a parameter (`Dialect`).
-/

namespace NewApi.Tenant

/-! ## Texts -/

/-- `strings.EqualFold`, against a text of letters that have two cases only. -/
def equalFold (s t : String) : Bool :=
  s.toList.map Char.toLower == t.toList.map Char.toLower

def isWordChar (c : Char) : Bool := c.isAlphanum || c == '_'

/-- `\s` of a regular expression. -/
def isBlank (c : Char) : Bool := [' ', '\t', '\n', '\x0c', '\r'].contains c

def isNameQuote (c : Char) : Bool := c == '"' || c == Char.ofNat 96

/-- `[a-z_]` without regard to case: the long s and the Kelvin sign are such letters. -/
def isNameStart (c : Char) : Bool :=
  c.isAlpha || c == '_' || c == Char.ofNat 0x17f || c == Char.ofNat 0x212a

def isNameChar (c : Char) : Bool := isNameStart c || c.isDigit

/-- The text without a quote at its start. -/
def dropQuote : List Char → List Char
  | [] => []
  | c :: rest => if isNameQuote c then rest else c :: rest

/-- The table name after the word `join`, and what follows the match. -/
def joinedName (text : List Char) : Option (List Char × List Char) :=
  if text.head?.any isBlank then
    let name := dropQuote (text.dropWhile isBlank)
    if name.head?.any isNameStart then
      some (name.takeWhile isNameChar, dropQuote (name.dropWhile isNameChar))
    else none
  else none

/-- A match of `joinedTable` at the start of the text: the name and how long the match is. -/
def matchJoin (text : List Char) : Option (List Char × Nat) :=
  if (text.take 4).map Char.toLower = ['j', 'o', 'i', 'n'] then
    match joinedName (text.drop 4) with
    | some (name, rest) => some (name, text.length - rest.length)
    | none => none
  else none

/-- The names of all matches. `skip` characters belong to the last match; `word` says whether the
character before is one of a word. -/
def findJoined (skip : Nat) (word : Bool) : List Char → List String
  | [] => []
  | c :: rest =>
    if 0 < skip then findJoined (skip - 1) (isWordChar c) rest
    else if word then findJoined 0 (isWordChar c) rest
    else
      match matchJoin (c :: rest) with
      | some (name, length) => String.ofList name :: findJoined (length - 1) (isWordChar c) rest
      | none => findJoined 0 (isWordChar c) rest

/-- `joinedTable.FindAllStringSubmatch`. -/
def joinedTables (text : String) : List String := findJoined 0 false text.toList

/-- `strings.Contains(sql, "(?)")`. -/
def isSubquery (sql : String) : Bool := sql.toList.tails.any ['(', '?', ')'].isPrefixOf

/-! ## Statements -/

/-- The errors of the plugin. -/
inductive PluginError
  | scope (e : ScopeError)
  | rawQuery
  | rawSql
  | noTenantId (table : String)
  | notStruct
  | nilMap
  | omitEvery
  | unrestrictedUpsert
  | surrogateKey
  | beforeCreate (message : String)
deriving DecidableEq

def PluginError.message : PluginError → String
  | .scope e => e.message
  | .rawQuery => "raw business queries are forbidden; use a scoped GORM query"
  | .rawSql => "raw SQL is forbidden on the scoped database"
  | .noTenantId table => "business model " ++ table ++ " has no tenant_id"
  | .notStruct => "business inserts require a model struct"
  | .nilMap => "business insert cannot use a nil map"
  | .omitEvery => "business inserts cannot omit every column"
  | .unrestrictedUpsert => "unrestricted business upsert is forbidden"
  | .surrogateKey => "business upsert must not supply a surrogate primary key"
  | .beforeCreate message => message

/-- A field of a model: the name of the struct field and of the column. -/
structure Field where
  name : String
  dbName : String
  autoIncrement : Bool
  /-- the database has a default for it -/
  hasDefaultValue : Bool
deriving DecidableEq

/-- `stmt.Schema`. -/
structure Schema where
  lookUpField : String → Option Field
  dbNames : List String
  primaryFields : List Field

/-- The tables that belong to no workspace, and what runs before an insert. -/
structure Scope where
  globalTables : String → Bool
  /-- `BeforeCreate`; it gets the identity and the number of rows -/
  beforeCreate : Identity → Nat → Except String Unit

/-- A Go map with string keys. -/
structure GoMap (β : Type) where
  entries : List (String × β)
  nodup : (entries.map Prod.fst).Nodup

/-- An expression of the `WHERE` clause over the rows `ρ`: one that the caller gave, or
`table.tenant_id = id`. Without a name the table is that of the statement. -/
inductive Condition (ρ : Type)
  | caller (holds : ρ → Bool)
  | owner (table : Option String) (id : Int)

/-- `clause.Where` collects expressions; those of `Or` are joined to what precedes them by `OR`. -/
structure WhereExpr (ρ : Type) where
  or : Bool
  condition : Condition ρ

/-- `stmt.Dest` of an update. -/
inductive UpdateDest (β : Type)
  | map (values : GoMap β)
  /-- a pointer to a map, which GORM follows -/
  | mapPointer (values : GoMap β)
  /-- a struct, as the values of its columns -/
  | struct (values : GoMap β)

/-- The statement that the callbacks get. `ρ` are the rows its conditions speak of and `β` the
values of columns. -/
structure Statement (ρ β : Type) where
  /-- the text of a raw statement -/
  sql : String
  table : String
  tableExpr : Option String
  joins : List String
  wheres : List (WhereExpr ρ)
  context : Option Identity
  error : Option PluginError
  schema : Option Schema
  dest : UpdateDest β
  /-- `TenantID` of the model of an update, if that is a struct -/
  modelOwner : Option Int
  selects : List String
  omits : List String

section
variable {β : Type}

def GoMap.get (m : GoMap β) (key : String) : Option β := m.entries.lookup key

/-- `delete(m, key)`. -/
def GoMap.erase (m : GoMap β) (key : String) : GoMap β where
  entries := m.entries.filter fun kv => kv.1 ≠ key
  nodup := m.nodup.sublist (List.filter_sublist.map _)

/-- `m[key] = value`. -/
def GoMap.set (m : GoMap β) (key : String) (value : β) : GoMap β where
  entries := (key, value) :: (m.erase key).entries
  nodup := by
    refine List.nodup_cons.mpr ⟨?_, (m.erase key).nodup⟩
    simp [GoMap.erase]

def UpdateDest.values : UpdateDest β → GoMap β
  | .map values | .mapPointer values | .struct values => values

end

/-! ## Conditions and updates -/

section
variable {ρ β : Type}

def Statement.addError (s : Statement ρ β) (e : PluginError) : Statement ρ β :=
  { s with error := some (s.error.getD e) }

/-- Add `tenant_id = id` to the conditions. -/
def Statement.addOwner (s : Statement ρ β) (table : Option String) (id : Int) : Statement ρ β :=
  { s with wheres := s.wheres ++ [⟨false, .owner table id⟩] }

/-- Queries of the database time, which read no rows. -/
def databaseTimeQueries : List String :=
  ["SELECT EXTRACT(EPOCH FROM NOW())::bigint", "SELECT strftime('%s','now')",
    "SELECT UNIX_TIMESTAMP()"]

/-- The tables in the join texts that are not global ones. -/
def Scope.joinedBusinessTables (scope : Scope) (joins : List String) : List String :=
  (joins.flatMap joinedTables).filter fun table => !scope.globalTables table

def Scope.query (scope : Scope) (s : Statement ρ β) : Statement ρ β :=
  if s.error.isSome then s
  else if s.sql ≠ "" then
    if databaseTimeQueries.contains s.sql then s else s.addError .rawQuery
  else
    let isGlobal := scope.globalTables s.table
    if isGlobal ∧ s.joins = [] then s
    else
      match fromContext s.context with
      | .error e => s.addError (.scope e)
      | .ok identity =>
        let s := if !isGlobal && !s.tableExpr.any isSubquery then s.addOwner none identity.id else s
        (scope.joinedBusinessTables s.joins).foldl
          (fun s table => s.addOwner (some table) identity.id) s

/-- The key of a map names the owner. -/
def isOwnerKey (key : String) : Bool := equalFold key "tenant_id" || equalFold key "TenantID"

/-- The update is refused: its map names the owner, or its model has another one. The model of a
struct without a schema has no owner. -/
def Statement.changesOwner (s : Statement ρ β) (id : Int) : Bool :=
  (match s.dest with
    | .map values => values.entries.any fun kv => isOwnerKey kv.1
    | _ => false) ||
  (match s.schema.bind (·.lookUpField "TenantID"), s.modelOwner with
    | some _, some owner => owner ≠ 0 && owner ≠ id
    | _, _ => false)

def Scope.update (scope : Scope) (s : Statement ρ β) : Statement ρ β :=
  let s := scope.query s
  if s.error.isSome || scope.globalTables s.table then s
  else
    -- the context has been looked at by `query`; without an identity the id is `0`
    let id := match fromContext s.context with
      | .ok identity => identity.id
      | .error _ => 0
    if s.changesOwner id then s.addError (.scope .mismatch)
    else { s with omits := s.omits ++ ["tenant_id"] }

def Scope.raw (_ : Scope) (s : Statement ρ β) : Statement ρ β := s.addError .rawSql

end

/-! ## Inserts -/

/-- A row to insert. -/
inductive RowValue (β : Type)
  /-- `map[string]any`, which may be `nil` -/
  | map (values : Option (GoMap β))
  /-- a struct or a pointer to one, as the values of its columns -/
  | struct (values : String → β)
  | other

/-- `stmt.ReflectValue` of an insert. -/
inductive InsertValue (β : Type)
  | single (row : RowValue β)
  | slice (rows : List (RowValue β))
  /-- neither a struct nor a map nor a sequence -/
  | other

/-- `clause.OnConflict`. -/
structure OnConflict (β : Type) where
  columns : List String
  doNothing : Bool
  doUpdates : List (String × β)
  updateAll : Bool
  onConstraint : String

structure Insert (β : Type) where
  table : String
  context : Option Identity
  schema : Option Schema
  value : InsertValue β
  selects : List String
  omits : List String
  conflict : Option (OnConflict β)

section
variable {β : Type} [DecidableEq β] (isZero : β → Bool) (ofId : Int → β)

/-- The rows of an insert. -/
def InsertValue.rows : InsertValue β → Except PluginError (List (RowValue β))
  | .single row => .ok [row]
  | .slice rows => .ok rows
  | .other => .error .notStruct

/-- The insert with other rows. -/
def InsertValue.withRows (value : InsertValue β) (rows : List (RowValue β)) : InsertValue β :=
  match value, rows with
  | .single _, [row] => .single row
  | _, rows => .slice rows

/-- The owner is written into a row that has none or the same. -/
def RowValue.own (field : Field) (id : Int) : RowValue β → Except PluginError (RowValue β)
  | .map none => .error .nilMap
  | .map (some values) =>
    if [field.name, field.dbName].any fun key => (values.get key).any (· ≠ ofId id) then
      .error (.scope .mismatch)
    else .ok (.map (some ((values.erase field.name).set field.dbName (ofId id))))
  | .struct values =>
    if ¬ isZero (values field.dbName) ∧ values field.dbName ≠ ofId id then
      .error (.scope .mismatch)
    else .ok (.struct fun column => if column = field.dbName then ofId id else values column)
  | .other => .error .notStruct

/-- The row comes with a value for the primary key. -/
def RowValue.suppliesKey (primary : Field) : RowValue β → Bool
  | .map values =>
    [primary.name, primary.dbName].any fun key =>
      ((values.bind fun values => values.get key)).any fun id => !isZero id
  | .struct values => !isZero (values primary.dbName)
  | .other => false

/-- The lists of columns keep the owner. -/
def ownedSelects (field : Field) (selects : List String) : List String :=
  if selects = [] then [] else selects ++ [field.dbName]

def ownedOmits (field : Field) (omits : List String) : List String :=
  omits.filter fun column => !(equalFold column field.dbName || equalFold column field.name)

/-- The clause of an upsert that stays inside the workspace. -/
def OnConflict.scoped (conflict : OnConflict β) (primaryFields : List Field)
    (rows : List (RowValue β)) : Except PluginError (OnConflict β) :=
  if conflict.updateAll ∨ conflict.onConstraint ≠ "" then .error .unrestrictedUpsert
  else if conflict.doUpdates.any (·.1 = "tenant_id") then .error (.scope .mismatch)
  else if conflict.doUpdates ≠ [] ∧ primaryFields.any (fun primary =>
      primary.autoIncrement && rows.any (·.suppliesKey isZero primary)) then
    .error .surrogateKey
  else if conflict.columns ≠ [] ∧ "tenant_id" ∉ conflict.columns then
    .ok { conflict with columns := "tenant_id" :: conflict.columns }
  else .ok conflict

def Scope.create (scope : Scope) (s : Insert β) : Except PluginError (Insert β) :=
  if scope.globalTables s.table then .ok s
  else do
    let identity ← (fromContext s.context).mapError .scope
    let some schema := s.schema | throw (.scope .missing)
    let some field := schema.lookUpField "TenantID" | throw (.noTenantId s.table)
    let rows ← s.value.rows
    (scope.beforeCreate identity rows.length).mapError .beforeCreate
    let rows ← rows.mapM (·.own isZero ofId field identity.id)
    if "*" ∈ s.omits then throw .omitEvery
    let conflict ← s.conflict.mapM (·.scoped isZero schema.primaryFields rows)
    return { s with
      value := s.value.withRows rows
      selects := ownedSelects field s.selects
      omits := ownedOmits field s.omits
      conflict := conflict }

end

/-! ## What GORM makes of the lists of columns -/

/-- The column that GORM takes a name for. -/
def columnName (schema : Option Schema) (name : String) : String :=
  match schema.bind (·.lookUpField name) with
  | some field => field.dbName
  | none => name

/-- The column is written: it is selected, or nothing is, and it is not omitted. -/
def included (schema : Option Schema) (selects omits : List String) (column : String) : Bool :=
  let all := (schema.map (·.dbNames)).getD []
  !((omits.map (columnName schema)).contains column ||
    omits.contains "*" && all.contains column) &&
  (selects.isEmpty || (selects.map (columnName schema)).contains column ||
    selects.contains "*" && schema.isSome)

end NewApi.Tenant
