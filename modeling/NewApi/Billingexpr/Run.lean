import NewApi.Utils.GoInt
import NewApi.Utils.Logged
import NewApi.Billingexpr.Compile

/-!
# Runs of a billing program

`runProgram` evaluates a program in an environment with the token counts, the pricing callbacks and
the probes of the request (`pkg/billingexpr/run.go`). A run reports each call of a pricing or trace
callback as an event; the trace of the run is what the events have written.

Conditionals, calls, products and names have their usual meaning here. What else the expression
language can do is a parameter (`ExprLang`), and so are the answers of the probes.
-/

namespace NewApi.Billingexpr

open Logged (tell fail lift)

/-! ## Values and events -/

/-- Functions of the environment that write nothing to the trace. -/
inductive HostFunction
  | header
  | param
  | u
  | has
  | hour
  | minute
  | weekday
  | month
  | day
  | max
  | min
  | abs
  | ceil
  | floor
deriving DecidableEq

inductive Callback
  | tier
  | fixed
  | trace
  | traceInt
  | host (function : HostFunction)
deriving DecidableEq

/-- Values of the expression language; `data` are its composite ones. -/
inductive Value (D : Type)
  | nil
  | bool (value : Bool)
  | int (value : Int)
  | float (value : Binary64)
  | string (value : String)
  | callback (function : Callback)
  | env
  | data (value : D)

/-- A call of a callback that writes to the trace. -/
inductive Event
  | tier (name : String) (value : Binary64)
  | fixed (amount : Binary64)
  | rule (index : Int)
deriving DecidableEq

/-- What a call writes. A rule that is not in the list is not marked. -/
def TraceResult.record (trace : TraceResult) : Event → TraceResult
  | .tier name value => { trace with matchedTier := name, cost := value }
  | .fixed amount => { trace with billingUnit := .request, fixedPrice := some amount }
  | .rule index =>
    if 0 ≤ index then
      { trace with
        requestRules := trace.requestRules.modify index.toNat fun rule =>
          { rule with matched := true } }
    else trace

section
variable {D S : Type}

/-- A number, as a double. -/
def Value.number : Value D → Option Binary64
  | .int value => some (Binary64.ofInt value)
  | .float value => some value
  | _ => none

/-- The meaning of a node: what it does in a scope of local variables. -/
def Comp (D S : Type) : Type := S → Logged Event (Value D)

/-- The rest of the expression language. -/
structure ExprLang (D S : Type) where
  /-- The scope at the root of a program. -/
  start : S
  lookup : S → String → Option (Value D)
  /-- Operators other than `*`; they may skip an operand. -/
  binary : String → Comp D S → Comp D S → Comp D S
  operate : NodeKind → List (Comp D S) → Comp D S
  fetch : Bool → Value D → Value D → Except String (Value D)
  /-- Products of operands that are not both numbers. -/
  multiply : Value D → Value D → Except String (Value D)

/-- The request of a run: the number of images and what the probes answer. -/
structure RequestInput (D : Type) where
  imageCount : Option Int
  answer : HostFunction → List (Value D) → Except String (Value D)

/-! ## Evaluation -/

def environment (params : TokenParams Binary64) (imageCount : Int) : List (String × Value D) :=
  [("image_count", .float (Binary64.ofInt imageCount)),
    ("p", .float params.p),
    ("c", .float params.c),
    ("len", .float params.len),
    ("cr", .float params.cr),
    ("cc", .float params.cc),
    ("cc1h", .float params.cc1h),
    ("img", .float params.img),
    ("img_cr", .float params.imgCR),
    ("img_o", .float params.imgO),
    ("ai", .float params.ai),
    ("ao", .float params.ao),
    ("tier", .callback .tier),
    ("fixed", .callback .fixed),
    ("_trace", .callback .trace),
    ("_trace_int", .callback .traceInt),
    ("header", .callback (.host .header)),
    ("param", .callback (.host .param)),
    ("u", .callback (.host .u)),
    ("has", .callback (.host .has)),
    ("hour", .callback (.host .hour)),
    ("minute", .callback (.host .minute)),
    ("weekday", .callback (.host .weekday)),
    ("month", .callback (.host .month)),
    ("day", .callback (.host .day)),
    ("max", .callback (.host .max)),
    ("min", .callback (.host .min)),
    ("abs", .callback (.host .abs)),
    ("ceil", .callback (.host .ceil)),
    ("floor", .callback (.host .floor))]

def invalidArguments : Logged Event (Value D) := fail "invalid arguments"

def callTier : List (Value D) → Logged Event (Value D)
  | [.string name, price] =>
    match price.number with
    | some value => do
      tell (.tier name value)
      pure (.float value)
    | none => invalidArguments
  | _ => invalidArguments

def callFixed : List (Value D) → Logged Event (Value D)
  | [price] =>
    match price.number with
    | some amount => do
      tell (.fixed amount)
      pure (.float (amount.mul million))
    | none => invalidArguments
  | _ => invalidArguments

def callTrace : List (Value D) → Logged Event (Value D)
  | [.int ruleIndex, .bool matched, factor] =>
    match factor.number with
    | some multiplier =>
      if matched then do
        tell (.rule ruleIndex)
        pure (.float multiplier)
      else pure (.float Binary64.one)
    | none => invalidArguments
  | _ => invalidArguments

def callTraceInt : List (Value D) → Logged Event (Value D)
  | [.int ruleIndex, .bool matched, .int multiplier] =>
    if matched then do
      tell (.rule ruleIndex)
      pure (.int multiplier)
    else pure (.int 1)
  | _ => invalidArguments

/-- A call of a value; the probes answer from the request. -/
def callValue (answer : HostFunction → List (Value D) → Except String (Value D))
    (callee : Value D) (arguments : List (Value D)) : Logged Event (Value D) :=
  match callee with
  | .callback .tier => callTier arguments
  | .callback .fixed => callFixed arguments
  | .callback .trace => callTrace arguments
  | .callback .traceInt => callTraceInt arguments
  | .callback (.host function) => lift (answer function arguments)
  | _ => fail "not a function"

section
variable (lang : ExprLang D S) (env : List (String × Value D))
  (answer : HostFunction → List (Value D) → Except String (Value D))

/-- A name stands for a local variable, the environment or an entry of it. -/
def resolve (scope : S) (name : String) : Value D :=
  match lang.lookup scope name with
  | some v => v
  | none => if name = "$env" then .env else (env.lookup name).getD .nil

def fetchMember (optional : Bool) (node property : Value D) : Except String (Value D) :=
  match node, property with
  | .env, .string name => .ok ((env.lookup name).getD .nil)
  | node, property => lang.fetch optional node property

def multiply (left right : Value D) : Except String (Value D) :=
  match left, right with
  | .int x, .int y => .ok (.int (int64 (x * y)))
  | .int x, .float y => .ok (.float ((Binary64.ofInt x).mul y))
  | .float x, .int y => .ok (.float (x.mul (Binary64.ofInt y)))
  | .float x, .float y => .ok (.float (x.mul y))
  | left, right => lang.multiply left right

mutual

def eval : Node → S → Logged Event (Value D)
  | .identifier value, scope => pure (resolve lang env scope value)
  | .integer value, _ => pure (.int value)
  | .float value, _ => pure (.float value)
  | .string value, _ => pure (.string value)
  | .binary operator left right, scope =>
    if operator = "*" then do
      let x ← eval left scope
      let y ← eval right scope
      lift (multiply lang x y)
    else lang.binary operator (eval left) (eval right) scope
  | .member optional node property, scope => do
    let base ← eval node scope
    let key ← eval property scope
    lift (fetchMember lang env optional base key)
  | .call callee arguments, scope => do
    let values ← Logged.collect ((evalList arguments).map (· scope))
    let function ← eval callee scope
    callValue answer function values
  | .conditional _ cond exp1 exp2, scope => do
    let condition ← eval cond scope
    match condition with
    | .bool true => eval exp1 scope
    | .bool false => eval exp2 scope
    | _ => fail "the condition is not a boolean"
  | .other kind children, scope => lang.operate kind (evalList children) scope

def evalList : List Node → List (S → Logged Event (Value D))
  | [] => []
  | n :: ns => eval n :: evalList ns

end

lemma evalList_eq (ns : List Node) :
    evalList lang env answer ns = ns.map (eval lang env answer) := by
  induction ns with
  | nil => rfl
  | cons n ns ih => rw [evalList, ih, List.map_cons]

end

/-! ## `runProgram` -/

def maxImageN : Int := 128

/-- The calls, the trace and the result of a run. -/
structure Run where
  calls : List Event
  trace : TraceResult
  result : Except String Binary64

/-- The number of images that is billed: `1`, unless the program mentions it. -/
def CachedEntry.imageCount (entry : CachedEntry) (request : RequestInput D) : Int :=
  if entry.usedVars "image_count" then request.imageCount.getD 1 else 1

/-- The evaluation of a program for a request. -/
def CachedEntry.execute (entry : CachedEntry) (lang : ExprLang D S)
    (params : TokenParams Binary64) (request : RequestInput D) : Logged Event (Value D) :=
  eval lang (environment params (entry.imageCount request)) request.answer entry.prog lang.start

/-- The result of an evaluation, as a double. -/
def runResult : Except String (Value D) → Except String Binary64
  | .error e => .error ("expr run error: " ++ e)
  | .ok v =>
    match v.number with
    | some x => .ok x
    | none => .error "expr run error: invalid operation: float64"

def runProgram (lang : ExprLang D S) (entry : CachedEntry) (params : TokenParams Binary64)
    (request : RequestInput D) : Run :=
  let counted := entry.usedVars "image_count"
  let count := entry.imageCount request
  let trace : TraceResult := {
    imageCount := if counted ∧ 1 ≤ count ∧ count ≤ maxImageN then some count else none
    billingUnit := .token
    fixedPrice := none
    matchedTier := ""
    requestRules := entry.requestRules
    cost := Binary64.zero }
  if counted ∧ (count < 1 ∨ maxImageN < count) then
    ⟨[], trace, .error ("image_count must be between 1 and " ++ toString maxImageN)⟩
  else
    let out := entry.execute lang params request
    ⟨out.log, out.log.foldl TraceResult.record trace, runResult out.result⟩

section
variable {lang : ExprLang D S} {entry : CachedEntry} {params : TokenParams Binary64}
  {request : RequestInput D}

/-- A run whose image count is out of range fails without a call. -/
lemma runProgram_out (h : entry.usedVars "image_count" ∧
    (entry.imageCount request < 1 ∨ maxImageN < entry.imageCount request)) :
    (runProgram lang entry params request).calls = [] ∧
      ∃ e, (runProgram lang entry params request).result = .error e := by
  rw [runProgram, if_pos h]
  exact ⟨rfl, _, rfl⟩

/-- A run whose image count is in range is the evaluation of the program. -/
lemma runProgram_in (h : ¬(entry.usedVars "image_count" ∧
    (entry.imageCount request < 1 ∨ maxImageN < entry.imageCount request))) :
    (runProgram lang entry params request).calls = (entry.execute lang params request).log ∧
      (runProgram lang entry params request).result
        = runResult (entry.execute lang params request).result := by
  rw [runProgram, if_neg h]
  exact ⟨rfl, rfl⟩

end

end

end NewApi.Billingexpr
