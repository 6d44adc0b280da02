import NewApi.Utils.Binary64

/-!
# Expression trees

The syntax of the expression language as `pkg/billingexpr` receives it from the parser. Identifiers,
literals, products, member accesses, calls and conditionals are nodes of their own; the other node
types of the language are `other`, with what they carry beside their children.
-/

namespace NewApi.Billingexpr

/-- The node types that the checks of `pkg/billingexpr` do not look into. -/
inductive NodeKind
  | nil
  | bool (value : Bool)
  | bytes (value : List UInt8)
  | constant (value : String)
  | unary (operator : String)
  | chain
  | slice (lower upper : Bool)
  | builtin (name : String)
  | predicate
  | pointer (name : String)
  | variableDeclarator (name : String)
  | sequence
  | array
  | map
  | pair
deriving DecidableEq

inductive Node
  | identifier (value : String)
  | integer (value : Int)
  | float (value : Binary64)
  | string (value : String)
  | binary (operator : String) (left right : Node)
  | member (optional : Bool) (node property : Node)
  | call (callee : Node) (arguments : List Node)
  | conditional (ternary : Bool) (cond exp1 exp2 : Node)
  | other (kind : NodeKind) (children : List Node)

namespace Node

section
variable {motive : Node → Prop}
  (identifier : ∀ value, motive (identifier value))
  (integer : ∀ value, motive (integer value))
  (float : ∀ value, motive (float value))
  (string : ∀ value, motive (string value))
  (binary : ∀ operator left right, motive left → motive right →
    motive (binary operator left right))
  (member : ∀ optional node property, motive node → motive property →
    motive (member optional node property))
  (call : ∀ callee arguments, motive callee → (∀ n ∈ arguments, motive n) →
    motive (call callee arguments))
  (conditional : ∀ ternary cond exp1 exp2, motive cond → motive exp1 → motive exp2 →
    motive (conditional ternary cond exp1 exp2))
  (other : ∀ kind children, (∀ n ∈ children, motive n) → motive (other kind children))

include identifier integer float string binary member call conditional other in
/-- Induction over the tree, with a hypothesis for each child in a list. -/
@[elab_as_elim, induction_eliminator]
theorem induction : ∀ n, motive n
  | .identifier value => identifier value
  | .integer value => integer value
  | .float value => float value
  | .string value => string value
  | .binary operator left right =>
    binary operator left right (induction left) (induction right)
  | .member optional node property =>
    member optional node property (induction node) (induction property)
  | .call callee arguments => call callee arguments (induction callee) fun n _ => induction n
  | .conditional ternary cond exp1 exp2 =>
    conditional ternary cond exp1 exp2 (induction cond) (induction exp1) (induction exp2)
  | .other kind children => other kind children fun n _ => induction n

end

mutual

/-- `ast.Find`: a node of the tree satisfies `f`. -/
def any (f : Node → Bool) : Node → Bool
  | n@(.identifier _) => f n
  | n@(.integer _) => f n
  | n@(.float _) => f n
  | n@(.string _) => f n
  | n@(.binary _ left right) => left.any f || right.any f || f n
  | n@(.member _ node property) => node.any f || property.any f || f n
  | n@(.call callee arguments) => callee.any f || anyList f arguments || f n
  | n@(.conditional _ cond exp1 exp2) => cond.any f || exp1.any f || exp2.any f || f n
  | n@(.other _ children) => anyList f children || f n

def anyList (f : Node → Bool) : List Node → Bool
  | [] => false
  | n :: ns => n.any f || anyList f ns

end

lemma anyList_eq (f : Node → Bool) (ns : List Node) : anyList f ns = ns.any (any f) := by
  induction ns with
  | nil => rfl
  | cons n ns ih =>
    show (n.any f || anyList f ns) = _
    rw [ih, List.any_cons]

/-- The node is an identifier with a name in `names`. -/
def isIdentifier (names : List String) : Node → Bool
  | .identifier value => value ∈ names
  | _ => false

/-- The tree mentions a name of `names`. -/
def mentions (names : List String) : Node → Bool := any (isIdentifier names)

/-- The arguments of a call of the function `name`. -/
def argumentsOf (name : String) : Node → Option (List Node)
  | .call (.identifier value) arguments => if value = name then some arguments else none
  | _ => none

lemma argumentsOf_eq_some {name : String} {n : Node} {arguments : List Node}
    (h : n.argumentsOf name = some arguments) : n = .call (.identifier name) arguments := by
  unfold argumentsOf at h
  split at h
  · split at h
    · rename_i hvalue
      rw [hvalue, Option.some.inj h]
    · cases h
  · cases h

section
variable {names : List String}

@[simp]
lemma mentions_identifier {value : String} :
    (identifier value).mentions names = decide (value ∈ names) := rfl

@[simp]
lemma mentions_integer {value : Int} : (integer value).mentions names = false := rfl

@[simp]
lemma mentions_float {value : Binary64} : (float value).mentions names = false := rfl

@[simp]
lemma mentions_string {value : String} : (string value).mentions names = false := rfl

@[simp]
lemma mentions_binary {operator : String} {left right : Node} :
    (binary operator left right).mentions names
      = (left.mentions names || right.mentions names) :=
  Bool.or_false _

@[simp]
lemma mentions_member {optional : Bool} {node property : Node} :
    (member optional node property).mentions names
      = (node.mentions names || property.mentions names) :=
  Bool.or_false _

@[simp]
lemma mentions_call {callee : Node} {arguments : List Node} :
    (call callee arguments).mentions names
      = (callee.mentions names || arguments.any (mentions names)) := by
  show (callee.any _ || anyList _ arguments || false) = _
  rw [anyList_eq, Bool.or_false]
  rfl

@[simp]
lemma mentions_conditional {ternary : Bool} {cond exp1 exp2 : Node} :
    (conditional ternary cond exp1 exp2).mentions names
      = (cond.mentions names || exp1.mentions names || exp2.mentions names) :=
  Bool.or_false _

@[simp]
lemma mentions_other {kind : NodeKind} {children : List Node} :
    (other kind children).mentions names = children.any (mentions names) := by
  show (anyList _ children || false) = _
  rw [anyList_eq, Bool.or_false]
  rfl

end

end Node

end NewApi.Billingexpr
