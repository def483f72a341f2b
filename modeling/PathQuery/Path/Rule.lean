import PathQuery.Value.Comparison

/-!
# Comparison rules

A rule compares a property of a list element with a literal. Six rules are loose equality, the
loose order and their opposites. The other two ask whether the literal contains the property: a
string contains the texts inside it and a list contains its items. Nothing else contains anything,
and asking is an error, which counts as no match (`Rule.holds`).
-/

set_option autoImplicit false

namespace PathQuery

/-- How a property is compared with a literal. -/
inductive Rule where
  | equal
  | notEqual
  | less
  | lessOrEqual
  | greater
  | greaterOrEqual
  | containedIn
  | notContainedIn
  deriving DecidableEq

/-- A comparison that cannot be carried out. -/
inductive RuleError where
  /-- The literal is of a type that contains nothing. -/
  | notAContainer (rule : Rule) (found : String)
  deriving DecidableEq

namespace Rule

/-- The word for a rule. -/
def word : Rule → String
  | equal => "eq"
  | notEqual => "neq"
  | less => "lt"
  | lessOrEqual => "lte"
  | greater => "gt"
  | greaterOrEqual => "gte"
  | containedIn => "in"
  | notContainedIn => "nin"

def all : List Rule :=
  [equal, notEqual, less, lessOrEqual, greater, greaterOrEqual, containedIn, notContainedIn]

/-- The rule that a word names, in any case. -/
def ofWord? (s : String) : Option Rule := all.find? fun rule => s.toLower == rule.word

theorem ofWord?_word (rule : Rule) : ofWord? rule.word = some rule := by
  cases rule <;> decide +kernel

end Rule

/-- The text of the error. -/
def RuleError.message : RuleError → String
  | notAContainer rule found =>
      "'" ++ rule.word ++ "' needs a string or list on the right-hand side, found " ++ found

/-- One row of characters stands inside another. -/
def hasInfix (part whole : List Char) : Bool :=
  part.isPrefixOf whole ||
    match whole with
    | [] => false
    | _ :: rest => hasInfix part rest

/-- The container contains the value. -/
def Value.contains (container value : Value) (rule : Rule) : Except RuleError Bool :=
  match container with
  | .string s => .ok (hasInfix value.text.toList s.toList)
  | .list items => .ok (items.any fun item => item.same value)
  | other => .error (.notAContainer rule other.typeName)

namespace Rule

/-- Compares a property with a literal. -/
def apply (rule : Rule) (property literal : Value) : Except RuleError Bool :=
  match rule with
  | equal => .ok (property.looseEqual literal)
  | notEqual => .ok (!property.looseEqual literal)
  | less => .ok (property.compare literal == some .lt)
  | lessOrEqual =>
      .ok (property.compare literal == some .lt || property.compare literal == some .eq)
  | greater => .ok (property.compare literal == some .gt)
  | greaterOrEqual =>
      .ok (property.compare literal == some .gt || property.compare literal == some .eq)
  | containedIn => literal.contains property rule
  | notContainedIn => (literal.contains property rule).map not

/-- The rule matches. A comparison that cannot be carried out is no match. -/
def holds (rule : Rule) (property literal : Value) : Bool :=
  match rule.apply property literal with
  | .ok matched => matched
  | .error _ => false

end Rule

end PathQuery
