import HealthRules.Evaluation

/-!
# Comparison — expressions that compare numbers

A comparison is one of six operators with a number after it, or the word `between` with two numbers, the
bounds included. Its operands have to be finite; the value compared may be infinite or not a number.

* `Comparison` and `Comparison.holds`;
* `Comparison.parse`, which reads an expression or says what is wrong with it;
* `Comparison.judgeFor`, which decides an expression for an attribute.
-/

namespace HealthRules

/-- The six operators. -/
inductive Operator where
  | greater
  | atLeast
  | less
  | atMost
  | equal
  | unequal
  deriving DecidableEq, Repr

/-- A condition on a number. -/
inductive Comparison where
  | against (op : Operator) (operand : Binary64)
  | between (low high : Binary64)
  deriving DecidableEq

namespace Operator

def holds (op : Operator) (v n : Binary64) : Bool :=
  match op with
  | greater => n.lt v
  | atLeast => n.le v
  | less => v.lt n
  | atMost => v.le n
  | equal => v.eq n
  | unequal => !v.eq n

def symbol : Operator → String
  | greater => ">"
  | atLeast => ">="
  | less => "<"
  | atMost => "<="
  | equal => "=="
  | unequal => "!="

/-- Take an operator off the front, the longer spelling first. -/
def take? : List Char → Option (Operator × List Char)
  | '>' :: '=' :: cs => some (atLeast, cs)
  | '<' :: '=' :: cs => some (atMost, cs)
  | '=' :: '=' :: cs => some (equal, cs)
  | '!' :: '=' :: cs => some (unequal, cs)
  | '>' :: cs => some (greater, cs)
  | '<' :: cs => some (less, cs)
  | _ => none

end Operator

namespace Comparison

def holds (c : Comparison) (v : Binary64) : Bool :=
  match c with
  | against op n => op.holds v n
  | between low high => low.le v && v.le high

/-! ## Reading -/

/-- What is wrong with an expression that is no comparison. -/
inductive Defect where
  | noOperator
  | notTwoBounds
  | notNumber (operand : String)
  | notFinite (operand : String)
  | reversedBounds
  deriving DecidableEq, Repr

def Defect.message : Defect → String
  | noOperator => "no comparison operator"
  | notTwoBounds => "between needs exactly two bounds"
  | notNumber operand => s!"'{operand}' is not a number"
  | notFinite operand => s!"'{operand}' is not a finite number"
  | reversedBounds => "lower bound exceeds upper bound"

/-- Read an operand, without the white space around it. -/
def operand (cs : List Char) : Except Defect Binary64 :=
  let cs := Blank.trim cs
  match Numeral.read? cs with
  | none => .error (.notNumber (String.ofList cs))
  | some n => if n.isFinite then .ok n else .error (.notFinite (String.ofList cs))

/-- What follows the word `between`, if a blank follows it. -/
def afterBetween? : List Char → Option (List Char)
  | 'b' :: 'e' :: 't' :: 'w' :: 'e' :: 'e' :: 'n' :: c :: cs =>
      if Blank.isBlank c then some (c :: cs) else none
  | _ => none

/-- Read two bounds. -/
def parseBounds (cs : List Char) : Except Defect Comparison :=
  match Blank.words cs with
  | [low, high] => do
      let low ← operand low
      let high ← operand high
      return between low high
  | _ => .error .notTwoBounds

/-- Read an expression, without the white space around it. -/
def parse (cs : List Char) : Except Defect Comparison :=
  let cs := Blank.trim cs
  match afterBetween? cs with
  | some rest => parseBounds rest
  | none => match Operator.take? cs with
    | some (op, rest) => (operand rest).map (against op)
    | none => .error .noOperator

/-- The bounds are in the wrong order, so that nothing lies between them. -/
def isReversed : Comparison → Bool
  | between low high => high.lt low
  | against _ _ => false

/-- Read an expression that can be decided. -/
def resolve (expression : String) : Except EvaluationError Comparison :=
  let invalid (d : Defect) := EvaluationError.invalidExpression expression d.message
  match parse expression.toList with
  | .error d => .error (invalid d)
  | .ok c => if c.isReversed then .error (invalid .reversedBounds) else .ok c

/-! ## Deciding -/

/-- An expression is a comparison by its form; the order of its bounds does not matter here. -/
def accepts (expression : String) : Bool := (parse expression.toList).toBool

/-- Decide a comparison for a value of the attribute `name`. -/
def judge (c : Comparison) (name : String) : Judge := fun v =>
  match v.number? with
  | none => .error (.notNumeric name v.render)
  | some n => .ok (.ofBool (c.holds n))

/-- How an expression is decided for the attribute `name`. -/
def judgeFor (expression name : String) : Except EvaluationError Judge :=
  (resolve expression).map fun c => c.judge name

end Comparison

end HealthRules
