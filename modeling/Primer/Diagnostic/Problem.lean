import Primer.Diagnostic.Basic
import Primer.Literal

/-!
# Problems

The causes of diagnostics, with the code and the wording of each.
-/

namespace Primer

/-- The display statement that an item belongs to. -/
inductive DisplayForm where
  | single
  | multi
deriving DecidableEq

/-- What can be wrong with a program. -/
inductive Problem where
  -- Names and declarations
  | invalidType (name : String)
  | invalidName (name : String)
  | duplicateVariable (name : String)
  | undefinedVariable (name : String)
  | uninitializedVariable (name : String)
  | uninitializedArray (name : String)
  | initializerType (declared value : Ty) (name : String)
  -- Literals
  | badLiteral (fault : LiteralFault) (raw : String)
  | openDisplaySingle (raw : String)
  | longDisplayLetter (raw : String)
  | openDisplayDouble (raw : String)
  -- Operators
  | arithmeticOperands (op : BinaryOp) (left right : Ty)
  | logicalOperands (op : BinaryOp) (left right : Ty)
  | relationalOperands (op : BinaryOp) (left right : Ty)
  | equalityOperands (op : BinaryOp) (left right : Ty)
  | notOperand (got : Ty)
  | signOperand (op : UnaryOp) (got : Ty)
  | stepTarget (op : StepOp) (name : String) (got : Ty)
  -- Assignments
  | assignedType (target source : Ty) (name : String)
  | compoundTarget (op : AssignOp) (name : String) (got : Ty)
  | compoundSource (op : AssignOp) (got : Ty)
  -- Control
  | ifCondition (got : Ty)
  | elseIfCondition (got : Ty)
  | loopCondition (got : Ty)
  | doWhileCondition (got : Ty)
  | jumpOutsideLoop (jump : Jump)
  | emptySwitch
  | caseType (switched case : Ty)
  -- Display and input
  | undefinedItem (form : DisplayForm) (name : String)
  | emptyDisplay (form : DisplayForm)
  | undefinedInput (name : String)
  | inputArray (name : String)
  -- Arrays
  | invalidArrayType (name : String)
  | invalidArrayName (name : String)
  | duplicateArray (name : String)
  | undefinedArray (name : String)
  | notArray (name : String)
  | indexType (got : Ty)
  | sizeType (got : Ty)
  | initializerNotArray (got : Ty)
  | initializerElement (declared found : Primitive)
  | assignedNotArray
  | assignedArrayType (target source : Ty)
  | elementType (source : Ty) (elem : Primitive)
  | elementAddition (source : Ty)
  | elementAdditionTarget (elem : Primitive)
  | elementArithmeticTarget (op : AssignOp)
  | elementArithmetic (op : AssignOp) (source : Ty)
  | pushedType (source : Ty) (elem : Primitive)
  | setType (source : Ty) (elem : Primitive)
  | mixedElements (expected got : Ty)
  | nestedElements (got : Ty)
  | untypedEmpty
deriving DecidableEq

namespace Problem

def code : Problem → Code
  | invalidType _ | invalidName _ | duplicateVariable _ => .declaration
  | undefinedVariable _ => .undefined
  | uninitializedVariable _ | uninitializedArray _ => .uninitialized
  | initializerType _ _ _ | equalityOperands _ _ _ | assignedType _ _ _
  | compoundSource _ _ => .mismatch
  | badLiteral _ _ | openDisplaySingle _ | longDisplayLetter _ | openDisplayDouble _ => .literal
  | arithmeticOperands _ _ _ | logicalOperands _ _ _ | relationalOperands _ _ _ | notOperand _
  | signOperand _ _ | stepTarget _ _ _ | compoundTarget _ _ _ => .operand
  | ifCondition _ | elseIfCondition _ => .condition
  | loopCondition _ | doWhileCondition _ => .loopCondition
  | jumpOutsideLoop _ => .jump
  | emptySwitch => .emptySwitch
  | caseType _ _ => .caseType
  | undefinedItem _ _ | undefinedInput _ => .inputOutput
  | emptyDisplay _ => .emptyDisplay
  | invalidArrayType _ | invalidArrayName _ | duplicateArray _ => .arrayDeclaration
  | inputArray _ | undefinedArray _ | notArray _ => .notArray
  | indexType _ | sizeType _ => .arrayIndex
  | initializerNotArray _ | initializerElement _ _ | assignedNotArray | assignedArrayType _ _
  | elementType _ _ | elementAddition _ | elementAdditionTarget _ | elementArithmeticTarget _
  | elementArithmetic _ _ | pushedType _ _ | setType _ _ | mixedElements _ _ | nestedElements _
  | untypedEmpty => .arrayElement

def literalMessage (raw : String) : LiteralFault → String
  | .invalid => s!"Invalid literal format: '{raw}'"
  | .mismatchedSingle => s!"Mismatched single quotes in literal: '{raw}'"
  | .mismatchedDouble => s!"Mismatched double quotes in literal: '{raw}'"
  | .letterTooLong => s!"Character literal can only contain one character: '{raw}'"
  | .emptyLetter => "Empty character literal is not allowed"

/-- What a step does. -/
def stepVerb : StepOp → String
  | .inc => "increment"
  | .dec => "decrement"

def jumpWord : Jump → String
  | .breakLoop => "Break"
  | .continueLoop => "Continue"

/-- The words for a condition that is no truth value. -/
def conditionMessage (what : String) (got : Ty) : String :=
  what ++ " must be boolean expression, got " ++ got.text

def message : Problem → String
  | invalidType name => s!"Invalid type '{name}' in variable declaration"
  | invalidName name =>
    s!"Invalid variable name '{name}' (must start with letter, contain only letters, digits, and "
      ++ "underscores)"
  | duplicateVariable name => s!"Duplicate variable declaration: '{name}'"
  | undefinedVariable name => s!"Undefined variable: '{name}'"
  | uninitializedVariable name => s!"Variable '{name}' used before initialization"
  | uninitializedArray name => s!"Array '{name}' used before initialization"
  | initializerType declared value name =>
    s!"Type mismatch in variable declaration: cannot assign {value.text} to {declared.text} "
      ++ s!"variable '{name}'"
  | badLiteral fault raw => literalMessage raw fault
  | openDisplaySingle raw => s!"Mismatched single quotes in display literal: '{raw}'"
  | longDisplayLetter raw => s!"Character literal must contain exactly one character: '{raw}'"
  | openDisplayDouble raw => s!"Mismatched double quotes in display literal: '{raw}'"
  | arithmeticOperands op left right =>
    s!"Arithmetic operator '{op.symbol}' requires numeric operands, got {left.text} and "
      ++ right.text
  | logicalOperands op left right =>
    s!"Logical operator '{op.symbol}' requires boolean operands, got {left.text} and "
      ++ right.text
  | relationalOperands op left right =>
    s!"Relational operator '{op.symbol}' requires numeric operands, got {left.text} and "
      ++ right.text
  | equalityOperands op left right =>
    s!"Equality operator '{op.symbol}' requires compatible types, got {left.text} and "
      ++ right.text
  | notOperand got => s!"Logical NOT operator '!' requires boolean operand, got {got.text}"
  | signOperand op got =>
    s!"Unary operator '{op.symbol}' requires numeric operand, got {got.text}"
  | stepTarget op name got =>
    s!"Cannot {stepVerb op} non-numeric variable '{name}' of type {got.text}"
  | assignedType target source name =>
    s!"Type mismatch: cannot assign {source.text} to {target.text} variable '{name}'"
  | compoundTarget op name got =>
    s!"Cannot use compound assignment operator '{op.symbol}' on non-numeric variable '{name}' "
      ++ s!"of type {got.text}"
  | compoundSource op got =>
    s!"Cannot use {got.text} value with compound assignment operator '{op.symbol}'"
  | ifCondition got => conditionMessage "If condition" got
  | elseIfCondition got => conditionMessage "ElseIf condition" got
  | loopCondition got => conditionMessage "Loop condition" got
  | doWhileCondition got => conditionMessage "Do-while condition" got
  | jumpOutsideLoop jump => s!"{jumpWord jump} statement must be inside a loop"
  | emptySwitch => "Switch statement must have at least one case or default block"
  | caseType switched case =>
    s!"Case expression type {case.text} does not match switch expression type {switched.text}"
  | undefinedItem .single name => s!"Undefined variable in display: '{name}'"
  | undefinedItem .multi name => s!"Undefined variable in multi-display: '{name}'"
  | emptyDisplay .single => "Display statement has no content to display"
  | emptyDisplay .multi => "Multi-display statement has no items to display"
  | undefinedInput name => s!"Undefined variable in input: '{name}'"
  | inputArray name => s!"Cannot input into array '{name}' without an index"
  | invalidArrayType name => s!"Invalid array type '{name}'"
  | invalidArrayName name => s!"Invalid array name '{name}'"
  | duplicateArray name => s!"Duplicate array declaration: '{name}'"
  | undefinedArray name => s!"Undefined array: '{name}'"
  | notArray name => s!"Variable '{name}' is not an array"
  | indexType got => s!"Array index must be numeric expression, got {got.text}"
  | sizeType got => s!"Array size must be numeric expression, got {got.text}"
  | initializerNotArray got => s!"Array initializer must be array expression, got {got.text}"
  | initializerElement declared found =>
    s!"Array element type mismatch: declared {declared.text}, initializer {found.text}"
  | assignedNotArray => "Cannot assign non-array value to array variable"
  | assignedArrayType target source =>
    s!"Array type mismatch: target {target.text}, source {source.text}"
  | elementType source elem => s!"Cannot assign {source.text} to {elem.text} array element"
  | elementAddition source => s!"Cannot use += with {source.text} on NUMBER array element"
  | elementAdditionTarget elem =>
    s!"Compound assignment '+=' not supported for {elem.text} arrays"
  | elementArithmeticTarget op =>
    s!"Arithmetic compound assignment '{op.symbol}' only supported for NUMBER arrays"
  | elementArithmetic op source =>
    s!"Cannot use {op.symbol} with {source.text} on NUMBER array element"
  | pushedType source elem => s!"Cannot push {source.text} to {elem.text} array"
  | setType source elem => s!"Cannot set {source.text} to {elem.text} array element"
  | mixedElements expected got =>
    s!"Inconsistent element types in array literal: {expected.text} and {got.text}"
  | nestedElements got =>
    s!"Array elements must be NUMBER, LETTER, SENTENCE, or LOGIC, got {got.text}"
  | untypedEmpty => "Cannot infer element type of empty array literal"

/-- The report of the problem, found in a statement on the given line. -/
def diagnostic (p : Problem) (line : Option Line) : Diagnostic :=
  ⟨p.code, p.message, Diagnostic.knownLine line⟩

end Problem

end Primer
