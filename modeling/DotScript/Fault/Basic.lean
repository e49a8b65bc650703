import DotScript.Host.Input
import DotScript.Source.Token
import DotScript.Tree.Basic
import DotScript.Value.Basic

/-!
# Faults

Everything that can be wrong with a program, by cause, and the numbers of arguments that some of the
causes name.
-/

namespace DotScript

/-! ## Numbers of arguments -/

/-- How many arguments a built-in or a method takes. -/
inductive Arity
  | exactly (count : Nat)
  | between (least most : Nat)
  | atLeast (least : Nat)
deriving DecidableEq, Repr

namespace Arity

/-- Whether a call may have `count` arguments. -/
def accepts : Arity → Nat → Bool
  | .exactly n, count => count == n
  | .between least most, count => least ≤ count && count ≤ most
  | .atLeast least, count => least ≤ count

/-- How complaints state the number of arguments. -/
def describe : Arity → String
  | .exactly 1 => "1 argument"
  | .exactly n => s!"{n} arguments"
  | .between least most => s!"{least} to {most} arguments"
  | .atLeast 1 => "at least 1 argument"
  | .atLeast n => s!"at least {n} arguments"

end Arity

/-! ## Faults

Everything that can be wrong with a program, by cause.  The group of a fault is what programs see as
the kind of the error; the wording is in `Fault.message` and `Fault.notes` alone. -/

/-- The greatest number of statements, groups and operands that may be nested in one another. -/
def maxNesting : Nat := 256

/-- The greatest number of function calls in progress. -/
def maxCallDepth : Nat := 200

/-- The greatest length of a repeated string, in bytes, or of a repeated list. -/
def maxRepetition : Nat := Nat.pow 2 28

/-- What the grammar asks for at some place. -/
inductive Wanted
  /-- A certain mark, for some purpose. -/
  | mark (text purpose : String)
  /-- A name in some role. -/
  | name (role : String)
  | keyword (word : Keyword)
  | expression
  | wellFormedNumber
deriving DecidableEq, Repr

/-- How complaints state what is asked for. -/
def Wanted.describe : Wanted → String
  | .mark text purpose => s!"expected `{text}` {purpose}"
  | .name role => s!"expected {role}"
  | .keyword word => s!"expected keyword `{word.text}`"
  | .expression => "expected an expression"
  | .wellFormedNumber => "malformed number literal"

/-- Text that is no program. -/
inductive SyntaxFault
  /-- Something else stands where the grammar asks for something. -/
  | expected (wanted : Wanted) (found : String)
  | unterminatedString
  | strayCharacter (text : String)
  | tooDeep
  | duplicateParameter (parameter function : String)
  | emptyBody (function : String)
  /-- The word `of` does not follow a call. -/
  | misplacedOf
  | malformedInteger (digits : String)
deriving DecidableEq, Repr

/-- A name that is not bound, or not bound where it is to be changed. -/
inductive ScopeFault
  | variable (name : String)
  | function (name : String)
  /-- A change of an unbound name outside functions. -/
  | assignGlobal (name : String)
  /-- A change of an unbound name inside a function. -/
  | assignLocal (name : String)
  /-- A change, inside a function, of a name bound around it. -/
  | assignOuter (name : String)
deriving DecidableEq, Repr

/-- A wrong number of arguments. -/
inductive ArityFault
  | builtin (name : String) (takes : Arity) (received : Nat)
  | method (name : String) (receiver : Value.Kind) (takes : Arity) (received : Nat)
  | function (name : String) (takes received : Nat)
  | overloads (name : String) (taken : List Nat) (received : Nat)
deriving DecidableEq, Repr

/-- A value of a kind that an operation does not work on. -/
inductive TypeFault
  | operands (op : BinaryOp) (left right : Value.Kind)
  | negated (operand : Value.Kind)
  /-- A repetition, of a list or a string, less than zero times. -/
  | negativeRepetition (ofList : Bool)
  | notIterable (found : Value.Kind)
  | rangeBound (found : Value.Kind)
  | notFunction (name : String) (found : Value.Kind)
  /-- An argument of another kind than the one described. -/
  | argument (function wanted : String) (found : Value.Kind)
  | undefinedFor (function : String) (found : Value.Kind)
  | notBuildable (target : String) (found : Value.Kind)
  | unordered (function : String) (left right : Value.Kind)
  | incomparable (function : String) (left right : Value.Kind)
  | notConvertible (source target : String)
  | invalidLiteral (target literal : String)
  | notRoundable (function value : String)
  | sliceBound (value : String)
  | rangeListBounds
  | unknownMethod (name : String) (receiver : Value.Kind)
deriving DecidableEq, Repr

/-- A division by zero. -/
inductive ZeroFault
  | division
  | modulo
deriving DecidableEq, Repr

/-- Input or files that cannot be used. -/
inductive HostFault
  | noInput
  | file (function path : String) (error : SystemError)
deriving DecidableEq, Repr

/-- Anything else that goes wrong while a program runs. -/
inductive RunFault
  | giveOutside
  | zeroStep
  /-- A call of a function that has only been declared. -/
  | undefinedBody (function : String)
  | callDepth (function : String)
  | repetitionCount (left right : Value.Kind)
  /-- A repeated list or string that would be too long. -/
  | repetitionLength (ofList : Bool)
  | exponent (value : Int)
  | notArithmetic (op : BinaryOp)
  | emptyPop
  | emptyExtreme (function : String)
  | emptySeparator
  | notMember (value : String)
  | writeMode (mode : String)
deriving DecidableEq, Repr

/-- Anything that can be wrong with a program. -/
inductive Fault
  | malformed (cause : SyntaxFault)
  | undefined (cause : ScopeFault)
  | miscounted (cause : ArityFault)
  | mistyped (cause : TypeFault)
  | zeroDivision (cause : ZeroFault)
  | hosting (cause : HostFault)
  | running (cause : RunFault)
deriving DecidableEq, Repr

end DotScript
