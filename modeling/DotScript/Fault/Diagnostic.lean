import DotScript.Fault.Basic
import DotScript.Source.Token

/-!
# Messages and diagnostics

The wording of faults, the places they are reported at, and the other reasons for which a run does
not come to its end.
-/

namespace DotScript

/-! ## The wording of faults -/

/-- The wording of text that is no program. -/
def SyntaxFault.message : SyntaxFault → String
  | .expected wanted found => s!"{wanted.describe}, found {found}"
  | .unterminatedString => "unterminated string literal"
  | .strayCharacter text => s!"unexpected character `{text}`"
  | .tooDeep => s!"code is nested more than {maxNesting} levels deep"
  | .duplicateParameter parameter function =>
    s!"duplicate parameter name `{parameter}` in function `{function}`"
  | .emptyBody function => s!"function `{function}` has an empty body; use `pass`"
  | .misplacedOf => "`of` must follow a method call such as `upper()`"
  | .malformedInteger digits => s!"malformed integer literal `{digits}`"

/-- The wording of names that are not bound. -/
def ScopeFault.message : ScopeFault → String
  | .variable name => s!"undefined variable `{name}`"
  | .function name => s!"undefined function `{name}`"
  | .assignGlobal name | .assignLocal name => s!"cannot assign to undefined variable `{name}`"
  | .assignOuter name => s!"cannot assign to `{name}` from inside a function"

/-- What to do about names that are not bound. -/
def ScopeFault.notes : ScopeFault → List String
  | .assignGlobal _ => ["declare it first with `var`"]
  | .assignOuter _ =>
    ["outer variables are read-only in a function body; declare a local with `var`"]
  | _ => []

/-- The ending of a noun that is counted. -/
def pluralEnding (count : Nat) : String :=
  if count == 1 then "" else "s"

/-- The wording of a wrong number of arguments. -/
def ArityFault.message : ArityFault → String
  | .builtin name takes received => s!"`{name}` expects {takes.describe} but received {received}"
  | .method name receiver takes received =>
    s!"method `{name}` on {receiver.name} expects {takes.describe} but received {received}"
  | .function name takes received =>
    s!"function `{name}` expects {takes} argument{pluralEnding takes} but received {received}"
  | .overloads name taken received =>
    let counts := ", ".intercalate (taken.map Nat.repr)
    s!"no overload of `{name}` takes {received} argument{pluralEnding received}; " ++
      s!"defined for {counts}"

/-- The wording of a value of a wrong kind. -/
def TypeFault.message : TypeFault → String
  | .operands op left right =>
    s!"unsupported operand types for `{op.symbol}`: {left.name} and {right.name}"
  | .negated operand => s!"unsupported operand type for unary `-`: {operand.name}"
  | .negativeRepetition ofList =>
    let repeated := if ofList then "a list" else "a string"
    s!"cannot repeat {repeated} a negative number of times"
  | .notIterable found => s!"`for ... in` expects a list, set or string, found {found.name}"
  | .rangeBound found => s!"range bounds must be numbers, found {found.name}"
  | .notFunction name found => s!"`{name}` is a {found.name}, not a function"
  | .argument function wanted found =>
    s!"`{function}` expected {wanted} but found {found.name}"
  | .undefinedFor function found => s!"`{function}` is not defined for {found.name}"
  | .notBuildable target found => s!"cannot build a {target} from {found.name}"
  | .unordered function left right => s!"`{function}` cannot order {left.name} and {right.name}"
  | .incomparable function left right =>
    s!"`{function}` cannot compare {left.name} and {right.name}"
  | .notConvertible source target => s!"cannot convert {source} to {target}"
  | .invalidLiteral target literal => s!"invalid literal for {target}(): {literal}"
  | .notRoundable function value => s!"`{function}` cannot round {value}"
  | .sliceBound value => s!"`slice` bounds must be integers, found {value}"
  | .rangeListBounds => "`range_list` expects integer bounds"
  | .unknownMethod name receiver => s!"unknown method `{name}` on {receiver.name}"

/-- The wording of a division by zero. -/
def ZeroFault.message : ZeroFault → String
  | .division => "Division by zero"
  | .modulo => "Modulo by zero"

/-- The wording of input or files that cannot be used. -/
def HostFault.message : HostFault → String
  | .noInput => "input is not available in this session"
  | .file function path error => s!"`{function}` failed for `{path}`: {error.message}"

/-- The number the system gives to a failure. -/
def HostFault.notes : HostFault → List String
  | .noInput => []
  | .file _ _ error => (error.code?.map fun code => s!"os error code: {code}").toList

/-- The wording of anything else that goes wrong. -/
def RunFault.message : RunFault → String
  | .giveOutside => "`give` used outside of a function"
  | .zeroStep => "range step cannot be zero"
  | .undefinedBody function => s!"function `{function}` was declared but never defined"
  | .callDepth function => s!"maximum call depth of {maxCallDepth} exceeded in `{function}`"
  | .repetitionCount left right =>
    s!"repetition count too large for {left.name} and {right.name}"
  | .repetitionLength ofList =>
    let repeated := if ofList then "list" else "string"
    s!"repeated {repeated} would be longer than {maxRepetition}"
  | .exponent value => s!"exponent {value} is too large"
  | .notArithmetic op => s!"`{op.symbol}` is not an arithmetic operator"
  | .emptyPop => "`pop` from an empty list"
  | .emptyExtreme function => s!"`{function}` of an empty list"
  | .emptySeparator => "`split` separator cannot be empty"
  | .notMember value => s!"`remove`: {value} is not in the set"
  | .writeMode mode => s!"`write` mode must be \"w\" or \"a\", found \"{mode}\""

namespace Fault

/-- The name of the group of a fault. -/
def kind : Fault → String
  | .malformed _ => "SyntaxError"
  | .undefined _ => "UndefinedVariableError"
  | .miscounted _ => "ArityError"
  | .mistyped _ => "TypeError"
  | .zeroDivision _ => "DivisionByZeroError"
  | .hosting _ => "IOError"
  | .running _ => "RuntimeError"

/-- The wording of a fault. -/
def message : Fault → String
  | .malformed cause => cause.message
  | .undefined cause => cause.message
  | .miscounted cause => cause.message
  | .mistyped cause => cause.message
  | .zeroDivision cause => cause.message
  | .hosting cause => cause.message
  | .running cause => cause.message

/-- Remarks that are printed below the wording. -/
def notes : Fault → List String
  | .undefined cause => cause.notes
  | .hosting cause => cause.notes
  | _ => []

end Fault

/-! ## Diagnostics and halts

Operations on values fail with a fault alone; the program around them knows the place, and a
diagnostic is a fault together with its place.  A run that does not come to its end halts: with a
diagnostic, with a failure of the system outside the program, or unfinished, because a loop used up
the turns it was given or a sorter broke off. -/

/-- The text of a fault: kind and wording, what is known about the place, and one line for each
remark. -/
def Fault.report (fault : Fault) (place : String) : String :=
  fault.kind ++ ": " ++ fault.message ++ place ++
    String.join (fault.notes.map fun note => "\n  note: " ++ note)

/-- A fault and where it is reported. -/
structure Diagnostic where
  /-- What is wrong. -/
  fault : Fault
  /-- Where it is reported. -/
  span : Span
deriving DecidableEq, Repr

/-- The text of a diagnostic, with the line of its place. -/
def Diagnostic.text (diagnostic : Diagnostic) : String :=
  diagnostic.fault.report s!" (line {diagnostic.span.line})"

/-- Why an operation on the world of a program gives no value. -/
inductive Failure
  /-- The program is at fault. -/
  | fault (cause : Fault)
  /-- The system around the program failed. -/
  | system (error : SystemError)
  /-- A sorter broke off, and with it all that runs. -/
  | panic
deriving DecidableEq, Repr

/-- Why a run is left unfinished: a limit was used up, or a sorter broke off. -/
inductive OpenEnd
  /-- A loop under a condition. -/
  | condition
  /-- A loop that counts in doubles. -/
  | floatRange
  /-- Calls within calls. -/
  | calls
  /-- A sort of items that are not compared coherently. -/
  | sort
deriving DecidableEq, Repr

/-- Why a run did not come to its end. -/
inductive Halt
  /-- The program is at fault. -/
  | failed (diagnostic : Diagnostic)
  /-- The system around the program failed. -/
  | system (error : SystemError)
  /-- Nothing comes after this, neither a value nor an error. -/
  | unfinished (cause : OpenEnd)
deriving DecidableEq, Repr

namespace Halt

/-- Halts with a fault at some place. -/
def ofFault (span : Span) (fault : Fault) : Halt :=
  .failed { fault, span }

/-- Halts with the failure of an operation at some place. -/
def ofFailure (span : Span) : Failure → Halt
  | .fault cause => ofFault span cause
  | .system error => .system error
  | .panic => .unfinished .sort

/-- The text of a halt. -/
def text : Halt → String
  | .failed diagnostic => diagnostic.text
  | .system error => "I/O error: " ++ error.message
  | .unfinished _ => "the program is left unfinished"

end Halt

end DotScript
