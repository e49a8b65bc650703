import DotScript.Fault.Basic
import DotScript.Number.Double

/-!
# The built-in functions

Their names and their numbers of arguments.
-/

namespace DotScript

/-! ## Functions of one double -/

/-- A function of one double. -/
inductive RealFunction
  | sqrt | exp | log | log2 | log10
  | sin | cos | tan | cot | sec | csc
  | asin | acos | atan | acot | asec | acsc
deriving DecidableEq, Repr

namespace RealFunction

/-- Every function once. -/
def all : List RealFunction :=
  [.sqrt, .exp, .log, .log2, .log10, .sin, .cos, .tan, .cot, .sec, .csc, .asin, .acos, .atan,
   .acot, .asec, .acsc]

/-- The name of a function in programs. -/
def name : RealFunction → String
  | .sqrt => "sqrt"
  | .exp => "exp"
  | .log => "log"
  | .log2 => "log2"
  | .log10 => "log10"
  | .sin => "sin"
  | .cos => "cos"
  | .tan => "tan"
  | .cot => "cot"
  | .sec => "sec"
  | .csc => "csc"
  | .asin => "asin"
  | .acos => "acos"
  | .atan => "atan"
  | .acot => "acot"
  | .asec => "asec"
  | .acsc => "acsc"

/-- The value of a function.  Cotangent, secant, cosecant and their inverses go through a
reciprocal. -/
def apply (function : RealFunction) (x : Float) : Float :=
  match function with
  | .sqrt => x.sqrt
  | .exp => x.exp
  | .log => x.log
  | .log2 => x.log2
  | .log10 => x.log10
  | .sin => x.sin
  | .cos => x.cos
  | .tan => x.tan
  | .cot => 1.0 / x.tan
  | .sec => 1.0 / x.cos
  | .csc => 1.0 / x.sin
  | .asin => x.asin
  | .acos => x.acos
  | .atan => x.atan
  | .acot => (1.0 / x).atan
  | .asec => (1.0 / x).acos
  | .acsc => (1.0 / x).asin

end RealFunction

/-! ## The built-in functions -/

/-- A function that every program can call by name. -/
inductive Builtin
  | print | pprint | input | read | readLine | write
  | len | list | set | append | pop | sum | sorted | reversed | all | any
  | rangeList | enumerate | zip | min | max
  | str | int | float | bool | type | repr | isInstance
  | abs
  /-- The integer above, below or next to a number. -/
  | ceil | floor | round
  | pow
  | real (function : RealFunction)
deriving DecidableEq, Repr

namespace Builtin

/-- The name of a built-in in programs. -/
def name : Builtin → String
  | .print => "print"
  | .pprint => "pprint"
  | .input => "input"
  | .read => "read"
  | .readLine => "readLine"
  | .write => "write"
  | .len => "len"
  | .list => "list"
  | .set => "set"
  | .append => "append"
  | .pop => "pop"
  | .sum => "sum"
  | .sorted => "sorted"
  | .reversed => "reversed"
  | .all => "all"
  | .any => "any"
  | .rangeList => "range_list"
  | .enumerate => "enumerate"
  | .zip => "zip"
  | .min => "min"
  | .max => "max"
  | .str => "str"
  | .int => "int"
  | .float => "float"
  | .bool => "bool"
  | .type => "type"
  | .repr => "repr"
  | .isInstance => "isinstance"
  | .abs => "abs"
  | .ceil => "ceil"
  | .floor => "floor"
  | .round => "round"
  | .pow => "pow"
  | .real function => function.name

/-- How many arguments a built-in takes. -/
def arity : Builtin → Arity
  | .print => .atLeast 0
  | .min | .max => .atLeast 1
  | .input | .list | .set => .between 0 1
  | .sum | .sorted => .between 1 2
  | .write => .between 2 3
  | .append | .rangeList | .zip | .isInstance | .pow => .exactly 2
  | _ => .exactly 1

/-- Every built-in once. -/
def table : List Builtin :=
  [.print, .pprint, .input, .read, .readLine, .write, .len, .list, .set, .append, .pop, .sum,
   .sorted, .reversed, .all, .any, .rangeList, .enumerate, .zip, .min, .max, .str, .int, .float,
   .bool, .type, .repr, .isInstance, .abs, .ceil, .floor, .round, .pow] ++
    RealFunction.all.map .real

/-- The built-in with the given name. -/
def ofName? (name : String) : Option Builtin :=
  table.find? (·.name == name)

end Builtin

end DotScript
