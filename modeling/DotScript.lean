import DotScript.Main
import DotScript.Proofs.Kernel.Lines
import DotScript.Proofs.Kernel.Transcript
import DotScript.Proofs.Number.Exact
import DotScript.Proofs.Number.Order
import DotScript.Proofs.Parser.Accepted
import DotScript.Proofs.Parser.Brackets
import DotScript.Proofs.Parser.Completion.Programs
import DotScript.Proofs.Parser.Expressions
import DotScript.Proofs.Parser.Fitting
import DotScript.Proofs.Parser.Indexed.Programs
import DotScript.Proofs.Parser.Misplaced
import DotScript.Proofs.Parser.Nesting
import DotScript.Proofs.Parser.Reading
import DotScript.Proofs.Parser.Relocation
import DotScript.Proofs.Parser.Respelling.Basic
import DotScript.Proofs.Parser.Respelling.Expressions
import DotScript.Proofs.Parser.Respelling.Programs
import DotScript.Proofs.Parser.Statements
import DotScript.Proofs.Parser.Waiting
import DotScript.Proofs.Run.Compound
import DotScript.Proofs.Run.Echo
import DotScript.Proofs.Run.Faults
import DotScript.Proofs.Run.Frames
import DotScript.Proofs.Run.Keeping
import DotScript.Proofs.Run.Moments
import DotScript.Proofs.Run.Overloads
import DotScript.Proofs.Run.Places
import DotScript.Proofs.Run.Progressions
import DotScript.Proofs.Run.Sound
import DotScript.Proofs.Run.SyntaxFaults
import DotScript.Proofs.Run.Termination
import DotScript.Proofs.Run.WellFormed
import DotScript.Proofs.Script.Agreement
import DotScript.Proofs.Session.Cells
import DotScript.Proofs.Session.Names
import DotScript.Proofs.Session.Reset
import DotScript.Proofs.Source.Gaps
import DotScript.Proofs.Source.Lossless
import DotScript.Proofs.Source.Numerals
import DotScript.Proofs.Source.Places
import DotScript.Proofs.Source.Scanning
import DotScript.Proofs.Text.Slices
import DotScript.Proofs.Tree.Fitting
import DotScript.Proofs.Tree.Parts
import DotScript.Proofs.Tree.Rendering
import DotScript.Proofs.Value.Equality
import DotScript.Proofs.Value.Extremes
import DotScript.Proofs.Value.Faults
import DotScript.Proofs.Value.Hereditary
import DotScript.Proofs.Value.Order
import DotScript.Proofs.Value.ReadBack
import DotScript.Proofs.Value.Sets
import DotScript.Proofs.Value.Sorting
import DotScript.Proofs.Value.Sound
import DotScript.Source.Cut
