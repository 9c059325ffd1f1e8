import Lox.Conformance.Suite
import Lox.Expr.Stack
import Lox.Main
import Lox.Proofs.LongestMatch
import Lox.Proofs.Adjacency
import Lox.Proofs.Spacing
import Lox.Proofs.Annotated
import Lox.Proofs.Concatenation
import Lox.Proofs.LineNumbers
import Lox.Proofs.LineEndings
import Lox.Proofs.UniqueListing
import Lox.Proofs.CursorSafety
import Lox.Proofs.IllFormedInput
import Lox.Proofs.LimitedStreams
import Lox.Proofs.Logging
import Lox.Proofs.Pulls
import Lox.Proofs.Diagnostics
import Lox.Proofs.PrintedExpressions
import Lox.Proofs.NumberLiterals
import Lox.Proofs.Discrepancies
import Lox.Proofs.AnnotationLines
import Lox.Proofs.Equality
import Lox.Reader
import Lox.Summary
