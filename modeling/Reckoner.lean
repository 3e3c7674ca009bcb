import Reckoner.CommandLine
import Reckoner.Main
import Reckoner.Proofs.Rpn.Stack
import Reckoner.Proofs.Rpn.Tree
import Reckoner.Proofs.Rpn.Yard
import Reckoner.Proofs.Placement
import Reckoner.Proofs.Infix.Derivation
import Reckoner.Proofs.Infix.Value
import Reckoner.Proofs.Infix.Construction
import Reckoner.Proofs.Stages
import Reckoner.Proofs.Infix.Acceptance
import Reckoner.Proofs.Inlining
import Reckoner.Proofs.Scan
import Reckoner.Proofs.EntryPoints
import Reckoner.Proofs.Climbing.Conversion
import Reckoner.Proofs.Climbing.Progress
import Reckoner.Proofs.History
import Reckoner.Proofs.Lines
import Reckoner.Proofs.SessionScript
import Reckoner.Proofs.Misshapen
import Reckoner.Proofs.Lexemes
import Reckoner.Proofs.Results
import Reckoner.Proofs.ReadBack
import Reckoner.Proofs.Names
import Reckoner.Proofs.Rpn.Operands
import Reckoner.Proofs.Checks
import Reckoner.Proofs.Attribution
import Reckoner.Proofs.UnifiedLines
import Reckoner.Proofs.Composition
import Reckoner.Proofs.Paths
import Reckoner.Proofs.Containers
import Reckoner.Proofs.Mentions
import Reckoner.Proofs.Noninterference
import Reckoner.Proofs.Places
import Reckoner.Proofs.ScriptEffect
import Reckoner.Proofs.Layouts
import Reckoner.Proofs.Rpn.Decoding
import Reckoner.Proofs.Rpn.Nesting
import Reckoner.Proofs.Erasure
import Reckoner.Proofs.Rpn.Growth
import Reckoner.Proofs.RaisedLimits
import Reckoner.Proofs.Commutation
import Reckoner.Proofs.Division
import Reckoner.Proofs.Positional
import Reckoner.Proofs.Commands
import Reckoner.Proofs.Choice
import Reckoner.Proofs.ResultsNames
import Reckoner.Proofs.Namesake
import Reckoner.Proofs.Logging
import Reckoner.Proofs.Rpn.Words
