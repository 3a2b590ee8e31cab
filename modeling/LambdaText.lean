import LambdaText.Main
import LambdaText.CommandLine.Basic
import LambdaText.Library.Operation
import LambdaText.Log.Setup
import LambdaText.Proofs.Source.Acceptance
import LambdaText.Proofs.Source.FreeNames
import LambdaText.Proofs.Source.Literals
import LambdaText.Proofs.Source.Stripped
import LambdaText.Proofs.Eval.WrittenOut
import LambdaText.Proofs.Eval.Returned
import LambdaText.Proofs.Eval.CompileAnew
import LambdaText.Proofs.Eval.SharedCompiler
import LambdaText.Proofs.Eval.Gathering
import LambdaText.Proofs.Eval.Keywords
import LambdaText.Proofs.Detached.Basic
import LambdaText.Proofs.Detached.Builtins
import LambdaText.Proofs.Detached.Evaluator
import LambdaText.Proofs.Detached.Operations
import LambdaText.Proofs.Library.Coercion
import LambdaText.Proofs.Library.Fusion
import LambdaText.Proofs.Library.Interchange
import LambdaText.Proofs.Library.Transposition
import LambdaText.Proofs.CommandLine.Agreement
import LambdaText.Proofs.Eval.Balance
import LambdaText.Proofs.Source.FreshOperands
import LambdaText.Proofs.Eval.RemainingChain
import LambdaText.Proofs.CommandLine.Literals
import LambdaText.Proofs.Eval.Namespaces
import LambdaText.Proofs.Eval.Uncurrying
import LambdaText.Proofs.Eval.Prefilters
import LambdaText.Proofs.Eval.FirstStage
import LambdaText.Proofs.Settings.Variables
import LambdaText.Proofs.Source.Validation
import LambdaText.Proofs.Logged.Calls
