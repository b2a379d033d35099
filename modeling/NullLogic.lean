import NullLogic.Expr.Erase
import NullLogic.Guarded
import NullLogic.MethodCall
import NullLogic.Optimize
import NullLogic.Proofs.Comparison
import NullLogic.Proofs.Expr.Children
import NullLogic.Proofs.Information
import NullLogic.Proofs.Integers
import NullLogic.Proofs.MethodCall
import NullLogic.Proofs.MethodCall.FirstOf
import NullLogic.Proofs.Optimize
import NullLogic.Proofs.Optimize.NullConstant
import NullLogic.Proofs.Simplify.BooleanLaws
import NullLogic.Proofs.Simplify.Join
import NullLogic.Proofs.Simplify.Meaning
import NullLogic.Proofs.Simplify.Normal
import NullLogic.Proofs.Simplify.Size
import NullLogic.Proofs.Text.Unambiguous
import NullLogic.Proofs.TwoValued.CaseWhen
import NullLogic.Proofs.TwoValued.Join
import NullLogic.Proofs.TwoValued.Unchanged
import NullLogic.Proofs.Typing.CaseWhen
import NullLogic.Proofs.WellTyped.Errors
import NullLogic.Proofs.WellTyped.Evaluation
import NullLogic.Proofs.WellTyped.Optimize
import NullLogic.Sample
import NullLogic.Simplify.Normal
import NullLogic.WellTyped
