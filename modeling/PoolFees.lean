import PoolFees.LooseWord.Agreement
import PoolFees.Session
import PoolFees.Proofs.Denotation
import PoolFees.Proofs.MulDiv.Exactness
import PoolFees.Proofs.Fee.Normalized
import PoolFees.Proofs.Fee.Splitting
import PoolFees.Proofs.Amount
import PoolFees.Proofs.Form.Fresh
import PoolFees.Proofs.Form.Filling
import PoolFees.Proofs.Form.RoundTrip
import PoolFees.Proofs.Fee.Configured
import PoolFees.Proofs.Session.Words
import PoolFees.Proofs.Session.Frame
import PoolFees.Proofs.Session.Conversion
import PoolFees.Proofs.Value.Transitivity
import PoolFees.Proofs.MulDiv.Comparison
import PoolFees.Proofs.Fee.PoolSize
import PoolFees.Proofs.Fee.Required
import PoolFees.Proofs.Fee.Truncation
import PoolFees.Proofs.Fee.Proportion
import PoolFees.Proofs.Fee.Reach
import PoolFees.Proofs.Word.Combination
import PoolFees.Proofs.Word.Promotion
import PoolFees.Proofs.Word.Division
import PoolFees.Proofs.FixedPoint.Equality
import PoolFees.Proofs.FixedPoint.Scientific
import PoolFees.Proofs.Value.Counting
import PoolFees.Proofs.Fee.Refusal
import PoolFees.Proofs.Fee.Tracing
import PoolFees.Proofs.Form.AmountList
import PoolFees.Proofs.MulDiv.HandOver
import PoolFees.Proofs.Session.Coherence
