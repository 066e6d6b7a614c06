import StyleNumber.Double.Bits
import StyleNumber.Double.Rounding
import StyleNumber.Number.Argument
import StyleNumber.Operation
import StyleNumber.Proofs.Number.Reduced
import StyleNumber.Proofs.Number.Distributivity
import StyleNumber.Proofs.Number.Products
import StyleNumber.Proofs.Number.Operability
import StyleNumber.Proofs.Number.Exchange
import StyleNumber.Proofs.Number.TextIndependence
import StyleNumber.Proofs.Number.Written
import StyleNumber.Proofs.Number.Reading
import StyleNumber.Proofs.Signature.Shortcuts
import StyleNumber.Proofs.Decimal.Text
import StyleNumber.Proofs.Signature.Matching
import StyleNumber.Proofs.Number.CoercedOperands
import StyleNumber.Proofs.Number.Commutativity
import StyleNumber.Proofs.Signature.Distinction
import StyleNumber.Proofs.Signature.Removal
import StyleNumber.Proofs.Double.Range
import StyleNumber.Proofs.Double.Exact
import StyleNumber.Proofs.Double.Whole
import StyleNumber.Proofs.Double.TolerantRounding
import StyleNumber.Proofs.Number.Range
import StyleNumber.Proofs.Number.Integers
import StyleNumber.Proofs.Number.Index
import StyleNumber.Proofs.Number.Order
import StyleNumber.Proofs.Number.Remainder
import StyleNumber.Proofs.Number.Lookup
import StyleNumber.Proofs.Text.Quoted
