import MonetaryText.Text.Quoted
import MonetaryText.Text.DecimalDigit
import MonetaryText.Text.UpperCase
import MonetaryText.Decimal.Arithmetic
import MonetaryText.Decimal.Notation
import MonetaryText.Decimal.Reading
import MonetaryText.Binary64.Shortest
import MonetaryText.Binary64.Power
import MonetaryText.Locale.Excerpt
import MonetaryText.NumeralStyle.Draft
import MonetaryText.Settings
import MonetaryText.Numeral
import MonetaryText.Amount.Format
import MonetaryText.Expression.WellFormed
import MonetaryText.Expression.Evaluate
import MonetaryText.Money
import MonetaryText.NumeralStyle.Cache
import MonetaryText.Entry.Action
import MonetaryText.Proofs.Text.Trim
import MonetaryText.Proofs.Numeral.Notation
import MonetaryText.Proofs.Outcome
import MonetaryText.Proofs.Decimal.Digits
import MonetaryText.Proofs.Decimal.Rounding
import MonetaryText.Proofs.Amount.Layout
import MonetaryText.Proofs.Amount.RoundTrip
import MonetaryText.Proofs.Expression.Tree
import MonetaryText.Proofs.Expression.Parse
import MonetaryText.Proofs.Expression.Reading
import MonetaryText.Proofs.Expression.Rendering
import MonetaryText.Proofs.Expression.Tokens
import MonetaryText.Proofs.Expression.PlainAmount
import MonetaryText.Proofs.NumeralStyle.Requested
import MonetaryText.Proofs.Locale.Excerpt
import MonetaryText.Proofs.Entry.Step
import MonetaryText.Proofs.Entry.Coherence
import MonetaryText.Proofs.Entry.Display
import MonetaryText.Proofs.Expression.Failures
import MonetaryText.Proofs.Entry.Rejection
import MonetaryText.Proofs.Entry.Run
import MonetaryText.Proofs.Entry.Value
import MonetaryText.Proofs.Entry.Interruption
import MonetaryText.Proofs.Entry.Rerendering
import MonetaryText.Proofs.Expression.FractionDigits
import MonetaryText.Proofs.Entry.Commuting
import MonetaryText.Proofs.Entry.Invalid
import MonetaryText.Proofs.Decimal.Value
import MonetaryText.Proofs.Expression.Finite
import MonetaryText.Proofs.Expression.Exact
import MonetaryText.Proofs.Decimal.RationalRounding
import MonetaryText.Proofs.Decimal.Quotient
import MonetaryText.Proofs.Expression.Division
import MonetaryText.Proofs.Numeral.Separators
import MonetaryText.Proofs.Decimal.Modes
import MonetaryText.Proofs.Amount.Rounding
import MonetaryText.Proofs.Expression.IntegerPower
import MonetaryText.Proofs.Expression.Check
import MonetaryText.Proofs.Expression.FirstFault
import MonetaryText.Proofs.Expression.Scanning
import MonetaryText.Proofs.Amount.Grouping
import MonetaryText.Proofs.Amount.CanonicalShape
import MonetaryText.Proofs.Amount.Adornment
import MonetaryText.Proofs.Amount.Positional
import MonetaryText.Proofs.Entry.Typing
import MonetaryText.Proofs.NumeralStyle.Cache
import MonetaryText.Proofs.Expression.TokenGrammar
import MonetaryText.Proofs.Amount.Separation
import MonetaryText.Proofs.Expression.Progress
