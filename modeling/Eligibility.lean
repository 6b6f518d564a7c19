import Eligibility.Double.Bits
import Eligibility.Rule.Render
import Eligibility.Cache
import Eligibility.Registry
import Eligibility.Proofs.Rule.Derivation
import Eligibility.Proofs.Rule.Reading
import Eligibility.Proofs.Rule.Numerals
import Eligibility.Proofs.Rule.TwoReadings
import Eligibility.Proofs.Condition.Built
import Eligibility.Proofs.Double.PlainText
import Eligibility.Proofs.Condition.Plain
import Eligibility.Proofs.Text
import Eligibility.Proofs.Rule.Spelling
import Eligibility.Proofs.Rule.Layout
import Eligibility.Proofs.Rule.RoundTrip
import Eligibility.Proofs.Condition.Combined
import Eligibility.Proofs.Rule.Joined
import Eligibility.Proofs.Json.Numbers
import Eligibility.Proofs.Json.Strings
import Eligibility.Proofs.Json.RoundTrip
import Eligibility.Proofs.Condition.Stored
import Eligibility.Proofs.Registry.Stored
import Eligibility.Proofs.Registry.Requests
import Eligibility.Proofs.Registry.History
import Eligibility.Proofs.Registry.Listing
import Eligibility.Proofs.Registry.Soundness
import Eligibility.Proofs.Registry.Separation
import Eligibility.Proofs.Cache.Transparency
import Eligibility.Proofs.Operator.Named
import Eligibility.Proofs.Value.Comparison
import Eligibility.Proofs.Condition.Edits
import Eligibility.Proofs.Condition.Resolved
import Eligibility.Proofs.Condition.Narrowing
import Eligibility.Proofs.Condition.Places
import Eligibility.Proofs.Condition.Replacing
import Eligibility.Proofs.Condition.Refusals
import Eligibility.Proofs.Condition.Commuting
import Eligibility.Proofs.Condition.Undoing
import Eligibility.Proofs.Double.DecimalText
import Eligibility.Proofs.Condition.Operands
import Eligibility.Proofs.Condition.FirstFault
import Eligibility.Proofs.Double.NumberText
import Eligibility.Proofs.Double.Nearest
import Eligibility.Proofs.Double.Tail
import Eligibility.Proofs.Double.DigitByDigit
import Eligibility.Proofs.Double.RadixText
import Eligibility.Proofs.Path.Texts
import Eligibility.Proofs.Cache.Contents
import Eligibility.Proofs.Rule.Taken
import Eligibility.Proofs.Rule.Places
import Eligibility.Proofs.Rule.Literals
