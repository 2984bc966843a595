import RecordSieve.Criterion.Builder
import RecordSieve.Criterion.OfValue
import RecordSieve.Delivery
import RecordSieve.Value.Datum
import RecordSieve.Proofs.Criterion
import RecordSieve.Proofs.Evaluation
import RecordSieve.Proofs.Matching
import RecordSieve.Proofs.Meaning
import RecordSieve.Proofs.Queries
import RecordSieve.Proofs.Provenance
import RecordSieve.Proofs.Delivery
import RecordSieve.Proofs.Desk
import RecordSieve.Proofs.Lifetime
import RecordSieve.Proofs.Rounding
import RecordSieve.Proofs.Equality
import RecordSieve.Proofs.Place
import RecordSieve.Proofs.Extension
import RecordSieve.Proofs.Monotone
import RecordSieve.Proofs.ByExample
import RecordSieve.Proofs.Dispatches
import RecordSieve.Proofs.Logging
import RecordSieve.Proofs.Construction
import RecordSieve.Proofs.Alike
import RecordSieve.Proofs.Footprint
import RecordSieve.Proofs.Membership
import RecordSieve.Proofs.ExactValue
import RecordSieve.Proofs.NumberOrder
import RecordSieve.Proofs.Dotted
import RecordSieve.Proofs.Concatenation
import RecordSieve.Proofs.Conjunction
import RecordSieve.Proofs.Shadowing
import RecordSieve.Proofs.SideBySide
import RecordSieve.Proofs.Choice
import RecordSieve.Proofs.KeyOrder
import RecordSieve.Proofs.Representation
import RecordSieve.Proofs.ScalarOrder
import RecordSieve.Proofs.JsonNumber
import RecordSieve.Proofs.Json
import RecordSieve.Proofs.Reading
import RecordSieve.Proofs.Conversion
