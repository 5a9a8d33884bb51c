import RecordQuery.Condition.Grammar
import RecordQuery.Condition.Matching
import RecordQuery.Condition.Reader
import RecordQuery.Derive.Implementation
import RecordQuery.Filter.Session
import RecordQuery.Order.Grammar
import RecordQuery.Order.Reader
import RecordQuery.Pipeline
import RecordQuery.Proofs.Condition.Reading
import RecordQuery.Sample
import RecordQuery.Text.WordTable
import RecordQuery.Proofs.Condition.Rendering
import RecordQuery.Proofs.Condition.RoundTrip
import RecordQuery.Proofs.Order.Comparison
import RecordQuery.Proofs.Order.Consistency
import RecordQuery.Proofs.Order.Sorting
import RecordQuery.Proofs.Formula.Evaluation
import RecordQuery.Proofs.Condition.Failures
import RecordQuery.Proofs.Condition.Recompilation
import RecordQuery.Proofs.Condition.Unambiguity
import RecordQuery.Proofs.Condition.Validation
import RecordQuery.Proofs.Filter.Cursor
import RecordQuery.Proofs.Filter.Session
import RecordQuery.Proofs.Order.Reading
import RecordQuery.Proofs.Order.Rendering
import RecordQuery.Proofs.Number.Integer
import RecordQuery.Proofs.Order.Agreement
import RecordQuery.Proofs.Order.Filtering
import RecordQuery.Proofs.Order.Composition
import RecordQuery.Proofs.AccessorCalls
import RecordQuery.Proofs.Derive.Implementation
import RecordQuery.Proofs.Derive.Literal
import RecordQuery.Proofs.Derive.Naming
import RecordQuery.Proofs.Condition.Consultation
import RecordQuery.Proofs.Condition.Containment
import RecordQuery.Proofs.Condition.IntegerLiteral
import RecordQuery.Proofs.Value.Comparison
import RecordQuery.Proofs.ErrorOffset
import RecordQuery.Proofs.Filter.Lookahead
import RecordQuery.Proofs.Filter.Partition
import RecordQuery.Proofs.Derive.Faults
import RecordQuery.Proofs.Number.TotalOrder
import RecordQuery.Proofs.Derive.Splitting
import RecordQuery.Proofs.Order.Answers
import RecordQuery.Proofs.Derive.Reachability
import RecordQuery.Proofs.Observation
import RecordQuery.Proofs.Condition.Alternatives
import RecordQuery.Proofs.Formula.Draft
import RecordQuery.Proofs.Condition.Assembly
import RecordQuery.Proofs.Condition.Mentions
import RecordQuery.Proofs.Order.Questions
import RecordQuery.Proofs.Derive.Instance
import RecordQuery.Proofs.Sample
import RecordQuery.Proofs.Derive.Accessors
