import Questionnaire.Answer.Basic
import Questionnaire.Answer.Shape
import Questionnaire.Answer.Validation
import Questionnaire.Audit.Finding
import Questionnaire.Audit.Routing
import Questionnaire.Audit.Scoring
import Questionnaire.Fault
import Questionnaire.Hash.Sha256
import Questionnaire.Json.Basic
import Questionnaire.Json.Display
import Questionnaire.Json.Reader
import Questionnaire.Json.Writer
import Questionnaire.Log.Level
import Questionnaire.Log.Record
import Questionnaire.Log.Template
import Questionnaire.Log.Timestamp
import Questionnaire.Log.Value
import Questionnaire.Log.Warning
import Questionnaire.Main
import Questionnaire.Number.Basic
import Questionnaire.Number.Binary64
import Questionnaire.Number.Decimal
import Questionnaire.Number.Digits
import Questionnaire.Number.Numeral
import Questionnaire.Number.Text
import Questionnaire.Order
import Questionnaire.Proofs.Answer.Exact
import Questionnaire.Proofs.Answer.Option
import Questionnaire.Proofs.Answer.Scale
import Questionnaire.Proofs.Answer.Verdict
import Questionnaire.Proofs.Audit.Breakdown
import Questionnaire.Proofs.Audit.Conflict
import Questionnaire.Proofs.Audit.Coverage
import Questionnaire.Proofs.Audit.Gap
import Questionnaire.Proofs.Audit.Overlap
import Questionnaire.Proofs.Audit.Reference
import Questionnaire.Proofs.Audit.Report
import Questionnaire.Proofs.Json.Alike
import Questionnaire.Proofs.Json.Canonical
import Questionnaire.Proofs.Json.Everywhere
import Questionnaire.Proofs.Json.Fields
import Questionnaire.Proofs.Json.Numeral
import Questionnaire.Proofs.Json.Quoted
import Questionnaire.Proofs.Json.Text
import Questionnaire.Proofs.Json.Written
import Questionnaire.Proofs.Lists
import Questionnaire.Proofs.Log.Line
import Questionnaire.Proofs.Number.Counted
import Questionnaire.Proofs.Number.Decimal
import Questionnaire.Proofs.Number.Denotation
import Questionnaire.Proofs.Number.Magnitude
import Questionnaire.Proofs.Number.Nearest
import Questionnaire.Proofs.Number.Numerals
import Questionnaire.Proofs.Number.Order
import Questionnaire.Proofs.Number.Precision
import Questionnaire.Proofs.Number.Product
import Questionnaire.Proofs.Number.Range
import Questionnaire.Proofs.Number.Rounding
import Questionnaire.Proofs.Number.Whole
import Questionnaire.Proofs.Number.Written
import Questionnaire.Proofs.Question.Faults
import Questionnaire.Proofs.Question.Filling
import Questionnaire.Proofs.Question.RoundTrip
import Questionnaire.Proofs.Rule.Comparison
import Questionnaire.Proofs.Rule.Key
import Questionnaire.Proofs.Rule.Kinds
import Questionnaire.Proofs.Rule.Resolution
import Questionnaire.Proofs.Rule.Table
import Questionnaire.Proofs.Rule.Written
import Questionnaire.Proofs.Schema.Faultless
import Questionnaire.Proofs.Schema.Outcome
import Questionnaire.Proofs.Schema.Written
import Questionnaire.Proofs.Scoring.Band
import Questionnaire.Proofs.Scoring.Bound
import Questionnaire.Proofs.Scoring.Clamped
import Questionnaire.Proofs.Scoring.Maximum
import Questionnaire.Proofs.Scoring.Monotone
import Questionnaire.Proofs.Scoring.NormalForm
import Questionnaire.Proofs.Scoring.Optimum
import Questionnaire.Proofs.Scoring.Ordinary
import Questionnaire.Proofs.Scoring.Outcome
import Questionnaire.Proofs.Scoring.Percentage
import Questionnaire.Proofs.Scoring.Ranking
import Questionnaire.Proofs.Scoring.Reordering
import Questionnaire.Proofs.Scoring.Repair
import Questionnaire.Proofs.Scoring.Selection
import Questionnaire.Proofs.Scoring.Share
import Questionnaire.Proofs.Scoring.Tally
import Questionnaire.Proofs.Scoring.Texts
import Questionnaire.Proofs.Scoring.Unanswered
import Questionnaire.Proofs.Scoring.WholePoints
import Questionnaire.Proofs.Scoring.Written
import Questionnaire.Proofs.Session.History
import Questionnaire.Proofs.Session.Isolation
import Questionnaire.Proofs.Snapshot.Identity
import Questionnaire.Proofs.Snapshot.Outcome
import Questionnaire.Proofs.Text.Quoted
import Questionnaire.Proofs.Walk.Abreast
import Questionnaire.Proofs.Walk.Course
import Questionnaire.Proofs.Walk.Forward
import Questionnaire.Proofs.Walk.History
import Questionnaire.Proofs.Walk.Inert
import Questionnaire.Proofs.Walk.Influence
import Questionnaire.Proofs.Walk.Insertion
import Questionnaire.Proofs.Walk.Matching
import Questionnaire.Proofs.Walk.Navigation
import Questionnaire.Proofs.Walk.Replay
import Questionnaire.Proofs.Walk.Routing
import Questionnaire.Proofs.Walk.Run
import Questionnaire.Proofs.Walk.SelfTarget
import Questionnaire.Proofs.Walk.Strict
import Questionnaire.Proofs.Walk.Stride
import Questionnaire.Proofs.Walk.Termination
import Questionnaire.Proofs.Walk.Text
import Questionnaire.Proofs.Walk.Trigger
import Questionnaire.Proofs.Walk.Turn
import Questionnaire.Question.Basic
import Questionnaire.Question.Builder
import Questionnaire.Question.Document
import Questionnaire.Question.Kind
import Questionnaire.Question.Registry
import Questionnaire.Report.Status
import Questionnaire.Rule.Basic
import Questionnaire.Rule.Document
import Questionnaire.Rule.Evaluation
import Questionnaire.Rule.Legacy
import Questionnaire.Rule.Operator
import Questionnaire.Rule.Test
import Questionnaire.Schema.Fields
import Questionnaire.Schema.Issue
import Questionnaire.Schema.Validated
import Questionnaire.Schema.Value
import Questionnaire.Scoring.Bands
import Questionnaire.Scoring.Config
import Questionnaire.Scoring.Mode
import Questionnaire.Scoring.Points
import Questionnaire.Scoring.Repair
import Questionnaire.Scoring.Result
import Questionnaire.Scoring.Survey
import Questionnaire.Settings
import Questionnaire.Survey.Basic
import Questionnaire.Survey.Path
import Questionnaire.Survey.Session
import Questionnaire.Survey.Snapshot
import Questionnaire.Survey.Walk
import Questionnaire.Text.Basic
import Questionnaire.Text.Case
import Questionnaire.Text.CaseTable
import Questionnaire.Text.Quoted
import Questionnaire.Verification
