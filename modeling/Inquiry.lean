import Inquiry.Main
import Inquiry.Proofs.Agent.Account
import Inquiry.Proofs.Agent.Conversation
import Inquiry.Proofs.Agent.Safety
import Inquiry.Proofs.Answer.Grouping
import Inquiry.Proofs.Answer.Listing
import Inquiry.Proofs.Answer.Title
import Inquiry.Proofs.Attempt
import Inquiry.Proofs.Bson.Extended
import Inquiry.Proofs.Calendar.Days
import Inquiry.Proofs.Calendar.Written
import Inquiry.Proofs.Catalog
import Inquiry.Proofs.CommandLine
import Inquiry.Proofs.Decimal.Digits
import Inquiry.Proofs.Embedding.Cosine
import Inquiry.Proofs.Embedding.Hashing
import Inquiry.Proofs.Files.Write
import Inquiry.Proofs.Gate.Fence
import Inquiry.Proofs.Gate.Operator
import Inquiry.Proofs.Gate.Question
import Inquiry.Proofs.Gate.Script
import Inquiry.Proofs.Index.Arrangement
import Inquiry.Proofs.Index.Cache
import Inquiry.Proofs.Index.Coherence
import Inquiry.Proofs.Index.Exact
import Inquiry.Proofs.Index.Failure
import Inquiry.Proofs.Index.Fingerprint
import Inquiry.Proofs.Index.Ranking
import Inquiry.Proofs.Index.Rebuild
import Inquiry.Proofs.Index.Record
import Inquiry.Proofs.Index.Reload
import Inquiry.Proofs.Index.Runs
import Inquiry.Proofs.Index.Saved
import Inquiry.Proofs.Index.Score
import Inquiry.Proofs.Index.Separation
import Inquiry.Proofs.Json.Empty
import Inquiry.Proofs.Json.Grammar
import Inquiry.Proofs.Json.Move
import Inquiry.Proofs.Json.Number
import Inquiry.Proofs.Json.Pretty
import Inquiry.Proofs.Json.Printed
import Inquiry.Proofs.Json.Record
import Inquiry.Proofs.Json.Run
import Inquiry.Proofs.Json.Shape
import Inquiry.Proofs.Json.Written
import Inquiry.Proofs.Prompt.Context
import Inquiry.Proofs.Prompt.Question
import Inquiry.Proofs.Prompt.Template
import Inquiry.Proofs.Query.Bracket
import Inquiry.Proofs.Query.Chain
import Inquiry.Proofs.Query.Constructor
import Inquiry.Proofs.Query.Counting
import Inquiry.Proofs.Query.Cursor
import Inquiry.Proofs.Query.Dated
import Inquiry.Proofs.Query.Expression
import Inquiry.Proofs.Query.Filter
import Inquiry.Proofs.Query.Hollow
import Inquiry.Proofs.Query.Inside
import Inquiry.Proofs.Query.Invocation
import Inquiry.Proofs.Query.Offsets
import Inquiry.Proofs.Query.Pass
import Inquiry.Proofs.Query.Places
import Inquiry.Proofs.Query.Plan
import Inquiry.Proofs.Query.Quoted
import Inquiry.Proofs.Query.Relaxed
import Inquiry.Proofs.Query.Search
import Inquiry.Proofs.Query.Spaced
import Inquiry.Proofs.Query.Stages
import Inquiry.Proofs.Query.Strict
import Inquiry.Proofs.Query.Surroundings
import Inquiry.Proofs.Query.ValueCall
import Inquiry.Proofs.Query.Walk
import Inquiry.Proofs.Text.Case
import Inquiry.Proofs.Text.Cut
import Inquiry.Proofs.Text.Offset
import Inquiry.Proofs.Text.Utf8
import Inquiry.Proofs.Turns
import Inquiry.Store.Memory
