import TaskLoop.Analytics.Json
import TaskLoop.Engine.View
import TaskLoop.Generator.Scripted
import TaskLoop.Main
import TaskLoop.Proofs.Decimal.Digits
import TaskLoop.Proofs.Engine.Attempts
import TaskLoop.Proofs.Generator.Verdict
import TaskLoop.Proofs.Iteration
import TaskLoop.Proofs.Text.Lines
import TaskLoop.Proofs.Text.Utf8
import TaskLoop.Proofs.Store.History
import TaskLoop.Proofs.Engine.Timeless
import TaskLoop.Proofs.Engine.Agreement
import TaskLoop.Proofs.Engine.Interruption
import TaskLoop.Proofs.Disk.Path
import TaskLoop.Proofs.Disk.Places
import TaskLoop.Proofs.Disk.Write
import TaskLoop.Proofs.Decimal.Bits
import TaskLoop.Proofs.Decimal.Nearest
import TaskLoop.Proofs.Decimal.Shortest
import TaskLoop.Proofs.Decimal.ReadBack
import TaskLoop.Proofs.Json.Reals
import TaskLoop.Proofs.Checkpoint.Basic
import TaskLoop.Proofs.Json.Canonical
import TaskLoop.Proofs.Checkpoint.Store
import TaskLoop.Proofs.Disk.Append
import TaskLoop.Proofs.Arithmetic
import TaskLoop.Proofs.ErrorIndex
import TaskLoop.Proofs.Pattern.Table
import TaskLoop.Proofs.Engine.Progress
import TaskLoop.Proofs.Engine.Learning
import TaskLoop.Proofs.Engine.Files
import TaskLoop.Proofs.Engine.Replay
import TaskLoop.Proofs.Text.Case
import TaskLoop.Proofs.Pattern.Key
import TaskLoop.Proofs.Engine.Reload
import TaskLoop.Proofs.Engine.Open
import TaskLoop.Proofs.Engine.Boundary
import TaskLoop.Proofs.Engine.Resumption
import TaskLoop.Proofs.Decimal.Rounding
import TaskLoop.Proofs.Disk.Locks
import TaskLoop.Proofs.Pattern.Merge
import TaskLoop.Proofs.Pattern.Import
import TaskLoop.Proofs.Pattern.File
import TaskLoop.Proofs.Sharing.Stages
import TaskLoop.Proofs.Sharing.Serial
import TaskLoop.Proofs.Sharing.Commands
import TaskLoop.Proofs.Engine.Status
import TaskLoop.Proofs.Engine.Consistency
import TaskLoop.Proofs.Engine.Bounds
import TaskLoop.Proofs.Engine.Completion
import TaskLoop.Proofs.Engine.Endings
import TaskLoop.Proofs.Engine.Trail
import TaskLoop.Proofs.Engine.Influences
import TaskLoop.Proofs.Phase
import TaskLoop.Proofs.Project
import TaskLoop.Proofs.Text.Words
import TaskLoop.Proofs.Text.Spacing
import TaskLoop.Proofs.Text.Letters
import TaskLoop.Proofs.Similarity
import TaskLoop.Proofs.Category
import TaskLoop.Proofs.ErrorIndex.Calls
import TaskLoop.Proofs.ErrorIndex.Statistics
import TaskLoop.Proofs.ErrorIndex.Categories
import TaskLoop.Proofs.Disk.Listing
import TaskLoop.Proofs.Disk.Nested
import TaskLoop.Proofs.Checkpoint.Listing
import TaskLoop.Proofs.Checkpoint.Written
import TaskLoop.Proofs.Checkpoint.Sequence
import TaskLoop.Proofs.Checkpoint.Label
import TaskLoop.Proofs.Checkpoint.Confined
import TaskLoop.Proofs.Category.Joined
import TaskLoop.Proofs.Build
import TaskLoop.Proofs.Decimal.Order
import TaskLoop.Proofs.Decimal.Quotient
import TaskLoop.Proofs.ErrorIndex.Ranking
import TaskLoop.Proofs.ErrorIndex.Suggestions
import TaskLoop.Proofs.Checkpoint.Difference
import TaskLoop.Proofs.Pattern.Account
import TaskLoop.Proofs.ErrorIndex.Marks
import TaskLoop.Proofs.Engine.Overcome
import TaskLoop.Proofs.Engine.Noting
import TaskLoop.Proofs.Engine.Requests
import TaskLoop.Proofs.Json.Blocks
import TaskLoop.Proofs.Sorting
import TaskLoop.Proofs.Analytics.Summary
import TaskLoop.Proofs.Pattern.Recordings
import TaskLoop.Proofs.Pattern.Buckets
import TaskLoop.Proofs.Decimal.Product
import TaskLoop.Proofs.Pattern.Recommendation
import TaskLoop.Proofs.Analytics.Trend
import TaskLoop.Proofs.Disk.Replace
import TaskLoop.Proofs.Generator.Plan
import TaskLoop.Proofs.CommandLine.ShortForms
import TaskLoop.Proofs.Settings.ReadBack
import TaskLoop.Proofs.Engine.Refusals
