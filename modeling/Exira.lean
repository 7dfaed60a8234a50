import Exira.Access.Answers
import Exira.Access.Authority
import Exira.Access.Inert
import Exira.Access.Isolation
import Exira.Access.Mirror
import Exira.Access.Noninterference
import Exira.Access.Observed
import Exira.Access.Observer
import Exira.Access.Parallel
import Exira.Batches.Deposits
import Exira.Batches.Orders
import Exira.Books.Accrual
import Exira.Books.Distributions
import Exira.Books.Entitlements
import Exira.Books.Tokens
import Exira.Books.Vaults
import Exira.Calls.Accepted
import Exira.Calls.App
import Exira.Calls.Blocked
import Exira.Calls.Needed
import Exira.Client
import Exira.Effects
import Exira.Errors
import Exira.Frame
import Exira.Fund.Accounting
import Exira.Fund.Agreement
import Exira.Fund.Basic
import Exira.Instructions.Admin
import Exira.Instructions.Constraints
import Exira.Instructions.Inversion
import Exira.Instructions.Investor
import Exira.Instructions.Mrv
import Exira.Lib.Agreement
import Exira.Lib.Batch
import Exira.Lib.Checked
import Exira.Lib.Codec
import Exira.Lib.Custody
import Exira.Lib.Dividend
import Exira.Lib.Layout
import Exira.Lib.Local
import Exira.Lib.Posting
import Exira.Lib.Runs
import Exira.Lib.Splitting
import Exira.Lib.Table
import Exira.Lib.Token
import Exira.Move
import Exira.Moves
import Exira.Mrv.Attestation
import Exira.Mrv.Counting
import Exira.Mrv.Gating
import Exira.Mrv.Registry
import Exira.Openings
import Exira.Orders
import Exira.Pool.Arithmetic
import Exira.Pool.Availability
import Exira.Pool.Conservation
import Exira.Pool.Layers
import Exira.Pool.ProRata
import Exira.Pool.Splitting
import Exira.Pool.TopUps
import Exira.Progress
import Exira.Project.Arithmetic
import Exira.Project.Claims
import Exira.Project.Completion
import Exira.Project.Confluence
import Exira.Project.Conservation
import Exira.Project.Dust
import Exira.Project.Fees
import Exira.Project.Lifecycle
import Exira.Project.Refunds
import Exira.Project.Schedules
import Exira.Project.Solvency
import Exira.Project.WindUp
import Exira.Project.Withdrawals
import Exira.Records.Census
import Exira.Records.Data
import Exira.Records.Entry
import Exira.Records.Provenance
import Exira.Records.Store
import Exira.Records.Texts
import Exira.Refinement
import Exira.Refusals.Exact
import Exira.Refusals.Possible
import Exira.Simulation
import Exira.Standing
import Exira.State.Accounts
import Exira.State.Address
import Exira.State.Kinds
import Exira.State.Preimage
import Exira.Step
import Exira.View
import Exira.Wf
