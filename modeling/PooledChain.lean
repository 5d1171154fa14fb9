import PooledChain.Definition.Basic
import PooledChain.Factory
import PooledChain.Native.Session
import PooledChain.Session.Fixture
import PooledChain.Session.Run
import PooledChain.Session.View
import PooledChain.Sql.Operation
import PooledChain.Sql.Sanitized
import PooledChain.Statistics.Session
import PooledChain.Text.Quoted
import PooledChain.Proofs.Act
import PooledChain.Proofs.Native
import PooledChain.Proofs.Heap.Stack
import PooledChain.Proofs.Heap.Owners
import PooledChain.Proofs.Heap.Sound
import PooledChain.Proofs.Heap.Move
import PooledChain.Proofs.Heap.Marks
import PooledChain.Proofs.Heap.Close
import PooledChain.Proofs.Heap.Later
import PooledChain.Proofs.Heap.Ask
import PooledChain.Proofs.Heap.Links
import PooledChain.Proofs.Heap.Events
import PooledChain.Proofs.Heap.Release
import PooledChain.Proofs.Heap.Steps
import PooledChain.Proofs.Heap.Runs
import PooledChain.Proofs.Ownership
import PooledChain.Proofs.Heap.Frame
import PooledChain.Proofs.Heap.Path
import PooledChain.Proofs.Heap.Creation
import PooledChain.Proofs.Heap.Ready
import PooledChain.Proofs.Heap.Condemned
import PooledChain.Proofs.Reuse
import PooledChain.Proofs.Answers
import PooledChain.Proofs.Heap.Loyal
import PooledChain.Proofs.Heap.Use
import PooledChain.Proofs.Replies
import PooledChain.Proofs.Heap.Installed
import PooledChain.Proofs.Heap.Asking
import PooledChain.Proofs.Heap.Ends
import PooledChain.Proofs.Heap.Loans
import PooledChain.Proofs.Returns
import PooledChain.Proofs.Refusal
import PooledChain.Proofs.Heap.Dead
import PooledChain.Proofs.ClosedStatements
import PooledChain.Proofs.Heap.Filed
import PooledChain.Proofs.Heap.Drained
import PooledChain.Proofs.Heap.Making
import PooledChain.Proofs.Discards
import PooledChain.Proofs.Bookkeeping
import PooledChain.Proofs.Recency
import PooledChain.Proofs.Heap.Supply
import PooledChain.Proofs.Heap.Yield
import PooledChain.Proofs.Ledger
import PooledChain.Proofs.Heap.Listing
import PooledChain.Proofs.Heap.Lone
import PooledChain.Proofs.Heap.Kin
import PooledChain.Proofs.Heap.Names
import PooledChain.Proofs.Requests
import PooledChain.Proofs.Heap.Change
import PooledChain.Proofs.Heap.Roster
import PooledChain.Proofs.Heap.Closing
import PooledChain.Proofs.Heap.Footprint
import PooledChain.Proofs.Heap.Watch
import PooledChain.Proofs.Heap.Shelter
import PooledChain.Proofs.Leaks
import PooledChain.Proofs.Reclaim
import PooledChain.Proofs.Heap.Veil
import PooledChain.Proofs.Heap.Thin
import PooledChain.Proofs.Heap.Shed
import PooledChain.Proofs.Heap.Raise
import PooledChain.Proofs.Heap.Twins
import PooledChain.Proofs.Heap.Parallel
import PooledChain.Proofs.Transparency
import PooledChain.Proofs.Numbering
import PooledChain.Proofs.Figures
import PooledChain.Proofs.Pools
import PooledChain.Proofs.Heap.Silence
import PooledChain.Proofs.Heap.Timed
import PooledChain.Proofs.Heap.Tables
import PooledChain.Proofs.Recordings
import PooledChain.Proofs.Heap.Registering
import PooledChain.Proofs.Teardown
import PooledChain.Proofs.Company.Driver
import PooledChain.Proofs.Company.Hosting
import PooledChain.Proofs.Company.Statements
import PooledChain.Proofs.Company.Chains
import PooledChain.Proofs.Company.Events
import PooledChain.Proofs.Company.Settling
import PooledChain.Proofs.Company.Seats
import PooledChain.Proofs.Company.Steps
import PooledChain.Proofs.Interference
import PooledChain.Proofs.Writing.Pieces
import PooledChain.Proofs.Writing.Grammar
import PooledChain.Proofs.Writing.Printing
import PooledChain.Proofs.Writing.Values
import PooledChain.Proofs.Writing.Assembly
import PooledChain.Proofs.Sanitizing.Scanning
import PooledChain.Proofs.Sanitizing.Lengths
import PooledChain.Proofs.Sanitizing.Quoted
import PooledChain.Proofs.Sanitizing.Numbers
import PooledChain.Proofs.Sanitizing.FixedPoint
import PooledChain.Proofs.Heap.Decorated
import PooledChain.Proofs.Heap.Failing
import PooledChain.Proofs.ResultSets
import PooledChain.Proofs.Invocations
import PooledChain.Proofs.Beginnings
