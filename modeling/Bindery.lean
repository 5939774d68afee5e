import Bindery.Main
import Bindery.Proofs.Accounting
import Bindery.Proofs.Announcements
import Bindery.Proofs.Bases
import Bindery.Proofs.Callbacks
import Bindery.Proofs.Candidates
import Bindery.Proofs.Checks
import Bindery.Proofs.ClassWalk
import Bindery.Proofs.Contract
import Bindery.Proofs.Definitions
import Bindery.Proofs.Members
import Bindery.Proofs.Order
import Bindery.Proofs.Precedence
import Bindery.Proofs.Sample
import Bindery.Proofs.Slots
import Bindery.Proofs.Symbols
import Bindery.Proofs.Trampolines
import Bindery.Proofs.Provenance
import Bindery.Proofs.Blocklist
import Bindery.Proofs.Includes
import Bindery.Proofs.Exclusions
import Bindery.Proofs.Subclasses
import Bindery.Proofs.Independence
import Bindery.Proofs.ModelOrder
import Bindery.Proofs.Operators
import Bindery.Proofs.Boundary
import Bindery.Proofs.ManagedNames
import Bindery.Proofs.DepthFirst
import Bindery.Proofs.Deliveries
import Bindery.Proofs.Runs
import Bindery.Proofs.Paths
import Bindery.Proofs.WrittenFiles
import Bindery.Proofs.JsonText
import Bindery.Proofs.Presentation
import Bindery.Proofs.Rounds
import Bindery.Proofs.Tokens
import Bindery.Proofs.Resolution
import Bindery.Proofs.Emitter
import Bindery.Proofs.Walkers
import Bindery.Proofs.EmitterRuns
import Bindery.Proofs.Traces
import Bindery.Proofs.NormalTokens
import Bindery.Proofs.Lists
import Bindery.Proofs.Literals
import Bindery.Proofs.ParameterNames
import Bindery.Proofs.Constness
