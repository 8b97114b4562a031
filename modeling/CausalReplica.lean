import CausalReplica.CommandLine.Memory
import CausalReplica.Conflict.Json
import CausalReplica.Expectation
import CausalReplica.Main
import CausalReplica.Proofs.Accounts
import CausalReplica.Proofs.Antichain
import CausalReplica.Proofs.Attended
import CausalReplica.Proofs.Batch
import CausalReplica.Proofs.Calls
import CausalReplica.Proofs.Convergence
import CausalReplica.Proofs.Decision
import CausalReplica.Proofs.Deletion
import CausalReplica.Proofs.Encoding
import CausalReplica.Proofs.Failure
import CausalReplica.Proofs.Grouping
import CausalReplica.Proofs.Halves
import CausalReplica.Proofs.Hashes
import CausalReplica.Proofs.Insertion
import CausalReplica.Proofs.Interleaving
import CausalReplica.Proofs.Isolation
import CausalReplica.Proofs.Locality
import CausalReplica.Proofs.MemberOrder
import CausalReplica.Proofs.Mixing
import CausalReplica.Proofs.Overview
import CausalReplica.Proofs.Pointwise
import CausalReplica.Proofs.Production
import CausalReplica.Proofs.Publishing
import CausalReplica.Proofs.Redelivery
import CausalReplica.Proofs.Registry
import CausalReplica.Proofs.Runs
import CausalReplica.Proofs.Sameness
import CausalReplica.Proofs.Supersession
import CausalReplica.Proofs.Sweep
import CausalReplica.Proofs.Transport
import CausalReplica.Proofs.Validation
import CausalReplica.Proofs.Winner
import CausalReplica.Replica.Timed
import CausalReplica.Sample
