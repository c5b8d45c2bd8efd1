import ChatService.Cache.Database
import ChatService.Database.Connect
import ChatService.Database.Server
import ChatService.Http.InMemory
import ChatService.Search.Remote
import ChatService.Proofs.Memory.Consistency
import ChatService.Proofs.Database.Ledger
import ChatService.Proofs.Database.Soundness
import ChatService.Proofs.Refinement.Histories
import ChatService.Proofs.Memory.Removals
import ChatService.Proofs.Http.Caching
import ChatService.Proofs.Http.Searching
import ChatService.Proofs.Memory.Linearization
import ChatService.Proofs.Database.Documents
import ChatService.Proofs.Database.Isolation
import ChatService.Proofs.Database.Serializability
import ChatService.Proofs.Page.Partition
import ChatService.Proofs.Memory.Gapless
import ChatService.Proofs.Page.Requests
import ChatService.Proofs.Http.Listing
import ChatService.Proofs.Memory.Effects
import ChatService.Proofs.Memory.Permanence
import ChatService.Proofs.Http.Atomicity
import ChatService.Proofs.Cache.ReadThrough
import ChatService.Proofs.Memory.Locking
import ChatService.Proofs.Memory.Regrouping
import ChatService.Proofs.Http.Secrecy
import ChatService.Proofs.Database.Endings
import ChatService.Proofs.Cache.Degrading
import ChatService.Proofs.Refinement.Counters
import ChatService.Proofs.Search.Remote
import ChatService.Proofs.Search.Bodies
import ChatService.Proofs.Cache.Agreement
import ChatService.Proofs.Cache.Concurrent
import ChatService.Proofs.Cache.Lifetimes
import ChatService.Proofs.Database.RoundTrip
import ChatService.Proofs.Http.Statuses
import ChatService.Proofs.Memory.Listing
import ChatService.Proofs.Memory.NewestFirst
import ChatService.Proofs.Search.Targets
import ChatService.Proofs.Page.Coerce
