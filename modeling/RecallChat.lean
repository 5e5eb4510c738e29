import RecallChat.Engine
import RecallChat.Rehearsal.Manifest
import RecallChat.Rehearsal.Report
import RecallChat.Rehearsal.Shelf
import RecallChat.Proofs.Recording
import RecallChat.Proofs.Decoding.Requests
import RecallChat.Proofs.Decoding.Strides
import RecallChat.Proofs.Outcome
import RecallChat.Proofs.Decoding.Law
import RecallChat.Proofs.Decoding.Interruption
import RecallChat.Proofs.Chat.Exchange
import RecallChat.Proofs.Chat.Law
import RecallChat.Proofs.Floating.Widening
import RecallChat.Proofs.Chat.Likeness
import RecallChat.Proofs.Chat.Failure
import RecallChat.Proofs.Archive.Snapshot
import RecallChat.Proofs.Archive.Saving
import RecallChat.Proofs.Archive.Checkpoint
import RecallChat.Proofs.Archive.Merging
import RecallChat.Proofs.Archive.Rollback
import RecallChat.Proofs.Ending
import RecallChat.Proofs.Engine.Contract
import RecallChat.Proofs.Engine.Faults
import RecallChat.Proofs.Floating.Products
import RecallChat.Proofs.Chat.Isolation
import RecallChat.Proofs.Chat.Windows
import RecallChat.Proofs.Decoding.Delivery
import RecallChat.Proofs.Decoding.Streaming
import RecallChat.Proofs.Decoding.Interleaving
import RecallChat.Proofs.Engine.Building
import RecallChat.Proofs.Engine.Gate
import RecallChat.Proofs.Engine.Negotiation
import RecallChat.Proofs.Archive.Restoring
import RecallChat.Proofs.Memory.Ranking
import RecallChat.Proofs.Decoding.Budget
import RecallChat.Proofs.Tier.Detection
import RecallChat.Proofs.Walking
import RecallChat.Proofs.Engine.ConfigFaults
import RecallChat.Proofs.Engine.BuildFaults
import RecallChat.Proofs.Chat.Reaching
import RecallChat.Proofs.Chat.Lookup
import RecallChat.Proofs.Chat.Rendering
import RecallChat.Proofs.Chat.Transfer
import RecallChat.Proofs.Overlay
import RecallChat.Proofs.Yaml.Entries
import RecallChat.Proofs.Engine.Settings
import RecallChat.Proofs.Engine.Layers
import RecallChat.Proofs.Engine.Forming
import RecallChat.Proofs.Chat.Loading
import RecallChat.Proofs.Floating.Nearest
import RecallChat.Proofs.Memory.Appending
import RecallChat.Proofs.Memory.Copying
import RecallChat.Proofs.Chat.Reading
import RecallChat.Proofs.Decoding.Choice
import RecallChat.Proofs.Tokenizer.EndId
import RecallChat.Proofs.Embedding.Batch
import RecallChat.Proofs.Paths.Locating
import RecallChat.Proofs.Logging.Outlets
