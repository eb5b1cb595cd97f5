import GrowthGrammar.Growth.Growing
import GrowthGrammar.Rule.Loading
import GrowthGrammar.Rule.Saving
import GrowthGrammar.Scene.Hierarchy
import GrowthGrammar.Proofs.Number.Rounding
import GrowthGrammar.Proofs.Number.Integers
import GrowthGrammar.Proofs.Number.Reading
import GrowthGrammar.Proofs.Number.Loading
import GrowthGrammar.Proofs.Number.Order
import GrowthGrammar.Proofs.Hash.Occupancy
import GrowthGrammar.Proofs.Random.Manager
import GrowthGrammar.Proofs.Random.Dispenser
import GrowthGrammar.Proofs.Random.Streams
import GrowthGrammar.Proofs.Pattern.Checking
import GrowthGrammar.Proofs.Formula.Evaluation
import GrowthGrammar.Proofs.Formula.Operation
import GrowthGrammar.Proofs.Formula.Literal
import GrowthGrammar.Proofs.Formula.Safety
import GrowthGrammar.Proofs.Formula.Names
import GrowthGrammar.Proofs.Graph.Consistency
import GrowthGrammar.Proofs.Graph.FreeIds
import GrowthGrammar.Proofs.Graph.Run
import GrowthGrammar.Proofs.Graph.Incidence
import GrowthGrammar.Proofs.Graph.Kinship
import GrowthGrammar.Proofs.Graph.Ancestry
import GrowthGrammar.Proofs.Graph.Dirtiness
import GrowthGrammar.Proofs.Graph.Recency
import GrowthGrammar.Proofs.Graph.Checked
import GrowthGrammar.Proofs.Search.Placement
import GrowthGrammar.Proofs.Search.Enumeration
import GrowthGrammar.Proofs.Search.Symmetry
import GrowthGrammar.Proofs.Search.Orbit
import GrowthGrammar.Proofs.Search.Interleaving
import GrowthGrammar.Proofs.Search.Checked
import GrowthGrammar.Proofs.Scene.Balance
import GrowthGrammar.Proofs.Scene.Soundness
import GrowthGrammar.Proofs.Scene.Labelling
import GrowthGrammar.Proofs.Rule.Account
import GrowthGrammar.Proofs.Rule.Staleness
import GrowthGrammar.Proofs.Rule.Effect
import GrowthGrammar.Proofs.Rule.Keeping
import GrowthGrammar.Proofs.Rule.Run
import GrowthGrammar.Proofs.Rule.Rooted
import GrowthGrammar.Proofs.Rule.Fate
import GrowthGrammar.Proofs.Rule.Share
import GrowthGrammar.Proofs.Rule.Merging
import GrowthGrammar.Proofs.Rule.Adding
import GrowthGrammar.Proofs.Rule.Mirror
import GrowthGrammar.Proofs.Rule.CheckedProcedures
import GrowthGrammar.Proofs.Rule.Atomicity
import GrowthGrammar.Proofs.Rule.CheckedPasses
import GrowthGrammar.Proofs.Rule.Templates
import GrowthGrammar.Proofs.Rule.Mark
import GrowthGrammar.Proofs.Rule.Context
import GrowthGrammar.Proofs.Rule.Gate
import GrowthGrammar.Proofs.Rule.Likeness
import GrowthGrammar.Proofs.Rule.Rest
import GrowthGrammar.Proofs.Rule.Idle
import GrowthGrammar.Proofs.Rule.Fields
import GrowthGrammar.Proofs.Writing
import GrowthGrammar.Proofs.Rule.Reloading
import GrowthGrammar.Proofs.Rule.Wording
import GrowthGrammar.Proofs.Sorting
import GrowthGrammar.Proofs.Rule.Refusal
import GrowthGrammar.Proofs.Rule.Strictness
import GrowthGrammar.Proofs.Growth.Turn
import GrowthGrammar.Proofs.Growth.Standstill
import GrowthGrammar.Proofs.Growth.Checkpoint
import GrowthGrammar.Proofs.Graph.Stranding
import GrowthGrammar.Proofs.Graph.Lifting
import GrowthGrammar.Proofs.Graph.Hierarchy
import GrowthGrammar.Proofs.Scene.Isomorphism
import GrowthGrammar.Proofs.Search.Limit
import GrowthGrammar.Proofs.Search.Holding
import GrowthGrammar.Proofs.Search.Automorphism
import GrowthGrammar.Proofs.Growth.Ledger
import GrowthGrammar.Proofs.Graph.GivenIds
import GrowthGrammar.Proofs.Number.Storage
