import Gasometer.AccessList
import Gasometer.Host.Tape
import Gasometer.Json.Reading
import Gasometer.Main
import Gasometer.World.Forest
import Gasometer.Proofs.HexText
import Gasometer.Proofs.Numbers
import Gasometer.Proofs.Addresses
import Gasometer.Proofs.Prices
import Gasometer.Proofs.Accounts
import Gasometer.Proofs.Layers
import Gasometer.Proofs.Frames
import Gasometer.Proofs.Outcome
import Gasometer.Proofs.Operations
import Gasometer.Proofs.Calls
import Gasometer.Proofs.Steps
import Gasometer.Proofs.Lives
import Gasometer.Proofs.Locality
import Gasometer.Proofs.Moves
import Gasometer.Proofs.Machines
import Gasometer.Proofs.Launches
import Gasometer.Proofs.Rounds
import Gasometer.Proofs.Termination
import Gasometer.Proofs.Events
import Gasometer.Proofs.GasAccounting
import Gasometer.Proofs.Safety
import Gasometer.Proofs.Reversion
import Gasometer.Proofs.Views
import Gasometer.Proofs.Effects
import Gasometer.Proofs.Towers
import Gasometer.Proofs.StaticCalls
import Gasometer.Proofs.FrameStack
import Gasometer.Proofs.Recursion
import Gasometer.Proofs.Conservation
import Gasometer.Proofs.Snapshots
import Gasometer.Proofs.Numerals
import Gasometer.Proofs.Words
import Gasometer.Proofs.Mnemonics
import Gasometer.Proofs.AssemblyLanguage
import Gasometer.Proofs.Assembler
import Gasometer.Proofs.Disassembly
import Gasometer.Proofs.StackEffects
import Gasometer.Proofs.Observations
import Gasometer.Proofs.Trails
import Gasometer.Proofs.StraightLines
import Gasometer.Proofs.SourceLines
import Gasometer.Proofs.Loops
import Gasometer.Proofs.LoopSources
import Gasometer.Proofs.GasIndependence
import Gasometer.Proofs.Confinement
import Gasometer.Proofs.CacheHistories
import Gasometer.Proofs.Warmth
import Gasometer.Proofs.Beginnings
import Gasometer.Proofs.Permanence
import Gasometer.Proofs.Measurements
import Gasometer.Proofs.Drafts
import Gasometer.Proofs.ProgramSizes
import Gasometer.Proofs.Skipping
import Gasometer.Proofs.Sections
import Gasometer.Proofs.SharedCaches
import Gasometer.Proofs.Tenure
import Gasometer.Proofs.FlatOperations
import Gasometer.Proofs.SteadyRuns
import Gasometer.Proofs.LoopPrices
import Gasometer.Proofs.Openings
import Gasometer.Proofs.StorageCosts
import Gasometer.Proofs.Creations
import Gasometer.Proofs.Solvency
import Gasometer.Proofs.Allowances
import Gasometer.Proofs.MemoryCells
import Gasometer.Proofs.MemoryAccesses
import Gasometer.Proofs.MemoryHistories
import Gasometer.Proofs.Entries
import Gasometer.Proofs.Chronicles
import Gasometer.Proofs.OperandStacks
import Gasometer.Proofs.BitVectors
import Gasometer.Proofs.StackLimits
import Gasometer.Proofs.CodePlaces
import Gasometer.Proofs.Results
import Gasometer.Proofs.CreationPreimages
import Gasometer.Proofs.ExternalCompiler
import Gasometer.Proofs.LoopShapes
import Gasometer.Proofs.FrameEnds
import Gasometer.Proofs.StackNeutrality
import Gasometer.Proofs.AddressForms
