import CityCards.Catalog.Catalog
import CityCards.Chance.GeneratorJson
import CityCards.City.StateJson
import CityCards.Effect.Violation
import CityCards.Play.Resolution
import CityCards.Play.Scripted
import CityCards.Proofs.Chance.Family
import CityCards.Proofs.Play.Watched
import CityCards.Proofs.Play.Related
import CityCards.Proofs.Play.Silent
import CityCards.Proofs.Play.Recorded
import CityCards.Proofs.Play.Accounts
import CityCards.Proofs.Play.Refusal
import CityCards.Proofs.Play.Strictness
import CityCards.Proofs.Play.Depth
import CityCards.Proofs.Effect.Violations
import CityCards.Proofs.Play.Soundness
import CityCards.Proofs.Effect.Shapes
import CityCards.Proofs.Effect.Priority
import CityCards.Proofs.Effect.RoundTrip
import CityCards.Proofs.Effect.Places
import CityCards.Proofs.Json.Edit
import CityCards.Proofs.Json.Normal
import CityCards.Proofs.Catalog.Localisation
import CityCards.Proofs.Catalog.Descent
import CityCards.Proofs.Catalog.Registration
import CityCards.Proofs.Catalog.Loading
import CityCards.Proofs.Catalog.Reloading
import CityCards.Proofs.Play.Coverage
import CityCards.Proofs.Chance.Picks
import CityCards.Proofs.Chance.Limit
import CityCards.Proofs.Play.Causes
import CityCards.Proofs.City.Alike
import CityCards.Proofs.Play.Lookalike
import CityCards.Proofs.Json.Printed
import CityCards.Proofs.Play.Replayed
import CityCards.Proofs.Chance.Resumption
import CityCards.Proofs.Play.Beside
import CityCards.Proofs.Play.Visits
import CityCards.Proofs.Play.TreeOrder
import CityCards.Proofs.Chance.Interleaving
import CityCards.Proofs.Play.Additive
import CityCards.Proofs.Play.Sequences
import CityCards.Proofs.Play.Contexts
import CityCards.Proofs.Play.Inlining
import CityCards.Proofs.Play.Branching
import CityCards.Proofs.Play.Selections
import CityCards.Proofs.Effect.Exactness
import CityCards.Proofs.Json.PathText
import CityCards.Proofs.Effect.Addresses
import CityCards.Proofs.Text.InTurn
import CityCards.Proofs.Effect.Described
import CityCards.Proofs.Text.Block
import CityCards.Proofs.Effect.Lines
import CityCards.Proofs.Effect.Replacement
import CityCards.Proofs.Play.Markings
import CityCards.Proofs.City.Saving
import CityCards.Proofs.City.Cells
import CityCards.Proofs.City.Totals
import CityCards.Proofs.Condition.Fallback
import CityCards.Proofs.Play.Queries
import CityCards.Proofs.Play.Diagnosed
import CityCards.Proofs.Play.Alarms
import CityCards.Proofs.Catalog.Minimality
