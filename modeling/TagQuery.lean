import TagQuery.Grammar
import TagQuery.Placeholder.Substitution
import TagQuery.Query.Conversion
import TagQuery.Query.Dismantling
import TagQuery.Query.Substitution
import TagQuery.Token.Count
import TagQuery.Token.Direct
import TagQuery.Workbench
import TagQuery.Proofs.FreshMarker
import TagQuery.Proofs.Atoms
import TagQuery.Proofs.TableNumbering
import TagQuery.Proofs.MaskedText
import TagQuery.Proofs.MaskingInvariant
import TagQuery.Proofs.Restoration
import TagQuery.Proofs.ReadingRecords
import TagQuery.Proofs.DirectLexing
import TagQuery.Proofs.ComplexPlaces
import TagQuery.Proofs.WrittenTokens
import TagQuery.Proofs.Precedence
import TagQuery.Proofs.TwoPasses
import TagQuery.Proofs.OutcomeCounting
import TagQuery.Proofs.CanonicalForm
import TagQuery.Proofs.WritableValues
import TagQuery.Proofs.ParenthesisSpacing
import TagQuery.Proofs.Grafting
import TagQuery.Proofs.ShortCircuit
import TagQuery.Proofs.QueryLoops
import TagQuery.Proofs.LettingGo
import TagQuery.Proofs.StackedOperators
import TagQuery.Proofs.MarkerSearch
import TagQuery.Proofs.PlaceholderPlaces
import TagQuery.Proofs.Unmasking
import TagQuery.Proofs.SimultaneousRestoration
import TagQuery.Proofs.TableGrowth
