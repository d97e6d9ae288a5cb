import FirstMatch.Lexicon.Session
import FirstMatch.Survey
import FirstMatch.Proofs.AddedRules
import FirstMatch.Proofs.AnyPosition
import FirstMatch.Proofs.Failures
import FirstMatch.Proofs.Isolation
import FirstMatch.Proofs.LexiconHistory
import FirstMatch.Proofs.Precedence
import FirstMatch.Proofs.TokenPlaces
import FirstMatch.Proofs.Arithmetic.AnyExpression
import FirstMatch.Proofs.Arithmetic.Composition
import FirstMatch.Proofs.Arithmetic.Convention
import FirstMatch.Proofs.Arithmetic.Division
import FirstMatch.Proofs.Arithmetic.Spacing
import FirstMatch.Proofs.Arithmetic.Waiting
import FirstMatch.Proofs.LineGrid
import FirstMatch.Proofs.Pattern.EmptyMatch
import FirstMatch.Proofs.Pattern.Misfit
