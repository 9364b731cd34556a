import Homophone.Main
import Homophone.Proofs.Merging
import Homophone.Proofs.Truncation
import Homophone.Proofs.Includes
import Homophone.Proofs.RuleText
import Homophone.Proofs.Splicing
import Homophone.Proofs.Loading
import Homophone.Proofs.Bars
import Homophone.Proofs.Coverage
import Homophone.Proofs.NormalForm
import Homophone.Proofs.Prefixes
import Homophone.Proofs.Serving
import Homophone.Proofs.RuleLine
import Homophone.Proofs.DecomposedLength
import Homophone.Proofs.GivenLanguages
import Homophone.Proofs.Guesses
import Homophone.Proofs.Reloading
import Homophone.Proofs.Alternatives
import Homophone.Proofs.LetterCase
import Homophone.Proofs.CanonicalOrder
import Homophone.Proofs.ComposedLetters
import Homophone.Proofs.SmallForms
import Homophone.Proofs.ComposedWords
import Homophone.Proofs.NormalizingTwice
import Homophone.Proofs.Histories
import Homophone.Proofs.Selection
import Homophone.Proofs.Specialization
import Homophone.Proofs.Anchors
import Homophone.Proofs.Separators
import Homophone.Proofs.PrefixChoice
import Homophone.Proofs.KeptWords
import Homophone.Proofs.UnletteredWords
import Homophone.Proofs.LineNumbers
import Homophone.Proofs.Changes
import Homophone.Proofs.PartialLoads
import Homophone.Proofs.Overrides
import Homophone.Proofs.Widening
