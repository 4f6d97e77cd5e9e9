import Sift.Buffer
import Sift.Main
import Sift.Proofs.Grammar
import Sift.Proofs.Lexing
import Sift.Proofs.Literals
import Sift.Proofs.Recognition
import Sift.Proofs.Spelling
import Sift.Proofs.Punctuation
import Sift.Proofs.Rereading
import Sift.Proofs.RoundTrip
import Sift.Proofs.Exchange
import Sift.Proofs.Harvest
import Sift.Proofs.Pushdown
import Sift.Proofs.Slots
import Sift.Proofs.Spacing
import Sift.Proofs.Spans
import Sift.Proofs.Judging
import Sift.Proofs.Naming
import Sift.Proofs.GridVocabulary
import Sift.Proofs.Routes
import Sift.Proofs.Picking
import Sift.Proofs.Vocabulary
import Sift.Proofs.Acceptance
import Sift.Proofs.Seams
import Sift.Proofs.Typing
import Sift.Proofs.OpenStrings
import Sift.Proofs.Gluing
import Sift.Proofs.Insertion
import Sift.Proofs.Roles
import Sift.Proofs.Cursor
import Sift.Proofs.ColumnOrder
import Sift.Proofs.Respacing
import Sift.Proofs.Composition
import Sift.Proofs.Agreement
import Sift.Proofs.Replacement
import Sift.Proofs.Files
import Sift.Proofs.Keeping
import Sift.Proofs.Comparing
import Sift.Proofs.Drawing
import Sift.Proofs.Colours
import Sift.Proofs.Edits
import Sift.Proofs.Hints
import Sift.Proofs.Casing
