import TextLocation.Identity
import TextLocation.Outline
import TextLocation.Run.Iterator
import TextLocation.Scanner.Choice
import TextLocation.Scanner.Rule
import TextLocation.Scanner.Tokens
import TextLocation.Source.Library
import TextLocation.Proofs.Bounds
import TextLocation.Proofs.Word
import TextLocation.Proofs.Session.Basic
import TextLocation.Proofs.Session.Invariant
import TextLocation.Proofs.Line.Cut
import TextLocation.Proofs.Line.Lookup
import TextLocation.Proofs.Snippet.Line
import TextLocation.Proofs.Snippet.Carets
import TextLocation.Proofs.Line.Order
import TextLocation.Proofs.Line.Agreement
import TextLocation.Proofs.Line.Written
import TextLocation.Proofs.Snippet.Locality
import TextLocation.Proofs.Snippet.Lossless
import TextLocation.Proofs.Scanner.Answers
import TextLocation.Proofs.Scanner.Rounds
import TextLocation.Proofs.Scanner.Tiling
import TextLocation.Proofs.Line.Compact
import TextLocation.Proofs.Scanner.Forward
import TextLocation.Proofs.Scanner.Reads
import TextLocation.Proofs.Joining
import TextLocation.Proofs.Ordering
import TextLocation.Proofs.Covering
import TextLocation.Proofs.Insertion
import TextLocation.Proofs.Identities
import TextLocation.Proofs.Run.Takes
import TextLocation.Proofs.Run.Views
import TextLocation.Proofs.Line.Invariant
import TextLocation.Proofs.Word.Arithmetic
import TextLocation.Proofs.Word.Line
import TextLocation.Proofs.Word.Snippet
import TextLocation.Proofs.Word.Reader
import TextLocation.Proofs.Word.Agreement
import TextLocation.Proofs.Scanner.Munch
import TextLocation.Proofs.Session.Refusals
import TextLocation.Proofs.Scanner.Advance
import TextLocation.Proofs.Scanner.Choice
import TextLocation.Proofs.Line.Pieces
import TextLocation.Proofs.Line.Newlines
