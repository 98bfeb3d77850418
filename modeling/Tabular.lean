import Tabular.Main
import Tabular.Statement.Spelling
import Tabular.Proofs.Script.Cutting
import Tabular.Proofs.Script.LineEnds
import Tabular.Proofs.Statement.Refusal
import Tabular.Proofs.Results
import Tabular.Proofs.Table.Collect
import Tabular.Proofs.Database.Reached
import Tabular.Proofs.Query.Reading
import Tabular.Proofs.Query.Answer
import Tabular.Proofs.Database.Refusals
import Tabular.Proofs.Session.Executed
import Tabular.Proofs.Table.RoundTrip
import Tabular.Proofs.Table.Texts
import Tabular.Proofs.Database.Storable
import Tabular.Proofs.Disk.Reordered
import Tabular.Proofs.Table.Reordered
import Tabular.Proofs.Database.Reordered
import Tabular.Proofs.Session.Reordered
import Tabular.Proofs.Database.Effect
import Tabular.Proofs.Query.Star
import Tabular.Proofs.Statement.Grammar
import Tabular.Proofs.Token.Layout
import Tabular.Proofs.Session.Rebuilt
import Tabular.Proofs.Query.Nested
import Tabular.Proofs.Query.Swapped
import Tabular.Proofs.Table.Format
import Tabular.Proofs.Session.Ended
import Tabular.Proofs.Session.Confined
import Tabular.Proofs.Query.Faults
import Tabular.Proofs.Session.Composed
import Tabular.Proofs.Session.Stopped
import Tabular.Proofs.Database.ErrorTexts
import Tabular.Proofs.Session.Lines
import Tabular.Proofs.Query.Foreign
import Tabular.Proofs.Query.Itself
import Tabular.Proofs.Query.Lossless
import Tabular.Proofs.Table.Offered
import Tabular.Proofs.Token.Resumed
import Tabular.Proofs.Script.CarriageReturns
import Tabular.Proofs.Session.CarriageReturns
import Tabular.Proofs.Session.Prompted
import Tabular.Proofs.Table.NormalForm
import Tabular.Proofs.Statement.Resumed
import Tabular.Proofs.Query.Divided
import Tabular.Proofs.Database.Raised
import Tabular.Proofs.Row.Hashed
import Tabular.Proofs.Token.Keywords
import Tabular.Proofs.Relation.Bytewise
