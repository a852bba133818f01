import FluentSql.Address
import FluentSql.Availability
import FluentSql.Inline
import FluentSql.Logging.Setup
import FluentSql.Number.Nearest
import FluentSql.Proofs.AlterHistory
import FluentSql.Proofs.BindReading
import FluentSql.Proofs.ClauseCalls
import FluentSql.Proofs.DeclaredIndexes
import FluentSql.Proofs.Descriptions
import FluentSql.Proofs.DirectText
import FluentSql.Proofs.Interleaving
import FluentSql.Proofs.KeptBackslashes
import FluentSql.Proofs.Literals
import FluentSql.Proofs.QueryRuns
import FluentSql.Proofs.QuotedTexts
import FluentSql.Proofs.Reads
import FluentSql.Proofs.Redefinition
import FluentSql.Proofs.ReflectedDefaults
import FluentSql.Proofs.RefusedClauses
import FluentSql.Proofs.ScriptParts
import FluentSql.Proofs.ScriptRuns
import FluentSql.Proofs.SelectReading
import FluentSql.Proofs.Sizes
import FluentSql.Proofs.StepwiseInlining
import FluentSql.Proofs.TableOrder
import FluentSql.Proofs.TableScripts
import FluentSql.Proofs.TypesReadBack
import FluentSql.Proofs.UnsentWrites
import FluentSql.Proofs.ValueErasure
import FluentSql.Query.Call
import FluentSql.Scan.Statement
import FluentSql.Schema.Builder
import FluentSql.Value.Reading
import FluentSql.Proofs.ScriptCuts
import FluentSql.Proofs.LiteralReading
import FluentSql.Proofs.Spacing
import FluentSql.Proofs.Utf8Decoding
import FluentSql.Proofs.ConnectionTexts
import FluentSql.Proofs.Attempts
import FluentSql.Proofs.SideBySide
import FluentSql.Proofs.Lookahead
