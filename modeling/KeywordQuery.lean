import KeywordQuery.Main
import KeywordQuery.Proofs.Answers
import KeywordQuery.Proofs.Building
import KeywordQuery.Proofs.Complement
import KeywordQuery.Proofs.Conservation
import KeywordQuery.Proofs.Diagnosis
import KeywordQuery.Proofs.Disjunction
import KeywordQuery.Proofs.Flattening
import KeywordQuery.Proofs.Identity
import KeywordQuery.Proofs.Invocation
import KeywordQuery.Proofs.ItemShapes
import KeywordQuery.Proofs.LineFaults
import KeywordQuery.Proofs.LoweredTerms
import KeywordQuery.Proofs.MatchReport
import KeywordQuery.Proofs.Nesting
import KeywordQuery.Proofs.Occurrence
import KeywordQuery.Proofs.Partition
import KeywordQuery.Proofs.Presentation
import KeywordQuery.Proofs.ReaderRuns
import KeywordQuery.Proofs.RefusedQueries
import KeywordQuery.Proofs.Searchable
import KeywordQuery.Proofs.Spacing
import KeywordQuery.Proofs.TablePrinting
import KeywordQuery.Proofs.UniqueReading
import KeywordQuery.Proofs.ViablePrefix
import KeywordQuery.Proofs.WholeWords
import KeywordQuery.Proofs.WordForms
import KeywordQuery.Query.Builder
import KeywordQuery.Report.SystemError
