import VectorQuery.Client.Backup
import VectorQuery.Client.Connection
import VectorQuery.Client.Deletion
import VectorQuery.Client.Query
import VectorQuery.Client.Search
import VectorQuery.Client.Vocabulary
import VectorQuery.Query.Aggregate
import VectorQuery.Query.Explore
import VectorQuery.Rpc.Display
import VectorQuery.Proofs.Number.Rounding
import VectorQuery.Proofs.Number.Plain
import VectorQuery.Proofs.Language.Literal
import VectorQuery.Proofs.Language.Shape
import VectorQuery.Proofs.Language.Legible
import VectorQuery.Proofs.Language.LegibleQuery
import VectorQuery.Proofs.Language.Tree
import VectorQuery.Proofs.Query.ClauseText
import VectorQuery.Proofs.Query.SimilarityText
import VectorQuery.Proofs.Query.FilterText
import VectorQuery.Proofs.Query.GetText
import VectorQuery.Proofs.Language.Contents
import VectorQuery.Proofs.Query.Contents
import VectorQuery.Proofs.Query.Confinement
import VectorQuery.Proofs.Filter.Reading
import VectorQuery.Proofs.Batch.Slices
import VectorQuery.Proofs.Client.Insertion
import VectorQuery.Proofs.Client.Agreement
import VectorQuery.Proofs.Client.Waiting
import VectorQuery.Proofs.Text.Utf8
import VectorQuery.Proofs.Wire.Scalar
import VectorQuery.Proofs.Client.Search
import VectorQuery.Proofs.Text.Block
import VectorQuery.Proofs.Similarity.Combination
import VectorQuery.Proofs.Similarity.NearMedia
import VectorQuery.Proofs.Selection.Request
import VectorQuery.Proofs.Client.Addresses
import VectorQuery.Proofs.Similarity.Targets
import VectorQuery.Proofs.Results.Generative
import VectorQuery.Proofs.Json.Record
import VectorQuery.Proofs.Batch.RoundTrip
import VectorQuery.Proofs.Timestamp
import VectorQuery.Proofs.Query.Settings
