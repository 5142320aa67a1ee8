import Retrieval.Main
import Retrieval.Server.Origins
import Retrieval.Proofs.Query.Relevance
import Retrieval.Proofs.Query.Agreement
import Retrieval.Proofs.Search.Interchange
import Retrieval.Proofs.Batch.Interleaving
import Retrieval.Proofs.Server.Interruption
import Retrieval.Proofs.Server.Refused
import Retrieval.Proofs.Index.SetAlgebra
import Retrieval.Proofs.Index.AppendOnly
import Retrieval.Proofs.Query.Equivalence
import Retrieval.Proofs.Query.Layout
import Retrieval.Proofs.Query.Nesting
import Retrieval.Proofs.Query.Display
import Retrieval.Proofs.Search.Ranked
import Retrieval.Proofs.Search.Score
import Retrieval.Proofs.Batch.Folder
import Retrieval.Proofs.Terms.Seam
import Retrieval.Proofs.Search.Session
import Retrieval.Proofs.Server.Excerpt
import Retrieval.Proofs.Query.InfixedOutput
import Retrieval.Proofs.Index.Additions
import Retrieval.Proofs.Terms.CzechStemmer
