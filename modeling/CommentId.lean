import CommentId.Catalog
import CommentId.Proofs.ArityMarker
import CommentId.Proofs.Bracketing
import CommentId.Proofs.Catalog.Contents
import CommentId.Proofs.Catalog.Filling
import CommentId.Proofs.Catalog.History
import CommentId.Proofs.Catalog.Succession
import CommentId.Proofs.Categories
import CommentId.Proofs.DepthLimit
import CommentId.Proofs.Dispatch
import CommentId.Proofs.Indexer
import CommentId.Proofs.Member.Likeness
import CommentId.Proofs.Member.Renaming
import CommentId.Proofs.Member.Rules
import CommentId.Proofs.Member.Shown
import CommentId.Proofs.Member.Uniqueness
import CommentId.Proofs.Member.Visit
import CommentId.Proofs.Outcome
import CommentId.Proofs.ParameterList
import CommentId.Proofs.Reading
import CommentId.Proofs.ReferenceMarker
import CommentId.Proofs.Request
import CommentId.Proofs.Scoping
import CommentId.Proofs.Shape.Readability
import CommentId.Proofs.Signature.Readability
import CommentId.Proofs.Spelling
import CommentId.Proofs.TypeUse.Absolute
import CommentId.Proofs.TypeUse.Height
import CommentId.Proofs.TypeUse.Likeness
import CommentId.Proofs.TypeUse.Nesting
import CommentId.Proofs.TypeUse.Plainness
import CommentId.Proofs.TypeUse.Renaming
import CommentId.Proofs.TypeUse.Shown
import CommentId.Proofs.TypeUse.Uniqueness
import CommentId.Proofs.TypeUse.Visit
