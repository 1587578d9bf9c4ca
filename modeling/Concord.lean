import Concord.Document.Json
import Concord.Document.Literal
import Concord.Document.Render
import Concord.Folder.Analyze
import Concord.Language.Files
import Concord.Language.Library
import Concord.Outline.Files
import Concord.Outline.Merge
import Concord.Reader.File
import Concord.Refine.Outcome
import Concord.Refine.Task
import Concord.Settings.Check
import Concord.Settings.Load
import Concord.Spelling.Display
import Concord.Spelling.Returned
import Concord.Proofs.Number.Order
import Concord.Proofs.Number.Rounding
import Concord.Proofs.Number.Sign
import Concord.Proofs.Compare.Match
import Concord.Proofs.Compare.Self
import Concord.Proofs.Refine.Record
import Concord.Proofs.Compare.Score
import Concord.Proofs.Compare.Account
import Concord.Proofs.Refine.Reading
import Concord.Proofs.Refine.Task
import Concord.Proofs.Refine.Ending
import Concord.Proofs.Refine.Bookkeeping
import Concord.Proofs.Folder.Outside
import Concord.Proofs.Folder.Walk
import Concord.Proofs.Folder.Pruning
import Concord.Proofs.Folder.Detecting
import Concord.Proofs.Refine.Isolation
import Concord.Proofs.Name.Letters
import Concord.Proofs.Spelling.Base
import Concord.Proofs.Spelling.Decompose
import Concord.Proofs.Name.Again
import Concord.Proofs.Name.Conventions
import Concord.Proofs.Compare.Congruence
import Concord.Proofs.Compare.Independent
import Concord.Proofs.Compare.Respelling
import Concord.Proofs.Outline.First
import Concord.Proofs.Reader.Declared
import Concord.Proofs.Reader.Digest
import Concord.Proofs.Reader.Go
import Concord.Proofs.Reader.Kinds
import Concord.Proofs.Reader.Python
import Concord.Proofs.Compare.Private
import Concord.Proofs.Outline.Whole
import Concord.Proofs.Outline.Enums
import Concord.Proofs.Outline.Interfaces
import Concord.Proofs.Compare.Exact
import Concord.Proofs.Compare.Strict
import Concord.Proofs.Refine.Instructions
import Concord.Proofs.Refine.Languages
import Concord.Proofs.Spelling.Generic
import Concord.Proofs.Spelling.ReturnType
import Concord.Proofs.Spelling.Deferred
import Concord.Proofs.Spelling.Checked
import Concord.Proofs.Compare.Symmetry
import Concord.Proofs.Compare.Correspondence
import Concord.Proofs.Compare.Credit
import Concord.Proofs.Compare.Order
import Concord.Proofs.Spelling.Grouped
import Concord.Proofs.Spelling.Qualified
import Concord.Proofs.Spelling.FixedArray
import Concord.Proofs.Reader.Fields
import Concord.Proofs.Reader.Parameters
import Concord.Proofs.Syntax.Callee
import Concord.Proofs.Syntax.Walk
import Concord.Proofs.Reader.UseTree
import Concord.Proofs.Folder.Local
import Concord.Proofs.Folder.Names
import Concord.Proofs.Folder.Listing
import Concord.Proofs.Outline.Dependencies
import Concord.Proofs.Outline.PathOrder
import Concord.Proofs.Folder.Inheritance
import Concord.Proofs.Settings.Override
import Concord.Proofs.Compare.Fixes
import Concord.Proofs.Spelling.Absent
import Concord.Proofs.Spelling.Joined
