import IdentCase.Main
import IdentCase.Proofs.Accounting
import IdentCase.Proofs.Bytes
import IdentCase.Proofs.Content
import IdentCase.Proofs.Convention
import IdentCase.Proofs.Convergence
import IdentCase.Proofs.Discovery
import IdentCase.Proofs.Disk
import IdentCase.Proofs.Division
import IdentCase.Proofs.Files
import IdentCase.Proofs.Frame
import IdentCase.Proofs.History
import IdentCase.Proofs.IgnorePattern
import IdentCase.Proofs.Independence
import IdentCase.Proofs.Jobs
import IdentCase.Proofs.JsonReading
import IdentCase.Proofs.JsonText
import IdentCase.Proofs.Layers
import IdentCase.Proofs.Letters
import IdentCase.Proofs.Location
import IdentCase.Proofs.Occurrence
import IdentCase.Proofs.Patch
import IdentCase.Proofs.PathOrder
import IdentCase.Proofs.Placement
import IdentCase.Proofs.Protection
import IdentCase.Proofs.Quoting
import IdentCase.Proofs.ReadingBound
import IdentCase.Proofs.RenameTable
import IdentCase.Proofs.Renaming
import IdentCase.Proofs.RoundTrip
import IdentCase.Proofs.Search
import IdentCase.Proofs.Segments
import IdentCase.Proofs.Selection
import IdentCase.Proofs.SettingsText
import IdentCase.Proofs.Splicing
import IdentCase.Proofs.Substitution
