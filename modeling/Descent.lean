import Descent.Report.Reader
import Descent.Session
import Descent.Proofs.Anchor
import Descent.Proofs.Chain
import Descent.Proofs.Choice
import Descent.Proofs.Diagnostics
import Descent.Proofs.Isolation
import Descent.Proofs.LifeCycle
import Descent.Proofs.Limit.Exact
import Descent.Proofs.Limit.Standstill
import Descent.Proofs.Limit.Tripped
import Descent.Proofs.Location
import Descent.Proofs.Nesting
import Descent.Proofs.Recognition
import Descent.Proofs.Repetition
import Descent.Proofs.Replies
import Descent.Proofs.Report
import Descent.Proofs.Separated
import Descent.Proofs.Sequence
import Descent.Proofs.Snippet
import Descent.Proofs.Streams.Displacement
import Descent.Proofs.Streams.Words
import Descent.Proofs.TakeWhile
import Descent.Proofs.Till
import Descent.Proofs.Unread
