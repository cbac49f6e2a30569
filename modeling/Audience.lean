import Audience.Workspace
import Audience.Main
import Audience.Script
import Audience.Segment.Agreement
import Audience.Proofs.Segment.Reloading
import Audience.Proofs.Evaluation
import Audience.Proofs.Segment.Drawing
import Audience.Proofs.Segment.Shrinking
import Audience.Proofs.Segment.Resaving
import Audience.Proofs.Population
import Audience.Proofs.Workspace
import Audience.Proofs.Workspace.Drafts
import Audience.Proofs.History
import Audience.Proofs.Evaluation.Attributes
import Audience.Proofs.Segment.Keeping
import Audience.Proofs.Preview
import Audience.Proofs.Segment.Places
import Audience.Proofs.Workspace.Shelf
import Audience.Proofs.Condition.EmptyRange
import Audience.Proofs.Comparison.Literal
import Audience.Proofs.Condition.Building
import Audience.Proofs.Condition.OperatorLaws
import Audience.Proofs.History.Versions
import Audience.Proofs.Segment.Independence
import Audience.Proofs.Evaluation.Direction
import Audience.Proofs.Script
import Audience.Proofs.Customer.Plain
import Audience.Proofs.Comparison.LetterCase
import Audience.Proofs.Number.RealOrder
import Audience.Proofs.Settings.Precedence
import Audience.Proofs.Schema
