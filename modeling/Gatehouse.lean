import Gatehouse.Pipeline.Order
import Gatehouse.Pipeline.Script
import Gatehouse.Proofs.Accepted
import Gatehouse.Proofs.AccessTable
import Gatehouse.Proofs.Areas
import Gatehouse.Proofs.Arrangement
import Gatehouse.Proofs.Attribution
import Gatehouse.Proofs.Authentication
import Gatehouse.Proofs.Authorization
import Gatehouse.Proofs.Base64
import Gatehouse.Proofs.Carrying
import Gatehouse.Proofs.Chaining
import Gatehouse.Proofs.Challenge
import Gatehouse.Proofs.Coverage
import Gatehouse.Proofs.Culprits
import Gatehouse.Proofs.Discretion
import Gatehouse.Proofs.Enforcement
import Gatehouse.Proofs.Faithful
import Gatehouse.Proofs.Governing
import Gatehouse.Proofs.Joining
import Gatehouse.Proofs.JsonReading
import Gatehouse.Proofs.LastEntry
import Gatehouse.Proofs.Listing
import Gatehouse.Proofs.Modes
import Gatehouse.Proofs.Nesting
import Gatehouse.Proofs.OneDeadline
import Gatehouse.Proofs.OneRefusal
import Gatehouse.Proofs.Outgoing
import Gatehouse.Proofs.Pages
import Gatehouse.Proofs.Precedence
import Gatehouse.Proofs.Presenting
import Gatehouse.Proofs.QuotedRealm
import Gatehouse.Proofs.Reading
import Gatehouse.Proofs.Rendering
import Gatehouse.Proofs.RequestId
import Gatehouse.Proofs.Sealing
import Gatehouse.Proofs.Serving
import Gatehouse.Proofs.Session
import Gatehouse.Proofs.Spelling
import Gatehouse.Proofs.Standing
import Gatehouse.Proofs.Survey
import Gatehouse.Proofs.Telling
import Gatehouse.Proofs.Walk
import Gatehouse.Proofs.WrittenLogin
import Gatehouse.Settings.Deployment
