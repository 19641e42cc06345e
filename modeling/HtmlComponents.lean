import HtmlComponents.Component.Request
import HtmlComponents.Property.Transform
import HtmlComponents.Template.Evaluation
import HtmlComponents.Proofs.Document.Extent
import HtmlComponents.Proofs.Document.Sound
import HtmlComponents.Proofs.Document.WellFormed
import HtmlComponents.Proofs.Document.Reads
import HtmlComponents.Proofs.Document.Alone
import HtmlComponents.Proofs.Markup.Opening
import HtmlComponents.Proofs.Markup.Nodes
import HtmlComponents.Proofs.Markup.RoundTrip
import HtmlComponents.Proofs.Component.Piecewise
import HtmlComponents.Proofs.Component.Structural
import HtmlComponents.Proofs.Component.Machine
import HtmlComponents.Proofs.Component.Guards
import HtmlComponents.Proofs.Component.Reading
import HtmlComponents.Proofs.Route.Client
import HtmlComponents.Proofs.Component.Memory
import HtmlComponents.Proofs.Component.Compositional
import HtmlComponents.Proofs.Component.TopLevel
import HtmlComponents.Proofs.Document.RawText
import HtmlComponents.Proofs.Component.Opaque
import HtmlComponents.Proofs.Component.Inference
import HtmlComponents.Proofs.Component.Dispatch
import HtmlComponents.Proofs.Component.Meaning
import HtmlComponents.Proofs.Component.History
import HtmlComponents.Proofs.Route.Fragment
import HtmlComponents.Proofs.Style.Containment
import HtmlComponents.Proofs.Component.Fixpoint
import HtmlComponents.Proofs.Component.Failing
import HtmlComponents.Proofs.Document.Rebuild
import HtmlComponents.Proofs.Component.Depth
import HtmlComponents.Proofs.Component.Trace
import HtmlComponents.Proofs.Component.Parts
import HtmlComponents.Proofs.Component.Paired
import HtmlComponents.Proofs.Document.Unambiguous
import HtmlComponents.Proofs.Style.Blocks
import HtmlComponents.Proofs.Component.Unclosed
import HtmlComponents.Proofs.Style.Leading
import HtmlComponents.Proofs.Property.Typing
import HtmlComponents.Proofs.Route.Grammar
import HtmlComponents.Proofs.Route.Bound
import HtmlComponents.Proofs.Route.Query
import HtmlComponents.Proofs.Route.Declaration
import HtmlComponents.Proofs.Component.Calls
import HtmlComponents.Proofs.Component.Markers
import HtmlComponents.Proofs.Document.Outermost
import HtmlComponents.Proofs.Component.Unused
import HtmlComponents.Proofs.Naming
