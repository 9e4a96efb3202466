import NamedContent.Config.Text
import NamedContent.Control
import NamedContent.Framing
import NamedContent.InterestReturn
import NamedContent.Manifest
import NamedContent.Wire.Record
import NamedContent.Proofs.Elements
import NamedContent.Proofs.Emission
import NamedContent.Proofs.Numbers
import NamedContent.Proofs.Names
import NamedContent.Proofs.Slots
import NamedContent.Proofs.RoundTrip
import NamedContent.Proofs.Zones
import NamedContent.Proofs.Layout
import NamedContent.Proofs.Decoding
import NamedContent.Proofs.Encoding
import NamedContent.Proofs.Exchange
import NamedContent.Proofs.Arrangement
import NamedContent.Proofs.Normal
import NamedContent.Proofs.Recoding
import NamedContent.Proofs.Canonical
import NamedContent.Proofs.Ranges
import NamedContent.Proofs.Stream
import NamedContent.Proofs.Signing
import NamedContent.Proofs.Delimited
import NamedContent.Proofs.Overlooked
import NamedContent.Proofs.SameBytes
import NamedContent.Proofs.HopByHop
import NamedContent.Proofs.Repetition
import NamedContent.Proofs.NameText
import NamedContent.Proofs.Pieces
import NamedContent.Proofs.FlatVector
import NamedContent.Proofs.Tellable
import NamedContent.Proofs.Requests
import NamedContent.Proofs.Objects
import NamedContent.Proofs.ReadBack
import NamedContent.Proofs.SentBack
import NamedContent.Proofs.Announced
import NamedContent.Proofs.NameOrder
import NamedContent.Proofs.ManifestWire
import NamedContent.Proofs.Manifests
import NamedContent.Proofs.Segmentation
import NamedContent.Proofs.Consistency
import NamedContent.Proofs.Unsuited
import NamedContent.Proofs.Shown
import NamedContent.Proofs.Held
import NamedContent.Proofs.References
import NamedContent.Proofs.NameWire
import NamedContent.Proofs.Links
import NamedContent.Proofs.Locators
import NamedContent.Proofs.PayloadIds
import NamedContent.Proofs.Sinks
import NamedContent.Proofs.Extraction
import NamedContent.Proofs.Patching
import NamedContent.Proofs.LabelGrammar
import NamedContent.Proofs.NamePrefixes
import NamedContent.Proofs.FewestBytes
import NamedContent.Proofs.Cursors
import NamedContent.Proofs.CursorRuns
import NamedContent.Proofs.Nesting
import NamedContent.Proofs.Writing
import NamedContent.Proofs.Stepwise
import NamedContent.Proofs.Assembly
