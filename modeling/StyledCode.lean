import StyledCode.Main
import StyledCode.Samples
import StyledCode.Proofs.Markup.RoundTrip
import StyledCode.Proofs.Numbering.Lines
import StyledCode.Proofs.Reference.Decoding
import StyledCode.Proofs.Highlighter.Changes
import StyledCode.Proofs.Stylesheet.Written
import StyledCode.Proofs.Markup.Balance
import StyledCode.Proofs.Markup.Restyling
import StyledCode.Proofs.Theme.Resolution
import StyledCode.Proofs.CommandLine.Rendering
import StyledCode.Proofs.Terminal.Tabs
import StyledCode.Proofs.Terminal.Wrapping
import StyledCode.Proofs.Stylesheet.Background
import StyledCode.Proofs.Theme.Rebuilding
import StyledCode.Proofs.Markup.Cursor
import StyledCode.Proofs.Reference.Offsets
import StyledCode.Proofs.Numbering.Offsets
import StyledCode.Proofs.Stylesheet.Offsets
import StyledCode.Proofs.Highlighter.Calls
import StyledCode.Proofs.Theme.Directory
import StyledCode.Proofs.Numbering.Width
import StyledCode.Proofs.Theme.Fonts
import StyledCode.Proofs.Theme.Layering
import StyledCode.Proofs.Config.Document
import StyledCode.Proofs.Stylesheet.Longest
import StyledCode.Proofs.Stylesheet.Spacing
