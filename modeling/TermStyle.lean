import TermStyle.About
import TermStyle.Attribute
import TermStyle.Builder
import TermStyle.Cache
import TermStyle.ColorTag
import TermStyle.Config
import TermStyle.Datum
import TermStyle.Engine.Basic
import TermStyle.Engine.Paint
import TermStyle.Engine.Setting
import TermStyle.Expression.Normal
import TermStyle.Expression.Resolve
import TermStyle.Fraction
import TermStyle.Markup
import TermStyle.OrderedMap
import TermStyle.Palette.Basic
import TermStyle.Palette.Request
import TermStyle.Pattern.Basic
import TermStyle.Pattern.CharSet
import TermStyle.Pattern.Match
import TermStyle.Pattern.Reader
import TermStyle.Session.Basic
import TermStyle.Session.Command
import TermStyle.Sgr
import TermStyle.Text.Alphanumeric
import TermStyle.Text.Basic
import TermStyle.Text.Identifier
import TermStyle.Text.LetterCase
import TermStyle.Text.Printable
import TermStyle.Text.Quoted
import TermStyle.Text.Ranges
import TermStyle.Text.Scan
import TermStyle.Proofs.Engine.Coherence
import TermStyle.Proofs.Session.Transparency
import TermStyle.Proofs.Text.Forms
import TermStyle.Proofs.Text.Strewn
import TermStyle.Proofs.Text.Delimited
import TermStyle.Proofs.Sgr.Sequences
import TermStyle.Proofs.Markup.KnownTags
import TermStyle.Proofs.Engine.Stripping
import TermStyle.Proofs.Palette.Sound
import TermStyle.Proofs.Expression.Parameters
import TermStyle.Proofs.Engine.Painting
import TermStyle.Proofs.Markup.Severed
import TermStyle.Proofs.Engine.Switching
import TermStyle.Proofs.Expression.Tokens
import TermStyle.Proofs.Engine.Sequences
import TermStyle.Proofs.Session.Failures
import TermStyle.Proofs.Engine.ResetCommand
import TermStyle.Proofs.ColorTag.Braced
import TermStyle.Proofs.Engine.Composed
import TermStyle.Proofs.Engine.Sequencing
import TermStyle.Proofs.Engine.Validation
import TermStyle.Proofs.Engine.Styled
import TermStyle.Proofs.Session.Independence
import TermStyle.Proofs.OrderedMap.Entries
import TermStyle.Proofs.Palette.Arrivals
import TermStyle.Proofs.Text.Rescan
import TermStyle.Proofs.ColorTag.Torn
import TermStyle.Proofs.Markup.Torn
import TermStyle.Proofs.Engine.Restripping
import TermStyle.Proofs.Engine.Repainting
import TermStyle.Proofs.Engine.Lookups
import TermStyle.Proofs.Session.Accounts
import TermStyle.Proofs.Engine.Disabled
import TermStyle.Proofs.Pattern.Groups
import TermStyle.Proofs.Session.Configurations
import TermStyle.Proofs.Expression.Unknown
import TermStyle.Proofs.Session.Rendering
import TermStyle.Proofs.Expression.Layout
import TermStyle.Proofs.Expression.Surrounded
import TermStyle.Proofs.Attribute.Keywords
import TermStyle.Proofs.Expression.Confluence
import TermStyle.Proofs.Expression.Spellings
import TermStyle.Proofs.Expression.Seams
import TermStyle.Proofs.Expression.Literals
import TermStyle.Proofs.Expression.Names
import TermStyle.Proofs.Cache.Recency
import TermStyle.Proofs.Expression.Agreement
import TermStyle.Proofs.Expression.Grammar
import TermStyle.Proofs.Palette.Making
import TermStyle.Proofs.Cache.Counts
import TermStyle.Proofs.Text.Substitution
import TermStyle.Proofs.Markup.OneByOne
import TermStyle.Proofs.ColorTag.Dissection
import TermStyle.Proofs.Engine.Dissected
import TermStyle.Proofs.Palette.Replay
import TermStyle.Proofs.Engine.Announcements
import TermStyle.Proofs.Markup.Colored
import TermStyle.Proofs.Builder.Words
import TermStyle.Proofs.Session.Builders
