import FormStudio.Digest.Sha256
import FormStudio.Text.Integer
import FormStudio.Text.Percent
import FormStudio.Text.Upper
import FormStudio.Pattern.Reader
import FormStudio.Field.Reader
import FormStudio.Form.Import
import FormStudio.Form.Export
import FormStudio.Library
import FormStudio.Form.Edit
import FormStudio.Rule.Schema
import FormStudio.Rule.Basic
import FormStudio.Rule.Validation
import FormStudio.Rule.Answers
import FormStudio.Rule.Reader
import FormStudio.Variant.Derive
import FormStudio.Code.Zod
import FormStudio.Setup
import FormStudio.Code.Markup
import FormStudio.Code.Outline
import FormStudio.Code.Layout
import FormStudio.Code.Component
import FormStudio.Preview.Layout
import FormStudio.Review
import FormStudio.Session.Command
import FormStudio.Http.Api
import FormStudio.Template.Fill
import FormStudio.Tool.Call
import FormStudio.Proofs.Review
import FormStudio.Proofs.Form.Grammar
import FormStudio.Proofs.Session.Cache
import FormStudio.Proofs.Code.Declaration
import FormStudio.Proofs.Code.Blocks
import FormStudio.Proofs.Form.Answer
import FormStudio.Proofs.Surface
import FormStudio.Proofs.Http.Answer
import FormStudio.Proofs.Preview.Markup
import FormStudio.Proofs.Field.Kept
import FormStudio.Proofs.Session.Library
import FormStudio.Proofs.Code.Markup
import FormStudio.Proofs.Code.Source
import FormStudio.Proofs.Rule.Blame
import FormStudio.Proofs.Form.Told
import FormStudio.Proofs.Form.Shape
import FormStudio.Proofs.Form.Slider
import FormStudio.Proofs.Form.Update
import FormStudio.Proofs.Form.Removal
import FormStudio.Proofs.Preview.Filling
import FormStudio.Proofs.Form.Start
import FormStudio.Proofs.Preferences.Containment
import FormStudio.Proofs.Code.Bindings
import FormStudio.Proofs.Code.NormalForm
import FormStudio.Proofs.Code.Comment
import FormStudio.Proofs.Form.Search
