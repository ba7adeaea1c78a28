import Viewsmith.Assets.Basic
import Viewsmith.Assets.Font
import Viewsmith.Assets.Media
import Viewsmith.Base64
import Viewsmith.Color
import Viewsmith.Command.Arguments
import Viewsmith.Command.Folder
import Viewsmith.Command.Job
import Viewsmith.Command.Run
import Viewsmith.Command.Workflow
import Viewsmith.Compiler
import Viewsmith.Element.Basic
import Viewsmith.Element.Json
import Viewsmith.Element.Names
import Viewsmith.Error
import Viewsmith.Geometry.Rotation
import Viewsmith.Geometry.Series
import Viewsmith.Identifier
import Viewsmith.Json.Basic
import Viewsmith.Json.Decode
import Viewsmith.Json.Doc
import Viewsmith.Json.Number
import Viewsmith.Json.Quote
import Viewsmith.Json.Quoted
import Viewsmith.Json.Reader
import Viewsmith.Json.Typed
import Viewsmith.Json.Values
import Viewsmith.Lowering.Build
import Viewsmith.Lowering.Painting
import Viewsmith.Lowering.Placement
import Viewsmith.Lowering.Resolve
import Viewsmith.Lowering.Script
import Viewsmith.Lowering.Typesetting
import Viewsmith.Main
import Viewsmith.Module.Emit
import Viewsmith.Module.Markup
import Viewsmith.Module.TemplateFunction
import Viewsmith.Number.Shortest
import Viewsmith.Number.Text
import Viewsmith.Options
import Viewsmith.Proofs.SimplifyRules
import Viewsmith.Scene.Arrangement
import Viewsmith.Scene.Basic
import Viewsmith.Scene.Kind
import Viewsmith.Scene.Layer
import Viewsmith.Scene.Node
import Viewsmith.Scene.Paint
import Viewsmith.Scene.Typography
import Viewsmith.Snapshot.Basic
import Viewsmith.Snapshot.Decode
import Viewsmith.Style.Basic
import Viewsmith.Style.Json
import Viewsmith.Style.Literal
import Viewsmith.Style.Simplify
import Viewsmith.Style.Value
import Viewsmith.Text.Alphabetic
import Viewsmith.Text.Blank
import Viewsmith.Text.Bytes
import Viewsmith.Text.Case
import Viewsmith.Text.Letter
import Viewsmith.Text.Lines
import Viewsmith.Text.Numeral
import Viewsmith.Text.Occurs
import Viewsmith.Text.Ranges
import Viewsmith.Text.Recent
import Viewsmith.Text.TemplateLiteral
import Viewsmith.Text.Units
import Viewsmith.Proofs.EffectiveValues
import Viewsmith.Proofs.NormalForm
import Viewsmith.Proofs.Forest
import Viewsmith.Proofs.Reach
import Viewsmith.Proofs.LoweringOutcome
import Viewsmith.Proofs.LoweringFaults
import Viewsmith.Proofs.LoweringImage
import Viewsmith.Proofs.DistinctNames
import Viewsmith.Proofs.StyleReferences
import Viewsmith.Proofs.StyleKeys
import Viewsmith.Proofs.RunOverrides
import Viewsmith.Proofs.Isolation
import Viewsmith.Proofs.LoweringWork
import Viewsmith.Proofs.SceneBuilding
import Viewsmith.Proofs.Sessions
import Viewsmith.Proofs.SiblingOrder
import Viewsmith.Proofs.MediaClosure
import Viewsmith.Proofs.CharacterTables
import Viewsmith.Proofs.UsableNames
import Viewsmith.Proofs.ExportedName
import Viewsmith.Proofs.HiddenLayers
import Viewsmith.Proofs.SnapshotArena
import Viewsmith.Proofs.Omission
import Viewsmith.Proofs.MarkupReader
import Viewsmith.Proofs.ShownText
import Viewsmith.Proofs.NumberTexts
import Viewsmith.Proofs.LiteralReader
import Viewsmith.Proofs.StoreHistory
import Viewsmith.Proofs.CollectedFonts
import Viewsmith.Proofs.BlankElements
import Viewsmith.Proofs.MarkupNesting
import Viewsmith.Proofs.ImportedTags
import Viewsmith.Proofs.ArtworkReference
import Viewsmith.Proofs.CookedLiteral
import Viewsmith.Proofs.OriginOrder
import Viewsmith.Proofs.PlacementKeys
import Viewsmith.Proofs.HiddenPaints
import Viewsmith.Proofs.ImagePayload
import Viewsmith.Proofs.StyleHistory
import Viewsmith.Proofs.CommandOutputs
import Viewsmith.Proofs.ReplacementRemarks
import Viewsmith.Proofs.FamilyQuery
import Viewsmith.Proofs.DescendantOrder
import Viewsmith.Proofs.RunOffsets
import Viewsmith.Proofs.Unrotation
