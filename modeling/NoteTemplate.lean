import NoteTemplate.Number.Decimal
import NoteTemplate.Number.Numeral
import NoteTemplate.Text.Blank
import NoteTemplate.Text.Character
import NoteTemplate.Text.Pieces
import NoteTemplate.Text.Casing
import NoteTemplate.Calendar.Pattern
import NoteTemplate.Json.Reader
import NoteTemplate.Json.Writer
import NoteTemplate.Context
import NoteTemplate.Value.Display
import NoteTemplate.Template.Parser
import NoteTemplate.Template.Condition
import NoteTemplate.Template.Function
import NoteTemplate.Template.Inheritance
import NoteTemplate.Template.Layout
import NoteTemplate.Template.Rendering
import NoteTemplate.Store.Name
import NoteTemplate.Note.Folder
import NoteTemplate.Yaml.Reader
import NoteTemplate.Document
import NoteTemplate.Note
import NoteTemplate.Store.Memory
import NoteTemplate.Store.Loader
import NoteTemplate.Validation
import NoteTemplate.Store.BuiltIn
import NoteTemplate.Files.Tree
import NoteTemplate.Store.Folder
import NoteTemplate.Toml.Reader
import NoteTemplate.Configuration
import NoteTemplate.Document.Json
import NoteTemplate.CommandLine.Request
import NoteTemplate.CommandLine.Variables
import NoteTemplate.CommandLine.Help
import NoteTemplate.Main
import NoteTemplate.Proofs.Answer
import NoteTemplate.Proofs.RenderingAnswer
import NoteTemplate.Proofs.Resolution
import NoteTemplate.Proofs.CachedLoading
import NoteTemplate.Proofs.ValidationAnswer
import NoteTemplate.Proofs.Session
import NoteTemplate.Proofs.CacheTransparency
import NoteTemplate.Proofs.SoundValidation
import NoteTemplate.Proofs.TagReading
import NoteTemplate.Proofs.BlockOutline
import NoteTemplate.Proofs.TextMerging
import NoteTemplate.Proofs.InheritedText
import NoteTemplate.Proofs.Directives
import NoteTemplate.Proofs.TagAgreement
import NoteTemplate.Proofs.Grammar
import NoteTemplate.Proofs.ParsedTree
import NoteTemplate.Proofs.LookedUpPaths
import NoteTemplate.Proofs.ConditionMeaning
import NoteTemplate.Proofs.AssembledRendering
import NoteTemplate.Proofs.AlikeFragments
import NoteTemplate.Proofs.RelatedRendering
import NoteTemplate.Proofs.InsertedValues
import NoteTemplate.Proofs.ParentCircles
import NoteTemplate.Proofs.IncludeChains
import NoteTemplate.Proofs.CleanValidation
import NoteTemplate.Proofs.UnstoredText
import NoteTemplate.Proofs.ExpandedTree
import NoteTemplate.Proofs.InlinedIncludes
import NoteTemplate.Proofs.CacheContract
import NoteTemplate.Proofs.TotalRendering
import NoteTemplate.Json.Equality
import NoteTemplate.Proofs.WrittenNote
import NoteTemplate.Proofs.FiledNotes
import NoteTemplate.Proofs.TokenCuts
import NoteTemplate.Proofs.WholeDoubles
import NoteTemplate.Proofs.ComparedWords
import NoteTemplate.Proofs.ComparedIntegers
import NoteTemplate.Proofs.ComparedMoments
import NoteTemplate.Proofs.CurrentItem
import NoteTemplate.Proofs.JoinedIterations
import NoteTemplate.Proofs.TidiedLines
import NoteTemplate.Proofs.ConditionFlaws
import NoteTemplate.Proofs.InvalidReports
import NoteTemplate.Proofs.CompletedHeader
import NoteTemplate.Proofs.NoteFiles
import NoteTemplate.Proofs.ListedArguments
import NoteTemplate.Proofs.WrittenMoments
import NoteTemplate.Proofs.LegalJson
import NoteTemplate.Proofs.JsonValues
import NoteTemplate.Proofs.InstalledTemplates
import NoteTemplate.Proofs.ListedTags
import NoteTemplate.Proofs.TemplatePaths
import NoteTemplate.Proofs.FolderShelf
import NoteTemplate.Proofs.FolderWrites
import NoteTemplate.Proofs.StoredTexts
import NoteTemplate.Proofs.GroupedDigits
