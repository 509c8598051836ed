import ComponentViews.Json.Decode
import ComponentViews.Json.Writer
import ComponentViews.FileSystem
import ComponentViews.ViewError
import ComponentViews.Text.Markup
import ComponentViews.Text.Blank
import ComponentViews.Build.AppModules
import ComponentViews.View.Lookup
import ComponentViews.Bundle.Manifest
import ComponentViews.Wrapper.Store
import ComponentViews.Build.Request
import ComponentViews.Build.Output
import ComponentViews.Render.Context
import ComponentViews.Render.Output
import ComponentViews.Compile.Compiler
import ComponentViews.Host
import ComponentViews.Render.Globals
import ComponentViews.Page.Site
import ComponentViews.Config
import ComponentViews.Engine.Render
import ComponentViews.Engine.Clear
import ComponentViews.Browser.Entries
import ComponentViews.External.Toolchain
import ComponentViews.External.Evaluator
import ComponentViews.Shell.Octets
import ComponentViews.Shell.Program
import ComponentViews.Proofs.Interleaving
import ComponentViews.Proofs.PathSegments
import ComponentViews.Proofs.FileReach
import ComponentViews.Proofs.FileEffects
import ComponentViews.Proofs.PlainPaths
import ComponentViews.Proofs.HeldFiles
import ComponentViews.Proofs.WrapperAgreement
import ComponentViews.Proofs.ScratchReset
import ComponentViews.Proofs.ConcurrentWrapping
import ComponentViews.Proofs.ConcurrentResets
import ComponentViews.Proofs.EngineClearing
import ComponentViews.Proofs.CompileProvenance
import ComponentViews.Proofs.RenderProvenance
import ComponentViews.Proofs.Dictionaries
import ComponentViews.Proofs.BundleNames
import ComponentViews.Proofs.ManifestFiling
import ComponentViews.Proofs.BundleLookup
import ComponentViews.Proofs.MarkedGlobals
import ComponentViews.Proofs.UnmarkedData
import ComponentViews.Proofs.MarkupReading
import ComponentViews.Proofs.JsonLiterals
import ComponentViews.Proofs.JsonReading
import ComponentViews.Proofs.HydrationMarkup
import ComponentViews.Proofs.CompileOutcome
import ComponentViews.Proofs.CompileHistory
import ComponentViews.Proofs.RenderOutcome
import ComponentViews.Proofs.CacheBound
import ComponentViews.Proofs.CompileClearing
import ComponentViews.Proofs.PathComponents
import ComponentViews.Proofs.LookupReach
import ComponentViews.Proofs.EntryViews
import ComponentViews.Proofs.ViewKeys
import ComponentViews.Proofs.EntryScripts
import ComponentViews.Proofs.WireForms
import ComponentViews.Proofs.SourceMapSupport
import ComponentViews.Proofs.StaticPages
import ComponentViews.Proofs.PatternTexts
import ComponentViews.Proofs.PatternExpressions
import ComponentViews.Proofs.WalkOrder
import ComponentViews.Proofs.ManifestContents
import ComponentViews.Proofs.ScriptLiterals
import ComponentViews.Proofs.GlobalsMerging
import ComponentViews.Proofs.TemplateSplitting
import ComponentViews.Proofs.SkeletonSlots
import ComponentViews.Proofs.LateMisconfiguration
import ComponentViews.Proofs.CanonicalKeys
import ComponentViews.Proofs.EnvironmentNames
import ComponentViews.Proofs.ViewImports
import ComponentViews.Proofs.SkeletonFilling
import ComponentViews.Proofs.InlineSourceMaps
import ComponentViews.Proofs.FailureChains
import ComponentViews.Proofs.ConfigOverlays
import ComponentViews.Proofs.LinkedPackages
import ComponentViews.Proofs.ScriptTexts
import ComponentViews.Proofs.PublicAddresses
import ComponentViews.Proofs.StemRules
