import BindingCompiler.Main
import BindingCompiler.Proofs.ClassPath.DefaultMethods
import BindingCompiler.Proofs.ClassPath.Overloads
import BindingCompiler.Proofs.Declaration.Order
import BindingCompiler.Proofs.Manifest.Codec
import BindingCompiler.Proofs.Output.Generation
import BindingCompiler.Proofs.Output.Placement
import BindingCompiler.Proofs.Plan.ClassNames
import BindingCompiler.Proofs.Plan.Contents
import BindingCompiler.Proofs.Plan.FirstFailure
import BindingCompiler.Proofs.Registry.History
import BindingCompiler.Proofs.Registry.Redeclaration
import BindingCompiler.Proofs.Registry.ResourceSafety
import BindingCompiler.Proofs.Source.AddedFields
import BindingCompiler.Proofs.Source.BindingClass
import BindingCompiler.Proofs.Source.Dispatch
import BindingCompiler.Proofs.Source.Factory
import BindingCompiler.Proofs.Source.Layout
import BindingCompiler.Proofs.Source.ListenerClass
import BindingCompiler.Proofs.Source.Literal
import BindingCompiler.Proofs.ClassPath.Search
import BindingCompiler.Proofs.Marker.Selection
import BindingCompiler.Proofs.Marker.Requirements
import BindingCompiler.Proofs.Source.Receivers
import BindingCompiler.Proofs.Source.Tree
import BindingCompiler.Proofs.Declaration.Ids
import BindingCompiler.Proofs.Marker.FurtherTypes
import BindingCompiler.Proofs.Marker.Objections
import BindingCompiler.Proofs.TypeName.Grammar
import BindingCompiler.Proofs.TypeName.Parts
