import BindingCompiler.Project.Configuration
import BindingCompiler.Registry.Error

/-!
# `BindingCompiler.Project.Basic`: projects

A project is a configuration together with the registry that it makes:
its types and kinds over the built-in ones.
-/

set_option autoImplicit false

namespace BindingCompiler

/-- A configuration and its registry. -/
structure Project where
  manifest : Manifest
  registry : Registry

/-- Why there is no project. -/
inductive ProjectError where
  | configuration (error : ConfigurationError)
  /-- A declared kind was rejected. -/
  | registration (error : RegistryError)
  deriving DecidableEq, Repr

/-- An error in words. -/
def ProjectError.message : ProjectError → String
  | .configuration e => s!"lua error: {e.report}"
  | .registration e => s!"registration error: {e.message}"

namespace Project

/-- Loads a project from its configuration. -/
def load (t : FileTree) (working : Path) (written : String) : Except ProjectError Project := do
  let manifest ← (Configuration.evaluate t working written).mapError .configuration
  let registry ← manifest.registry.mapError .registration
  return ⟨manifest, registry⟩

end Project

end BindingCompiler
