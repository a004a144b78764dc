import CrossBuild.Toolchain
import CrossBuild.Path

/-!
# Build manifests

A `Manifest` describes one library build: the schema version of the manifest format, the base
name of every output, the build directory, the translation units in compile order, the
parameters of the main target and of the stub library.

`Manifest.toolchain` binds the target parameters to a toolchain location, resolving every
include directory against the project root.
-/

namespace CrossBuild

/-- The compiler and linker parameters of the main build. -/
structure Target where
  triple : String := ""
  flags : List String := []
  warnings : List String := []
  features : List String := []
  includes : List String := []
  defines : List String := []
  libs : List String := []
  paid : String := ""
  deriving DecidableEq, Repr, Inhabited

/-- The parameters of the stub library. -/
structure StubSpec where
  triple : String := ""
  /-- The file name of the generated stub source. -/
  source : String := ""
  /-- The public headers to scan, relative to the project root. -/
  headers : List String := []
  deriving DecidableEq, Repr, Inhabited

/-- One library build. -/
structure Manifest where
  schema : String := ""
  name : String := ""
  buildDir : String := ""
  sources : List String := []
  target : Target := {}
  stub : StubSpec := {}
  deriving DecidableEq, Repr, Inhabited

/-- Where the toolchain is installed: the compiler tools' directory and the SDK root. -/
structure Config where
  binDir : String := ""
  sdk : String := ""
  deriving DecidableEq, Repr, Inhabited

/-- The toolchain of a manifest's target at a configured location, with include directories
resolved against `root`. -/
def Manifest.toolchain (m : Manifest) (cfg : Config) (root : String) : Toolchain :=
  { binDir := cfg.binDir, sdk := cfg.sdk, target := m.target.triple, flags := m.target.flags,
    warnings := m.target.warnings, features := m.target.features,
    includes := m.target.includes.map fun dir => Path.join [root, dir],
    defines := m.target.defines, libs := m.target.libs, paid := m.target.paid,
    stubTarget := m.stub.triple }

end CrossBuild
