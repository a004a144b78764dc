import CrossBuild.Path
import CrossBuild.Fault

/-!
# Where build outputs land

A `Resolver` ties a project root to a build directory. A relative build directory is taken
inside the root; an absolute one is kept as it is. Sources are found under the root, and the
object of a source mirrors the source tree under the build directory with `.o` appended, so
`a/b.cpp` compiles to `BUILD/a/b.cpp.o`. A source that is not local (`CrossBuild.Path.isLocal`)
has no object: it is outside the project.

The final outputs share one base name (`ArtifactSet`): the image `.elf`, the signed image
`.oelf`, the loadable module `.prx`, the static library `.a` and the stub library `.so`, with
the stub source and its object beside them.
-/

namespace CrossBuild

open CrossBuild.Text

/-- A project root and the build directory its outputs go to. -/
structure Resolver where
  root : String
  buildDir : String
  deriving DecidableEq, Repr, Inhabited

/-- The fixed outputs of one build. -/
structure ArtifactSet where
  elf : String := ""
  oelf : String := ""
  prx : String := ""
  archive : String := ""
  stub : String := ""
  stubSource : String := ""
  stubObject : String := ""
  deriving DecidableEq, Repr, Inhabited

/-- The suffix of an object file. -/
def objectSuffix : String := ".o"

/-- The fault of a source outside the project. -/
def outsideFault (rel : String) : Fault :=
  .plain ("artifact: source " ++ quote rel ++ " is outside the project")

namespace Resolver

/-- The resolver of a project root and a build directory, relative to the root unless it is
absolute. -/
def new (root buildDir : String) : Resolver :=
  if Path.isAbs buildDir then ⟨root, buildDir⟩ else ⟨root, Path.join [root, buildDir]⟩

/-- The path of a project file. -/
def source (r : Resolver) (rel : String) : String :=
  Path.join [r.root, rel]

/-- Where the object of a source goes: the source's path under the build directory, with
`.o` appended. -/
def objectFile (r : Resolver) (rel : String) : String :=
  Path.join [r.buildDir, rel ++ objectSuffix]

/-- The object path of a source, or the fault of a source outside the project. -/
def objectPath (r : Resolver) (rel : String) : Except Fault String :=
  if Path.isLocal rel then .ok (r.objectFile rel)
  else .error (outsideFault rel)

/-- The outputs of a build named `name` whose stub source file is `stubSource`. -/
def artifacts (r : Resolver) (name stubSource : String) : ArtifactSet :=
  let base := Path.join [r.buildDir, name]
  let src := Path.join [r.buildDir, stubSource]
  { elf := base ++ ".elf", oelf := base ++ ".oelf", prx := base ++ ".prx",
    archive := base ++ ".a", stub := base ++ ".so", stubSource := src,
    stubObject := Path.dropSuffix src (Path.ext src) ++ objectSuffix }

end Resolver

end CrossBuild
