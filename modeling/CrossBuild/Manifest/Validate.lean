import CrossBuild.Manifest.Basic
import CrossBuild.Semver
import CrossBuild.Text.Quoted

/-!
# Checking a manifest

A manifest is checked before any build step runs. The checks run in a fixed order and the first
that fails is reported:

| # | rule | fault |
|---|---|---|
| 1 | the schema is a valid version | `badSchema` |
| 2 | its major version is `v1` | `unsupportedSchema` |
| 3 | the name starts with `lib` and has no `/` or `\` | `badName` |
| 4 | the build directory is non-empty and local | `badBuildDir` |
| 5 | there is a source | `noSources` |
| 6 | each source, in order, is local and not an earlier source again | `badSource`, `duplicateSource` |
| 7 | the target triple is set | `noTargetTriple` |
| 8 | the program authority id is set | `noPaid` |
| 9 | the stub triple is set | `noStubTriple` |
| 10 | the stub source is a non-empty bare file name | `badStubSource` |
| 11 | there is a header | `noHeaders` |
| 12 | each header is local | `badHeader` |
-/

namespace CrossBuild

open CrossBuild.Text

/-- The only manifest schema major version understood. -/
def schemaMajor : String := "v1"

/-- Why a manifest is refused. -/
inductive ManifestFault where
  | badSchema (schema : String)
  | unsupportedSchema (major : String)
  | badName (name : String)
  | badBuildDir (dir : String)
  | noSources
  | badSource (src : String)
  | duplicateSource (src : String)
  | noTargetTriple
  | noPaid
  | noStubTriple
  | badStubSource (src : String)
  | noHeaders
  | badHeader (hdr : String)
  deriving DecidableEq, Repr

/-- The text of each refusal. -/
def ManifestFault.message : ManifestFault → String
  | .badSchema s => "manifest: invalid schema version " ++ quote s
  | .unsupportedSchema m => "manifest: unsupported schema " ++ m ++ ", want " ++ schemaMajor
  | .badName n =>
    "manifest: name " ++ quote n ++ " must start with \"lib\" and contain no path separators"
  | .badBuildDir d => "manifest: build_dir " ++ quote d ++ " must be a relative path inside the project"
  | .noSources => "manifest: no sources"
  | .badSource s => "manifest: source " ++ quote s ++ " must be a relative path inside the project"
  | .duplicateSource s => "manifest: duplicate source " ++ quote s
  | .noTargetTriple => "manifest: target.triple is required"
  | .noPaid => "manifest: target.paid is required"
  | .noStubTriple => "manifest: stub.triple is required"
  | .badStubSource s => "manifest: stub.source " ++ quote s ++ " must be a bare file name"
  | .noHeaders => "manifest: stub.headers is empty"
  | .badHeader h => "manifest: header " ++ quote h ++ " must be a relative path inside the project"

/-- Whether a text holds a path separator, `/` or `\`. -/
def hasSeparator (s : String) : Bool :=
  s.contains '/' || s.contains '\\'

/-- The first fault among the sources, each checked for locality and then against the sources
before it. -/
def checkSources (seen : List String) : List String → Option ManifestFault
  | [] => none
  | s :: rest =>
    if !Path.isLocal s then some (.badSource s)
    else if seen.contains s then some (.duplicateSource s)
    else checkSources (s :: seen) rest

/-- The first fault of a manifest in the order of the table above, or none. -/
def Manifest.check (m : Manifest) : Option ManifestFault :=
  if !Semver.isValid m.schema then some (.badSchema m.schema)
  else if Semver.major m.schema != schemaMajor then some (.unsupportedSchema (Semver.major m.schema))
  else if !m.name.startsWith "lib" || hasSeparator m.name then some (.badName m.name)
  else if m.buildDir.isEmpty || !Path.isLocal m.buildDir then some (.badBuildDir m.buildDir)
  else if m.sources.isEmpty then some .noSources
  else match checkSources [] m.sources with
    | some f => some f
    | none =>
      if m.target.triple.isEmpty then some .noTargetTriple
      else if m.target.paid.isEmpty then some .noPaid
      else if m.stub.triple.isEmpty then some .noStubTriple
      else if m.stub.source.isEmpty || hasSeparator m.stub.source then
        some (.badStubSource m.stub.source)
      else if m.stub.headers.isEmpty then some .noHeaders
      else (m.stub.headers.find? fun h => !Path.isLocal h).map .badHeader

end CrossBuild
