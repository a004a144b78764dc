import CrossBuild.Command
import CrossBuild.Path

/-!
# The cross toolchain

A `Toolchain` holds everything the command lines of a build are made from: where the compiler
tools live (`binDir`), the SDK root (`sdk`), the target triple and the compiler flags, the
include directories, preprocessor definitions and libraries, the program authority id stamped
by the packaging tool, and the triple of the stub library.

| tool | path |
|---|---|
| C++ compiler | `binDir/clang++` |
| C compiler | `binDir/clang` |
| linker | `binDir/ld.lld` |
| archiver | `binDir/llvm-ar` |
| packager | `sdk/bin/HOST/create-fself` |

Paths are put together with `CrossBuild.Path.join`, so an empty `binDir` leaves the bare tool
name and an empty `sdk` gives SDK-relative paths.
-/

namespace CrossBuild

/-- The parameters every command line of a build is built from. -/
structure Toolchain where
  /-- The directory of the compiler, linker and archiver. -/
  binDir : String := ""
  /-- The root of the SDK. -/
  sdk : String := ""
  /-- The target triple of the main build. -/
  target : String := ""
  flags : List String := []
  warnings : List String := []
  features : List String := []
  /-- Include directories, already resolved. -/
  includes : List String := []
  /-- Preprocessor definitions, `NAME` or `NAME=VALUE`. -/
  defines : List String := []
  /-- Libraries linked into the image and the stub. -/
  libs : List String := []
  /-- The program authority id. -/
  paid : String := ""
  /-- The target triple of the stub library. -/
  stubTarget : String := ""
  deriving DecidableEq, Repr, Inhabited

/-- The directory of the SDK's host tools for an operating system name: `windows` and `macos`
for those systems and `linux` for every other name. -/
def hostDir (os : String) : String :=
  match os with
  | "windows" => "windows"
  | "darwin" => "macos"
  | _ => "linux"

/-- The operating system the tool runs on. -/
def hostSystem : String := "linux"

namespace Toolchain

variable (t : Toolchain)

def cxx : String := Path.join [t.binDir, "clang++"]
def cc : String := Path.join [t.binDir, "clang"]
def ld : String := Path.join [t.binDir, "ld.lld"]
def ar : String := Path.join [t.binDir, "llvm-ar"]

/-- The SDK's packaging tool for the host system. -/
def fself : String := Path.join [t.sdk, "bin", hostDir hostSystem, "create-fself"]

/-- The flags shared by every compile of a source file. -/
def compileFlags : List String :=
  ("--target=" ++ t.target) :: t.flags ++ t.warnings ++ t.features ++
    ["-c", "-isysroot", t.sdk,
     "-isystem", Path.join [t.sdk, "include", "c++", "v1"],
     "-isystem", Path.join [t.sdk, "include"]] ++
    t.includes.map ("-I" ++ ·) ++ t.defines.map ("-D" ++ ·)

/-- One `-l` flag per library. -/
def libFlags : List String := t.libs.map ("-l" ++ ·)

/-- The flags of the stub library: no standard library, no builtins, position independent. -/
def stubFlags : List String :=
  ["-target", t.stubTarget, "-ffreestanding", "-nostdlib", "-fno-builtin", "-fPIC"]

/-- Compile one source file into an object. -/
def compile (src obj : String) : Command :=
  ⟨t.cxx, t.compileFlags ++ ["-o", obj, src]⟩

/-- Link objects into the image with the SDK's link script. -/
def link (objs : List String) (elf : String) : Command :=
  ⟨t.ld, ["-m", "elf_x86_64", "-pie", "--script", Path.join [t.sdk, "link.x"], "--eh-frame-hdr",
    "--verbose", "-L" ++ Path.join [t.sdk, "lib"]] ++ t.libFlags ++ ["-o", elf] ++ objs⟩

/-- Turn the image into the signed image and the loadable module. -/
def package (elf oelf prx : String) : Command :=
  ⟨t.fself, ["--paid", t.paid, "--in", elf, "--out", oelf, "--lib", prx]⟩

/-- Bundle objects into a static library. -/
def archive (objs : List String) (lib : String) : Command :=
  ⟨t.ar, ["rc", lib] ++ objs⟩

/-- Compile the stub source without a standard library. -/
def compileStub (src obj : String) : Command :=
  ⟨t.cc, t.stubFlags ++ ["-c", src, "-o", obj]⟩

/-- Link the stub object into a shared library against the image's libraries. -/
def linkStub (obj so : String) : Command :=
  ⟨t.cc, ["-target", t.stubTarget, "-shared", "-fuse-ld=lld"] ++ t.stubFlags.drop 2 ++
    ["-L" ++ Path.join [t.sdk, "lib"]] ++ t.libFlags ++ [obj, "-o", so]⟩

end Toolchain

end CrossBuild
