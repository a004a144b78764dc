import CrossBuild.Env.Vars
import CrossBuild.Manifest.Basic
import CrossBuild.Fault

/-!
# Toolchain location from the environment

The SDK root comes from `OO_PS4_TOOLCHAIN`, which must be set and non-empty; the compiler
tools' directory comes from `OPENALPS4_LLVM_BIN_PATH`, with `D:\SDK\LLVM10\bin` when it is
unset or empty.
-/

namespace CrossBuild

/-- The variable naming the compiler tools' directory. -/
def binPathVar : String := "OPENALPS4_LLVM_BIN_PATH"

/-- The variable naming the SDK root. -/
def sdkVar : String := "OO_PS4_TOOLCHAIN"

/-- The compiler tools' directory when the variable is unset. -/
def defaultBinPath : String := "D:\\SDK\\LLVM10\\bin"

/-- The toolchain location that an environment gives, or the fault of a missing SDK root. -/
def Config.load (env : Environment) : Except Fault Config :=
  let sdk := env.getD sdkVar
  if sdk.isEmpty then
    .error (.config sdkVar "the OpenOrbis PS4 toolchain must be installed and this variable set")
  else
    let binDir := env.getD binPathVar
    .ok { binDir := if binDir.isEmpty then defaultBinPath else binDir, sdk }

end CrossBuild
