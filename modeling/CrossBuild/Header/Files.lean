import CrossBuild.Header.Scan
import CrossBuild.Disk

/-!
# Scanning header files

`scanFiles` scans header files of a disk in order into one symbol set. A path that names
nothing fails as opening it does (`open P: no such file or directory`); a directory opens but
fails to be read (`failed to read P: read P: is a directory`). A file is read the way files are
(`CrossBuild.Text.Reader.whole`). The first fault stops the scan.
-/

namespace CrossBuild.Header

/-- Scan header files in order into a symbol set. -/
def scanFilesInto (d : Disk) : List String → Symbols → Except Fault Symbols
  | [], syms => .ok syms
  | file :: rest, syms =>
    match d.stat file with
    | .error e => .error (.io "open" file e)
    | .ok .dir => .error (.wrap ("failed to read " ++ file) (some (.io "read" file .isDirectory)))
    | .ok (.file text) =>
      match scan Text.Reader.whole file text syms with
      | (syms', none) => scanFilesInto d rest syms'
      | (_, some f) => .error f

/-- Scan header files in order into a fresh symbol set. -/
def scanFiles (d : Disk) (files : List String) : Except Fault Symbols :=
  scanFilesInto d files {}

end CrossBuild.Header
