import CrossBuild.Toml.Document
import CrossBuild.Manifest.Validate
import CrossBuild.Manifest.Default

/-!
# Reading a manifest

A manifest text is a TOML document. Each field is found under its tag (`build_dir`, `sources`,
`target`, ...) or, when that key is absent, under the tag in capitals (`BUILD_DIR`); keys that
name no field are ignored, and a missing field keeps its empty value.

| field | accepted value |
|---|---|
| text (`schema`, `name`, `triple`, ...) | a string |
| list (`sources`, `flags`, `headers`, ...) | an array whose items are all strings |
| `target`, `stub` | a table |

An unsigned integer beyond the signed 64-bit range also passes for a text: it reads as the
replacement character U+FFFD, as a code point that large names no character. Any other value
of the wrong kind makes the text unreadable, like a malformed one. A manifest that is read is
then checked (`Manifest.check`).
-/

namespace CrossBuild

open CrossBuild.Toml

/-- Why a manifest text gives no manifest. -/
inductive Manifest.ReadFault where
  /-- The text is no TOML document, or a field holds the wrong kind of value. -/
  | parse
  /-- The manifest was read but breaks one of its rules. -/
  | invalid (fault : ManifestFault)
  deriving DecidableEq, Repr

/-- The message of a read fault. -/
def Manifest.ReadFault.message : Manifest.ReadFault → String
  | .parse => "failed to parse manifest"
  | .invalid f => f.message

namespace Manifest

/-- The value a field is found under: its tag, or else the tag in capitals. -/
def fieldValue (es : Entries) (tag : String) : Option Node :=
  match lookup es tag with
  | some v => some v
  | none => lookup es tag.toUpper

/-- A value read as a text. -/
def asText : Node → Option String
  | .str s => some s
  | .integer n => if (signedLimit : Int) ≤ n then some "�" else none
  | _ => none

/-- A value read as a list of texts. -/
def asTexts : Node → Option (List String)
  | .array items => items.mapM asText
  | _ => none

/-- A text field; empty when absent. -/
def textField (es : Entries) (tag : String) : Option String :=
  match fieldValue es tag with
  | none => some ""
  | some v => asText v

/-- A list field; empty when absent. -/
def listField (es : Entries) (tag : String) : Option (List String) :=
  match fieldValue es tag with
  | none => some []
  | some v => asTexts v

/-- The entries of a table field; none when absent. -/
def tableField (es : Entries) (tag : String) : Option Entries :=
  match fieldValue es tag with
  | none => some []
  | some (.table _ sub) => some sub
  | some _ => none

/-- The target parameters of a table. -/
def decodeTarget (es : Entries) : Option Target := do
  pure { triple := ← textField es "triple", flags := ← listField es "flags",
         warnings := ← listField es "warnings", features := ← listField es "features",
         includes := ← listField es "includes", defines := ← listField es "defines",
         libs := ← listField es "libs", paid := ← textField es "paid" }

/-- The stub parameters of a table. -/
def decodeStub (es : Entries) : Option StubSpec := do
  pure { triple := ← textField es "triple", source := ← textField es "source",
         headers := ← listField es "headers" }

/-- The manifest a document's top table describes, when every field has the right kind. -/
def decode (es : Entries) : Option Manifest := do
  pure { schema := ← textField es "schema", name := ← textField es "name",
         buildDir := ← textField es "build_dir", sources := ← listField es "sources",
         target := ← decodeTarget (← tableField es "target"),
         stub := ← decodeStub (← tableField es "stub") }

/-- Read and check a manifest text. -/
def read (text : String) : Except ReadFault Manifest :=
  match Toml.read text with
  | .error .malformed => .error .parse
  | .ok es =>
    match decode es with
    | none => .error .parse
    | some m =>
      match m.check with
      | some f => .error (.invalid f)
      | none => .ok m

/-- A manifest read from a text the program carries. A carried text that does not read stops the
program with a panic whose message this is. -/
def ofCarriedText (text : String) : Except String Manifest :=
  match read text with
  | .ok m => .ok m
  | .error f => .error ("manifest: invalid built-in manifest: " ++ f.message)

/-- The manifest every project starts from, read from the built-in text. -/
def builtIn : Except String Manifest := ofCarriedText defaultManifestText

end Manifest

end CrossBuild
