import CrossBuild.Artifact
import CrossBuild.Json.Read
import CrossBuild.Time.Stamp

/-!
# Build records

A successful build leaves a record in its build directory, in the file `.build.json`: the base
name, the outputs, the objects and exported symbols, and when the build started and ended.
`Record.render` writes it as indented JSON with the members `name`, `artifacts` (`elf`, `oelf`,
`prx`, `archive`, `stub`, `stub_source`, `stub_object`), `objects`, `symbols`, `start_time` and
`build_time`; an empty list is written `null` and times are RFC 3339 with nanoseconds.

`Record.read` reads a record back from any text, and fails the way a strict typed reader does:

* a text that is no JSON fails with the reading message (`CrossBuild.Json.read`), whatever
  else is wrong with it;
* a member is found by its name, or else by a name equal up to case (ASCII letters, with `ſ`
  counting as `s`); other members are ignored, and a later member replaces an earlier one;
* `null` leaves a field as it is, and empties a list;
* a value of the wrong kind for a field or a list item, and a time that is no RFC 3339 stamp,
  are remembered and the reading goes on; the first one remembered is the failure. A wrong
  kind is told as `json: cannot unmarshal KIND into Go struct field Record.PATH of type TYPE`,
  the path made of the member names as written; for a list item the path ends with its
  position and `Go struct field` is left out.
-/

namespace CrossBuild

open CrossBuild.Json CrossBuild.Time

/-- The record of a successful build. -/
structure Record where
  name : String := ""
  artifacts : ArtifactSet := {}
  objects : List String := []
  symbols : List String := []
  startTime : Moment := Moment.zero
  buildTime : Moment := Moment.zero
  deriving Repr, Inhabited

/-- The name of the record file in a build directory. -/
def recordFile : String := ".build.json"

/-- A list of texts as written in a record; an empty one is `null`. -/
def listValue (xs : List String) : Value :=
  Value.ofStrings (if xs.isEmpty then none else some xs)

/-- The JSON value of a record. -/
def Record.toValue (r : Record) : Value :=
  let a := r.artifacts
  .obj [("name", .ofString r.name),
    ("artifacts", .obj [("elf", .ofString a.elf), ("oelf", .ofString a.oelf),
      ("prx", .ofString a.prx), ("archive", .ofString a.archive), ("stub", .ofString a.stub),
      ("stub_source", .ofString a.stubSource), ("stub_object", .ofString a.stubObject)]),
    ("objects", listValue r.objects), ("symbols", listValue r.symbols),
    ("start_time", .ofString r.startTime.stampNanos),
    ("build_time", .ofString r.buildTime.stampNanos)]

/-- The text of a record file. -/
def Record.render (r : Record) : String :=
  r.toValue.render 0

/-- What a JSON value is called in messages. -/
def kindName : Value → String
  | .null => "null"
  | .bool _ => "bool"
  | .number _ => "number"
  | .str _ _ => "string"
  | .arr _ => "array"
  | .obj _ => "object"

/-- A member name folded for matching up to case. -/
def foldName (s : String) : String :=
  String.ofList (s.toList.map fun c =>
    if 'a' ≤ c && c ≤ 'z' then Char.ofNat (c.toNat - 32)
    else if c == 'ſ' then 'S'
    else if c.toNat == 0x212A then 'K'
    else c)

/-- The field among `fields` that a member name stands for: the same name, or else one equal
up to case. -/
def matchField (fields : List String) (key : String) : Option String :=
  match fields.find? (· == key) with
  | some f => some f
  | none => fields.find? (foldName · == foldName key)

/-- A step from the top of a record text to one of its values: a member, by the name it is
written with, or a list item, by its position. -/
inductive Step where
  | member (name : String)
  | item (index : Nat)
  deriving DecidableEq, Repr

/-- How a step is written in a path. -/
def Step.text : Step → String
  | .member name => name
  | .item i => toString i

/-- Why a text gives no record. -/
inductive RecordFault where
  /-- The text is no JSON; the reading message. -/
  | malformed (message : String)
  /-- The text is one value of another kind than an object. -/
  | notObject (kind : String)
  /-- The value at a path has a kind its field or item cannot take. -/
  | wrongKind (kind : String) (path : List Step) (typeName : String)
  /-- A time field holds a string that is no stamp. -/
  | badTime (fault : StampFault)
  deriving Repr

/-- The message of a record fault. -/
def RecordFault.message : RecordFault → String
  | .malformed m => m
  | .notObject kind => "json: cannot unmarshal " ++ kind ++ " into Go value of type build.Record"
  | .wrongKind kind path typeName =>
    let place := "Record" ++ String.join (path.map fun s => "." ++ s.text)
    let target := match path.getLast? with
      | some (.item _) => place
      | _ => "Go struct field " ++ place
    "json: cannot unmarshal " ++ kind ++ " into " ++ target ++ " of type " ++ typeName
  | .badTime f => f.message

/-- Where a record reading is: what has been read, and the first fault met. -/
structure Reading where
  record : Record := {}
  fault : Option RecordFault := none

/-- Remember a fault unless one was met before. -/
def Reading.note (st : Reading) (f : RecordFault) : Reading :=
  match st.fault with
  | some _ => st
  | none => { st with fault := some f }

/-- Remember that the value at a path has the wrong kind for a type. -/
def Reading.mismatch (st : Reading) (v : Value) (path : List Step) (typeName : String) :
    Reading :=
  st.note (.wrongKind (kindName v) path typeName)

/-- Read a value into a text field. -/
def Reading.text (st : Reading) (v : Value) (path : List Step)
    (put : Reading → String → Reading) : Reading :=
  match v with
  | .str _ t => put st t
  | .null => st
  | _ => st.mismatch v path "string"

/-- Read the items of an array into a list of texts, from position `i` on; a mismatched item
is remembered and reads as the empty text. -/
def Reading.items (st : Reading) (path : List Step) : Nat → List Value → Reading × List String
  | _, [] => (st, [])
  | i, v :: vs =>
    let (st', t) := match v with
      | .str _ t => (st, t)
      | .null => (st, "")
      | _ => (st.mismatch v (path ++ [Step.item i]) "string", "")
    let (st'', ts) := st'.items path (i + 1) vs
    (st'', t :: ts)

/-- Read a value into a list field. -/
def Reading.list (st : Reading) (v : Value) (path : List Step)
    (put : Reading → List String → Reading) : Reading :=
  match v with
  | .arr items => let (st', ts) := st.items path 0 items; put st' ts
  | .null => put st []
  | _ => st.mismatch v path "[]string"

/-- Read a value into a time field: a string holding a stamp, or `null`. -/
def Reading.time (st : Reading) (v : Value) (path : List Step)
    (put : Reading → Moment → Reading) : Reading :=
  match v with
  | .null => st
  | .str _ t =>
    match readStamp t with
    | .ok m => put st m
    | .error e => st.note (.badTime e)
  | _ => st.mismatch v path "time.Time"

/-- The names of the output fields. -/
def artifactFields : List String :=
  ["elf", "oelf", "prx", "archive", "stub", "stub_source", "stub_object"]

/-- Read one member of the outputs object, which stands under the member `outer`. -/
def Reading.artifactMember (st : Reading) (outer key : String) (v : Value) : Reading :=
  let put (f : ArtifactSet → String → ArtifactSet) : Reading :=
    st.text v [.member outer, .member key] fun s t =>
      { s with record := { s.record with artifacts := f s.record.artifacts t } }
  match matchField artifactFields key with
  | some "elf" => put fun a t => { a with elf := t }
  | some "oelf" => put fun a t => { a with oelf := t }
  | some "prx" => put fun a t => { a with prx := t }
  | some "archive" => put fun a t => { a with archive := t }
  | some "stub" => put fun a t => { a with stub := t }
  | some "stub_source" => put fun a t => { a with stubSource := t }
  | some "stub_object" => put fun a t => { a with stubObject := t }
  | _ => st

/-- The names of the record fields. -/
def recordFields : List String :=
  ["name", "artifacts", "objects", "symbols", "start_time", "build_time"]

/-- Read one member of the record object. -/
def Reading.member (st : Reading) (key : String) (v : Value) : Reading :=
  let path := [Step.member key]
  match matchField recordFields key with
  | some "name" => st.text v path fun s t => { s with record := { s.record with name := t } }
  | some "artifacts" =>
    match v with
    | .obj members => members.foldl (fun s (k, x) => s.artifactMember key k x) st
    | .null => st
    | _ => st.mismatch v path "artifact.Set"
  | some "objects" =>
    st.list v path fun s ts => { s with record := { s.record with objects := ts } }
  | some "symbols" =>
    st.list v path fun s ts => { s with record := { s.record with symbols := ts } }
  | some "start_time" =>
    st.time v path fun s t => { s with record := { s.record with startTime := t } }
  | some "build_time" =>
    st.time v path fun s t => { s with record := { s.record with buildTime := t } }
  | _ => st

/-- Read a record from the text of a record file. -/
def Record.read (text : String) : Except RecordFault Record :=
  match Json.read text with
  | .error m => .error (.malformed m)
  | .ok (.obj members) =>
    let st := members.foldl (fun s (k, v) => s.member k v) ({} : Reading)
    match st.fault with
    | some f => .error f
    | none => .ok st.record
  | .ok .null => .ok {}
  | .ok v => .error (.notObject (kindName v))

end CrossBuild
