import BackendLink.Config
import BackendLink.Text.Quoted
import BackendLink.Yaml.Compose
import BackendLink.Yaml.Scalar

/-!
# Configuration documents

A configuration is written as a mapping from the names of its settings. Settings that are not named
keep their defaults, names that are not known are passed over, and a setting that is named twice is
refused. A document is read in the order of its text, so of several faults the first is reported.

* `Config.ofDocument` reads a document, `Config.ofYaml` a text.
* `Record.read` reads one mapping: it is a walk over the entries that never looks back, except at
  the settings already named.
-/

namespace BackendLink.Config
open Yaml

/-- The steps from the root of a document to a value, outermost first. -/
abbrev Path := List String

def Path.text (path : Path) : String := ".".intercalate path

/-- What stands where something else was wanted. -/
inductive Found
  | text (value : List Char)
  | integer (value : Int)
  | float (value : FloatValue)
  | boolean (value : Bool)
  | nothing
  | sequence
  | mapping
  deriving Repr

/-- Integers that need more than 64 bits are marked with the width they were read at. -/
def Found.describe : Found → String
  | text value => "string " ++ Text.quote (String.ofList value)
  | integer value =>
    let suffix :=
      if 0xFFFFFFFFFFFFFFFF < value then " as u128"
      else if value < -0x8000000000000000 then " as i128"
      else ""
    "integer \x60" ++ toString value ++ "\x60" ++ suffix
  | float value => "floating point \x60" ++ value.text ++ "\x60"
  | boolean value => "boolean \x60" ++ toString value ++ "\x60"
  | nothing => "unit value"
  | sequence => "sequence"
  | mapping => "map"

/-- Why a document is no configuration. -/
inductive Refusal
  /-- The text is no document, or a tag does not fit its value. -/
  | unreadable
  | mismatch (path : Path) (found : Found) (expected : String)
  | duplicate (path : Path) (key : String)
  deriving Repr

/-- A fault at the root is reported without a path. -/
def Refusal.located (path : Path) (fault : String) : String :=
  if path.isEmpty then fault else path.text ++ ": " ++ fault

/-- For a text that is no document one word stands in for all that can be wrong with it, and no
refusal says at which line and column of the text it was met. -/
def Refusal.detail : Refusal → String
  | unreadable => "yaml"
  | mismatch path found expected =>
    located path ("invalid type: " ++ found.describe ++ ", expected " ++ expected)
  | duplicate path key => located path ("duplicate field \x60" ++ key ++ "\x60")

/-! ## Values -/

namespace CoreTag

def boolean : List Char := "tag:yaml.org,2002:bool".toList
def integer : List Char := "tag:yaml.org,2002:int".toList
def float : List Char := "tag:yaml.org,2002:float".toList
def null : List Char := "tag:yaml.org,2002:null".toList

end CoreTag

def Found.ofMeaning (text : List Char) : Meaning → Found
  | .null => .nothing
  | .boolean value => .boolean value
  | .integer value => .integer value
  | .float value => .float value
  | .text => .text text

/-- What a scalar is taken for. A tag of the core schema decides, and the text must fit it; any
other tag leaves a plain scalar to its text only if it is local. -/
def foundScalar (tag : Option (List Char)) (style : Style) (text : List Char) : Option Found :=
  match tag with
  | none => some (if style = .plain then .ofMeaning text (meaning text) else .text text)
  | some tag =>
    if tag == CoreTag.boolean then (bool? text).map .boolean
    else if tag == CoreTag.integer then (integer? text).map .integer
    else if tag == CoreTag.float then (float? text).map .float
    else if tag == CoreTag.null then if isNull text then some .nothing else none
    else if tag.head? = some '!' ∧ style = .plain then some (.ofMeaning text (meaning text))
    else some (.text text)

/-- The refusal of a value that is not what was expected. An alias has been resolved before. -/
def mismatch (path : Path) (expected : String) : Node → Refusal
  | .scalar _ tag style text =>
    match foundScalar tag style text with
    | some found => .mismatch path found expected
    | none => .unreadable
  | .sequence .. => .mismatch path .sequence expected
  | .mapping .. => .mismatch path .mapping expected
  | .reference _ | .cut => .unreadable

/-- Reads a value within a document, given the path to it. -/
abbrev Reader (α : Type) := Document → Path → Node → Except Refusal α

/-- Plain scalars are read by their text, and so are literal ones that carry the right tag. -/
def readsByText (expectedTag : List Char) (tag : Option (List Char)) (style : Style) : Bool :=
  style = .plain || (style = .literal && tag = some expectedTag)

def readFlag : Reader Bool := fun d path node =>
  let node := d.resolve node
  match node with
  | .scalar _ tag style text =>
    match if readsByText CoreTag.boolean tag style then bool? text else none with
    | some b => .ok b
    | none => .error (mismatch path "a boolean" node)
  | _ => .error (mismatch path "a boolean" node)

def readSeconds : Reader UInt64 := fun d path node =>
  let node := d.resolve node
  match node with
  | .scalar _ tag style text =>
    match if readsByText CoreTag.integer tag style then unsigned? Text.greatest64 text else none with
    | some n => .ok (UInt64.ofNat n)
    | none => .error (mismatch path "u64" node)
  | _ => .error (mismatch path "u64" node)

/-- Every scalar is a text, however it is written. -/
def readText (expected : String) : Reader String := fun d path node =>
  let node := d.resolve node
  match node with
  | .scalar _ _ _ text => .ok (String.ofList text)
  | _ => .error (mismatch path expected node)

def readPath : Reader OsText := fun d path node =>
  (readText "path string" d path node).map .ofString

/-- Whether a value stands for none. Only plain scalars do: those that mean null, unless a tag makes
them a text, and those with the tag of nulls, which must be one. -/
def isAbsent : Node → Except Refusal Bool
  | .scalar _ tag .plain text =>
    match tag with
    | none => .ok (text.isEmpty || isNull text)
    | some tag =>
      if tag == CoreTag.null then if isNull text then .ok true else .error .unreadable
      else .ok false
  | _ => .ok false

def readOptional {α : Type} (read : Reader α) : Reader (Option α) := fun d path node => do
  let node := d.resolve node
  if ← isAbsent node then .ok none else (read d path node).map some

/-! ## Records -/

/-- A setting of a record: its name, and what its value changes in the record read so far. -/
structure Field (α : Type) where
  key : String
  read : Document → Path → Node → α → Except Refusal α

/-- A mapping with known keys. -/
structure Record (α : Type) where
  /-- What it is called where something else was found. -/
  name : String
  fields : List (Field α)

/-- The key of an entry, and the step that it adds to the path of its value. -/
def readKey (d : Document) (path : Path) (key : Node) : Except Refusal (String × String) :=
  match key with
  | .scalar _ _ _ text => .ok (String.ofList text, String.ofList text)
  | .reference number => do
    let name ← readText "field identifier" d path (.reference number)
    .ok (name, "?")
  | _ => .error (mismatch path "field identifier" key)

namespace Record
variable {α : Type}

def field? (record : Record α) (key : String) : Option (Field α) :=
  record.fields.find? fun field => field.key == key

/-- Goes through the entries of a mapping with the known keys that came before. -/
def readEntries (record : Record α) (d : Document) (path : Path) :
    List String → List (Node × Node) → α → Except Refusal α
  | _, [], a => .ok a
  | seen, (key, value) :: rest, a => do
    let (name, step) ← readKey d path key
    match record.field? name with
    | none => if value.isWhole then record.readEntries d path seen rest a else .error .unreadable
    | some field =>
      if name ∈ seen then .error (.duplicate path name)
      else
        let next ← field.read d (path ++ [step]) value a
        record.readEntries d path (name :: seen) rest next

/-- Reads a record. Where nothing is written it is as it is by default. -/
def read (record : Record α) (default : α) : Reader α := fun d path node =>
  let node := d.resolve node
  match node with
  | .mapping _ entries => record.readEntries d path [] entries default
  | .scalar _ _ .plain [] => .ok default
  | _ => .error (mismatch path ("struct " ++ record.name) node)

end Record

/-- The setting that `set` puts in place. -/
def Field.of {α β : Type} (key : String) (read : Reader β) (set : β → α → α) : Field α where
  key
  read d path node a := (read d path node).map fun b => set b a

def backendRecord : Record BackendConfig where
  name := "BackendConfig"
  fields := [
    .of "addr" (readText "a string") fun v c => { c with addr := v },
    .of "connect_timeout_secs" readSeconds fun v c => { c with connectTimeoutSecs := v }]

def sslRecord : Record SslConfig where
  name := "SslConfig"
  fields := [
    .of "enable" readFlag fun v c => { c with enable := v },
    .of "ca_cert_path" (readOptional readPath) fun v c => { c with caCertPath := v },
    .of "client_cert_path" (readOptional readPath) fun v c => { c with clientCertPath := v },
    .of "client_key_path" (readOptional readPath) fun v c => { c with clientKeyPath := v },
    .of "insecure" readFlag fun v c => { c with insecure := v },
    .of "server_name" (readOptional (readText "a string")) fun v c => { c with serverName := v }]

def credentialsRecord : Record CredentialsConfig where
  name := "CredentialsConfig"
  fields := [.of "ssl" (sslRecord.read {}) fun v c => { c with ssl := v }]

def configRecord : Record Config where
  name := "Config"
  fields := [
    .of "backend" (backendRecord.read {}) fun v c => { c with backend := v },
    .of "credentials" (credentialsRecord.read {}) fun v c => { c with credentials := v }]

/-! ## Documents -/

/-- The faults of the values come before those of the text behind them. -/
def ofDocument (d : Document) : Except Refusal Config := do
  let config ← match d.root with
    | none => .ok {}
    | some root => configRecord.read {} d [] root
  if d.complete then .ok config else .error .unreadable

def ofYaml (text : String) : Except Refusal Config := ofDocument (Yaml.read text.toList)

end BackendLink.Config
