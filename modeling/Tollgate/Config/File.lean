import Tollgate.Config.Settings
import Tollgate.Text.Split
import Tollgate.Toml.Quoted
import Tollgate.Toml.Reader
import Tollgate.Yaml.Reader

/-!
# Configuration files

Settings are read from TOML or YAML, as the name of a file says, and written as TOML.
-/

namespace Tollgate.Config

inductive Format where
  | toml
  | yaml
  deriving DecidableEq, Repr

def ofText? (format : Format) (text : String) : Option Config :=
  match format with
  | .toml => (Toml.parse? text).bind ofNode?
  | .yaml => (Yaml.parse? text).bind ofNode?

/-- The part of a file name behind its last dot. A dot at the start of the name does not count. -/
def extension? (path : String) : Option String :=
  let name := Text.afterLast '/' path.toList
  let stem := name.reverse.dropWhile (· ≠ '.')
  if stem.length ≤ 1 then none else some (String.ofList (Text.afterLast '.' name))

/-- The format of a file. Any name without an extension of YAML is one of TOML. -/
def Format.ofPath (path : String) : Format :=
  match extension? path with
  | some "yaml" | some "yml" => .yaml
  | _ => .toml

/-- Why a file gives no settings. -/
inductive LoadError where
  /-- There is no such file. -/
  | missing
  /-- It is not a text of the format, or sets something that cannot be. -/
  | malformed (format : Format)
  deriving DecidableEq, Repr

/-- What the system says of a file that is not there. -/
def noSuchFile : String := "No such file or directory (os error 2)"

/-- What is said of a file that cannot be read. -/
def LoadError.message? : LoadError → Option String
  | .missing => some s!"Failed to read config: {noSuchFile}"
  | .malformed _ => none

/-- The settings of a file, given what it holds. -/
def load (path : String) (content : Option String) : Except LoadError Config :=
  match content with
  | none => .error .missing
  | some text =>
    let format := Format.ofPath path
    match ofText? format text with
    | some config => .ok config
    | none => .error (.malformed format)

/-! ## Writing -/

def valueText : Node → String
  | .text value => String.ofList (Toml.Quoted.write value.toList)
  | .integer value => toString value
  | .boolean value => toString value
  | _ => ""

def sectionText : String × Node → String
  | (name, .table entries) =>
    String.join (s!"[{name}]\n" :: entries.map fun (key, value) => s!"{key} = {valueText value}\n")
  | _ => ""

/-- The text of a tree of sections, with an empty line between each two. -/
def sectionsText : Node → String
  | .table sections => "\n".intercalate (sections.map sectionText)
  | _ => ""

/-- Settings as TOML. There are no numbers beyond the 64-bit integers in TOML. -/
def toml? (config : Config) : Option String :=
  let fits := fun (n : UInt64) => n.toNat ≤ Text.maxInt64
  if fits config.tunnel.meterInterval && fits config.tunnel.dialTimeout then
    some (sectionsText config.node)
  else none

end Tollgate.Config
