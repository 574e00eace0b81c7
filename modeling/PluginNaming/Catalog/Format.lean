import PluginNaming.Data.Json
import PluginNaming.Text.LowerCase

set_option autoImplicit false

namespace PluginNaming

open Data

inductive Format where
  | toml
  | json
  | yaml
deriving DecidableEq

namespace Format

def label : Format → String
  | .toml => "TOML"
  | .json => "JSON"
  | .yaml => "YAML"

def fileName (path : String) : List Char :=
  ((path.toList.reverse.dropWhile (· == '/')).takeWhile (· != '/')).reverse

def extension (path : String) : String :=
  let backwards := (fileName path).reverse
  let stem := (backwards.dropWhile (· != '.')).drop 1
  if stem.isEmpty then ""
  else String.ofList (Text.lowerCase (backwards.takeWhile (· != '.')).reverse)

def ofExtension? (extension : String) : Option Format :=
  if extension = "toml" then some .toml
  else if extension = "json" then some .json
  else if extension = "yaml" ∨ extension = "yml" then some .yaml
  else none

end Format

structure EntryRecord where
  name : String
  url : String
  infos : String
  aliases : Option String
deriving BEq

structure Record where
  providers : Option (List EntryRecord)
  environment : Option (List (String × Json))
deriving BEq

-- The readers and writers of the formats are not part of this development.
class FormatLibrary where
  read? : Format → String → Option Record
  write? : Format → Record → Option String

end PluginNaming
