import PluginNaming.Bundled.Json.Reader
import PluginNaming.Bundled.Toml.Reader
import PluginNaming.Bundled.Toml.Writer
import PluginNaming.Bundled.Yaml.Reader
import PluginNaming.Bundled.Yaml.Writer
import PluginNaming.Catalog.Format
import PluginNaming.Data.Json.Writer

set_option autoImplicit false

namespace PluginNaming.Bundled

open PluginNaming.Data

section Reading

variable (document : Document)

def aliasesOf : Option Node → Reading (Option String)
  | none => return none
  | some node => do (← document.present node).mapM document.text

def entryOf (node : Node) : Reading EntryRecord := do
  match ← document.fields ["name", "url", "infos", "aliases"] node with
  | [some name, some url, some infos, aliases] =>
      return {
        name := ← document.text name
        url := ← document.text url
        infos := ← document.text infos
        aliases := ← aliasesOf document aliases }
  | _ => failure

def variableOf (member : Node × Node) : Reading (String × Json) := do
  return (← document.text member.1, ← document.value (document.levels - 2) member.2)

def recordOf (node : Node) : Reading Record := do
  match ← document.fields ["providers", "environment"] node with
  | [providers, environment] =>
      return {
        providers := ← providers.mapM fun node => do (← document.items node).mapM (entryOf document)
        environment := ← environment.mapM fun node => do
          (← document.members node).mapM (variableOf document) }
  | _ => failure

end Reading

section Writing

def entryJson (entry : EntryRecord) : Json :=
  .object ([("name", .text entry.name), ("url", .text entry.url), ("infos", .text entry.infos)] ++
    (entry.aliases.map fun aliases => ("aliases", .text aliases)).toList)

def recordJson (record : Record) : Json :=
  .object ((record.providers.map fun entries =>
      ("providers", .array (entries.map entryJson))).toList ++
    (record.environment.map fun members => ("environment", .object members)).toList)

end Writing

def document? : Format → String → Option Document
  | .toml, text => Toml.document? text
  | .json, text => Json.document? text
  | .yaml, text => Yaml.document? text

def write? : Format → Json → Option String
  | .toml, value => Toml.write? value
  | .json, value => some value.writePretty
  | .yaml, value => some (Yaml.write value)

@[reducible]
def formats : FormatLibrary where
  read? format text := (document? format text).bind fun document => document.read? recordOf
  write? format record := write? format (recordJson record)

end PluginNaming.Bundled
