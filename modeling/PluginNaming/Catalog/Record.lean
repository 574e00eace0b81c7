import PluginNaming.Catalog
import PluginNaming.Catalog.Format

set_option autoImplicit false

namespace PluginNaming

open Data

variable [UrlLibrary]

namespace Entry

def ofRecord? (record : EntryRecord) : Option Entry := do
  return {
    name := ← (Name.parse .provider record.name).toOption
    url := ← (Url.require record.url).toOption
    infos := ← (InfoSet.parse .plugin record.infos).toOption
    aliases := ← record.aliases.mapM fun text => (AliasSet.parse .plugin text).toOption }

def record (entry : Entry) : EntryRecord where
  name := entry.name.text
  url := entry.url.text
  infos := entry.infos.text
  aliases := entry.aliases.map AliasSet.text

end Entry

namespace Contents

def ofMember? (member : String × Json) : Option (Name .environment × Json) := do
  return (← (Name.parse .environment member.1).toOption, member.2)

def ofRecord? (record : Record) : Option Contents := do
  return {
    entries := ← (record.providers.getD []).mapM Entry.ofRecord?
    environment := .ofList (← (record.environment.getD []).mapM ofMember?) }

def member (entry : Name .environment × Json) : String × Json :=
  (entry.1.text, entry.2)

def record (contents : Contents) : Record where
  providers := some (contents.entries.map Entry.record)
  environment :=
    if contents.environment.values = [] then none
    else some (contents.environment.values.map member)

end Contents

end PluginNaming
