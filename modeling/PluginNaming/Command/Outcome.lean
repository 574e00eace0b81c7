import PluginNaming.Catalog.Store
import PluginNaming.Command.Arguments
import PluginNaming.Command.LogFilter

set_option autoImplicit false

namespace PluginNaming

open Text

structure Outcome where
  code : Nat
  output : String
  errors : String
deriving DecidableEq

namespace Outcome

def done (output : String) : Outcome := { code := 0, output, errors := "" }

def failed (message : String) : Outcome :=
  { code := 1, output := "", errors := s!"error: {message}\n" }

def ofFault (fault : Fault) : Outcome := failed fault.message

def ofFilterFlaw (filter : String) : LogFilter.Flaw → Outcome
  | .refused => failed s!"invalid log filter {quote filter}"
  | .torn => { failed s!"log filter with a torn part {quote filter}" with code := 101 }

def ofStoreFault (fault : StoreFault) : Outcome := failed fault.message

def ofExcept : Except Outcome Outcome → Outcome
  | .ok outcome => outcome
  | .error outcome => outcome

end Outcome

namespace Command

def version : String := "plugin 0.1.0\n"

def greeting : String := "plugin Plugin CLI\n\nRun plugin --help for available commands.\n"

def warning : String := "warning: none of the provided plugins is named by the aliases\n"

section Running

variable [UrlLibrary]

def mergeOutcome (declared published : String) : Except Fault Outcome := do
  let declarations ← AliasSet.parse .plugin declared
  let provided ← InfoSet.parse .plugin published
  let merged ← declarations.merge provided
  let isLost := merged.infos.isEmpty && !provided.infos.isEmpty
  return { code := 0, output := merged.text ++ "\n", errors := if isLost then warning else "" }

def infoLine (ambiguous : List (Name .plugin)) (info : Info .plugin) : String :=
  s!"  {spread 24 info.name.text} {info.url.text}" ++
    (if ambiguous.contains info.name then " (ambiguous)\n" else "\n")

def providerLines (ambiguous : List (Name .plugin)) (provider : Provider .plugin Unit Instance) :
    String :=
  let shown := provider.infos.infos
  s!"{provider.name} ({provider.url.text}):\n" ++
    (if shown.isEmpty then "  (none)\n" else String.join (shown.map (infoLine ambiguous))) ++ "\n"

def listText (registry : Registry .plugin Unit Instance) : String :=
  let total := registry.infos.length
  let count := registry.providers.length
  "Available Plugins\n\n" ++
    String.join (registry.providers.map (providerLines registry.ambiguous)) ++
    s!"Total: {total} plugins from {count} providers, {registry.ambiguous.length} ambiguous.\n"

variable [FormatLibrary]

def loadCatalog (path : String) (content : FileContent) :
    Except Outcome (Catalog × Registry .plugin Unit Instance) := do
  let catalog ← (Catalog.load defaultLimit path content).mapError .ofStoreFault
  let registry ← catalog.registry.mapError fun fault => .ofStoreFault (.plugin fault)
  return (catalog, registry)

def resolveOutcome (path selector : String) (content : FileContent) : Except Outcome Outcome := do
  let (catalog, _) ← loadCatalog path content
  let selector ← (Selector.parse .plugin selector).mapError .ofFault
  let made ← (catalog.resolve selector).mapError .ofFault
  return .done (made.tree 0)

def run (content : FileContent) : Command → Outcome
  | .infos text =>
      match InfoSet.parse .plugin text with
      | .ok set => .done (set.text ++ "\n")
      | .error fault => .ofFault fault
  | .aliases text =>
      match AliasSet.parse .plugin text with
      | .ok set => .done (set.text ++ "\n")
      | .error fault => .ofFault fault
  | .merge declared published => .ofExcept ((mergeOutcome declared published).mapError .ofFault)
  | .list path => .ofExcept do
      let (_, registry) ← loadCatalog path content
      return .done (listText registry)
  | .resolve path selector => .ofExcept (resolveOutcome path selector content)

end Running

end Command

def Refusal.outcome : Refusal → Outcome
  | .help topic long => .done (topic.text long)
  | .version => .done Command.version
  | .misuse => { code := 2, output := "", errors := Command.programHelp }

variable [UrlLibrary] [FormatLibrary]

def Invocation.run (invocation : Invocation) (filter : Option String) (content : FileContent) :
    Outcome :=
  match (if invocation.verbose then none else filter) with
  | some text =>
      match LogFilter.check text with
      | .ok () => answer
      | .error flaw => .ofFilterFlaw text flaw
  | none => answer
where
  answer : Outcome :=
    match invocation.command with
    | some command => command.run content
    | none => .done Command.greeting

def neededPath? (arguments : List String) : Option String :=
  match Invocation.ofArguments arguments with
  | .ok invocation => invocation.command.bind Command.catalog?
  | .error _ => none

def Outcome.ofArguments (arguments : List String) (filter : Option String)
    (content : FileContent) : Outcome :=
  match Invocation.ofArguments arguments with
  | .ok invocation => invocation.run filter content
  | .error refusal => refusal.outcome

end PluginNaming
