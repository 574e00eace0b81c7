set_option autoImplicit false

namespace PluginNaming.Command

structure Form where
  name : String
  about : String
  sample : Option String
  options : List (String × String)
  operands : List (String × String)
deriving DecidableEq

def catalogOption : String × String := ("catalog", "Catalog file (.toml, .json, .yaml)")

def forms : List Form := [
  { name := "infos"
    about := "Parse an info set and print its canonical text"
    sample := some "plugin infos \"https://example.com/b b, https://example.com/a a\""
    options := []
    operands := [("text", "Info set text: \x60URL NAME\x60 entries separated by commas")] },
  { name := "aliases"
    about := "Parse an alias set and print its canonical text"
    sample := some
      "plugin aliases \"a, short long-name, custom base (1) https://example.com/custom\""
    options := []
    operands := [("text",
      "Alias set text: \x60name\x60, \x60alias selector\x60 or \x60alias selector url\x60 declarations")] },
  { name := "merge"
    about := "Merge an alias set with a provider's info set"
    sample := none
    options := [("aliases", "Alias set text"),
      ("infos", "Info set text published by the provider")]
    operands := [] },
  { name := "list"
    about := "List the plugins of every provider in a catalog"
    sample := none
    options := [catalogOption]
    operands := [] },
  { name := "resolve"
    about := "Resolve a selector through a catalog and print the plugin tree"
    sample := some "plugin resolve --catalog plugins.toml 'collection(to-date(\"yyyy-mm-dd\"))'"
    options := [catalogOption]
    operands := [("selector", "Selector, e.g. \x60name\x60 or \x60name(parameter, ...)\x60")] }]

def form? (name : String) : Option Form := forms.find? fun form => form.name == name

end PluginNaming.Command
