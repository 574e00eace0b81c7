import PluginNaming.Command.Form

set_option autoImplicit false

namespace PluginNaming.Command

inductive HelpTopic where
  | program
  | help
  | command (form : Form)
deriving DecidableEq

def HelpTopic.ofNames? : List String → Option HelpTopic
  | [] => some .program
  | [name] => if name = "help" then some .help else (form? name).map .command
  | _ => none

def spread (width : Nat) (name : String) : String :=
  name ++ String.ofList (List.replicate (width - name.length) ' ')

def columns (parts : List (String × String)) : String :=
  let width := (parts.map fun part => part.1.length).foldl max 0
  String.join (parts.map fun (name, text) => s!"  {spread width name}  {text}\n")

def stacked (parts : List (String × String)) : String :=
  String.intercalate "\n" (parts.map fun (name, text) => s!"  {name}\n          {text}\n")

def headed (heading : String) (layout : List (String × String) → String)
    (parts : List (String × String)) : String :=
  if parts.isEmpty then "" else s!"\n{heading}:\n{layout parts}"

def helpAbout : String := "Print this message or the help of the given subcommand(s)"

def verboseSwitch : String × String := ("-v, --verbose", "Enable verbose output")

def programHelp : String :=
  "Command-line interface for plugin catalogs and alias sets\n\n" ++
    "Usage: plugin [OPTIONS] [COMMAND]\n" ++
    headed "Commands" columns
      ((forms.map fun form => (form.name, form.about)) ++ [("help", helpAbout)]) ++
    headed "Options" columns
      [verboseSwitch, ("-h, --help", "Print help"), ("-V, --version", "Print version")]

def helpHelp : String :=
  s!"{helpAbout}\n\nUsage: plugin help [COMMAND]...\n" ++
    headed "Arguments" columns [("[COMMAND]...", "Print help for the subcommand(s)")]

namespace Form

def placeholder (name : String) : String := s!"<{name.toUpper}>"

def usage (form : Form) : String :=
  String.intercalate " " (["plugin", form.name, "[OPTIONS]"] ++
    (form.options.map fun option => s!"--{option.1} {placeholder option.1}") ++
    form.operands.map fun operand => placeholder operand.1)

def switches (form : Form) (long : Bool) : List (String × String) :=
  let own := form.options.map fun (name, text) => (s!"    --{name} {placeholder name}", text)
  let more :=
    if form.sample.isNone then ""
    else if long then " (see a summary with '-h')"
    else " (see more with '--help')"
  own.take 1 ++ [verboseSwitch] ++ own.drop 1 ++ [("-h, --help", "Print help" ++ more)]

def help (form : Form) (asLong : Bool) : String :=
  let long := asLong && form.sample.isSome
  let layout := if long then stacked else columns
  let sample :=
    match form.sample, long with
    | some sample, true => s!"\n\nExamples: {sample}"
    | _, _ => ""
  s!"{form.about}{sample}\n\nUsage: {form.usage}\n" ++
    headed "Arguments" layout (form.operands.map fun (name, text) => (placeholder name, text)) ++
    headed "Options" layout (form.switches long)

end Form

def HelpTopic.text (topic : HelpTopic) (long : Bool) : String :=
  match topic with
  | .program => programHelp
  | .help => helpHelp
  | .command form => form.help long

end PluginNaming.Command
