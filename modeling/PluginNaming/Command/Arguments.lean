import PluginNaming.Command
import PluginNaming.Command.Help

set_option autoImplicit false

namespace PluginNaming

inductive Refusal where
  | help (topic : Command.HelpTopic) (long : Bool)
  | version
  | misuse
deriving DecidableEq

namespace Command

inductive Argument where
  | separator
  | long (name : String) (value : Option String)
  | switches (letters : List Char)
  | operand (text : String)

def Argument.ofText (text : String) : Argument :=
  match text.toList with
  | ['-', '-'] => .separator
  | '-' :: '-' :: rest =>
      let name := String.ofList (rest.takeWhile (· != '='))
      match rest.dropWhile (· != '=') with
      | [] => .long name none
      | _ :: value => .long name (some (String.ofList value))
  | '-' :: first :: rest => .switches (first :: rest)
  | _ => .operand text

structure Given where
  verbose : Bool
  options : List (String × String)
  operands : List String

namespace Given

def nothing : Given := { verbose := false, options := [], operands := [] }

def addSwitch (topic : HelpTopic) (given : Given) (letter : Char) : Except Refusal Given :=
  if letter = 'h' then .error (.help topic false)
  else if letter = 'V' ∧ topic = .program then .error .version
  else if letter = 'v' ∧ given.verbose = false then .ok { given with verbose := true }
  else .error .misuse

def addLong (topic : HelpTopic) (given : Given) (name : String) (value : Option String) :
    Except Refusal Given :=
  match name, value with
  | "verbose", none => given.addSwitch topic 'v'
  | "help", none => .error (.help topic true)
  | "version", none => given.addSwitch topic 'V'
  | _, _ => .error .misuse

def addOption (given : Given) (name value : String) : Except Refusal Given :=
  if (given.options.lookup name).isSome ∨ (name = "catalog" ∧ value = "") then .error .misuse
  else .ok { given with options := given.options ++ [(name, value)] }

def addOperand (form : Form) (given : Given) (text : String) : Except Refusal Given :=
  if given.operands.length < form.operands.length then
    .ok { given with operands := given.operands ++ [text] }
  else .error .misuse

def read (form : Form) (given : Given) : List String → Except Refusal Given
  | [] => .ok given
  | text :: rest =>
      match Argument.ofText text with
      | .separator => rest.foldlM (addOperand form) given
      | .switches letters => do read form (← letters.foldlM (addSwitch (.command form)) given) rest
      | .operand text => do read form (← given.addOperand form text) rest
      | .long name value =>
          if form.options.any (·.1 == name) then
            match value, rest with
            | some value, rest => do read form (← given.addOption name value) rest
            | none, next :: rest =>
                match Argument.ofText next with
                | .operand value => do read form (← given.addOption name value) rest
                | _ => .error .misuse
            | none, [] => .error .misuse
          else do read form (← given.addLong (.command form) name value) rest

def command? (name : String) (given : Given) : Option Command :=
  match name, given.operands with
  | "infos", [text] => some (.infos text)
  | "aliases", [text] => some (.aliases text)
  | "merge", [] => do
      return .merge (← given.options.lookup "aliases") (← given.options.lookup "infos")
  | "list", [] => do return .list (← given.options.lookup "catalog")
  | "resolve", [selector] => do return .resolve (← given.options.lookup "catalog") selector
  | _, _ => none

end Given

def read (verbose : Bool) (name : String) (rest : List String) : Except Refusal Invocation :=
  match form? name with
  | none => .error .misuse
  | some form => do
      let given ← Given.nothing.read form rest
      match given.command? name with
      | some command => .ok { verbose := verbose || given.verbose, command }
      | none => .error .misuse

end Command

open Command

def Invocation.read (given : Given) : List String → Except Refusal Invocation
  | [] => .ok { verbose := given.verbose, command := none }
  | text :: rest =>
      match Argument.ofText text with
      | .separator =>
          if rest.isEmpty then .ok { verbose := given.verbose, command := none }
          else .error .misuse
      | .switches letters => do Invocation.read (← letters.foldlM (Given.addSwitch .program) given) rest
      | .long name value => do Invocation.read (← given.addLong .program name value) rest
      | .operand name =>
          if name = "help" then
            match HelpTopic.ofNames? rest with
            | some topic => .error (.help topic true)
            | none => .error .misuse
          else Command.read given.verbose name rest

def Invocation.ofArguments (arguments : List String) : Except Refusal Invocation :=
  Invocation.read Given.nothing arguments

end PluginNaming
