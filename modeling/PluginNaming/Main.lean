import PluginNaming.Bundled.Formats
import PluginNaming.Bundled.Url
import PluginNaming.Command.Outcome

set_option autoImplicit false

namespace PluginNaming

def reasonOf : IO.Error → String
  | .noFileOrDirectory .. => noSuchFile
  | .permissionDenied .. => "Permission denied (os error 13)"
  | fault => toString fault

def contentAt (path : String) : IO FileContent := do
  try
    return .ok (← IO.FS.readBinFile path)
  catch fault =>
    return .error (reasonOf fault)

end PluginNaming

open PluginNaming

def main (arguments : List String) : IO UInt32 := do
  let content ←
    match neededPath? arguments with
    | some path => contentAt path
    | none => pure (.error noSuchFile)
  let _ := Bundled.urls
  let _ := Bundled.formats
  let outcome := Outcome.ofArguments arguments (← IO.getEnv "RUST_LOG") content
  IO.print outcome.output
  IO.eprint outcome.errors
  return outcome.code.toUInt32
