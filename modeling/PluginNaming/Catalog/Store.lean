import PluginNaming.Catalog.Directory
import PluginNaming.Catalog.Format
import PluginNaming.Catalog.Record

set_option autoImplicit false

namespace PluginNaming

inductive StoreFault where
  | plugin (fault : Fault)
  | io (path reason : String)
  | unreadable (format : Format) (path : String)
  | unwritable (format : Format) (path : String)
  | unsupported (extension : String)
  | tooLarge (path : String) (size limit : Nat)
  | duplicateProvider (name : String)

def StoreFault.message : StoreFault → String
  | .plugin fault => s!"Plugin error: {fault.message}"
  | .io path reason => s!"I/O error at {path}: {reason}"
  | .unreadable format path => s!"Failed to parse {format.label} catalog at {path}"
  | .unwritable format path => s!"Failed to serialize {format.label} catalog for {path}"
  | .unsupported extension => s!"Unsupported catalog format: {extension}"
  | .tooLarge path size limit =>
      s!"Catalog file too large: {path} is {size} bytes (max {limit})"
  | .duplicateProvider name => s!"Duplicate provider {name} in catalog"

def defaultLimit : Nat := 1048576

namespace Catalog

def formatOf (path : String) : Except StoreFault Format :=
  match Format.ofExtension? (Format.extension path) with
  | some format => .ok format
  | none => .error (.unsupported (Format.extension path))

def textOf (limit : Nat) (path : String) : FileContent → Except StoreFault String
  | .error reason => .error (.io path reason)
  | .ok bytes =>
      if limit < bytes.size then .error (.tooLarge path bytes.size limit)
      else
        match String.fromUTF8? bytes with
        | some text => .ok text
        | none => .error (.io path "stream did not contain valid UTF-8")

variable [UrlLibrary] [FormatLibrary]

def read (path text : String) : Except StoreFault Catalog := do
  let format ← formatOf path
  match (FormatLibrary.read? format text).bind Contents.ofRecord? with
  | none => .error (.unreadable format path)
  | some contents =>
      (ofContents contents).mapError fun name => .duplicateProvider name.text

def load (limit : Nat) (path : String) (content : FileContent) : Except StoreFault Catalog := do
  read path (← textOf limit path content)

def write (catalog : Catalog) (path : String) : Except StoreFault String := do
  let format ← formatOf path
  match FormatLibrary.write? format catalog.toContents.record with
  | some text => .ok text
  | none => .error (.unwritable format path)

def save (catalog : Catalog) (directory : Directory) (path : String) :
    Except StoreFault (String × Directory) := do
  let text ← catalog.write path
  let changed ← (directory.write path text.toUTF8).mapError (.io path)
  return (text, changed)

end Catalog

end PluginNaming
