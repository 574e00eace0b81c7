import PluginNaming.Text.Pieces

set_option autoImplicit false

namespace PluginNaming

open Text

abbrev FileContent := Except String ByteArray

def noSuchFile : String := "No such file or directory (os error 2)"

def notDirectory : String := "Not a directory (os error 20)"

def isDirectory : String := "Is a directory (os error 21)"

def nameTooLong : String := "File name too long (os error 36)"

def longestFileName : Nat := 255

abbrev Directory := List (String × ByteArray)

namespace Directory

inductive Place where
  | directory (own : Bool)
  | file (content : ByteArray)
  | absent

def enter (directory : Directory) (place : Place) (name : List Char) : Except String Place :=
  match place with
  | .absent => .error noSuchFile
  | .file _ => .error notDirectory
  | .directory own =>
      if name.isEmpty ∨ name = ['.'] then .ok (.directory own)
      else if name = ['.', '.'] then .ok (.directory false)
      else if longestFileName < (String.ofList name).utf8ByteSize then .error nameTooLong
      else
        match directory.lookup (String.ofList name) with
        | some content => .ok (if own then .file content else .absent)
        | none => .ok .absent

def names (path : List Char) : List (List Char) := pieces (· == '/') path

def start (path : List Char) : Place := .directory (path.head? != some '/')

def read (directory : Directory) (path : String) : FileContent := do
  match ← (names path.toList).foldlM directory.enter (start path.toList) with
  | .file content => return content
  | .directory _ => throw isDirectory
  | .absent => throw noSuchFile

def write (directory : Directory) (path : String) (content : ByteArray) :
    Except String Directory := do
  let bare := (path.toList.reverse.dropWhile (· == '/')).reverse
  let name := (names bare).getLastD []
  match ← (names bare).dropLast.foldlM directory.enter (start bare) with
  | .absent => throw noSuchFile
  | .file _ => throw notDirectory
  | .directory own =>
      if bare ≠ path.toList ∨ [[], ['.'], ['.', '.']].contains name then throw isDirectory
      else if longestFileName < (String.ofList name).utf8ByteSize then throw nameTooLong
      else if own then
        return (String.ofList name, content) ::
          directory.filter fun file => file.1 != String.ofList name
      else return directory

end Directory

end PluginNaming
