import PluginNaming.Text.Rest

set_option autoImplicit false

namespace PluginNaming.Bundled

open PluginNaming.Text

def isPadding (c : Char) : Bool := c == ' ' || c == '\t'

def dropPadding (text : List Char) : List Char := text.dropWhile isPadding

theorem drop_padding_length (text : List Char) : (dropPadding text).length ≤ text.length :=
  (List.dropWhile_suffix isPadding).length_le

def afterPadding {text rest : List Char} {c : Char} (found : dropPadding text = c :: rest) :
    Rest text :=
  .behind (drop_padding_length text) found

def withLineFeeds : List Char → List Char
  | [] => []
  | '\r' :: '\n' :: rest => '\n' :: withLineFeeds rest
  | c :: rest => c :: withLineFeeds rest

def withoutMark (text : List Char) : List Char :=
  if text.head? = some '\uFEFF' then text.drop 1 else text

end PluginNaming.Bundled
