import PluginNaming.Token

set_option autoImplicit false

namespace PluginNaming

structure Scanner where
  text : String
  place : Nat
deriving DecidableEq

namespace Scanner

def start (text : String) : Scanner := ⟨text, 0⟩

def rest (scanner : Scanner) : List Char :=
  scanner.text.toList.drop scanner.place

def moveTo (scanner : Scanner) (rest : List Char) : Scanner :=
  { scanner with place := placeOf scanner.text rest }

def isAtEnd (scanner : Scanner) : Bool := scanner.rest.isEmpty

def unexpected (scanner : Scanner) : Fault :=
  .pointing scanner.text scanner.place

def expectEnd (scanner : Scanner) : Except Fault Unit :=
  if scanner.isAtEnd then .ok () else .error scanner.unexpected

def take {α : Type} (read : List Char → Taken α) (scanner : Scanner) :
    Except Fault (Option α) × Scanner :=
  match read scanner.rest with
  | .token value rest => (.ok (some value), scanner.moveTo rest)
  | .absent => (.ok none, scanner)
  | .failed stop => (.error (stop.fault scanner.text), scanner.moveTo stop.rest)

def takeIf (test : Char → Bool) (text : List Char) : Taken Char :=
  match text with
  | [] => .absent
  | c :: rest => if test c then .token c rest else .absent

def run (test : Char → Bool) (scanner : Scanner) : String × Scanner :=
  (String.ofList (scanner.rest.takeWhile test), scanner.moveTo (scanner.rest.dropWhile test))

def since (scanner : Scanner) (earlier : Nat) : String :=
  String.ofList ((scanner.text.toList.take scanner.place).drop earlier)

end Scanner

end PluginNaming
