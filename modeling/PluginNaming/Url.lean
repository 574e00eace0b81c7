import PluginNaming.Fault

set_option autoImplicit false

namespace PluginNaming

variable [UrlLibrary]

def Url.examine (text : String) : Except Url.Defect ParsedUrl :=
  match UrlLibrary.parse text with
  | .error reason => .error (.refused reason)
  | .ok parsed =>
      if parsed.cannotBeBase then .error .cannotBeBase
      else if parsed.hasHost then .ok parsed
      else .error .missingHost

-- A url is the text exactly as it was given; the normal form is only a view of it.
structure Url where
  text : String
  accepted : (Url.examine text).isOk = true
deriving DecidableEq

namespace Url

def parse (text : String) : Except Defect Url :=
  match found : examine text with
  | .ok _ => .ok ⟨text, by rw [found]; rfl⟩
  | .error defect => .error defect

def require (text : String) : Except Fault Url :=
  (parse text).mapError fun defect => .invalidUrl text { defect, place := none }

def normalForm (url : Url) : String :=
  match examine url.text with
  | .ok parsed => parsed.normalForm
  | .error _ => url.text

instance : Ord Url := ⟨fun a b => compare a.text b.text⟩

theorem eq_of_text (a b : Url) (same : a.text = b.text) : a = b := by
  cases a
  cases b
  cases same
  rfl

instance : Std.TransOrd Url :=
  inferInstanceAs (Std.TransCmp (compareOn Url.text))

instance : Std.LawfulEqOrd Url where
  compare_self := Std.ReflOrd.compare_self
  eq_of_compare same := eq_of_text _ _ (Std.LawfulEqOrd.eq_of_compare same)

end Url

end PluginNaming
