set_option autoImplicit false

namespace PluginNaming.Text

-- The twenty-five characters with the Unicode property White_Space.
def isBlank (c : Char) : Bool :=
  let point := c.toNat
  (0x09 ≤ point && point ≤ 0x0D) || point == 0x20 || point == 0x85 || point == 0xA0 ||
    point == 0x1680 || (0x2000 ≤ point && point ≤ 0x200A) || point == 0x2028 ||
    point == 0x2029 || point == 0x202F || point == 0x205F || point == 0x3000

def skipBlanks (text : List Char) : List Char :=
  text.dropWhile isBlank

def startsBlank : List Char → Bool
  | [] => false
  | c :: _ => isBlank c

theorem skip_blanks_suffix (text : List Char) : skipBlanks text <:+ text :=
  List.dropWhile_suffix isBlank

theorem skip_blanks_length (text : List Char) : (skipBlanks text).length ≤ text.length :=
  (skip_blanks_suffix text).length_le

theorem starts_blank_skip_blanks (text : List Char) : startsBlank (skipBlanks text) = false := by
  induction text with
  | nil => rfl
  | cons c rest hypothesis =>
      by_cases blank : isBlank c = true
      · simpa [skipBlanks, List.dropWhile_cons, blank] using hypothesis
      · simp [skipBlanks, blank, startsBlank]

end PluginNaming.Text
