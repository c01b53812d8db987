/-!
# Blank characters and trimming

One set of blank characters serves every place where surrounding space does not count: the tokens
of an endpoint list, the keys of a template, the ports of connections and the texts of numbers.
-/

namespace NameRouting.Text

/-- The blank characters: the white space of Unicode together with the four information
separators U+001C to U+001F. -/
def isBlank (c : Char) : Bool :=
  let n := c.toNat
  (0x09 ≤ n && n ≤ 0x0D) || (0x1C ≤ n && n ≤ 0x20) || n == 0x85 || n == 0xA0 || n == 0x1680 ||
    (0x2000 ≤ n && n ≤ 0x200A) || n == 0x2028 || n == 0x2029 || n == 0x202F || n == 0x205F ||
    n == 0x3000

/-- Drops the blanks in front. -/
def trimLeft (cs : List Char) : List Char :=
  cs.dropWhile isBlank

/-- Drops the blanks at the end. -/
def trimRight (cs : List Char) : List Char :=
  (cs.reverse.dropWhile isBlank).reverse

/-- Drops the blanks on both sides. -/
def trim (cs : List Char) : List Char :=
  trimRight (trimLeft cs)

/-- The text without the blanks on both sides. -/
def trimmed (s : String) : String :=
  String.ofList (trim s.toList)

/-- Trimming in front drops a blank that stands there. -/
theorem trimLeft_cons_of_isBlank {c : Char} {cs : List Char} (h : isBlank c = true) :
    trimLeft (c :: cs) = trimLeft cs := by
  simp [trimLeft, h]

/-- Nothing is left of a text of blanks. -/
theorem trim_of_all_isBlank {cs : List Char} (h : ∀ c ∈ cs, isBlank c = true) : trim cs = [] := by
  have : trimLeft cs = [] := by
    induction cs with
    | nil => rfl
    | cons c rest ih =>
      rw [trimLeft_cons_of_isBlank (h c (by simp))]
      exact ih fun d hd => h d (by simp [hd])
  simp [trim, trimRight, this]

end NameRouting.Text
