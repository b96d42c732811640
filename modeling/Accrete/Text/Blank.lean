/-!
# Blanks

The characters that trimming removes: the white space of Unicode, and the four information
separators `U+001C` to `U+001F`.

* `isBlank`     -- membership in the class
* `trim`        -- a text without leading and trailing blanks
* `isBlank_of_isWhitespace` -- the class extends the core library's white space
-/

namespace Accrete.Text

def isBlank (c : Char) : Bool :=
  let n := c.toNat
  (9 ≤ n && n ≤ 13) || (28 ≤ n && n ≤ 32) || n == 0x85 || n == 0xa0 || n == 0x1680 ||
    (0x2000 ≤ n && n ≤ 0x200a) || n == 0x2028 || n == 0x2029 || n == 0x202f || n == 0x205f ||
    n == 0x3000

def trimLeft (cs : List Char) : List Char := cs.dropWhile isBlank

def trimRight (cs : List Char) : List Char := (cs.reverse.dropWhile isBlank).reverse

def trimChars (cs : List Char) : List Char := trimRight (trimLeft cs)

/-- A text without blanks at either end. -/
def trim (s : String) : String := String.ofList (trimChars s.toList)

/-- What the core library calls white space is blank. -/
theorem isBlank_of_isWhitespace {c : Char} (h : c.isWhitespace = true) : isBlank c = true := by
  simp only [Char.isWhitespace, Bool.or_eq_true, decide_eq_true_eq] at h
  rcases h with ((h | h) | h) | h <;> subst h <;> decide

end Accrete.Text
