/-!
# White space

Four sets of blanks, each with its own reader. They differ in few characters, and a text that tells
them apart is read differently by each, so none stands for another:

* `isBlank`: white space of Unicode with the four separators U+001C to U+001F; it separates words;
* `isWhiteSpace`: the property White_Space alone; it surrounds a numeral in a document;
* `isAsciiBlank`: the six of ASCII; they surround a numeral in an ASCII setting;
* `isJsonBlank`: the four that may stand between the tokens of a JSON text.
-/

namespace SampleSchema

/-- The six blanks of ASCII: tab, line feed, vertical tab, form feed, carriage return, space. -/
def isAsciiBlank (c : Char) : Bool := (0x09 ≤ c.toNat && c.toNat ≤ 0x0D) || c.toNat == 0x20

/-- The Unicode property White_Space. -/
def isWhiteSpace (c : Char) : Bool :=
  isAsciiBlank c || [0x85, 0xA0, 0x1680, 0x2028, 0x2029, 0x202F, 0x205F, 0x3000].contains c.toNat ||
    (0x2000 ≤ c.toNat && c.toNat ≤ 0x200A)

/-- White space, and the four separators of ASCII. -/
def isBlank (c : Char) : Bool := isWhiteSpace c || (0x1C ≤ c.toNat && c.toNat ≤ 0x1F)

/-- The blanks between the tokens of a JSON text. -/
def isJsonBlank (c : Char) : Bool := c == ' ' || c == '\t' || c == '\n' || c == '\r'

/-- A text without the characters of a class at its two ends. -/
def trimmed (drop : Char → Bool) (cs : List Char) : List Char :=
  ((cs.dropWhile drop).reverse.dropWhile drop).reverse

end SampleSchema
