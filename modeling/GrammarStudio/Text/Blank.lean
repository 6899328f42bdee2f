/-!
# Blank characters

A character is *blank* when it has the Unicode property White_Space.  The set is larger than the ASCII one: it
holds the no-break space, the ideographic space and the two separators, and it holds no zero-width character.

* `isBlank` — the property, as its table;
* `trim` — a text without the blanks at its two ends;
* `allBlank` — a text that says nothing.
-/

namespace GrammarStudio.Text

/-- The property White_Space. -/
def isBlank (c : Char) : Bool :=
  let n := c.toNat
  (0x9 ≤ n && n ≤ 0xD) || n == 0x20 || n == 0x85 || n == 0xA0 || n == 0x1680 || (0x2000 ≤ n && n ≤ 0x200A)
    || n == 0x2028 || n == 0x2029 || n == 0x202F || n == 0x205F || n == 0x3000

/-- Nothing but blanks; the empty text is one such. -/
def allBlank (text : String) : Bool := text.toList.all isBlank

/-- The text without the blanks it starts and ends with. -/
def trim (text : String) : String :=
  String.ofList ((text.toList.dropWhile isBlank).reverse.dropWhile isBlank).reverse

end GrammarStudio.Text
