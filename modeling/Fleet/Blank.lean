/-!
# Blank characters

The characters with the Unicode property White_Space, and trimming by them. The class is wider than
`Char.isWhitespace`, which knows four characters.
-/

namespace Fleet

/-- Ranges of the Unicode property White_Space. -/
def blankRanges : List (Nat × Nat) :=
  [(0x09, 0x0D), (0x20, 0x20), (0x85, 0x85), (0xA0, 0xA0), (0x1680, 0x1680), (0x2000, 0x200A),
   (0x2028, 0x2029), (0x202F, 0x202F), (0x205F, 0x205F), (0x3000, 0x3000)]

/-- Whether a character has the property White_Space. -/
def isBlank (c : Char) : Bool :=
  blankRanges.any fun (low, high) => low ≤ c.toNat && c.toNat ≤ high

/-- A list of characters without the blank ones at its front. -/
def dropBlanks (cs : List Char) : List Char := cs.dropWhile isBlank

/-- A list of characters without the blank ones at its end. -/
def dropEndBlanks (cs : List Char) : List Char := (cs.reverse.dropWhile isBlank).reverse

/-- A text without the blank characters at its front. -/
def trimStart (s : String) : String := String.ofList (dropBlanks s.toList)

/-- A text without the blank characters at its end. -/
def trimEnd (s : String) : String := String.ofList (dropEndBlanks s.toList)

/-- A text without the blank characters at either end. -/
def trim (s : String) : String := String.ofList (dropEndBlanks (dropBlanks s.toList))

end Fleet
