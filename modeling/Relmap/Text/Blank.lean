/-! White space as the Unicode property has it, twenty-five characters in ten ranges, and the
trimming that names, hints and statements go through before they are read. -/

namespace Relmap.Text

def blankRanges : List (Nat × Nat) :=
  [(0x09, 0x0D), (0x20, 0x20), (0x85, 0x85), (0xA0, 0xA0), (0x1680, 0x1680), (0x2000, 0x200A),
   (0x2028, 0x2029), (0x202F, 0x202F), (0x205F, 0x205F), (0x3000, 0x3000)]

def inRanges (ranges : List (Nat × Nat)) (code : Nat) : Bool :=
  ranges.any fun (first, last) => first ≤ code && code ≤ last

def isBlank (c : Char) : Bool := inRanges blankRanges c.toNat

/-- Blanks at either end do not count; those between other characters stay. -/
def trim (text : List Char) : List Char :=
  ((text.dropWhile isBlank).reverse.dropWhile isBlank).reverse

def trimmed (text : String) : String := String.ofList (trim text.toList)

def allBlank (text : String) : Bool := text.toList.all isBlank

end Relmap.Text
