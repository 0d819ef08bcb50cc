/-! What the texts of statements are made of: white space, words, and what stands between quotes or in a comment. -/

namespace Relmap.Text

/-- Six characters are white space between words; in particular the no-break space is none. -/
def isSpace (c : Char) : Bool := c == ' ' || ('\t' ≤ c && c ≤ '\r')

/-- Everything past ASCII belongs to words. -/
def isWordStart (c : Char) : Bool := c.isAlpha || c == '_' || 0x80 ≤ c.toNat

def isWordPart (c : Char) : Bool := isWordStart c || c.isDigit || c == '$'

/-- The content up to the closing quote, and how many characters it takes with the quote. A quote
that is written twice is part of the content. -/
def quotedContent (quote : Char) : List Char → Option (List Char × Nat)
  | [] => none
  | c :: rest =>
    if c != quote then (quotedContent quote rest).map fun (content, length) => (c :: content, length + 1)
    else
      match rest with
      | d :: others =>
        if d == quote then
          (quotedContent quote others).map fun (content, length) => (quote :: content, length + 2)
        else some ([], 1)
      | [] => some ([], 1)

/-- How far a block comment reaches behind its slash and star. One that is not closed reaches to the
end. -/
def blockLength : List Char → Nat
  | [] => 0
  | '*' :: '/' :: _ => 2
  | _ :: rest => blockLength rest + 1

end Relmap.Text
