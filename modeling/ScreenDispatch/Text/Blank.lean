import ScreenDispatch.Text.CodeRange

/-!
White space in the sense of Unicode, with the four separators U+001C to U+001F, and the text
that is left when it is cut off at the ends.
-/
set_option autoImplicit false

namespace ScreenDispatch.Text

def blankTable : CharSet :=
  [⟨0x9, 0xd⟩, ⟨0x1c, 0x20⟩, ⟨0x85, 0x85⟩, ⟨0xa0, 0xa0⟩, ⟨0x1680, 0x1680⟩, ⟨0x2000, 0x200a⟩,
   ⟨0x2028, 0x2029⟩, ⟨0x202f, 0x202f⟩, ⟨0x205f, 0x205f⟩, ⟨0x3000, 0x3000⟩]

def isBlank (c : Char) : Bool := blankTable.has c

def trimLeft (cs : List Char) : List Char := cs.dropWhile isBlank

def trimRight (cs : List Char) : List Char := (cs.reverse.dropWhile isBlank).reverse

def trim (cs : List Char) : List Char := trimRight (trimLeft cs)

def trimmed (s : String) : String := String.ofList (trim s.toList)

def trimmedRight (s : String) : String := String.ofList (trimRight s.toList)

end ScreenDispatch.Text
