import ConsumerGroup.Text.CodeRanges

/-!
# Blank text

A text is blank when it holds nothing but white space, in the sense of
the character standard's `White_Space` property: the five ASCII controls
and the space, but also the no-break space and the spaces of other
scripts.
-/

namespace ConsumerGroup.Text

/-- The characters with the property `White_Space`. -/
def whiteSpace : CodeRanges :=
  ⟨[(0x9, 0xD), (0x20, 0x20), (0x85, 0x85), (0xA0, 0xA0), (0x1680, 0x1680),
    (0x2000, 0x200A), (0x2028, 0x2029), (0x202F, 0x202F), (0x205F, 0x205F),
    (0x3000, 0x3000)]⟩

/-- Whether a text holds nothing but white space. -/
def isBlank (s : String) : Bool := s.toList.all whiteSpace.contains

/-- The text without the white space at its two ends. -/
def trimmed (s : String) : String :=
  String.ofList
    ((s.toList.dropWhile whiteSpace.contains).reverse.dropWhile whiteSpace.contains).reverse

end ConsumerGroup.Text
