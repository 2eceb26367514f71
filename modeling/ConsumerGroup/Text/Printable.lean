import ConsumerGroup.Text.Property

/-!
# Printable characters

The characters that a quoted text may show as they are. The others —
controls, formats, separators other than the space, code points that are
private or not assigned, and marks that extend the character before them
— have no shape of their own inside quotes and are written by number.
-/

namespace ConsumerGroup.Text

/-- The categories of characters without a shape of their own. -/
def shapelessCategories : List String := ["Cc", "Cf", "Cn", "Co", "Zl", "Zp", "Zs"]

/-- Whether a quoted text may show the character as it is. -/
def isPrintable (c : Char) : Bool :=
  c == ' ' || !((categories.labelOf? c).any (shapelessCategories.contains ·)
    || graphemeExtend.holds c)

end ConsumerGroup.Text
