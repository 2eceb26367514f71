import ConsumerGroup.Pattern.Reader

/-!
# Patterns

A pattern is a text that describes other texts. It has been read once and
for all when it is a `Pattern`; what it accepts is then a matter of its
meaning alone.

A broker reads the patterns of its members with whatever `PatternReader` it
is given, and `Pattern.reader` is the one it has unless it is given
another. How much room a pattern would take when it is compiled is
estimated: every class counts for the same (`classWeight`), however many
characters it has. So `Pattern.reader` tells patterns that are too large
from others only roughly; what is proved of the broker holds with any
reader.
-/

namespace ConsumerGroup

/-- A pattern that has been read. -/
structure Pattern where
  tree : Pattern.Tree

namespace Pattern

/-- Reads a pattern; not every text is one. -/
def ofText (s : String) : Option Pattern := (read? s).map (⟨·⟩)

/-- Whether the pattern matches a stretch of a text. -/
def accepts (p : Pattern) (s : String) : Bool := p.tree.accepts s

/-- What a text accepts when it is read as a pattern, if it is one. -/
def reader (s : String) : Option (String → Bool) := (ofText s).map accepts

end Pattern

end ConsumerGroup
