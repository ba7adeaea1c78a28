/-!
# Bytes of a text

The bytes of a text are those of its UTF-8 encoding.
-/

namespace Viewsmith.Text

/-- The bytes of a list of characters. -/
def bytes (cs : List Char) : List UInt8 := cs.flatMap String.utf8EncodeChar

end Viewsmith.Text
