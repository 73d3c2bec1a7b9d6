/-!
# Byte offsets of text

Positions that answers report are byte offsets into the UTF-8 encoding of a text, so a
character counts for one to four bytes.
-/

namespace MetricLayer.Text

/-- The byte length of characters in UTF-8. -/
def byteLength (cs : List Char) : Nat := cs.foldl (fun n c => n + c.utf8Size) 0

end MetricLayer.Text
