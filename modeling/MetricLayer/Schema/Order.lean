import MetricLayer.Text.Blank
/-!
# Ordering entries

A query orders its result by entries such as `orders.revenue DESC`: a field, then optionally
a blank and a direction `ASC` or `DESC` in any letter case. An entry whose last word is not a
direction names a field as a whole and sorts ascending.
-/

namespace MetricLayer.OrderEntry

open MetricLayer.Text

/-- The entry split at its last blank character, if it has one. -/
def splitLastBlank (cs : List Char) : Option (List Char × List Char) :=
  match (cs.reverse.span fun c => !isBlank c) with
  | (_, []) => none
  | (wordRev, _ :: restRev) => some (restRev.reverse, wordRev.reverse)

/-- Reads an entry: the field and whether it sorts descending. -/
def parse (entry : String) : String × Bool :=
  let e := trimBlank entry
  match splitLastBlank e.toList with
  | some (field, dir) =>
    let d := String.ofList (dir.map Char.toUpper)
    if d == "DESC" then (trimBlankEnd (String.ofList field), true)
    else if d == "ASC" then (trimBlankEnd (String.ofList field), false)
    else (e, false)
  | none => (e, false)

end MetricLayer.OrderEntry
