/-!
# Finding and replacing text

Searches for a piece of text inside another, on character lists: the first occurrence
(`splitOnce`), the last one (`rsplitOnce`), every non-overlapping occurrence from the left
(`replaceAll`). The functions on `String` convert to lists and back.
-/

namespace MetricLayer.Text

/-- The text before and after the first occurrence of `pat`. -/
def splitOnceList (pat : List Char) : List Char → Option (List Char × List Char)
  | [] => if pat.isEmpty then some ([], []) else none
  | c :: rest =>
    if pat.isPrefixOf (c :: rest) then some ([], (c :: rest).drop pat.length)
    else (splitOnceList pat rest).map fun (a, b) => (c :: a, b)

/-- The text before and after the last occurrence of `pat`. -/
def rsplitOnceList (pat cs : List Char) : Option (List Char × List Char) :=
  (splitOnceList pat.reverse cs.reverse).map fun (a, b) => (b.reverse, a.reverse)

/-- Every non-overlapping occurrence of a non-empty `pat`, from the left, replaced by `rep`. -/
def replaceList (pat rep : List Char) : List Char → List Char
  | [] => []
  | c :: rest =>
    if !pat.isEmpty && pat.isPrefixOf (c :: rest) then
      rep ++ replaceList pat rep ((c :: rest).drop pat.length)
    else c :: replaceList pat rep rest
termination_by cs => cs.length
decreasing_by
  · -- the occurrence dropped is not empty
    rename_i h
    have h_pat : pat ≠ [] := by
      intro h_nil
      simp [h_nil] at h
    have h_len := List.length_pos_iff.mpr h_pat
    simp only [List.length_drop, List.length_cons]
    omega
  · simp

/-- The text before and after the first occurrence of `sep`. -/
def splitOnce (s sep : String) : Option (String × String) :=
  (splitOnceList sep.toList s.toList).map fun (a, b) => (String.ofList a, String.ofList b)

/-- The text before and after the last occurrence of `sep`. -/
def rsplitOnce (s sep : String) : Option (String × String) :=
  (rsplitOnceList sep.toList s.toList).map fun (a, b) => (String.ofList a, String.ofList b)

/-- Every occurrence of `pat` replaced by `rep`. -/
def replaceAll (s pat rep : String) : String :=
  String.ofList (replaceList pat.toList rep.toList s.toList)

/-- Whether `pat` occurs in `s`. -/
def containsText (s pat : String) : Bool := (splitOnceList pat.toList s.toList).isSome

end MetricLayer.Text
