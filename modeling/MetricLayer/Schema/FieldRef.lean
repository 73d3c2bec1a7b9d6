import MetricLayer.Schema.Granularity
import MetricLayer.Text.Blank
import MetricLayer.Text.Split
/-!
# Field references

A field reference names a field, optionally on a model and optionally truncated to a grain:
`model.field__grain`. The text is trimmed; at most one `.` separates a non-empty model from a
non-empty field, and the last `__` in the field introduces the grain.
-/

namespace MetricLayer

/-- A reference `[model.]field[__grain]`. -/
structure FieldRef where
  model : Option String
  field : String
  granularity : Option Granularity
  deriving Repr, DecidableEq, Inhabited

namespace FieldRef

open MetricLayer.Text

/-- Reads a field reference. -/
def parse (reference : String) : Except Error FieldRef := do
  let r := trimBlank reference
  let (model, rest) := match splitOnce r "." with
    | some (m, rest) => (some m, rest)
    | none => (none, r)
  if model == some "" || rest.isEmpty || rest.toList.contains '.' then
    throw (.invalidReference s!"'{r}' is not of the form model.field")
  match rsplitOnce rest "__" with
  | some (field, grain) => pure ⟨model, field, some (← Granularity.parse grain)⟩
  | none => pure ⟨model, rest, none⟩

/-- `model.field`, or the field alone. -/
def qualified (r : FieldRef) : String :=
  match r.model with
  | some m => m ++ "." ++ r.field
  | none => r.field

/-- The output column name: the field, with `__grain` when truncated. -/
def column (r : FieldRef) : String :=
  match r.granularity with
  | some g => r.field ++ "__" ++ g.name
  | none => r.field

/-- The reference written back: qualified name, with `__grain` when truncated. -/
def text (r : FieldRef) : String :=
  match r.granularity with
  | some g => r.qualified ++ "__" ++ g.name
  | none => r.qualified

end FieldRef

end MetricLayer
