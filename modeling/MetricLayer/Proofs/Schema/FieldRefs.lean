import MetricLayer.Proofs.Compile.Ordering
/-!
# Field references read back

A field reference is read from its text trimmed of blanks: the model before the first `.`, the
field, and the grain after the last `__` of the field. Written back (`FieldRef.text`), a
reference read from a text is that text trimmed (`FieldRef.text_of_parse`), and reading only
ever sees the trimmed text, so the written form reads as the same reference. This holds for
fields that themselves hold `__` or blanks, for empty fields before a grain and for bare names.
The written form is the model and its dot, then the output column (`FieldRef.text_eq_model_column`),
so the column of a reference read from a text is the part of the trimmed text after the model.
-/

namespace MetricLayer

open MetricLayer.Text

/-- Reading a reference depends only on its trimmed text. -/
theorem FieldRef.parse_trimBlank (s : String) :
    FieldRef.parse (trimBlank s) = FieldRef.parse s := by
  unfold FieldRef.parse
  rw [trimBlank_trimBlank]

/-- A reference is written as its model and a dot, when it has one, then its output column. -/
theorem FieldRef.text_eq_model_column (r : FieldRef) :
    r.text = (match r.model with | some m => m ++ "." | none => "") ++ r.column := by
  rcases r with ⟨_ | m, field, _ | g⟩ <;>
    simp [FieldRef.text, FieldRef.qualified, FieldRef.column, String.append_assoc]

/-- A reference read from any text is read again from its written form. Its output column is its
    field, followed by `__` and the grain's name when it has one; it is what the trimmed text holds
    after the model and its dot, and holds no dot. -/
theorem FieldRef.parse_text_of_parse {s : String} {r : FieldRef} (h : FieldRef.parse s = .ok r) :
    FieldRef.parse r.text = .ok r ∧
      r.column = (match r.granularity with
        | some g => r.field ++ "__" ++ g.name
        | none => r.field) ∧
      trimBlank s = (match r.model with | some m => m ++ "." | none => "") ++ r.column ∧
      '.' ∉ r.column.toList := by
  obtain ⟨h_text, h_dot⟩ := FieldRef.text_of_parse h
  refine ⟨?_, rfl, ?_, h_dot⟩
  · -- the written form is the trimmed text, which reads as the text itself
    rw [h_text, FieldRef.parse_trimBlank, h]
  · rw [← h_text, FieldRef.text_eq_model_column]

/-- A reference with blanks around it and a month grain reads back from `orders.order_date__month`. -/
theorem monthlyOrderDate_reads_back :
    FieldRef.parse " orders.order_date__month " = .ok ⟨some "orders", "order_date", some .month⟩ ∧
      FieldRef.parse "orders.order_date__month" = .ok ⟨some "orders", "order_date", some .month⟩ ∧
      FieldRef.column ⟨some "orders", "order_date", some .month⟩ = "order_date__month" := by
  have h_read : FieldRef.parse " orders.order_date__month " =
      .ok ⟨some "orders", "order_date", some .month⟩ := by rfl
  exact ⟨h_read, (FieldRef.parse_text_of_parse h_read).1, by decide⟩

end MetricLayer
