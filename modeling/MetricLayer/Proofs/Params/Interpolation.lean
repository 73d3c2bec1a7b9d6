import MetricLayer.Params.Set
import MetricLayer.Proofs.Params.Literals
import MetricLayer.Proofs.Graph.CanonicalNames
/-!
# Filling placeholders

A fragment without block or comment tags is cut, left to right, into pieces (`Scan`): a
`{{ name }}` placeholder wherever one starts (`IsPlaceholder`), else one character. The cut is
unique and its pieces spell the fragment. `ParameterSet.interpolate` writes each piece as
`ParameterSet.fillPiece` does: a character as itself, a placeholder naming a parameter as that
parameter's literal, any other placeholder as written (`interpolate_eq_fillPieces`). What a
parameter puts in its place is a closed literal of its type (`Parameter.formatValue_isLiteral`),
so no value reaches the text around it, and nothing put in is read for placeholders again.
-/

namespace MetricLayer

open MetricLayer.Text

/-- A `{{ name }}` placeholder as written: a non-empty name of word characters between `{{` and
`}}`, with blanks allowed on either side of it. -/
inductive IsPlaceholder : List Char → String → Prop
  | mk {lead name trail : List Char} : (∀ c ∈ lead, isBlank c = true) → name ≠ [] →
      (∀ c ∈ name, isWordChar c = true) → (∀ c ∈ trail, isBlank c = true) →
      IsPlaceholder ('{' :: '{' :: (lead ++ name ++ trail ++ ['}', '}'])) (String.ofList name)

/-- Whether a placeholder starts a text. -/
def StartsPlaceholder (cs : List Char) : Prop :=
  ∃ raw rest name, cs = raw ++ rest ∧ IsPlaceholder raw name

/-- A piece of a fragment: one character, or a placeholder with its name and its text. -/
inductive Piece
  | char (c : Char)
  | placeholder (name : String) (raw : List Char)

/-- The text a piece stands for in the fragment. -/
def Piece.raw : Piece → List Char
  | .char c => [c]
  | .placeholder _ raw => raw

/-- A fragment cut into pieces, left to right: a placeholder wherever one starts, else a
character. -/
inductive Scan : List Char → List Piece → Prop
  | nil : Scan [] []
  | placeholder {raw rest : List Char} {name : String} {ps : List Piece} :
      IsPlaceholder raw name → Scan rest ps → Scan (raw ++ rest) (.placeholder name raw :: ps)
  | char {c : Char} {rest : List Char} {ps : List Piece} :
      ¬ StartsPlaceholder (c :: rest) → Scan rest ps → Scan (c :: rest) (.char c :: ps)

namespace ParameterSet

/-- What a piece becomes: a character itself, a placeholder naming a parameter that parameter's
literal, any other placeholder its own text. -/
def fillPiece (s : ParameterSet) : Piece → Except Error (List Char)
  | .char c => .ok [c]
  | .placeholder name raw => if (s.find? name).isSome then (s.format name).map String.toList
    else .ok raw

end ParameterSet

-- ============================================================================
-- Reading one placeholder
-- ============================================================================

theorem takeWhile_append_of_stop {p : Char → Bool} {xs ys : List Char}
    (h_xs : ∀ c ∈ xs, p c = true) (h_ys : ∀ c ∈ ys.head?, p c = false) :
    (xs ++ ys).takeWhile p = xs := by
  rw [List.takeWhile_append_of_pos h_xs]
  cases ys with
  | nil => simp
  | cons c ys => simp [List.takeWhile_cons_of_neg, h_ys c rfl]

theorem eq_takeWhile_append_drop (p : Char → Bool) (l : List Char) :
    l = l.takeWhile p ++ l.drop (l.takeWhile p).length := by
  conv => lhs; rw [← List.take_append_drop (l.takeWhile p).length l]
  rw [take_length_takeWhile]

theorem isWordChar_eq_false_of_isBlank {c : Char} (h : isBlank c = true) :
    isWordChar c = false := by
  cases h_w : isWordChar c
  · rfl
  · simp [isBlank_eq_false_of_isWordChar h_w] at h

namespace ParameterSet

/-- A placeholder is read whole, whatever follows it. -/
theorem placeholderAt_append {raw : List Char} {name : String} (h : IsPlaceholder raw name)
    (rest : List Char) : placeholderAt (raw ++ rest) = some (name, raw.length) := by
  obtain ⟨h_lead, h_ne, h_name, h_trail⟩ := h
  rename_i lead nm trail
  obtain ⟨n, ns, rfl⟩ := List.exists_cons_of_ne_nil h_ne
  -- each run the reader takes stops where the placeholder's next part starts: a word character
  -- is no blank, a blank no word character, and `}` neither
  have h_n : isBlank n = false := isBlank_eq_false_of_isWordChar (h_name n (by simp))
  have h_lead_eq : (lead ++ (n :: ns ++ trail ++ '}' :: '}' :: rest)).takeWhile isBlank = lead :=
    takeWhile_append_of_stop h_lead (by simp [h_n])
  have h_name_eq : (n :: ns ++ (trail ++ '}' :: '}' :: rest)).takeWhile isWordChar = n :: ns := by
    refine takeWhile_append_of_stop h_name ?_
    cases trail with
    | nil => simp; decide
    | cons t ts => simpa using isWordChar_eq_false_of_isBlank (h_trail t (by simp))
  have h_trail_eq : (trail ++ '}' :: '}' :: rest).takeWhile isBlank = trail :=
    takeWhile_append_of_stop h_trail (by simp; decide)
  rw [List.cons_append, List.cons_append, placeholderAt]
  simp only [List.append_assoc, List.cons_append, List.nil_append] at h_lead_eq h_name_eq ⊢
  simp only [h_lead_eq, List.drop_left, h_name_eq, List.length_cons, List.drop_succ_cons,
    h_trail_eq]
  simp
  omega

/-- What the reader finds is a placeholder, and it spans the width it reports. -/
theorem isPlaceholder_of_placeholderAt {cs : List Char} {name : String} {width : Nat}
    (h : placeholderAt cs = some (name, width)) :
    ∃ raw rest, cs = raw ++ rest ∧ IsPlaceholder raw name ∧ raw.length = width := by
  rw [placeholderAt.eq_def] at h
  dsimp only at h
  split at h
  · rename_i rest
    -- each read takes a maximal run of one class, and what it leaves follows that run
    have h_rest := eq_takeWhile_append_drop isBlank rest
    set lead := rest.takeWhile isBlank
    set r1 := rest.drop lead.length
    have h_r1 := eq_takeWhile_append_drop isWordChar r1
    set nm := r1.takeWhile isWordChar
    set r2 := r1.drop nm.length
    have h_r2 := eq_takeWhile_append_drop isBlank r2
    set trail := r2.takeWhile isBlank
    split at h
    · rename_i more h_more
      split at h
      · cases h
      rename_i h_ne
      cases h
      refine ⟨'{' :: '{' :: (lead ++ nm ++ trail ++ ['}', '}']), more, ?_, ?_, ?_⟩
      · rw [h_rest, h_r1, h_r2, h_more]
        simp
      · exact .mk (fun _ h => List.mem_takeWhile_imp h) (by simpa using h_ne)
          (fun _ h => List.mem_takeWhile_imp h) (fun _ h => List.mem_takeWhile_imp h)
      · simp
        omega
    · cases h
  · cases h

theorem placeholderAt_eq_none_iff {cs : List Char} :
    placeholderAt cs = none ↔ ¬ StartsPlaceholder cs := by
  constructor
  · rintro h ⟨raw, rest, name, rfl, h_p⟩
    rw [placeholderAt_append h_p] at h
    cases h
  · intro h
    cases h_at : placeholderAt cs with
    | none => rfl
    | some found =>
      obtain ⟨raw, rest, h_cs, h_p, -⟩ := isPlaceholder_of_placeholderAt h_at
      exact absurd ⟨raw, rest, found.1, h_cs, h_p⟩ h

end ParameterSet

open ParameterSet in
/-- Two placeholders that start one text are the same placeholder. -/
theorem IsPlaceholder.unique {raw₁ raw₂ rest₁ rest₂ : List Char} {name₁ name₂ : String}
    (h₁ : IsPlaceholder raw₁ name₁) (h₂ : IsPlaceholder raw₂ name₂)
    (h : raw₁ ++ rest₁ = raw₂ ++ rest₂) : raw₁ = raw₂ ∧ name₁ = name₂ ∧ rest₁ = rest₂ := by
  have h_at := placeholderAt_append h₁ rest₁
  rw [h, placeholderAt_append h₂] at h_at
  simp only [Option.some.injEq, Prod.mk.injEq] at h_at
  obtain ⟨h_raw, h_rest⟩ := List.append_inj h h_at.2.symm
  exact ⟨h_raw, h_at.1.symm, h_rest⟩

theorem IsPlaceholder.eq_cons {raw : List Char} {name : String} (h : IsPlaceholder raw name) :
    ∃ inner, raw = '{' :: inner := by
  cases h
  exact ⟨_, rfl⟩

-- ============================================================================
-- Cutting a fragment into pieces
-- ============================================================================

/-- Every fragment has a cut. -/
theorem Scan.exists : (cs : List Char) → ∃ ps, Scan cs ps
  | [] => ⟨[], .nil⟩
  | c :: cs => by
    cases h_at : ParameterSet.placeholderAt (c :: cs) with
    | none =>
      obtain ⟨ps, h_ps⟩ := Scan.exists cs
      exact ⟨_, .char (ParameterSet.placeholderAt_eq_none_iff.mp h_at) h_ps⟩
    | some found =>
      obtain ⟨raw, rest, h_cs, h_p, -⟩ := ParameterSet.isPlaceholder_of_placeholderAt h_at
      obtain ⟨inner, rfl⟩ := h_p.eq_cons
      have h_len : rest.length < cs.length + 1 := by
        have := congrArg List.length h_cs
        simp at this
        omega
      obtain ⟨ps, h_ps⟩ := Scan.exists rest
      rw [h_cs]
      exact ⟨_, .placeholder h_p h_ps⟩
termination_by cs => cs.length

/-- The cut of a fragment is unique. -/
theorem Scan.unique {cs : List Char} {ps qs : List Piece} (h : Scan cs ps) (h' : Scan cs qs) :
    ps = qs := by
  induction h generalizing qs with
  | nil =>
    generalize h_cs : ([] : List Char) = cs at h'
    cases h' with
    | nil => rfl
    | placeholder h_p' _ =>
      obtain ⟨inner, rfl⟩ := h_p'.eq_cons
      simp at h_cs
    | char => cases h_cs
  | placeholder h_p h_rest ih =>
    rename_i raw rest name ps
    generalize h_cs : raw ++ rest = cs at h'
    cases h' with
    | nil =>
      obtain ⟨inner, rfl⟩ := h_p.eq_cons
      simp at h_cs
    | placeholder h_p' h_rest' =>
      obtain ⟨rfl, rfl, rfl⟩ := h_p.unique h_p' h_cs
      rw [ih h_rest']
    | char h_none h_rest' =>
      exact absurd ⟨raw, rest, name, h_cs.symm, h_p⟩ h_none
  | char h_none h_rest ih =>
    rename_i c rest ps
    generalize h_cs : c :: rest = cs at h'
    cases h' with
    | nil => cases h_cs
    | placeholder h_p' h_rest' =>
      rename_i raw' rest' name' _
      exact absurd ⟨raw', rest', name', h_cs, h_p'⟩ h_none
    | char h_none' h_rest' =>
      cases h_cs
      rw [ih h_rest']

/-- The pieces spell the fragment. -/
theorem Scan.flatMap_raw {cs : List Char} {ps : List Piece} (h : Scan cs ps) :
    ps.flatMap Piece.raw = cs := by
  induction h with
  | nil => rfl
  | placeholder _ _ ih => simp [Piece.raw, ih]
  | char _ _ ih => simp [Piece.raw, ih]

namespace ParameterSet

/-- Filling placeholders writes the pieces of the fragment's cut one after another, each as
`fillPiece` writes it, and stops at the first piece that fails. -/
theorem fillPlaceholders_eq_of_scan (s : ParameterSet) {cs : List Char} {ps : List Piece}
    (h : Scan cs ps) : s.fillPlaceholders cs = (ps.mapM s.fillPiece).map List.flatten := by
  induction h with
  | nil =>
    rw [fillPlaceholders]
    rfl
  | placeholder h_p h_rest ih =>
    rename_i raw rest name ps
    obtain ⟨inner, rfl⟩ := h_p.eq_cons
    -- the scan resumes right after the placeholder
    have h_drop : (inner ++ rest).drop (('{' :: inner).length - 1) = rest := by
      simp
    have h_take : ('{' :: inner ++ rest).take ('{' :: inner).length = '{' :: inner :=
      List.take_left' rfl
    rw [List.cons_append, fillPlaceholders, ← List.cons_append, placeholderAt_append h_p]
    dsimp only
    rw [h_drop, ih, List.mapM_cons, h_take]
    simp only [fillPiece]
    split
    · cases s.format name <;> cases List.mapM s.fillPiece ps <;> rfl
    · cases List.mapM s.fillPiece ps <;> simp [Except.map, pure, Except.pure, bind, Except.bind]
  | char h_none h_rest ih =>
    rw [fillPlaceholders, placeholderAt_eq_none_iff.mpr h_none]
    dsimp only
    rw [ih, List.mapM_cons]
    simp only [fillPiece]
    cases List.mapM s.fillPiece _ <;> rfl

/-- A fragment without block or comment tags is written piece by piece. -/
theorem interpolate_eq_fillPieces (s : ParameterSet) {sql : String}
    (h_block : containsText sql "\x7b%" = false) (h_comment : containsText sql "\x7b#" = false)
    {ps : List Piece} (h : Scan sql.toList ps) :
    s.interpolate sql = (ps.mapM s.fillPiece).map fun texts => String.ofList texts.flatten := by
  simp only [interpolate, h_block, h_comment, Bool.or_false, Bool.false_eq_true, if_false]
  rw [fillPlaceholders_eq_of_scan s h]
  cases ps.mapM s.fillPiece <;> rfl

theorem find?_of_lookup {s : ParameterSet} {name : String} {p : Parameter}
    (h : s.lookup name = .ok p) : s.find? name = some p := by
  unfold lookup at h
  split at h
  · cases h
    assumption
  · cases h

/-- The literal for a name is the literal its parameter writes for its value. -/
theorem format_ok {s : ParameterSet} {name out : String} (h : s.format name = .ok out) :
    ∃ p v, s.find? name = some p ∧ s.get name = .ok v ∧ p.formatValue v = .ok out := by
  obtain ⟨p, h_p, h⟩ := Except.bind_eq_ok.mp h
  obtain ⟨v, h_v, h_out⟩ := Except.bind_eq_ok.mp h
  exact ⟨p, v, find?_of_lookup h_p, h_v, h_out⟩

theorem format_not_allowed {s : ParameterSet} {name : String} {p : Parameter} {v : Json}
    {allowed : List Json} (h_p : s.find? name = some p) (h_v : s.get name = .ok v)
    (h_allowed : p.allowedValues = some allowed) (h_null : v.isNull = false)
    (h_out : ∀ a ∈ allowed, (a == v) = false) :
    s.format name = .error (p.invalid (v.render ++ " is not one of the allowed values")) := by
  have h_lookup : s.lookup name = .ok p := by
    simp [lookup, h_p]
  simp only [format, h_lookup, h_v]
  exact Parameter.formatValue_not_allowed h_allowed h_null h_out

end ParameterSet

open ParameterSet in
/-- Filling a fragment without block or comment tags writes the fragment's one cut piece by
piece: every character as itself, every placeholder naming a parameter as that parameter's
literal, every other placeholder as written, and nothing written is scanned again. What a
parameter writes is a closed literal of its type standing for its value, and a non-null value
outside its allowed values is rejected. -/
theorem interpolate_splices_closed_literals (s : ParameterSet) (sql : String)
    (h_block : containsText sql "\x7b%" = false) (h_comment : containsText sql "\x7b#" = false) :
    (∃ ps, Scan sql.toList ps ∧ (∀ qs, Scan sql.toList qs → qs = ps) ∧
      ps.flatMap Piece.raw = sql.toList ∧
      s.interpolate sql = (ps.mapM s.fillPiece).map fun texts => String.ofList texts.flatten) ∧
    (∀ name out, s.format name = .ok out →
      ∃ p v, s.find? name = some p ∧ s.get name = .ok v ∧ (v.ReadsFinite → p.IsLiteral v out)) ∧
    (∀ name p v allowed, s.find? name = some p → s.get name = .ok v →
      p.allowedValues = some allowed → v.isNull = false → (∀ a ∈ allowed, (a == v) = false) →
      s.format name = .error (p.invalid (v.render ++ " is not one of the allowed values"))) := by
  refine ⟨?_, ?_, fun name p v allowed => format_not_allowed⟩
  · obtain ⟨ps, h_ps⟩ := Scan.exists sql.toList
    exact ⟨ps, h_ps, fun qs h_qs => h_qs.unique h_ps, h_ps.flatMap_raw,
      interpolate_eq_fillPieces s h_block h_comment h_ps⟩
  · intro name out h
    obtain ⟨p, v, h_p, h_v, h_out⟩ := format_ok h
    exact ⟨p, v, h_p, h_v, fun h_fin => Parameter.formatValue_isLiteral h_fin h_out⟩

/-- One string parameter `p` without a default, supplied the value `a'b`. -/
def quotedStatus : ParameterSet :=
  ParameterSet.make [⟨"p", .string, none, none, false, none, none⟩] [("p", .str "a'b")]
    "2024-01-01"

/-- The literal `p` writes into `status = {{ p }}` reads back as `a'b` in every dialect. -/
theorem quotedStatus_literal_reads_back :
    containsText "status = \x7b\x7b p \x7d\x7d" "\x7b%" = false ∧
      containsText "status = \x7b\x7b p \x7d\x7d" "\x7b#" = false ∧
      ∀ out, quotedStatus.format "p" = .ok out → ∀ d : Dialect,
        Sql.readString d.escapesBackslash out.toList = some ("a'b".toList, []) := by
  obtain ⟨-, h_lit, -⟩ :=
    interpolate_splices_closed_literals quotedStatus "status = \x7b\x7b p \x7d\x7d" (by decide) (by decide)
  refine ⟨by decide, by decide, fun out h_out d => ?_⟩
  obtain ⟨p, v, h_p, h_v, h_is⟩ := h_lit "p" out h_out
  have h_p' : p = ⟨"p", .string, none, none, false, none, none⟩ := (Option.some.inj h_p).symm
  have h_v' : v = .str "a'b" := (Except.ok.inj h_v).symm
  subst h_p' h_v'
  cases h_is (fun _ _ h => nomatch h) with
  | yesno h_ty => cases h_ty
  | null _ h_null => cases h_null
  | quoted _ _ h_read => exact (h_read d).mpr (.inr (by decide))
  | word h_ty => cases h_ty
  | number h_ty => cases h_ty

theorem Except.eq_ok_of_toOption {ε α : Type} {x : Except ε α} {a : α}
    (h : x.toOption = some a) : x = .ok a := by
  cases x <;> simp_all [Except.toOption]

/-- One string parameter `p` without a default, supplied the value `a\`. -/
def trailingBackslash : ParameterSet :=
  ParameterSet.make [⟨"p", .string, none, none, false, none, none⟩] [("p", .str "a\\")]
    "2024-01-01"

/-- A value ending in a backslash is written `'a\'`. A dialect that reads a backslash as an
escape never finds the literal's closing quote there; one that does not reads `a\`. -/
theorem trailingBackslash_literal_left_open :
    trailingBackslash.interpolate "orders.status = \x7b\x7b p \x7d\x7d" = .ok "orders.status = 'a\\'" ∧
      Sql.readString Dialect.mysql.escapesBackslash "'a\\'".toList = none ∧
      Sql.readString Dialect.postgres.escapesBackslash "'a\\'".toList = some ("a\\".toList, []) :=
  ⟨Except.eq_ok_of_toOption (by decide +kernel), by decide, by decide⟩

end MetricLayer
