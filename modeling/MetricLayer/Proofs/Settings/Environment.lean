import MetricLayer.Settings.Config
import MetricLayer.Proofs.Params.Interpolation
/-!
# Expanding environment variables

Rollup locations may name environment variables. Read once from left to right, a text falls into
pieces (`EnvScan`): `${NAME}`, the name running to the next `}`; `${NAME` with no `}` after it,
the name running to the end of the text; `$NAME`, the name the longest run of alphanumeric
characters and `_`; a `$` followed by neither `{` nor a name character, kept; and any other
character, copied. Every text has such a cut (`EnvScan.exists`).

Expansion writes the pieces' values in order (`EnvPiece.value`): a name stands for the variable's
value as it is, so what it inserts is never read again, and the first name from the left that has
no value fails the whole with that name. The values are those of the environment seen as a
partial map (`envValue`).
-/

namespace MetricLayer

open MetricLayer.Text

/-- A character of a `$NAME` reference. -/
def isEnvNameChar (c : Char) : Bool := isAlphanumeric c || c == '_'

/-- A piece of a text that names environment variables. -/
inductive EnvPiece where
  /-- A character other than `$`, copied. -/
  | char (c : Char)
  /-- A `$` that starts no reference, kept. -/
  | dollar
  /-- `${name}`. -/
  | braced (name : String)
  /-- `${name` running to the end of the text. -/
  | unclosed (name : String)
  /-- `$name`. -/
  | bare (name : String)
  deriving Repr, DecidableEq

/-- A text cut, left to right, into pieces: a braced name stops at the first `}` and runs to the
end only when there is none, a bare name is the longest run of name characters, and a `$` that
starts neither is kept. -/
inductive EnvScan : List Char → List EnvPiece → Prop
  | nil : EnvScan [] []
  | char {c : Char} {rest : List Char} {ps : List EnvPiece} :
      c ≠ '$' → EnvScan rest ps → EnvScan (c :: rest) (.char c :: ps)
  | dollar {rest : List Char} {ps : List EnvPiece} :
      (∀ c ∈ rest.head?, c ≠ '{' ∧ isEnvNameChar c = false) → EnvScan rest ps →
      EnvScan ('$' :: rest) (.dollar :: ps)
  | braced {name rest : List Char} {ps : List EnvPiece} :
      '}' ∉ name → EnvScan rest ps →
      EnvScan ('$' :: '{' :: (name ++ '}' :: rest)) (.braced (String.ofList name) :: ps)
  | unclosed {name : List Char} :
      '}' ∉ name → EnvScan ('$' :: '{' :: name) [.unclosed (String.ofList name)]
  | bare {name rest : List Char} {ps : List EnvPiece} :
      name ≠ [] → (∀ c ∈ name, isEnvNameChar c = true) →
      (∀ c ∈ rest.head?, isEnvNameChar c = false) → EnvScan rest ps →
      EnvScan ('$' :: (name ++ rest)) (.bare (String.ofList name) :: ps)

namespace EnvPiece

/-- The value of the variable `name` in the partial map `E`, or the error naming it. -/
def lookup (E : String → Option String) (name : String) : Except SettingsError (List Char) :=
  match E name with
  | some v => .ok v.toList
  | none => .error (.missingEnvVar name)

/-- What a piece expands to. -/
def value (E : String → Option String) : EnvPiece → Except SettingsError (List Char)
  | char c => .ok [c]
  | dollar => .ok ['$']
  | braced n | unclosed n | bare n => lookup E n

end EnvPiece

/-- The environment as a partial map from names to values. -/
def envValue (env : List (String × String)) (name : String) : Option String :=
  (envLookup env name).toOption

/-- A failed lookup names the variable it looked for. -/
theorem envLookup_error {env : List (String × String)} {name : String} {e : SettingsError}
    (h : envLookup env name = .error e) : e = .missingEnvVar name := by
  unfold envLookup at h
  dsimp only at h
  split at h
  · split at h
    · cases h; rfl
    · cases h
  · cases h; rfl

theorem envLookup_map_toList (env : List (String × String)) (name : String) :
    (envLookup env name).map String.toList = EnvPiece.lookup (envValue env) name := by
  unfold EnvPiece.lookup envValue
  cases h : envLookup env name with
  | ok v => rfl
  | error e => rw [envLookup_error h]; rfl

/-! ## One piece at a time -/

section Steps

variable (env : List (String × String))

theorem expandEnvChars_char {c : Char} (h : c ≠ '$') (rest : List Char) :
    expandEnvChars env (c :: rest) = (expandEnvChars env rest).map (c :: ·) := by
  rw [expandEnvChars]
  simp [h]

theorem expandEnvChars_dollar {rest : List Char}
    (h : ∀ c ∈ rest.head?, c ≠ '{' ∧ isEnvNameChar c = false) :
    expandEnvChars env ('$' :: rest) = (expandEnvChars env rest).map ('$' :: ·) := by
  rw [expandEnvChars]
  cases rest with
  | nil => simp
  | cons c rest =>
    -- the next character opens no brace and starts no name
    obtain ⟨h_brace, h_name⟩ := h c rfl
    simp only [isEnvNameChar, Bool.or_eq_false_iff] at h_name
    simp [h_brace, h_name]

theorem expandEnvChars_braced {name rest : List Char} (h : '}' ∉ name) :
    expandEnvChars env ('$' :: '{' :: (name ++ '}' :: rest)) =
      (do
        let v ← envLookup env (String.ofList name)
        return v.toList ++ (← expandEnvChars env rest)) := by
  have h_take : (name ++ '}' :: rest).takeWhile (· != '}') = name :=
    takeWhile_append_of_stop (fun c h_c => by simpa using ne_of_mem_of_not_mem h_c h) (by simp)
  rw [expandEnvChars]
  simp [h_take]

theorem expandEnvChars_unclosed {name : List Char} (h : '}' ∉ name) :
    expandEnvChars env ('$' :: '{' :: name) =
      (envLookup env (String.ofList name)).map String.toList := by
  have h_take : name.takeWhile (· != '}') = name :=
    List.takeWhile_eq_self_iff.mpr fun c h_c => by simpa using ne_of_mem_of_not_mem h_c h
  rw [expandEnvChars]
  simp only [h_take, List.drop_length, List.drop_nil, bne_self_eq_false, Bool.false_eq_true,
    if_false, List.head?_cons, beq_self_eq_true, if_true, List.drop_one, List.tail_cons]
  rw [expandEnvChars]
  cases envLookup env (String.ofList name) with
  | ok v => exact congrArg Except.ok (List.append_nil v.toList)
  | error e => rfl

theorem expandEnvChars_bare {name rest : List Char} (h_ne : name ≠ [])
    (h_name : ∀ c ∈ name, isEnvNameChar c = true)
    (h_stop : ∀ c ∈ rest.head?, isEnvNameChar c = false) :
    expandEnvChars env ('$' :: (name ++ rest)) =
      (do
        let v ← envLookup env (String.ofList name)
        return v.toList ++ (← expandEnvChars env rest)) := by
  -- a name character is no brace, so the reference is bare
  have h_brace : ((name ++ rest).head? == some '{') = false := by
    obtain ⟨c, tail, rfl⟩ := List.exists_cons_of_ne_nil h_ne
    have h_c : c ≠ '{' := by
      rintro rfl
      exact absurd (h_name '{' List.mem_cons_self) (by decide)
    simpa using h_c
  have h_take : (name ++ rest).takeWhile (fun ch => isAlphanumeric ch || ch == '_') = name :=
    takeWhile_append_of_stop h_name h_stop
  rw [expandEnvChars]
  simp only [bne_self_eq_false, Bool.false_eq_true, if_false, h_brace, h_take,
    List.isEmpty_iff, h_ne, List.drop_left]

end Steps

/-! ## Cutting a text -/

/-- A text after a `$` starts with one piece: any cut of what follows that piece, which is no
    longer than the text, extends to a cut of the whole. -/
theorem EnvScan.dollar_step (cs : List Char) :
    ∃ rest, rest.length ≤ cs.length ∧ ∀ ps, EnvScan rest ps → ∃ qs, EnvScan ('$' :: cs) qs := by
  by_cases h_brace : cs.head? = some '{'
  · obtain ⟨r, rfl⟩ : ∃ r, cs = '{' :: r := by
      cases cs with
      | nil => cases h_brace
      | cons c r => exact ⟨r, by simpa using h_brace⟩
    -- a braced name stops at the first `}`, or runs to the end
    by_cases h_close : '}' ∈ r
    · obtain ⟨name, rest, rfl, h_name⟩ := List.eq_append_cons_of_mem h_close
      refine ⟨rest, by simp; omega, fun ps h_ps => ⟨_, .braced h_name h_ps⟩⟩
    · exact ⟨[], by simp, fun _ _ => ⟨_, .unclosed h_close⟩⟩
  · -- a bare name is the longest run of name characters; without one the `$` is kept
    have h_split : cs.takeWhile isEnvNameChar ++ cs.dropWhile isEnvNameChar = cs :=
      List.takeWhile_append_dropWhile
    have h_stop := head?_dropWhile_false isEnvNameChar cs
    by_cases h_name : cs.takeWhile isEnvNameChar = []
    · refine ⟨cs, le_rfl, fun ps h_ps => ⟨_, .dollar (fun c h_c => ⟨?_, ?_⟩) h_ps⟩⟩
      · rintro rfl
        exact h_brace h_c
      · rw [h_name, List.nil_append] at h_split
        exact h_stop c (by rw [h_split]; exact h_c)
    · refine ⟨cs.dropWhile isEnvNameChar, List.length_dropWhile_le _ _, fun ps h_ps => ?_⟩
      have h_bare := EnvScan.bare h_name (fun c h_c => List.mem_takeWhile_imp h_c) h_stop h_ps
      rw [h_split] at h_bare
      exact ⟨_, h_bare⟩

/-- Every text has a cut. -/
theorem EnvScan.exists : (cs : List Char) → ∃ ps, EnvScan cs ps
  | [] => ⟨[], .nil⟩
  | c :: cs => by
    by_cases h_c : c = '$'
    · subst h_c
      obtain ⟨rest, h_len, h_extend⟩ := EnvScan.dollar_step cs
      obtain ⟨ps, h_ps⟩ := EnvScan.exists rest
      exact h_extend ps h_ps
    · obtain ⟨ps, h_ps⟩ := EnvScan.exists cs
      exact ⟨_, .char h_c h_ps⟩
termination_by cs => cs.length

/-! ## A whole text -/

/-- Pieces expand one after another: the first piece's value, then the rest's. -/
theorem mapM_cons_flatten {α β ε : Type} (f : α → Except ε (List β)) (p : α) (ps : List α) :
    ((p :: ps).mapM f).map List.flatten =
      (do
        let a ← f p
        let b ← (ps.mapM f).map List.flatten
        pure (a ++ b)) := by
  rw [List.mapM_cons]
  cases f p <;> cases ps.mapM f <;> rfl

/-- A text expands to its pieces' values, one after another, failing at the first piece whose
    variable is not set. -/
theorem expandEnvChars_eq_of_scan (env : List (String × String)) {cs : List Char}
    {ps : List EnvPiece} (h : EnvScan cs ps) :
    expandEnvChars env cs = (ps.mapM (EnvPiece.value (envValue env))).map List.flatten := by
  induction h with
  | nil =>
    rw [expandEnvChars]
    rfl
  | @char c rest _ h_c _ ih =>
    rw [expandEnvChars_char env h_c, mapM_cons_flatten, ← ih]
    cases expandEnvChars env rest <;> rfl
  | @dollar rest _ h_next _ ih =>
    rw [expandEnvChars_dollar env h_next, mapM_cons_flatten, ← ih]
    cases expandEnvChars env rest <;> rfl
  | @braced name rest _ h_name _ ih =>
    rw [expandEnvChars_braced env h_name, mapM_cons_flatten, ← ih]
    simp only [EnvPiece.value, ← envLookup_map_toList]
    cases envLookup env (String.ofList name) <;> rfl
  | @unclosed name h_name =>
    rw [expandEnvChars_unclosed env h_name, mapM_cons_flatten]
    simp only [EnvPiece.value, ← envLookup_map_toList, List.mapM_nil]
    cases envLookup env (String.ofList name) with
    | ok v => exact congrArg Except.ok (List.append_nil v.toList).symm
    | error e => rfl
  | @bare name rest _ h_ne h_name h_stop _ ih =>
    rw [expandEnvChars_bare env h_ne h_name h_stop, mapM_cons_flatten, ← ih]
    simp only [EnvPiece.value, ← envLookup_map_toList]
    cases envLookup env (String.ofList name) <;> rfl

/-- Expanding the environment variables of a text reads it once from left to right: the text has
    a cut into pieces, and for every cut the expansion writes each piece's value in turn (a
    character as itself, a kept `$` as `$`, a name as its variable's value, not read again) and
    fails with the first name from the left that has no value. -/
theorem expandEnv_reads_pieces (env : List (String × String)) (s : String) :
    (∃ ps, EnvScan s.toList ps) ∧
      ∀ ps, EnvScan s.toList ps →
        expandEnv env s =
          (ps.mapM (EnvPiece.value (envValue env))).map fun cs => String.ofList cs.flatten := by
  refine ⟨EnvScan.exists s.toList, fun ps h_ps => ?_⟩
  rw [expandEnv, expandEnvChars_eq_of_scan env h_ps]
  cases ps.mapM (EnvPiece.value (envValue env)) <;> rfl

example : (expandEnv [("DB", "analytics")] "${DB}.$DB-$").toOption = some "analytics.analytics-$" := by
  decide +kernel

example : (match expandEnv [("DB", "analytics")] "$DB_x${DB}" with
    | .error e => e.message
    | .ok _ => "") = "Missing environment variable: DB_x" := by
  decide +kernel

end MetricLayer
