import MetricLayer.Proofs.Params.Literals
import MetricLayer.Settings.Config
/-!
# Quoted identifiers and string literals

A dialect quotes a name between its identifier delimiters and a text between single quotes,
writing the closing delimiter twice wherever it stands in the name or text (`Dialect.quoteIdent`,
`Dialect.quoteString`; T-SQL puts an `N` before a literal that is not ASCII). A reader of such a
token (`Sql.readQuotedBody`) takes the delimiter written twice as one and stops at a delimiter
written once. Where the dialect also reads a backslash as an escape, the backslash stands for the
character after it, whatever that is.

Doubling the delimiter is injective, so quoting is, in every dialect. A quoted token reads back as
exactly its text and ends at its last delimiter unless the reader takes backslashes as escapes and
the text has one: an escaping reader consumes two backslashes for each one it gives, so it cannot
give all of them back (`Sql.count_readQuotedBody`). That is so of MySQL, BigQuery and Databricks
string literals and of BigQuery identifiers, and of a rollup table's dotted name
(`quoting_injective_and_closed`). `trailingBackslash_string_unclosed` is MySQL's literal for `a\`,
which never closes.
-/

namespace MetricLayer

namespace Sql

/-- Reads the body of a quoted token up to its closing delimiter `close`: the text it denotes,
and what follows the delimiter. The delimiter written twice stands for one; with `escapes`, a
backslash stands for the character after it. `none` when nothing closes the token. -/
def readQuotedBody (close : Char) (escapes : Bool) : List Char → Option (List Char × List Char)
  | [] => none
  | c :: rest =>
    if c == close then
      match rest with
      | c' :: rest' =>
        if c' == close then (readQuotedBody close escapes rest').map fun p => (close :: p.1, p.2)
        else some ([], rest)
      | [] => some ([], [])
    else if escapes && c == '\\' then
      match rest with
      | [] => none
      | e :: rest => (readQuotedBody close escapes rest).map fun p => (e :: p.1, p.2)
    else (readQuotedBody close escapes rest).map fun p => (c :: p.1, p.2)

/-- A string literal's body is a quoted token closed by a single quote. -/
theorem readStringBody_eq (escapes : Bool) (cs : List Char) :
    readStringBody escapes cs = readQuotedBody '\'' escapes cs := by
  fun_induction readQuotedBody '\'' escapes cs with
  | case1 => rfl
  | case2 c h_c c' rest h_c' ih =>
    obtain rfl : c = '\'' := by simpa using h_c
    obtain rfl : c' = '\'' := by simpa using h_c'
    simp [readStringBody, ih]
  | case3 c h_c c' rest h_c' =>
    obtain rfl : c = '\'' := by simpa using h_c
    have h_ne : c' ≠ '\'' := by simpa using h_c'
    simp [readStringBody, h_ne]
  | case4 c h_c =>
    obtain rfl : c = '\'' := by simpa using h_c
    simp [readStringBody]
  | case5 c h_c h_esc =>
    rw [readStringBody, if_neg h_c, if_pos h_esc]
  | case6 c h_c h_esc e rest ih =>
    rw [readStringBody.eq_def]
    simp only [if_neg h_c, if_pos h_esc, ih]
  | case7 c rest h_c h_esc ih =>
    rw [readStringBody.eq_def]
    simp only [if_neg h_c, if_neg h_esc, ih]

/-- Text quoted by doubling the delimiter: every delimiter written twice. -/
def doubled (close : Char) (cs : List Char) : List Char :=
  cs.flatMap fun x => if x == close then [x, x] else [x]

theorem doubled_nil (close : Char) : doubled close [] = [] := rfl

theorem doubled_cons (close x : Char) (cs : List Char) :
    doubled close (x :: cs) = (if x == close then [x, x] else [x]) ++ doubled close cs := by
  simp [doubled]

/-- Doubling the delimiter adds no backslash. -/
theorem count_doubled {close : Char} (h_close : close ≠ '\\') (cs : List Char) :
    (doubled close cs).count '\\' = cs.count '\\' := by
  induction cs with
  | nil => rfl
  | cons x cs ih =>
    rw [doubled_cons, List.count_append, ih]
    by_cases h_x : x = close
    · subst h_x
      simp [h_close]
    · simp [h_x, List.count_cons, Nat.add_comm]

/-- A doubled text reads back as itself, unless the reader takes a backslash in it as an escape. -/
theorem readQuotedBody_doubled {close : Char} {escapes : Bool} {cs : List Char}
    (h : escapes = false ∨ '\\' ∉ cs) (rest : List Char) :
    readQuotedBody close escapes (doubled close cs ++ rest) =
      (readQuotedBody close escapes rest).map fun p => (cs ++ p.1, p.2) := by
  induction cs with
  | nil => simp [doubled_nil]
  | cons x xs ih =>
    have h_x : escapes = false ∨ x ≠ '\\' :=
      h.imp_right fun h_s h_eq => h_s (h_eq ▸ List.mem_cons_self)
    have h_xs : escapes = false ∨ '\\' ∉ xs :=
      h.imp_right fun h_s h_mem => h_s (List.mem_cons_of_mem x h_mem)
    rw [doubled_cons, List.append_assoc]
    by_cases h_close : x = close
    · -- the delimiter, written twice
      subst h_close
      simp [readQuotedBody, ih h_xs, Option.map_map, Function.comp_def]
    · have h_ne : (x == close) = false := by simpa using h_close
      have h_esc : (escapes && x == '\\') = false := by
        rcases h_x with h_x | h_x <;> simp [h_x]
      rw [h_ne, if_neg Bool.false_ne_true, List.singleton_append, readQuotedBody.eq_def]
      simp only [h_ne, h_esc, Bool.false_eq_true, if_false, ih h_xs, Option.map_map]
      rfl

/-- The closing delimiter ends the token when no second delimiter follows it. -/
theorem readQuotedBody_close {close : Char} {escapes : Bool} {rest : List Char}
    (h : rest.head? ≠ some close) : readQuotedBody close escapes (close :: rest) = some ([], rest) := by
  cases rest with
  | nil => simp [readQuotedBody]
  | cons c rest =>
    have h_c : c ≠ close := fun h_eq => h (by simp [h_eq])
    simp [readQuotedBody, h_c]

/-- A read that puts one character before the rest of a read: that rest read to the same end. -/
theorem eq_some_of_map_cons {x : Option (List Char × List Char)} {c : Char} {t rest : List Char}
    (h : x.map (fun p => (c :: p.1, p.2)) = some (t, rest)) : ∃ t', x = some (t', rest) ∧ t = c :: t' := by
  obtain ⟨⟨t', r'⟩, h_x, h_eq⟩ := Option.map_eq_some_iff.mp h
  cases h_eq
  exact ⟨t', h_x, rfl⟩

/-- An escaping reader gives at most half the backslashes it consumes: each escape takes one
backslash and may give one. -/
theorem count_readQuotedBody {close : Char} (h_close : close ≠ '\\') {cs t rest : List Char}
    (h : readQuotedBody close true cs = some (t, rest)) :
    2 * t.count '\\' + rest.count '\\' ≤ cs.count '\\' := by
  fun_induction readQuotedBody close true cs generalizing t rest with
  | case1 => cases h
  | case2 c h_c c' rest' h_c' ih =>
    -- the delimiter written twice
    obtain ⟨t', h_body, rfl⟩ := eq_some_of_map_cons h
    obtain rfl : c = close := by simpa using h_c
    obtain rfl : c' = c := by simpa using h_c'
    have := ih h_body
    simp only [List.count_cons, beq_iff_eq, h_close, if_false]
    omega
  | case3 c h_c c' rest' _ =>
    -- the closing delimiter
    cases h
    obtain rfl : c = close := by simpa using h_c
    simp only [List.count_nil, List.count_cons, beq_iff_eq, h_close, if_false]
    omega
  | case4 c h_c =>
    cases h
    obtain rfl : c = close := by simpa using h_c
    simp [h_close]
  | case5 => cases h
  | case6 c _ h_esc e rest' ih =>
    -- a backslash and the character it escapes
    obtain ⟨t', h_body, rfl⟩ := eq_some_of_map_cons h
    obtain rfl : c = '\\' := by simpa using h_esc
    have := ih h_body
    simp only [List.count_cons, beq_iff_eq, if_true]
    split <;> omega
  | case7 c rest' _ h_esc ih =>
    obtain ⟨t', h_body, rfl⟩ := eq_some_of_map_cons h
    have h_c : c ≠ '\\' := by simpa using h_esc
    have := ih h_body
    simp only [List.count_cons, beq_iff_eq, h_c, if_false, Nat.add_zero]
    omega

/-- A quoted token reads back as exactly its text, ending at its final delimiter, unless the
reader takes a backslash as an escape and the text has one. -/
theorem readQuotedBody_quoted_iff {close : Char} (h_close : close ≠ '\\') (escapes : Bool)
    (cs : List Char) {rest : List Char} (h_rest : rest.head? ≠ some close) :
    readQuotedBody close escapes (doubled close cs ++ close :: rest) = some (cs, rest) ↔
      escapes = false ∨ '\\' ∉ cs := by
  constructor
  · intro h_read
    cases escapes with
    | false => exact .inl rfl
    | true =>
      -- the escapes would read fewer backslashes than the text has
      have h_count := count_readQuotedBody h_close h_read
      rw [List.count_append, count_doubled h_close, List.count_cons] at h_count
      simp only [beq_iff_eq, h_close, if_false, Nat.add_zero] at h_count
      exact .inr (List.count_eq_zero.mp (by omega))
  · intro h
    rw [readQuotedBody_doubled h, readQuotedBody_close h_rest]
    simp

/-- What follows a token is shorter than the token's text. -/
theorem readQuotedBody_rest_length {close : Char} {escapes : Bool} {cs t rest : List Char}
    (h : readQuotedBody close escapes cs = some (t, rest)) : rest.length < cs.length := by
  fun_induction readQuotedBody close escapes cs generalizing t rest with
  | case1 => cases h
  | case2 c _ c' rest' _ ih =>
    obtain ⟨t', h_body, rfl⟩ := eq_some_of_map_cons h
    have := ih h_body
    simp only [List.length_cons]
    omega
  | case3 => cases h; simp
  | case4 => cases h; simp
  | case5 => cases h
  | case6 c _ _ e rest' ih =>
    obtain ⟨t', h_body, rfl⟩ := eq_some_of_map_cons h
    have := ih h_body
    simp only [List.length_cons]
    omega
  | case7 c rest' _ _ ih =>
    obtain ⟨t', h_body, rfl⟩ := eq_some_of_map_cons h
    have := ih h_body
    simp only [List.length_cons]
    omega

end Sql

namespace Dialect

/-- The opening and closing delimiters of a dialect's quoted identifiers. -/
def identDelimiters (d : Dialect) : Char × Char :=
  match d.identQuote with
  | .double => ('"', '"')
  | .backtick => ('`', '`')
  | .bracket => ('[', ']')

/-- Whether a backslash in a quoted identifier escapes the character after it: BigQuery's does. -/
def identEscapes : Dialect → Bool
  | bigquery => true
  | _ => false

/-- Reads a quoted identifier at the start of a text: the name it denotes, and what follows. -/
def readIdent (d : Dialect) : List Char → Option (List Char × List Char)
  | c :: body =>
    if c == d.identDelimiters.1 then Sql.readQuotedBody d.identDelimiters.2 d.identEscapes body
    else none
  | [] => none

/-- Reads a string literal at the start of a text; in T-SQL an `N` may stand before its quote. -/
def readStringLiteral (d : Dialect) : List Char → Option (List Char × List Char)
  | 'N' :: cs => if d == tsql then Sql.readString d.escapesBackslash cs else none
  | cs => Sql.readString d.escapesBackslash cs

theorem readIdent_rest_length {d : Dialect} {cs name rest : List Char}
    (h : d.readIdent cs = some (name, rest)) : rest.length < cs.length := by
  cases cs with
  | nil => cases h
  | cons c body =>
    rw [readIdent] at h
    split at h
    · have := Sql.readQuotedBody_rest_length h
      simp only [List.length_cons]
      omega
    · cases h

set_option linter.unusedVariables false in
/-- Reads names quoted for the dialect and joined by dots, to the end of the text. -/
def readIdentPath (d : Dialect) (cs : List Char) : Option (List (List Char)) :=
  match h : d.readIdent cs with
  | some (name, []) => some [name]
  | some (name, '.' :: rest) => (d.readIdentPath rest).map (name :: ·)
  | _ => none
termination_by cs.length
decreasing_by
  have := readIdent_rest_length h
  simp only [List.length_cons] at this
  omega

theorem doubleChar_eq (c : Char) (s : String) : doubleChar c s = Sql.doubled c s.toList := rfl

theorem quoteIdent_toList (d : Dialect) (s : String) :
    (d.quoteIdent s).toList =
      d.identDelimiters.1 :: Sql.doubled d.identDelimiters.2 s.toList ++ [d.identDelimiters.2] := by
  cases d <;> simp [quoteIdent, identQuote, identDelimiters, doubleChar_eq]

/-- A string literal: in T-SQL an `N` before it when the text is not ASCII, then the text between
single quotes, every single quote doubled. -/
theorem quoteString_toList (d : Dialect) (s : String) :
    (d.quoteString s).toList =
      (if d = tsql ∧ s.toList.any (fun c => c.toNat ≥ 128) = true then ['N'] else []) ++
        '\'' :: Sql.doubled '\'' s.toList ++ ['\''] := by
  unfold quoteString
  split
  · rename_i h_n
    simp only [Bool.and_eq_true, beq_iff_eq] at h_n
    rw [if_pos h_n]
    simp [doubleChar_eq]
  · rename_i h_n
    simp only [Bool.and_eq_true, beq_iff_eq] at h_n
    rw [if_neg h_n]
    simp [doubleChar_eq]

theorem identDelimiters_ne_backslash (d : Dialect) : d.identDelimiters.2 ≠ '\\' := by
  cases d <;> decide

/-- A quoted identifier reads back as exactly the name and ends at its final delimiter, unless
the dialect takes a backslash as an escape and the name has one. -/
theorem readIdent_quoteIdent_iff (d : Dialect) (s : String) {rest : List Char}
    (h_rest : rest.head? ≠ some d.identDelimiters.2) :
    d.readIdent ((d.quoteIdent s).toList ++ rest) = some (s.toList, rest) ↔
      d.identEscapes = false ∨ '\\' ∉ s.toList := by
  simp only [quoteIdent_toList, List.cons_append, readIdent, beq_self_eq_true, if_true,
    List.append_assoc]
  exact Sql.readQuotedBody_quoted_iff (identDelimiters_ne_backslash d) _ _ h_rest

/-- A string literal reads back as exactly the text and ends at its final quote, unless the
dialect takes a backslash as an escape and the text has one. -/
theorem readStringLiteral_quoteString_iff (d : Dialect) (s : String) {rest : List Char}
    (h_rest : rest.head? ≠ some '\'') :
    d.readStringLiteral ((d.quoteString s).toList ++ rest) = some (s.toList, rest) ↔
      d.escapesBackslash = false ∨ '\\' ∉ s.toList := by
  have h_body := Sql.readQuotedBody_quoted_iff (by decide) d.escapesBackslash s.toList h_rest
  rw [← Sql.readStringBody_eq] at h_body
  rw [quoteString_toList]
  split
  · rename_i h_n
    obtain ⟨rfl, -⟩ := h_n
    simpa [readStringLiteral, Sql.readString, List.append_assoc] using h_body
  · simpa [readStringLiteral, Sql.readString, List.append_assoc] using h_body

theorem readIdentPath_of_last {d : Dialect} {cs name : List Char} (h : d.readIdent cs = some (name, [])) :
    d.readIdentPath cs = some [name] := by
  rw [readIdentPath]
  split <;> simp_all

theorem readIdentPath_of_dot {d : Dialect} {cs name rest : List Char}
    (h : d.readIdent cs = some (name, '.' :: rest)) :
    d.readIdentPath cs = (d.readIdentPath rest).map (name :: ·) := by
  rw [readIdentPath]
  split <;> simp_all

/-- An escaping reader of identifiers gives at most half the backslashes it consumes. -/
theorem count_readIdent {d : Dialect} (h_esc : d.identEscapes = true) {cs name rest : List Char}
    (h : d.readIdent cs = some (name, rest)) :
    2 * name.count '\\' + rest.count '\\' ≤ cs.count '\\' := by
  cases cs with
  | nil => cases h
  | cons c body =>
    rw [readIdent] at h
    split at h
    · rw [h_esc] at h
      have := Sql.count_readQuotedBody (identDelimiters_ne_backslash d) h
      simp only [List.count_cons]
      omega
    · cases h

theorem count_readIdentPath {d : Dialect} (h_esc : d.identEscapes = true) {cs : List Char}
    {names : List (List Char)} (h : d.readIdentPath cs = some names) :
    2 * names.flatten.count '\\' ≤ cs.count '\\' := by
  fun_induction d.readIdentPath cs generalizing names with
  | case1 cs name h_read =>
    cases h
    have := count_readIdent h_esc h_read
    simp only [List.flatten_cons, List.flatten_nil, List.append_nil]
    omega
  | case2 cs name rest h_read ih =>
    obtain ⟨names', h_rest, rfl⟩ := Option.map_eq_some_iff.mp h
    have h_name := count_readIdent h_esc h_read
    have := ih h_rest
    -- the dot between two names is no backslash
    simp only [List.count_cons, beq_iff_eq, show ('.' : Char) ≠ '\\' from by decide, if_false,
      Nat.add_zero] at h_name
    simp only [List.flatten_cons, List.count_append]
    omega
  | case3 => cases h

/-- Two texts doubled and closed alike are the same text: reading without escapes undoes
the doubling. -/
theorem doubled_close_inj {close : Char} (h_close : close ≠ '\\') {s t : List Char}
    (h : Sql.doubled close s ++ [close] = Sql.doubled close t ++ [close]) : s = t := by
  have h_end : ([] : List Char).head? ≠ some close := by simp
  have h_s := (Sql.readQuotedBody_quoted_iff h_close false s h_end).mpr (.inl rfl)
  have h_t := (Sql.readQuotedBody_quoted_iff h_close false t h_end).mpr (.inl rfl)
  rw [h, h_t] at h_s
  exact (Prod.mk.inj (Option.some.inj h_s)).1.symm

/-- Different names are quoted differently. -/
theorem quoteIdent_inj (d : Dialect) {s t : String} : d.quoteIdent s = d.quoteIdent t ↔ s = t := by
  refine ⟨fun h => ?_, fun h => h ▸ rfl⟩
  have h_list := congrArg String.toList h
  rw [quoteIdent_toList, quoteIdent_toList] at h_list
  exact String.toList_inj.mp (doubled_close_inj (identDelimiters_ne_backslash d) (List.cons.inj h_list).2)

/-- Different texts are quoted differently. -/
theorem quoteString_inj (d : Dialect) {s t : String} : d.quoteString s = d.quoteString t ↔ s = t := by
  refine ⟨fun h => ?_, fun h => h ▸ rfl⟩
  have h_list := congrArg String.toList h
  rw [quoteString_toList, quoteString_toList] at h_list
  -- an `N` and a quote differ, so both literals have the `N` or neither has
  have h_body : Sql.doubled '\'' s.toList ++ ['\''] = Sql.doubled '\'' t.toList ++ ['\''] := by
    split at h_list <;> split at h_list
    all_goals simp only [List.cons_append, List.nil_append, List.cons.injEq] at h_list
    · exact h_list.2.2
    · exact absurd h_list.1 (by decide)
    · exact absurd h_list.1 (by decide)
    · exact h_list.2
  exact String.toList_inj.mp (doubled_close_inj (by decide) h_body)

/-- Names quoted for the dialect and joined by dots hold the names' backslashes and no other. -/
theorem count_quotedPath (d : Dialect) (parts : List String) :
    (['.'].intercalate (parts.map fun q => (d.quoteIdent q).toList)).count '\\' =
      (parts.map String.toList).flatten.count '\\' := by
  have h_quote : ∀ q : String, (d.quoteIdent q).toList.count '\\' = q.toList.count '\\' := by
    intro q
    have h_open : d.identDelimiters.1 ≠ '\\' := by cases d <;> decide
    rw [quoteIdent_toList, List.count_append, List.count_cons,
      Sql.count_doubled (identDelimiters_ne_backslash d), List.count_singleton]
    simp [h_open, identDelimiters_ne_backslash d]
  induction parts with
  | nil => rfl
  | cons p ps ih =>
    cases ps with
    | nil => simp [h_quote]
    | cons q qs =>
      simp only [List.map_cons, List.intercalate_cons_cons, List.count_append] at ih ⊢
      rw [ih]
      simp [h_quote]

/-- Names quoted for the dialect and joined by dots read back one by one, unless the dialect takes
a backslash as an escape and a name has one. -/
theorem readIdentPath_quoted_iff (d : Dialect) {parts : List String} (h_ne : parts ≠ []) :
    d.readIdentPath (['.'].intercalate (parts.map fun q => (d.quoteIdent q).toList)) =
        some (parts.map String.toList) ↔
      d.identEscapes = false ∨ ∀ q ∈ parts, '\\' ∉ q.toList := by
  constructor
  · intro h_read
    cases h_esc : d.identEscapes with
    | false => exact .inl rfl
    | true =>
      -- reading would give fewer backslashes than the names have
      have h_count := count_readIdentPath h_esc h_read
      rw [count_quotedPath] at h_count
      have h_zero : (parts.map String.toList).flatten.count '\\' = 0 := by omega
      refine .inr fun q h_q h_mem => ?_
      have h_pos : 0 < (parts.map String.toList).flatten.count '\\' :=
        List.count_pos_iff.mpr (List.mem_flatten.mpr ⟨q.toList, List.mem_map_of_mem h_q, h_mem⟩)
      omega
  · intro h
    induction parts with
    | nil => exact absurd rfl h_ne
    | cons p ps ih =>
      have h_p : d.identEscapes = false ∨ '\\' ∉ p.toList := h.imp_right fun h => h p (by simp)
      cases ps with
      | nil =>
        have h_end : ([] : List Char).head? ≠ some d.identDelimiters.2 := by simp
        have h_read := (readIdent_quoteIdent_iff d p h_end).mpr h_p
        rw [List.append_nil] at h_read
        simpa using readIdentPath_of_last h_read
      | cons q qs =>
        -- the first name, then a dot: the dot is no closing delimiter
        have h_dot : ('.' :: ['.'].intercalate ((q :: qs).map fun q => (d.quoteIdent q).toList)).head? ≠
            some d.identDelimiters.2 := by
          cases d <;> simp [identDelimiters, identQuote]
        have h_read := readIdentPath_of_dot ((readIdent_quoteIdent_iff d p h_dot).mpr h_p)
        have h_text : ['.'].intercalate ((p :: q :: qs).map fun q => (d.quoteIdent q).toList) =
            (d.quoteIdent p).toList ++ '.' :: ['.'].intercalate ((q :: qs).map fun q => (d.quoteIdent q).toList) := by
          simp only [List.map_cons, List.intercalate_cons_cons, List.append_assoc, List.singleton_append]
        rw [h_text, h_read, ih (by simp) (h.imp_right fun h q h_q => h q (List.mem_cons_of_mem p h_q))]
        rfl

/-- A rollup table's name is its quoted parts joined by dots. -/
theorem qualifiedTable_toList (loc : RollupLocation) (table : String) (d : Dialect) :
    (loc.qualifiedTable table d).toList =
      ['.'].intercalate ((loc.database.toList ++ loc.schema.toList ++ [table]).map
        fun q => (d.quoteIdent q).toList) := by
  simp [RollupLocation.qualifiedTable, Function.comp_def]

end Dialect

/-- Quoting is injective in every dialect, and a quoted token reads back as exactly its text,
ending at its final delimiter, unless the dialect takes a backslash as an escape and the text has
one: MySQL, BigQuery and Databricks string literals, and BigQuery identifiers. A rollup table's
name reads back as its parts on the same condition. -/
theorem quoting_injective_and_closed (d : Dialect) :
    (∀ s t : String, d.quoteIdent s = d.quoteIdent t ↔ s = t) ∧
    (∀ s t : String, d.quoteString s = d.quoteString t ↔ s = t) ∧
    (∀ (s : String) (rest : List Char), rest.head? ≠ some d.identDelimiters.2 →
      (d.readIdent ((d.quoteIdent s).toList ++ rest) = some (s.toList, rest) ↔
        d.identEscapes = false ∨ '\\' ∉ s.toList)) ∧
    (∀ (s : String) (rest : List Char), rest.head? ≠ some '\'' →
      (d.readStringLiteral ((d.quoteString s).toList ++ rest) = some (s.toList, rest) ↔
        d.escapesBackslash = false ∨ '\\' ∉ s.toList)) ∧
    ∀ (loc : RollupLocation) (table : String),
      d.readIdentPath (loc.qualifiedTable table d).toList =
          some ((loc.database.toList ++ loc.schema.toList ++ [table]).map String.toList) ↔
        d.identEscapes = false ∨
          ∀ p ∈ loc.database.toList ++ loc.schema.toList ++ [table], '\\' ∉ p.toList :=
  ⟨fun _ _ => d.quoteIdent_inj, fun _ _ => d.quoteString_inj,
    fun s _ h_rest => d.readIdent_quoteIdent_iff s h_rest,
    fun s _ h_rest => d.readStringLiteral_quoteString_iff s h_rest,
    fun loc table => by
      rw [Dialect.qualifiedTable_toList]
      exact d.readIdentPath_quoted_iff (by simp)⟩

/-- In MySQL the text `a\` is quoted as `'a\'`, and the backslash escapes the closing quote: the
literal never ends. -/
theorem trailingBackslash_string_unclosed :
    Dialect.mysql.quoteString "a\\" = "'a\\'" ∧
      Dialect.mysql.readStringLiteral "'a\\'".toList = none := by
  decide

end MetricLayer
