import MetricLayer.Schema.RefToken
import MetricLayer.Proofs.Graph.CanonicalNames
/-!
# References as whole tokens

The reference scanner cuts a formula into stretches (`stretches`): a reference with the text it
covers, or text it passes over (a character where no lexeme starts, a quoted string, a number).
The stretches spell the formula and the references are exactly its reference stretches, each
covering the bytes of its text (`Laid`), so they come in order as non-empty ranges inside the
formula.

A bare reference is a whole name (`BareIn`): it is its name, and no word character follows it.
A `.` follows it only when the name already has its one dot or no identifier comes after the
`.`, and the character before it starts no identifier. It may still follow a `.`, so the last
segment of `schema.table.column` is read as a reference of its own
(`dotted_name_last_segment_substituted`).

`replaceRefs` writes the stretches one after another, each reference the replacement gives a
text for as that text and everything else as it stands (`replaceRefs_eq_rewrite`). This rests
on `bytesBetween` giving back the characters between two character boundaries
(`bytesBetween_of_eq`). The whole statement is `scan_references_whole`.
-/

namespace MetricLayer

open MetricLayer.Text

namespace Text

@[simp] theorem byteLength_nil : byteLength [] = 0 := rfl

theorem byteLength_foldl (cs : List Char) (n : Nat) :
    cs.foldl (fun n c => n + c.utf8Size) n = n + byteLength cs := by
  induction cs generalizing n with
  | nil => rfl
  | cons c cs ih =>
    simp only [byteLength, List.foldl_cons] at ih ⊢
    rw [ih, ih (0 + c.utf8Size)]
    omega

@[simp] theorem byteLength_cons (c : Char) (cs : List Char) :
    byteLength (c :: cs) = c.utf8Size + byteLength cs := by
  simp only [byteLength, List.foldl_cons]
  rw [byteLength_foldl]
  simp [byteLength]

@[simp] theorem byteLength_append (a b : List Char) :
    byteLength (a ++ b) = byteLength a + byteLength b := by
  induction a with
  | nil => simp
  | cons c a ih => simp [ih]; omega

theorem utf8ByteSize_ofList (cs : List Char) : (String.ofList cs).utf8ByteSize = byteLength cs := by
  induction cs with
  | nil => rfl
  | cons c cs ih =>
    rw [← List.singleton_append, String.ofList_append, String.utf8ByteSize_append, ih,
      byteLength_append]
    have h_c : String.ofList [c] = String.singleton c := rfl
    simp [h_c, String.utf8ByteSize_singleton]

theorem utf8ByteSize_eq_byteLength (s : String) : s.utf8ByteSize = byteLength s.toList := by
  rw [← utf8ByteSize_ofList, String.ofList_toList]

end Text

namespace RefToken

/-- One step of `bytesBetween`: a character is kept when its offset lies in the window. -/
def keepStep (lo hi : Nat) (acc : List Char × Nat) (c : Char) : List Char × Nat :=
  let (kept, offset) := acc
  (if lo ≤ offset && offset < hi then c :: kept else kept, offset + c.utf8Size)

theorem bytesBetween_eq_foldl (s : String) (lo hi : Nat) :
    bytesBetween s lo hi = String.ofList ((s.toList.foldl (keepStep lo hi) ([], 0)).1.reverse) :=
  rfl

section Window

variable {lo hi : Nat}

/-- Characters that all lie before or after the window are dropped. -/
theorem foldl_keepStep_outside (cs kept : List Char) (off : Nat)
    (h : off + byteLength cs ≤ lo ∨ hi ≤ off) :
    cs.foldl (keepStep lo hi) (kept, off) = (kept, off + byteLength cs) := by
  induction cs generalizing off with
  | nil => simp
  | cons c cs ih =>
    have h_pos := Char.utf8Size_pos c
    simp only [byteLength_cons] at h
    have h_out : (lo ≤ off && off < hi) = false := by
      simp only [Bool.and_eq_false_iff, decide_eq_false_iff_not, Nat.not_le, Nat.not_lt]
      omega
    rw [List.foldl_cons, keepStep, h_out, if_neg Bool.false_ne_true, ih (off + c.utf8Size) (by omega),
      byteLength_cons, Nat.add_assoc]

/-- Characters that all lie in the window are kept. -/
theorem foldl_keepStep_inside (cs kept : List Char) (off : Nat) (h_lo : lo ≤ off)
    (h_hi : off + byteLength cs ≤ hi) :
    cs.foldl (keepStep lo hi) (kept, off) = (cs.reverse ++ kept, off + byteLength cs) := by
  induction cs generalizing kept off with
  | nil => simp
  | cons c cs ih =>
    have h_pos := Char.utf8Size_pos c
    simp only [byteLength_cons] at h_hi
    have h_in : (lo ≤ off && off < hi) = true := by
      simp only [Bool.and_eq_true, decide_eq_true_eq]
      omega
    rw [List.foldl_cons, keepStep, h_in, if_pos rfl, ih (c :: kept) (off + c.utf8Size) (by omega) (by omega),
      byteLength_cons]
    simp only [List.reverse_cons, List.append_assoc, List.cons_append, List.nil_append]
    congr 1
    omega

end Window

/-- The bytes of a formula between two character boundaries are the characters between them. -/
theorem bytesBetween_of_eq {s : String} {a b c : List Char} (h : s.toList = a ++ b ++ c) :
    bytesBetween s (byteLength a) (byteLength a + byteLength b) = String.ofList b := by
  rw [bytesBetween_eq_foldl, h, List.foldl_append, List.foldl_append,
    foldl_keepStep_outside a [] 0 (by simp), foldl_keepStep_inside b [] _ (by simp) (by simp),
    foldl_keepStep_outside c _ _ (by simp)]
  simp

-- ============================================================================
-- The scanner's reading of a formula
-- ============================================================================

/-- A stretch of a formula as the scanner reads it: text it passes over (a character where no
lexeme starts, a quoted string or a number), or a reference with the text it covers. -/
inductive Stretch
  | text (cs : List Char)
  | ref (r : RefToken) (cs : List Char)

namespace Stretch

/-- The characters of the formula a stretch covers. -/
def chars : Stretch → List Char
  | .text cs | .ref _ cs => cs

/-- The reference a stretch is, if it is one. -/
def ref? : Stretch → Option RefToken
  | .text _ => none
  | .ref r _ => some r

/-- What a stretch becomes when the references `replace` gives a text for are replaced. -/
def rewrite (replace : RefToken → Option String) : Stretch → List Char
  | .text cs => cs
  | .ref r cs => ((replace r).map String.toList).getD cs

end Stretch

/-- The scanner's reading of a formula from byte offset `pos` on, stretch by stretch. -/
def stretches (pos : Nat) : List Char → List Stretch
  | [] => []
  | c :: rest =>
    match lexeme pos c rest with
    | some (n, found) =>
      let piece := c :: rest.take n
      (match found with
        | some r => Stretch.ref r piece
        | none => Stretch.text piece) ::
        stretches (pos + c.utf8Size + byteLength (rest.take n)) (rest.drop n)
    | none => .text [c] :: stretches (pos + c.utf8Size) rest
termination_by cs => cs.length
decreasing_by
  all_goals simp only [List.length_drop, List.length_cons]
  all_goals omega

/-- The references are the reference stretches. -/
theorem scanFrom_eq_filterMap (pos : Nat) (cs : List Char) :
    scanFrom pos cs = (stretches pos cs).filterMap Stretch.ref? := by
  fun_induction scanFrom pos cs with
  | case1 => simp [stretches]
  | case2 pos c rest n next r h_lex ih =>
    rw [stretches, h_lex]
    simp only [List.filterMap_cons, Stretch.ref?, ih, next]
  | case3 pos c rest n next h_lex ih =>
    rw [stretches, h_lex]
    simp only [List.filterMap_cons, Stretch.ref?, ih, next]
  | case4 pos c rest h_lex ih =>
    rw [stretches, h_lex]
    simp only [List.filterMap_cons, Stretch.ref?, ih]

/-- The stretches spell the formula. -/
theorem flatMap_chars_stretches (pos : Nat) (cs : List Char) :
    (stretches pos cs).flatMap Stretch.chars = cs := by
  fun_induction stretches pos cs with
  | case1 => rfl
  | case2 pos c rest n found h_lex piece ih =>
    cases found <;> simp [Stretch.chars, piece, ih]
  | case3 pos c rest h_lex ih => simp [Stretch.chars, ih]

/-- A reference lexeme covers the bytes of the characters it takes. -/
theorem lexeme_ref_span {pos n : Nat} {c : Char} {rest : List Char} {r : RefToken}
    (h : lexeme pos c rest = some (n, some r)) :
    r.start = pos ∧ r.stop = pos + c.utf8Size + byteLength (rest.take n) := by
  unfold lexeme at h
  dsimp only at h
  split at h
  · simp at h
  · split at h
    · obtain ⟨⟨n', name⟩, -, h_eq⟩ := Option.map_eq_some_iff.mp h
      simp only [Prod.mk.injEq, Option.some.injEq] at h_eq
      obtain ⟨rfl, rfl⟩ := h_eq
      exact ⟨rfl, rfl⟩
    · split at h
      · simp at h
      · split at h
        · simp only [Option.some.injEq, Prod.mk.injEq] at h
          obtain ⟨rfl, rfl⟩ := h
          exact ⟨rfl, rfl⟩
        · cases h

/-- `Laid p ss`: laid from byte offset `p` on, every reference stretch of `ss` covers the bytes of
its text. -/
def Laid : Nat → List Stretch → Prop
  | _, [] => True
  | p, s :: ss => (∀ r cs, s = .ref r cs → cs ≠ [] ∧ r.start = p ∧ r.stop = p + byteLength cs) ∧
      Laid (p + byteLength s.chars) ss

theorem laid_stretches (pos : Nat) (cs : List Char) : Laid pos (stretches pos cs) := by
  fun_induction stretches pos cs with
  | case1 => trivial
  | case2 pos c rest n found h_lex piece ih =>
    refine ⟨?_, ?_⟩
    · intro r cs h_s
      cases found with
      | none => cases h_s
      | some r' =>
        cases h_s
        obtain ⟨h_start, h_stop⟩ := lexeme_ref_span h_lex
        simp [h_start, h_stop, piece, Nat.add_assoc]
    · cases found <;> simpa [Stretch.chars, piece, Nat.add_assoc] using ih
  | case3 pos c rest h_lex ih =>
    refine ⟨fun _ _ h_s => ?_, by simpa [Stretch.chars] using ih⟩
    cases h_s

-- ============================================================================
-- Replacing references
-- ============================================================================

/-- One step of `replaceRefs`: a reference that is replaced writes the bytes since the last one
replaced and then its text. -/
def replaceStep (formula : String) (replace : RefToken → Option String) (acc : String × Nat)
    (r : RefToken) : String × Nat :=
  let (out, last) := acc
  match replace r with
  | some text => (out ++ bytesBetween formula last r.start ++ text, r.stop)
  | none => (out, last)

theorem replaceRefs_eq_foldl (formula : String) (replace : RefToken → Option String) :
    replaceRefs formula replace =
      ((scan formula).foldl (replaceStep formula replace) ("", 0)).1 ++
        bytesBetween formula ((scan formula).foldl (replaceStep formula replace) ("", 0)).2
          formula.utf8ByteSize :=
  rfl

/-- The loop of `replaceRefs` over laid stretches. What it has written, followed by the text since
the last reference it replaced, is the rewrite of everything read so far. -/
theorem foldl_replaceStep (formula : String) (replace : RefToken → Option String) (after : List Char) :
    ∀ (ss : List Stretch) (pre kept done written : List Char) (out : String),
      formula.toList = pre ++ ss.flatMap Stretch.chars ++ after → Laid (byteLength pre) ss →
      pre = done ++ kept → written = out.toList ++ kept →
      ∃ done' kept', pre ++ ss.flatMap Stretch.chars = done' ++ kept' ∧
        ((ss.filterMap Stretch.ref?).foldl (replaceStep formula replace) (out, byteLength done)).2 =
          byteLength done' ∧
        written ++ ss.flatMap (Stretch.rewrite replace) =
          ((ss.filterMap Stretch.ref?).foldl (replaceStep formula replace) (out, byteLength done)).1.toList ++
            kept'
  | [], pre, kept, done, written, out, _, _, h_pre, h_written =>
    ⟨done, kept, by simpa using h_pre, rfl, by simpa using h_written⟩
  | .text cs :: ss, pre, kept, done, written, out, h_formula, h_laid, h_pre, h_written => by
    obtain ⟨-, h_laid⟩ := h_laid
    obtain ⟨done', kept', h_eq, h_last, h_out⟩ :=
      foldl_replaceStep formula replace after ss (pre ++ cs) (kept ++ cs) done (written ++ cs) out
        (by simpa [Stretch.chars] using h_formula) (by simpa [Stretch.chars] using h_laid)
        (by simp [h_pre]) (by simp [h_written])
    refine ⟨done', kept', by simpa [Stretch.chars] using h_eq, by simpa [List.filterMap_cons, Stretch.ref?] using h_last, ?_⟩
    simpa [List.filterMap_cons, Stretch.rewrite, Stretch.ref?] using h_out
  | .ref r cs :: ss, pre, kept, done, written, out, h_formula, h_laid, h_pre, h_written => by
    obtain ⟨h_span, h_laid⟩ := h_laid
    obtain ⟨-, h_start, h_stop⟩ := h_span r cs rfl
    cases h_r : replace r with
    | none =>
      obtain ⟨done', kept', h_eq, h_last, h_out⟩ :=
        foldl_replaceStep formula replace after ss (pre ++ cs) (kept ++ cs) done (written ++ cs) out
          (by simpa [Stretch.chars] using h_formula) (by simpa [Stretch.chars] using h_laid)
          (by simp [h_pre]) (by simp [h_written])
      refine ⟨done', kept', by simpa [Stretch.chars] using h_eq, ?_, ?_⟩
      · simpa [List.filterMap_cons, Stretch.ref?, replaceStep, h_r] using h_last
      · simpa [List.filterMap_cons, Stretch.rewrite, Stretch.ref?, replaceStep, h_r] using h_out
    | some text =>
      -- the bytes since the last replaced reference are the kept characters
      have h_between : bytesBetween formula (byteLength done) r.start = String.ofList kept := by
        rw [h_start, h_pre, byteLength_append]
        exact bytesBetween_of_eq (c := cs ++ ss.flatMap Stretch.chars ++ after)
          (by rw [h_formula, h_pre]; simp [Stretch.chars])
      have h_step : replaceStep formula replace (out, byteLength done) r =
          (out ++ String.ofList kept ++ text, byteLength (pre ++ cs)) := by
        simp [replaceStep, h_r, h_between, h_stop]
      -- from here on nothing is kept: the reference's text is written
      obtain ⟨done', kept', h_eq, h_last, h_out⟩ :=
        foldl_replaceStep formula replace after ss (pre ++ cs) [] (pre ++ cs) (written ++ text.toList)
          (out ++ String.ofList kept ++ text) (by simpa [Stretch.chars] using h_formula)
          (by simpa [Stretch.chars] using h_laid) (by simp) (by simp [h_written])
      refine ⟨done', kept', by simpa [Stretch.chars] using h_eq, ?_, ?_⟩
      · simpa [List.filterMap_cons, Stretch.ref?, h_step] using h_last
      · simpa [List.filterMap_cons, Stretch.rewrite, Stretch.ref?, h_step, h_r] using h_out

/-- Replacing references writes the formula stretch by stretch: every reference `replace` gives a
text for as that text, everything else as it stands. -/
theorem replaceRefs_eq_rewrite (formula : String) (replace : RefToken → Option String) :
    replaceRefs formula replace =
      String.ofList ((stretches 0 formula.toList).flatMap (Stretch.rewrite replace)) := by
  obtain ⟨done, kept, h_eq, h_last, h_out⟩ :=
    foldl_replaceStep formula replace [] (stretches 0 formula.toList) [] [] [] [] ""
      (by simp [flatMap_chars_stretches]) (laid_stretches 0 _) rfl rfl
  simp only [List.nil_append, flatMap_chars_stretches, byteLength_nil] at h_eq h_last h_out
  -- what is left after the last replaced reference is copied whole
  have h_tail : bytesBetween formula (byteLength done) formula.utf8ByteSize = String.ofList kept := by
    rw [utf8ByteSize_eq_byteLength, h_eq, byteLength_append]
    exact bytesBetween_of_eq (c := []) (by simp [h_eq])
  rw [replaceRefs_eq_foldl, scan, scanFrom_eq_filterMap, h_last, h_tail, h_out, String.ofList_append,
    String.ofList_toList]

/-- Replacing no reference leaves the formula as it is. -/
theorem replaceRefs_none (formula : String) : replaceRefs formula (fun _ => none) = formula := by
  have h_rewrite : ∀ s : Stretch, s.rewrite (fun _ => none) = s.chars := by
    intro s
    cases s <;> rfl
  rw [replaceRefs_eq_rewrite, List.flatMap_congr fun s _ => h_rewrite s, flatMap_chars_stretches,
    String.ofList_toList]

theorem byteLength_pos {cs : List Char} (h : cs ≠ []) : 0 < byteLength cs := by
  obtain ⟨c, cs, rfl⟩ := List.exists_cons_of_ne_nil h
  have := Char.utf8Size_pos c
  simp
  omega

/-- Laid references come in order, each a non-empty range inside the text. -/
theorem Laid.refs {p : Nat} : ∀ {ss : List Stretch}, Laid p ss →
    (ss.filterMap Stretch.ref?).IsChain (fun a b => a.stop ≤ b.start) ∧
      ∀ r ∈ ss.filterMap Stretch.ref?,
        p ≤ r.start ∧ r.start < r.stop ∧ r.stop ≤ p + byteLength (ss.flatMap Stretch.chars)
  | [], _ => ⟨.nil, by simp⟩
  | .text cs :: ss, ⟨_, h_laid⟩ => by
    obtain ⟨h_chain, h_in⟩ := Laid.refs h_laid
    refine ⟨by simpa [List.filterMap_cons, Stretch.ref?] using h_chain, ?_⟩
    intro r h_r
    simp only [List.filterMap_cons, Stretch.ref?] at h_r
    obtain ⟨h_lo, h_pos, h_hi⟩ := h_in r h_r
    simp only [Stretch.chars] at h_lo h_hi
    simp only [List.flatMap_cons, Stretch.chars, byteLength_append]
    omega
  | .ref r cs :: ss, ⟨h_span, h_laid⟩ => by
    obtain ⟨h_ne, h_start, h_stop⟩ := h_span r cs rfl
    obtain ⟨h_chain, h_in⟩ := Laid.refs h_laid
    have h_bytes := byteLength_pos h_ne
    simp only [Stretch.chars] at h_in
    simp only [List.filterMap_cons, Stretch.ref?, List.flatMap_cons, Stretch.chars, byteLength_append,
      List.mem_cons, forall_eq_or_imp]
    refine ⟨h_chain.cons fun y h_y => ?_, ⟨by omega, by omega, by omega⟩, fun r' h_r' => ?_⟩
    · have := h_in y (List.mem_of_mem_head? h_y)
      omega
    · have := h_in r' h_r'
      omega

-- ============================================================================
-- Bare references are whole names
-- ============================================================================

theorem head?_drop_takeWhile (p : Char → Bool) (l : List Char) :
    ∀ c ∈ (l.drop (l.takeWhile p).length).head?, p c = false := by
  have h_l := List.takeWhile_append_dropWhile (p := p) (l := l)
  have h_drop : l.drop (l.takeWhile p).length = l.dropWhile p :=
    calc l.drop (l.takeWhile p).length
        = (l.takeWhile p ++ l.dropWhile p).drop (l.takeWhile p).length := by rw [h_l]
      _ = l.dropWhile p := List.drop_left
  rw [h_drop]
  exact head?_dropWhile_false p l

/-- A bare reference starts with an identifier character and is the name it takes. -/
theorem lexeme_bare {pos n : Nat} {c : Char} {rest : List Char} {r : RefToken}
    (h : lexeme pos c rest = some (n, some r)) (h_bare : r.braced = false) :
    isIdentStart c = true ∧ n = nameTail rest ∧ r.name.toList = c :: rest.take n := by
  unfold lexeme at h
  dsimp only at h
  split at h
  · simp at h
  · split at h
    · obtain ⟨⟨n', name⟩, -, h_eq⟩ := Option.map_eq_some_iff.mp h
      simp only [Prod.mk.injEq, Option.some.injEq] at h_eq
      obtain ⟨-, rfl⟩ := h_eq
      cases h_bare
    · split at h
      · simp at h
      · split at h
        · rename_i h_c
          simp only [Option.some.injEq, Prod.mk.injEq] at h
          obtain ⟨rfl, rfl⟩ := h
          exact ⟨h_c, rfl, String.toList_ofList⟩
        · cases h

/-- A name stops before a word character never. -/
theorem nameTail_stop (rest : List Char) :
    ∀ d ∈ (rest.drop (nameTail rest)).head?, isWordChar d = false := by
  have h_first := head?_drop_takeWhile isWordChar rest
  unfold nameTail
  dsimp only
  split
  · rename_i d more h_after
    split
    · -- a second identifier after the dot, itself maximal
      have h_more : rest.drop ((rest.takeWhile isWordChar).length + 2 + (more.takeWhile isWordChar).length) =
          more.drop (more.takeWhile isWordChar).length := by
        rw [Nat.add_assoc, ← List.drop_drop, h_after, Nat.add_comm]
        rfl
      rw [h_more]
      exact head?_drop_takeWhile isWordChar more
    · exact h_first
  · exact h_first

/-- A name stops at a `.` only when it has one already or no identifier follows the `.`. -/
theorem nameTail_dot (rest : List Char) (h : (rest.drop (nameTail rest)).head? = some '.') :
    '.' ∈ rest.take (nameTail rest) ∨ ∀ d ∈ (rest.drop (nameTail rest + 1)).head?, isIdentStart d = false := by
  revert h
  unfold nameTail
  dsimp only
  split
  · rename_i d more h_after
    split
    · -- the name took the dot and a second identifier
      intro _
      left
      have h_take : rest.take ((rest.takeWhile isWordChar).length + 2 + (more.takeWhile isWordChar).length) =
          rest.takeWhile isWordChar ++ '.' :: d :: more.take (more.takeWhile isWordChar).length := by
        rw [Nat.add_assoc, List.take_add, take_length_takeWhile, h_after, Nat.add_comm]
        rfl
      simp [h_take]
    · -- no identifier follows the dot
      rename_i h_d
      intro _
      right
      rw [← List.drop_drop, h_after]
      simpa using h_d
  · rename_i h_other
    intro h_dot
    right
    intro d h_d
    -- only a lone dot ends the text here
    rw [← List.drop_drop] at h_d
    cases h_rest : rest.drop (rest.takeWhile isWordChar).length with
    | nil => simp [h_rest] at h_dot
    | cons x tail =>
      rw [h_rest] at h_dot h_d
      cases h_dot
      cases tail with
      | nil => cases h_d
      | cons y more => exact absurd h_rest (h_other y more)

-- ============================================================================
-- What a reference can follow
-- ============================================================================

section Last

variable {P : Char → Prop}

theorem last_append {a b : List Char} (h_a : ∀ x ∈ a.getLast?, P x)
    (h_b : ∀ x ∈ b.getLast?, P x) : ∀ x ∈ (a ++ b).getLast?, P x := by
  intro x h_x
  simp only [List.getLast?_append, Option.mem_def, Option.or_eq_some_iff] at h_x
  rcases h_x with h_x | ⟨-, h_x⟩
  · exact h_b x h_x
  · exact h_a x h_x

theorem last_of_forall {a : List Char} (h : ∀ x ∈ a, P x) : ∀ x ∈ a.getLast?, P x :=
  fun x h_x => h x (List.mem_of_getLast? h_x)

/-- The last of the first `n` characters, when there are `n`, is the character at `n - 1`. -/
theorem last_take {l : List Char} {n : Nat} {c : Char} (h_n : 0 < n) (h : l[n - 1]? = some c) :
    (l.take n).getLast? = some c := by
  rw [List.getLast?_take, if_neg (by omega), h]
  rfl

end Last

/-- A quoted string ends with its quote. -/
theorem quotedLength_last {q : Char} : ∀ {l : List Char} {n : Nat}, quotedLength q l = some n →
    0 < n ∧ l[n - 1]? = some q
  | [], _, h => by simp [quotedLength] at h
  | c :: rest, n, h => by
    unfold quotedLength at h
    split at h
    · rename_i h_c
      have h_cq : c = q := by simpa using h_c
      split at h
      · rename_i c2 rest2
        split at h
        · split at h
          · rename_i m h_m
            cases h
            obtain ⟨h_pos, h_last⟩ := quotedLength_last h_m
            refine ⟨by omega, ?_⟩
            have h_idx : m + 2 - 1 = (m - 1) + 1 + 1 := by omega
            rw [h_idx]
            simpa using h_last
          · cases h
            simp [h_cq]
        · cases h
          simp [h_cq]
      · cases h
        simp [h_cq]
    · obtain ⟨m, h_m, rfl⟩ := Option.map_eq_some_iff.mp h
      obtain ⟨h_pos, h_last⟩ := quotedLength_last h_m
      refine ⟨by omega, ?_⟩
      have h_idx : m + 1 - 1 = (m - 1) + 1 := by omega
      rw [h_idx]
      simpa using h_last

/-- A braced reference ends with its closing brace. -/
theorem bracedTail_last {rest name : List Char} {n : Nat} (h : bracedTail rest = some (n, name)) :
    0 < n ∧ rest[n - 1]? = some '}' := by
  unfold bracedTail at h
  split at h
  · rename_i inner
    dsimp only at h
    split at h
    · rename_i c more h_lead
      split at h
      · split at h
        · rename_i tail h_close
          cases h
          refine ⟨by omega, ?_⟩
          -- index the closing brace through the blanks, the name and the blanks after it
          have h_idx : 1 + (inner.takeWhile isBlank).length + 1 + nameTail more +
              ((more.drop (nameTail more)).takeWhile isBlank).length + 1 - 1 =
              ((inner.takeWhile isBlank).length + (1 + (nameTail more +
                (((more.drop (nameTail more)).takeWhile isBlank).length + 0)))) + 1 := by
            omega
          rw [h_idx, List.getElem?_cons_succ, ← List.getElem?_drop, h_lead, Nat.add_comm 1,
            List.getElem?_cons_succ, ← List.getElem?_drop, ← List.getElem?_drop, h_close]
          rfl
        · cases h
      · cases h
    · cases h
  · cases h

theorem last_append_of_ne_nil {P : Char → Prop} {a b : List Char} (h : b ≠ [])
    (h_b : ∀ x ∈ b.getLast?, P x) : ∀ x ∈ (a ++ b).getLast?, P x := by
  intro x h_x
  rw [List.getLast?_append] at h_x
  cases h_last : b.getLast? with
  | none => exact absurd (List.getLast?_eq_none_iff.mp h_last) h
  | some y =>
    rw [h_last, Option.some_or] at h_x
    cases h_x
    exact h_b _ h_last

/-- A fraction, when the digits after the point make one, ends with a digit. -/
theorem fraction_last (more : List Char) :
    ∀ x ∈ (('.' :: more).take (if ((more.takeWhile isDecimalDigit).length == 0) = true then 0
      else (more.takeWhile isDecimalDigit).length + 1)).getLast?, isDecimalDigit x = true := by
  split
  · simp
  · rename_i h_k
    have h_ne : more.takeWhile isDecimalDigit ≠ [] := by
      intro h_nil
      simp [h_nil] at h_k
    rw [List.take_succ_cons, take_length_takeWhile, ← List.singleton_append]
    exact last_append_of_ne_nil h_ne (last_of_forall fun _ h_x => List.mem_takeWhile_imp h_x)

/-- An exponent, when digits after the mark and the sign make one, ends with a digit. -/
theorem exponent_last (e : Char) (more : List Char) (sign : Nat) :
    ∀ x ∈ ((e :: more).take
      (if (((more.drop sign).takeWhile isDecimalDigit).length == 0) = true then 0
      else 1 + sign + ((more.drop sign).takeWhile isDecimalDigit).length)).getLast?,
      isDecimalDigit x = true := by
  split
  · simp
  · rename_i h_k
    have h_ne : (more.drop sign).takeWhile isDecimalDigit ≠ [] := by
      intro h_nil
      simp [h_nil] at h_k
    rw [Nat.add_assoc, Nat.add_comm 1, List.take_succ_cons, List.take_add, take_length_takeWhile,
      ← List.singleton_append]
    exact last_append_of_ne_nil (by simp [h_ne])
      (last_append_of_ne_nil h_ne (last_of_forall fun _ h_x => List.mem_takeWhile_imp h_x))

/-- A number ends with a digit. -/
theorem numberTail_last (rest : List Char) :
    ∀ x ∈ (rest.take (numberTail rest)).getLast?, isDecimalDigit x = true := by
  unfold numberTail
  dsimp only
  rw [List.take_add, List.take_add, List.drop_drop.symm, take_length_takeWhile, List.append_assoc]
  refine last_append (last_of_forall fun _ h_x => List.mem_takeWhile_imp h_x) ?_
  generalize rest.drop (rest.takeWhile isDecimalDigit).length = after
  split
  · -- a point: a fraction, then an exponent
    rename_i more
    refine last_append (fraction_last more) ?_
    generalize List.drop _ ('.' :: more) = after'
    split
    · split
      · exact exponent_last _ _ _
      · simp
    · simp
  · -- no fraction: an exponent right after the digits
    simp only [List.take_zero, List.drop_zero, List.nil_append]
    split
    · split
      · exact exponent_last _ _ _
      · simp
    · simp

theorem isWordChar_of_isIdentStart {c : Char} (h : isIdentStart c = true) : isWordChar c = true := by
  simp only [isIdentStart, Char.isAlpha, Char.isUpper, Char.isLower, Bool.or_eq_true,
    Bool.and_eq_true, decide_eq_true_eq, beq_iff_eq, UInt32.le_iff_toNat_le, Char.toNat_val,
    Char.reduceToNat] at h
  rcases h with h | rfl
  · have h_ascii : c.toNat < 0x80 := by omega
    simp only [isWordChar, h_ascii, if_true, Char.isAlphanum, Char.isAlpha, Char.isUpper,
      Char.isLower, Bool.or_eq_true, Bool.and_eq_true, decide_eq_true_eq, UInt32.le_iff_toNat_le,
      Char.toNat_val, Char.reduceToNat]
    omega
  · decide

theorem isIdentStart_eq_false_of_isDecimalDigit {c : Char} (h : isDecimalDigit c = true) :
    isIdentStart c = false := by
  cases h_i : isIdentStart c
  · rfl
  · simp only [isIdentStart, Char.isAlpha, Char.isUpper, Char.isLower, Bool.or_eq_true,
      Bool.and_eq_true, decide_eq_true_eq, beq_iff_eq, UInt32.le_iff_toNat_le, Char.toNat_val,
      Char.reduceToNat] at h_i
    rcases h_i with h_i | rfl
    · have h_ascii : c.toNat < 0x80 := by omega
      simp only [isDecimalDigit, h_ascii, if_true, Char.isDigit, Bool.and_eq_true, decide_eq_true_eq,
        UInt32.le_iff_toNat_le, Char.toNat_val, Char.reduceToNat] at h
      omega
    · revert h
      decide

/-- The last character a lexeme takes does not start an identifier when an identifier starts
right after it: a quote, a closing brace and a digit start none, and a bare reference is
followed by no word character. -/
theorem lexeme_last {pos n : Nat} {c d : Char} {rest : List Char} {found : Option RefToken}
    (h : lexeme pos c rest = some (n, found)) (h_next : (rest.drop n).head? = some d)
    (h_d : isIdentStart d = true) : ∀ x ∈ (c :: rest.take n).getLast?, isIdentStart x = false := by
  -- the lexeme's last character is its first one or the last of those after it
  have h_cons : ∀ {P : Char → Prop}, P c → (∀ x ∈ (rest.take n).getLast?, P x) →
      ∀ x ∈ (c :: rest.take n).getLast?, P x := fun h_c h_take => by
    rw [← List.singleton_append]
    exact last_append (by simpa using h_c) h_take
  have h_ends : ∀ {q : Char}, isIdentStart q = false → 0 < n → rest[n - 1]? = some q →
      ∀ x ∈ (rest.take n).getLast?, isIdentStart x = false := fun h_q h_pos h_at x h_x => by
    rw [last_take h_pos h_at] at h_x
    cases h_x
    exact h_q
  unfold lexeme at h
  dsimp only at h
  split at h
  · -- a quoted string ends with its quote
    rename_i h_q
    obtain ⟨m, h_m, h_eq⟩ := Option.map_eq_some_iff.mp h
    cases h_eq
    have h_c : isIdentStart c = false := by
      simp only [Bool.or_eq_true, beq_iff_eq] at h_q
      rcases h_q with rfl | rfl <;> rfl
    obtain ⟨h_pos, h_at⟩ := quotedLength_last h_m
    exact h_cons h_c (h_ends h_c h_pos h_at)
  · split at h
    · -- a braced reference ends with its brace
      rename_i h_dollar
      obtain ⟨⟨m, name⟩, h_m, h_eq⟩ := Option.map_eq_some_iff.mp h
      simp only [Prod.mk.injEq] at h_eq
      obtain ⟨rfl, -⟩ := h_eq
      obtain ⟨h_pos, h_at⟩ := bracedTail_last h_m
      have h_c : isIdentStart c = false := by
        rw [beq_iff_eq.mp h_dollar]
        rfl
      exact h_cons h_c (h_ends rfl h_pos h_at)
    · split at h
      · -- a number ends with a digit
        rename_i h_digit
        simp only [Option.some.injEq, Prod.mk.injEq] at h
        obtain ⟨rfl, -⟩ := h
        exact h_cons (isIdentStart_eq_false_of_isDecimalDigit h_digit)
          fun x h_x => isIdentStart_eq_false_of_isDecimalDigit (numberTail_last rest x h_x)
      · split at h
        · -- a bare reference is followed by no word character
          simp only [Option.some.injEq, Prod.mk.injEq] at h
          obtain ⟨rfl, -⟩ := h
          have h_stop := nameTail_stop rest d h_next
          rw [isWordChar_of_isIdentStart h_d] at h_stop
          cases h_stop
        · cases h

theorem lexeme_ne_none {pos : Nat} {c : Char} {rest : List Char} (h : isIdentStart c = true) :
    lexeme pos c rest ≠ none := by
  unfold lexeme
  dsimp only
  split
  · rename_i h_q
    simp only [Bool.or_eq_true, beq_iff_eq] at h_q
    rcases h_q with rfl | rfl <;> cases h
  · split
    · rename_i h_dollar
      rw [beq_iff_eq.mp h_dollar] at h
      cases h
    · split
      · simp
      · simp

/-- A bare reference written as `cs` between `before` and `after`: its text is its name, which
starts with an identifier character; no word character follows it, a `.` only when the name
has one already or no identifier follows the `.`; and the character before it starts no
identifier. -/
def BareIn (r : RefToken) (before cs after : List Char) : Prop :=
  cs = r.name.toList ∧ (∃ c more, cs = c :: more ∧ isIdentStart c = true) ∧
    (∀ d ∈ after.head?, isWordChar d = false) ∧
    (after.head? = some '.' → '.' ∈ cs ∨ ∀ d ∈ (after.drop 1).head?, isIdentStart d = false) ∧
    ∀ x ∈ before.getLast?, isIdentStart x = false

/-- A text before a bare reference still has a last character that starts no identifier when
stretches are put before it, as long as the last of them cannot run into the reference. -/
theorem BareIn.cons {r : RefToken} {piece before cs after : List Char}
    (h : BareIn r before cs after)
    (h_piece : ∀ d, (before ++ cs ++ after).head? = some d → isIdentStart d = true →
      ∀ x ∈ piece.getLast?, isIdentStart x = false) :
    BareIn r (piece ++ before) cs after := by
  obtain ⟨h_name, ⟨c, more, h_cs, h_c⟩, h_word, h_dot, h_last⟩ := h
  refine ⟨h_name, ⟨c, more, h_cs, h_c⟩, h_word, h_dot, ?_⟩
  cases before with
  | nil => simpa using h_piece c (by simp [h_cs]) h_c
  | cons b bs => exact last_append_of_ne_nil (List.cons_ne_nil b bs) h_last

/-- Every bare reference the scanner finds is a whole name in its context. -/
theorem stretches_bare (pos : Nat) (cs : List Char) :
    ∀ pre r cs' post, stretches pos cs = pre ++ .ref r cs' :: post → r.braced = false →
      BareIn r (pre.flatMap Stretch.chars) cs' (post.flatMap Stretch.chars) := by
  fun_induction stretches pos cs with
  | case1 => intro pre r cs' post h; simp at h
  | case2 pos c rest n found h_lex piece ih =>
    intro pre r cs' post h h_bare
    cases pre with
    | nil =>
      cases found with
      | none => simp at h
      | some r' =>
        simp only [List.nil_append, List.cons.injEq, Stretch.ref.injEq] at h
        obtain ⟨⟨rfl, rfl⟩, rfl⟩ := h
        obtain ⟨h_c, rfl, h_name⟩ := lexeme_bare h_lex h_bare
        rw [flatMap_chars_stretches]
        refine ⟨h_name.symm, ⟨c, _, rfl, h_c⟩, nameTail_stop rest, fun h_dot => ?_, by simp⟩
        rcases nameTail_dot rest h_dot with h_mem | h_next
        · exact .inl (List.mem_cons_of_mem c h_mem)
        · exact .inr (by simpa [List.drop_drop] using h_next)
    | cons p pre =>
      simp only [List.cons_append, List.cons.injEq] at h
      obtain ⟨rfl, h_rest⟩ := h
      have h_in := ih pre r cs' post h_rest h_bare
      have h_chars := flatMap_chars_stretches (pos + c.utf8Size + byteLength (rest.take n)) (rest.drop n)
      rw [h_rest] at h_chars
      simp only [List.flatMap_cons, List.flatMap_append, Stretch.chars] at h_chars ⊢
      refine BareIn.cons h_in fun d h_d h_start => ?_
      have h_piece := lexeme_last h_lex (by rw [← h_chars, ← List.append_assoc]; exact h_d) h_start
      cases found <;> simpa [Stretch.chars, piece] using h_piece
  | case3 pos c rest h_lex ih =>
    intro pre r cs' post h h_bare
    cases pre with
    | nil => simp at h
    | cons p pre =>
      simp only [List.cons_append, List.cons.injEq] at h
      obtain ⟨rfl, h_rest⟩ := h
      simp only [List.flatMap_cons]
      refine BareIn.cons (ih pre r cs' post h_rest h_bare) fun d _ h_start => ?_
      -- a character no lexeme starts at starts no identifier either
      intro x h_x
      simp only [Stretch.chars, List.getLast?_singleton, Option.mem_def, Option.some.injEq] at h_x
      subst h_x
      cases h_c : isIdentStart c
      · rfl
      · exact absurd h_lex (lexeme_ne_none h_c)

/-- Where a laid reference stands. -/
theorem Laid.span {r : RefToken} {cs : List Char} {post : List Stretch} :
    ∀ {p : Nat} {pre : List Stretch}, Laid p (pre ++ .ref r cs :: post) →
      r.start = p + byteLength (pre.flatMap Stretch.chars) ∧ r.stop = r.start + byteLength cs
  | p, [], h => by
    obtain ⟨-, h_start, h_stop⟩ := h.1 r cs rfl
    simp [h_start, h_stop]
  | p, s :: pre, h => by
    obtain ⟨h_start, h_stop⟩ := Laid.span h.2
    simp only [List.flatMap_cons, byteLength_append] at h_start ⊢
    exact ⟨by omega, h_stop⟩

/-- The references of a formula are whole tokens of it. The scanner cuts the formula into
stretches that spell it; the references are its reference stretches, in order, each the
non-empty range of bytes its text covers. A bare reference is a whole name: no word character
follows it, a `.` only when its name has a dot already or no identifier follows the `.`, and
the character before it starts no identifier. Replacing references writes every reference the
replacement gives a text for as that text and every other byte as it stands, so replacing none
gives the formula back. -/
theorem scan_references_whole (formula : String) :
    (stretches 0 formula.toList).flatMap Stretch.chars = formula.toList ∧
      scan formula = (stretches 0 formula.toList).filterMap Stretch.ref? ∧
      (scan formula).IsChain (fun a b => a.stop ≤ b.start) ∧
      (∀ r ∈ scan formula, r.start < r.stop ∧ r.stop ≤ formula.utf8ByteSize) ∧
      (∀ pre r cs post, stretches 0 formula.toList = pre ++ .ref r cs :: post →
        r.start = byteLength (pre.flatMap Stretch.chars) ∧ r.stop = r.start + byteLength cs ∧
        (r.braced = false → BareIn r (pre.flatMap Stretch.chars) cs (post.flatMap Stretch.chars))) ∧
      (∀ replace, replaceRefs formula replace =
        String.ofList ((stretches 0 formula.toList).flatMap (Stretch.rewrite replace))) ∧
      replaceRefs formula (fun _ => none) = formula := by
  have h_laid := laid_stretches 0 formula.toList
  have h_scan : scan formula = (stretches 0 formula.toList).filterMap Stretch.ref? :=
    scanFrom_eq_filterMap 0 formula.toList
  obtain ⟨h_chain, h_in⟩ := h_laid.refs
  refine ⟨flatMap_chars_stretches 0 _, h_scan, h_scan ▸ h_chain, fun r h_r => ?_,
    fun pre r cs post h_ss => ?_, replaceRefs_eq_rewrite formula, replaceRefs_none formula⟩
  · obtain ⟨-, h_pos, h_stop⟩ := h_in r (h_scan ▸ h_r)
    rw [flatMap_chars_stretches] at h_stop
    rw [utf8ByteSize_eq_byteLength]
    exact ⟨h_pos, by simpa using h_stop⟩
  · rw [h_ss] at h_laid
    obtain ⟨h_start, h_stop⟩ := h_laid.span
    exact ⟨by simpa using h_start, h_stop, stretches_bare 0 _ pre r cs post h_ss⟩

/-- The last segment of `schema.table.column` is read as a reference of its own, right after a
dot, and substitution rewrites it inside the dotted name. -/
theorem dotted_name_last_segment_substituted :
    scan "schema.table.column" =
        [⟨0, 12, "schema.table", false⟩, ⟨13, 19, "column", false⟩] ∧
      substitute "schema.table.column" [("column", "SUM(x)")] = "schema.table.(SUM(x))" := by
  decide +kernel

end RefToken

end MetricLayer