import MetricLayer.Formula.Lexer
/-!
# Formula parsing

A recursive-descent parser over the token list. Binary operators fold to the left; `**` binds
tighter than a unary sign on its left and takes a signed operand on its right, so `-2 ** 2` is
`-(2 ** 2)` and `2 ** 3 ** 2` is `2 ** (3 ** 2)`.

Every parser returns the unread tokens together with a proof that it read at least one
(`Parsed`), which is what makes the mutual recursion terminate: each call either reads tokens
first or moves to a tighter level on the same tokens.

Failures are reported at the furthest token any alternative stopped at, optional parts
included: every place where an expected token did not come is recorded (`far`), and a failed
parse reports the largest such offset. `1 *** 2` fails at 4, where the operand of `**` should
start, rather than at 2 where the first `**` stops the sum. The end of input counts as the
byte length of the text.
-/

namespace MetricLayer.Formula

/-- Tokens still to read. -/
abbrev Lexemes := List Lexeme

/-- Where a parser stopped by `ts` fails: the start of the next token, or the end. -/
def offsetAt (eoi : Nat) : Lexemes → Nat
  | [] => eoi
  | l :: _ => l.start

/-- A tree read off the front of `ts` and the strictly shorter rest, if the parse succeeded. -/
abbrev Parsed (ts : Lexemes) := Option (Expr × { r : Lexemes // r.length < ts.length })

/-- The operator of a `*`-level token. -/
def productOp? : Token → Option BinOp
  | .star => some .mul
  | .slash => some .div
  | .floorSlash => some .floorDiv
  | .percent => some .mod
  | _ => none

/-- The operator of a `+`-level token. -/
def sumOp? : Token → Option BinOp
  | .plus => some .add
  | .minus => some .sub
  | _ => none

mutual
/-- `primary := number | column | '(' expr ')'`. -/
def parsePrimary (eoi far : Nat) (ts : Lexemes) : Parsed ts × Nat :=
  match ts with
  | ⟨.number n, _⟩ :: rest => (some (.number n, ⟨rest, by simp⟩), far)
  | ⟨.column c, _⟩ :: rest => (some (.column c, ⟨rest, by simp⟩), far)
  | ⟨.lparen, p⟩ :: rest =>
    match parseExpr eoi (max far p) rest with
    | (some (e, r1), far) =>
      have h1 := r1.property
      match h : r1.val with
      | ⟨.rparen, _⟩ :: r2 =>
        (some (e, ⟨r2, by rw [h] at h1; simp at h1 ⊢; omega⟩), far)
      | other => (none, max far (offsetAt eoi other))
    | (none, far) => (none, far)
  | _ => (none, max far (offsetAt eoi ts))
termination_by (ts.length, 0)

/-- `power := primary ('**' unary)?` -/
def parsePower (eoi far : Nat) (ts : Lexemes) : Parsed ts × Nat :=
  match parsePrimary eoi far ts with
  | (some (base, r1), far) =>
    have h1 := r1.property
    match h : r1.val with
    | ⟨.power, _⟩ :: r2 =>
      have h2 : r2.length < ts.length := by rw [h] at h1; simp at h1; omega
      match parseUnary eoi far r2 with
      | (some (ex, r3), far) =>
        have h3 := r3.property
        (some (.binary .pow base ex, ⟨r3.val, by omega⟩), far)
      | (none, far) => (some (base, r1), far)
    | other => (some (base, r1), max far (offsetAt eoi other))
  | (none, far) => (none, far)
termination_by (ts.length, 1)

/-- `unary := '-' unary | '+' unary | power` -/
def parseUnary (eoi far : Nat) (ts : Lexemes) : Parsed ts × Nat :=
  match ts with
  | ⟨.minus, p⟩ :: rest =>
    match parseUnary eoi far rest with
    | (some (e, r), far) =>
      have hr := r.property
      (some (.neg e, ⟨r.val, by simp; omega⟩), far)
    | (none, far) => (none, max far p)
  | ⟨.plus, p⟩ :: rest =>
    match parseUnary eoi (max far p) rest with
    | (some (e, r), far) =>
      have hr := r.property
      (some (e, ⟨r.val, by simp; omega⟩), far)
    | (none, far) => (none, max far p)
  | other => parsePower eoi (max far (offsetAt eoi other)) other
termination_by (ts.length, 2)

/-- `term := unary (op unary)*` -/
def parseProduct (eoi far : Nat) (ts : Lexemes) : Parsed ts × Nat :=
  match parseUnary eoi far ts with
  | (some (l, r1), far) =>
    have h1 := r1.property
    match parseProductTail eoi far l r1.val with
    | (e, r2, far) =>
      have h2 := r2.property
      (some (e, ⟨r2.val, by omega⟩), far)
  | (none, far) => (none, far)
termination_by (ts.length, 3)

/-- The `(op unary)*` tail of a term, folded onto `acc`. -/
def parseProductTail (eoi far : Nat) (acc : Expr) (ts : Lexemes) :
    Expr × { r : Lexemes // r.length ≤ ts.length } × Nat :=
  match ts with
  | l :: rest =>
    match productOp? l.token with
    | some op =>
      match parseUnary eoi far rest with
      | (some (r, r1), far) =>
        have h1 := r1.property
        match parseProductTail eoi far (.binary op acc r) r1.val with
        | (e, r2, far) =>
          have h2 := r2.property
          (e, ⟨r2.val, by simp; omega⟩, far)
      | (none, far) => (acc, ⟨l :: rest, Nat.le_refl _⟩, far)
    | none => (acc, ⟨l :: rest, Nat.le_refl _⟩, max far l.start)
  | [] => (acc, ⟨[], Nat.le_refl _⟩, max far eoi)
termination_by (ts.length, 0)

/-- `expr := term (op term)*` -/
def parseExpr (eoi far : Nat) (ts : Lexemes) : Parsed ts × Nat :=
  match parseProduct eoi far ts with
  | (some (l, r1), far) =>
    have h1 := r1.property
    match parseSumTail eoi far l r1.val with
    | (e, r2, far) =>
      have h2 := r2.property
      (some (e, ⟨r2.val, by omega⟩), far)
  | (none, far) => (none, far)
termination_by (ts.length, 4)

/-- The `(op term)*` tail of an expression, folded onto `acc`. -/
def parseSumTail (eoi far : Nat) (acc : Expr) (ts : Lexemes) :
    Expr × { r : Lexemes // r.length ≤ ts.length } × Nat :=
  match ts with
  | l :: rest =>
    match sumOp? l.token with
    | some op =>
      match parseProduct eoi far rest with
      | (some (r, r1), far) =>
        have h1 := r1.property
        match parseSumTail eoi far (.binary op acc r) r1.val with
        | (e, r2, far) =>
          have h2 := r2.property
          (e, ⟨r2.val, by simp; omega⟩, far)
      | (none, far) => (acc, ⟨l :: rest, Nat.le_refl _⟩, far)
    | none => (acc, ⟨l :: rest, Nat.le_refl _⟩, max far l.start)
  | [] => (acc, ⟨[], Nat.le_refl _⟩, max far eoi)
termination_by (ts.length, 0)
end

/-- The tree of a token list that must be read to its end, or the failure offset. -/
def parseLexemes (eoi : Nat) (ts : Lexemes) : Except Nat Expr :=
  match parseExpr eoi 0 ts with
  | (some (e, r), far) =>
    match r.val with
    | [] => .ok e
    | l :: _ => .error (max far l.start)
  | (none, far) => .error far

/-- A formula from its text, or the byte offset of the first failure. -/
def parse (source : String) : Except Nat Expr := do
  parseLexemes source.utf8ByteSize (← lex source)

end MetricLayer.Formula
