import MetricLayer.Formula.Syntax
import MetricLayer.Decimal.Read
import MetricLayer.Text.Blank
import MetricLayer.Text.Utf8
/-!
# Formula tokens

Splits formula text into tokens, skipping blanks between them. Numbers are `12`, `1.5`, `1.`,
`.5`, with an optional exponent (`1e3`, `2.5E-1`); an `e` not followed by exponent digits is not
part of the number. A literal with a point or an exponent is a double; other literals are 64-bit
integers, or doubles when too large. Columns are `${name}` with the name trimmed and not blank.

Lexing stops at the first place no token starts. The failure is reported at the furthest byte
any token attempt reached there: the start for most characters, one past a `.` or a `$` that
is not followed by what the token needs, the end of the text for an unclosed `${`, and the
start of a `${…}` whose name is blank.
-/

namespace MetricLayer.Formula

open MetricLayer.Decimal MetricLayer.Text

/-- The exponent part `e[+|-]digits` at the start of `cs`, if complete, and the rest. -/
def exponentPart (cs : List Char) : List Char × List Char :=
  match cs with
  | e :: rest =>
    if e == 'e' || e == 'E' then
      let (sign, r) := match rest with
        | '+' :: r => (['+'], r)
        | '-' :: r => (['-'], r)
        | r => ([], r)
      let ds := r.takeWhile Char.isDigit
      if ds.isEmpty then ([], cs) else (e :: sign ++ ds, r.drop ds.length)
    else ([], cs)
  | [] => ([], [])

/-- A number literal at the start of `cs` and the rest, or how many characters in the
attempt failed. -/
def numberLiteral (cs : List Char) : Except Nat (List Char × List Char) :=
  match cs with
  | '.' :: rest =>
    let ds := rest.takeWhile Char.isDigit
    if ds.isEmpty then .error 1
    else
      let (ex, after) := exponentPart (rest.drop ds.length)
      .ok ('.' :: ds ++ ex, after)
  | c :: _ =>
    if c.isDigit then
      let whole := cs.takeWhile Char.isDigit
      let rest := cs.drop whole.length
      let (frac, rest) := match rest with
        | '.' :: r =>
          let f := r.takeWhile Char.isDigit
          ('.' :: f, r.drop f.length)
        | r => ([], r)
      let (ex, after) := exponentPart rest
      .ok (whole ++ frac ++ ex, after)
    else .error 0
  | [] => .error 0

/-- The value of a number literal: a double when it has a point or an exponent, else a 64-bit
integer, or a double when it does not fit. -/
def literalValue (lit : List Char) : Number :=
  let text := String.ofList lit
  let asFloat := Number.float ((readF64? text).getD 0)
  if lit.any (fun c => c == '.' || c == 'e' || c == 'E') then asFloat
  else match readI64? text with
    | some i => .int i
    | none => asFloat

/-- The symbol token at the start of `cs` and how many characters it takes. -/
def symbolAt : List Char → Option (Token × Nat)
  | '*' :: '*' :: _ => some (.power, 2)
  | '/' :: '/' :: _ => some (.floorSlash, 2)
  | '*' :: _ => some (.star, 1)
  | '/' :: _ => some (.slash, 1)
  | '+' :: _ => some (.plus, 1)
  | '-' :: _ => some (.minus, 1)
  | '%' :: _ => some (.percent, 1)
  | '(' :: _ => some (.lparen, 1)
  | ')' :: _ => some (.rparen, 1)
  | _ => none

/-- The token at byte `pos`, the start of `cs`: the token, its length in characters, or the byte
offset of the failure. `eoi` is the byte length of the whole text. -/
def tokenAt (eoi pos : Nat) (cs : List Char) : Except Nat (Token × Nat) :=
  match numberLiteral cs with
  | .ok (lit, _) => .ok (.number (literalValue lit), lit.length)
  | .error numberReach =>
    match cs with
    | '$' :: '{' :: rest =>
      let name := rest.takeWhile (· != '}')
      if name.length == rest.length then .error eoi
      else
        let trimmed := trimBlank (String.ofList name)
        if trimmed.isEmpty then .error pos
        else .ok (.column trimmed, name.length + 3)
    | '$' :: _ => .error (pos + 1)
    | _ =>
      match symbolAt cs with
      | some (t, n) => .ok (t, n)
      | none => .error (pos + numberReach)

/-- Tokens from byte `pos` on. -/
def lexFrom (eoi : Nat) (pos : Nat) (cs : List Char) : Except Nat (List Lexeme) :=
  let blanks := cs.takeWhile isBlank
  let pos := pos + byteLength blanks
  match h : cs.drop blanks.length with
  | [] => .ok []
  | c :: rest =>
    match tokenAt eoi pos (c :: rest) with
    | .error at_ => .error at_
    | .ok (t, n) =>
      let taken := (c :: rest).take (max n 1)
      have : ((c :: rest).drop (max n 1)).length < cs.length := by
        have h2 : (cs.drop blanks.length).length = (c :: rest).length := by rw [h]
        simp only [List.length_drop, List.length_cons] at h2 ⊢
        omega
      (lexFrom eoi (pos + byteLength taken) ((c :: rest).drop (max n 1))).map
        (⟨t, pos⟩ :: ·)
termination_by cs.length
decreasing_by simp only [List.length_drop, List.length_cons] at *; omega

/-- The tokens of a formula, or the byte offset where lexing fails. -/
def lex (source : String) : Except Nat (List Lexeme) :=
  lexFrom source.utf8ByteSize 0 source.toList

end MetricLayer.Formula
