import ApiDiscovery.Proofs.Literal.Reader

/-!
# Literals between triple quotes

A literal between triple quotes ends with the first three quotes of which none is behind a backslash
(`cutAtQuotes`), where a backslash takes the next character with it. What is before them stands for
a text, with line ends and quotes as they are and with escapes (`unescape`). The escapes are those
of `Literal.Reader`; other ones are refused. Reading gives the text and what comes behind the
literal (`readTriple`), so a source text is one literal if nothing does.

Source text is read with its line ends unified. `readTriple` leaves them as they are.
-/

namespace ApiDiscovery.Literal

open ApiDiscovery.Text (hexValue?)

/-! ## The end of a literal -/

/-- The text before the first three quotes that are not behind a backslash, and the text behind
them. -/
def cutAtQuotes : List Char → Option (List Char × List Char)
  | [] => none
  | '\\' :: c :: s => (cutAtQuotes s).map fun (body, rest) => ('\\' :: c :: body, rest)
  | '"' :: '"' :: '"' :: s => some ([], s)
  | c :: s => (cutAtQuotes s).map fun (body, rest) => (c :: body, rest)

/-- The cut with a text more in front. -/
def behind (a : List Char) (cut : Option (List Char × List Char)) :
    Option (List Char × List Char) :=
  cut.map fun (body, rest) => (a ++ body, rest)

theorem behind_nil (cut : Option (List Char × List Char)) : behind [] cut = cut := by
  cases cut with
  | none => rfl
  | some found => rfl

theorem behind_behind (a b : List Char) (cut : Option (List Char × List Char)) :
    behind a (behind b cut) = behind (a ++ b) cut := by
  cases cut with
  | none => rfl
  | some found => simp [behind]

/-- A character that starts neither an escape nor three quotes stands for itself. -/
theorem cutAtQuotes_cons {c : Char} {s : List Char} (hslash : c ≠ '\\')
    (hquotes : ∀ rest, c = '"' → s = '"' :: '"' :: rest → False) :
    cutAtQuotes (c :: s) = behind [c] (cutAtQuotes s) := by
  rw [cutAtQuotes]
  · rfl
  · exact fun _ _ h => absurd h hslash
  · exact hquotes

theorem cutAtQuotes_escape (c : Char) (s : List Char) :
    cutAtQuotes ('\\' :: c :: s) = behind ['\\', c] (cutAtQuotes s) := rfl

theorem cutAtQuotes_close (s : List Char) :
    cutAtQuotes ('"' :: '"' :: '"' :: s) = some ([], s) := rfl

theorem cutAtQuotes_char {c : Char} (hquote : c ≠ '"') (hslash : c ≠ '\\') (s : List Char) :
    cutAtQuotes (c :: s) = behind [c] (cutAtQuotes s) :=
  cutAtQuotes_cons hslash fun _ h => absurd h hquote

/-- One or two quotes do not close a literal. -/
theorem cutAtQuotes_quotes {n : Nat} (hn : n < 3) {s : List Char} (hs : s.head? ≠ some '"') :
    cutAtQuotes (List.replicate n '"' ++ s) = behind (List.replicate n '"') (cutAtQuotes s) := by
  have hone : cutAtQuotes ('"' :: s) = behind ['"'] (cutAtQuotes s) := by
    refine cutAtQuotes_cons (by decide) ?_
    rintro rest - rfl
    exact hs rfl
  have htwo : cutAtQuotes ('"' :: '"' :: s) = behind ['"', '"'] (cutAtQuotes s) := by
    rw [cutAtQuotes_cons (by decide), hone]
    · exact behind_behind ['"'] ['"'] _
    · rintro rest - heq
      obtain ⟨-, rfl⟩ := List.cons.inj heq
      exact hs rfl
  match n, hn with
  | 0, _ => exact (behind_nil _).symm
  | 1, _ => exact hone
  | 2, _ => exact htwo

/-! ## Escapes -/

/-- Where the reading of escapes is: outside of them, behind a backslash, or in an escape by a code
with so many digits left. -/
inductive Place where
  | outside
  | begun
  | code (left value : Nat)

/-- The text that characters stand for from a place on. -/
def unescapeFrom : Place → List Char → Option (List Char)
  | .outside, [] => some []
  | .outside, c :: s =>
    if c = '\\' then unescapeFrom .begun s else (unescapeFrom .outside s).map (c :: ·)
  | .begun, c :: s =>
    match escaped? c, codeLength? c with
    | some d, _ => (unescapeFrom .outside s).map (d :: ·)
    | none, some count => unescapeFrom (.code count 0) s
    | none, none => none
  | .code left value, c :: s =>
    match hexValue? c with
    | none => none
    | some digit =>
      let code := 16 * value + digit
      if 1 < left then unescapeFrom (.code (left - 1) code) s
      else if code.isValidChar then (unescapeFrom .outside s).map (Char.ofNat code :: ·)
      else none
  | _, [] => none

/-- The text that characters between quotes stand for. -/
def unescape (s : List Char) : Option (List Char) := unescapeFrom .outside s

theorem unescape_char {c : Char} (hslash : c ≠ '\\') (s : List Char) :
    unescape (c :: s) = (unescape s).map (c :: ·) := by
  rw [unescape, unescapeFrom, if_neg hslash, unescape]

theorem unescape_escaped {letter c : Char} (h : escaped? letter = some c) (s : List Char) :
    unescape ('\\' :: letter :: s) = (unescape s).map (c :: ·) := by
  rw [unescape, unescapeFrom, if_pos rfl, unescapeFrom, h, unescape]

/-- A text without backslashes stands for itself. -/
theorem unescape_append {a : List Char} (ha : '\\' ∉ a) (b : List Char) :
    unescape (a ++ b) = (unescape b).map (a ++ ·) := by
  induction a with
  | nil => simp
  | cons c a ih =>
    rw [List.mem_cons, not_or] at ha
    rw [List.cons_append, unescape_char (Ne.symm ha.1), ih ha.2, Option.map_map]
    rfl

/-! ## Reading -/

/-- The text that a literal between triple quotes at the start of a source text stands for, and what
comes behind the literal. A source text has no null characters. -/
def readTriple : List Char → Option (List Char × List Char)
  | '"' :: '"' :: '"' :: s =>
    if '\x00' ∈ s then none
    else (cutAtQuotes s).bind fun (body, rest) => (unescape body).map fun text => (text, rest)
  | _ => none

example : readTriple "\"\"\"a \\\"\\\"\\\"\\x41\n\"\" b\"\"\" + c".toList =
    some ("a \"\"\"A\n\"\" b".toList, " + c".toList) := by
  decide

end ApiDiscovery.Literal
