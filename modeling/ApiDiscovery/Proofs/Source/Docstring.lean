import ApiDiscovery.Proofs.Source.Escaping
import ApiDiscovery.Proofs.Text.Indentation
import ApiDiscovery.Source.Writer

/-!
# Documentation between triple quotes

A documentation text is escaped so that it can stand between triple quotes: its runs of three quotes
are, and then the last character if that is a quote. Between the quotes it is read as the text,
whatever quotes, backslashes and line ends it holds, but for one kind of text
(`readTriple_docstring`). Where the last of the runs of three is at the end of the text, its last
quote is escaped already; escaped once more, it has two backslashes before it, which stand for one,
and closes the literal with two of the quotes behind it (`exists_docstring_not_read`).
-/

namespace ApiDiscovery.Source

open ApiDiscovery.Literal
open ApiDiscovery.Text

/-- The quotes at the end of a text are runs of three, each of which is escaped. The last quote is
escaped once more, so that its backslash is doubled. -/
def EndsInTriple (s : List Char) : Prop := 0 < closingQuotes s ∧ closingQuotes s % 3 = 0

instance (s : List Char) : Decidable (EndsInTriple s) :=
  inferInstanceAs (Decidable (0 < closingQuotes s ∧ closingQuotes s % 3 = 0))

/-! ## The last quote -/

section Last

variable {a b e s : List Char}

theorem escapeLast_cons {c : Char} (hc : c ≠ '"') (s : List Char) :
    escapeLast (c :: s) = c :: escapeLast s := by
  cases s with
  | nil => exact if_neg hc
  | cons d s => rfl

theorem escapeLast_append (a : List Char) (hb : b ≠ []) :
    escapeLast (a ++ b) = a ++ escapeLast b := by
  induction a with
  | nil => rfl
  | cons c a ih =>
    obtain ⟨d, s, hs⟩ := List.exists_cons_of_ne_nil (List.append_ne_nil_of_right_ne_nil a hb)
    rw [List.cons_append, List.cons_append, ← ih, hs]
    rfl

/-- A text without quotes at its end gets no further backslash. -/
theorem docstringChars_of_no_quote (h : closingQuotes s = 0) :
    docstringChars s = escapeTriples s := by
  rcases List.eq_nil_or_concat s with rfl | ⟨a, c, rfl⟩
  · rfl
  have hc : c ≠ '"' := by
    rintro rfl
    have hcount := closingQuotes_append_quotes a 1
    rw [List.concat_eq_append] at h
    simp only [List.replicate_one] at hcount
    omega
  rw [docstringChars, List.concat_eq_append, escapeTriples_append (Or.inr (head?_cons_ne hc []))]
  by_cases hslash : c = '\\'
  · subst hslash
    exact escapeLast_append _ (List.cons_ne_nil _ _)
  · rw [escapeTriples_char hc hslash, escapeLast_append _ (List.cons_ne_nil _ _),
      escapeLast_cons hc]
    rfl

/-- Of one or two quotes left over at the end the last one is escaped. -/
theorem docstringChars_rest (ha : closingQuotes a % 3 = 0) {n : Nat} (hpos : 0 < n) (hn : n < 3) :
    docstringChars (a ++ List.replicate n '"') =
      escapeTriples a ++ escapeLast (List.replicate n '"') := by
  have hne : List.replicate n '"' ≠ [] := fun h => by
    rw [List.replicate_eq_nil_iff] at h
    omega
  rw [docstringChars, escapeTriples_append (Or.inl ha), escapeTriples_last hn,
    escapeLast_append _ hne]

/-- The last of three quotes at the end is escaped twice. -/
theorem docstringChars_triple (ha : closingQuotes a % 3 = 0) :
    docstringChars (a ++ "\"\"\"".toList) = escapeTriples a ++ "\\\"\\\"\\\\\"".toList := by
  rw [docstringChars, escapeTriples_append (Or.inl ha), escapeLast_append]
  · rfl
  · exact List.cons_ne_nil _ _

theorem EndsInTriple.exists_eq_append (h : EndsInTriple s) :
    ∃ a, s = a ++ "\"\"\"".toList ∧ closingQuotes a % 3 = 0 := by
  obtain ⟨hpos, hthree⟩ := h
  obtain ⟨a, hs, ha⟩ := exists_eq_append_quotes s
  refine ⟨a ++ List.replicate (closingQuotes s - 3) '"', ?_, ?_⟩
  · have hlast : "\"\"\"".toList = List.replicate 3 '"' := rfl
    rw [List.append_assoc, hlast, List.replicate_append_replicate, Nat.sub_add_cancel (by omega)]
    exact hs
  · rw [closingQuotes_append_quotes, ha]
    omega

/-- What is escaped is the text before the quotes left over at its end, and of these the last. -/
theorem docstringChars_of_not_endsInTriple (h : ¬ EndsInTriple s) :
    ∃ a n, n < 3 ∧ closingQuotes a % 3 = 0 ∧ s = a ++ List.replicate n '"' ∧
      docstringChars s = escapeTriples a ++ escapeLast (List.replicate n '"') := by
  by_cases hnone : closingQuotes s = 0
  · refine ⟨s, 0, by omega, by omega, (List.append_nil s).symm, ?_⟩
    exact (docstringChars_of_no_quote hnone).trans (List.append_nil _).symm
  · obtain ⟨a, hs, ha⟩ := exists_eq_append_rest s
    have hpos : 0 < closingQuotes s % 3 :=
      Nat.pos_of_ne_zero fun hzero => h ⟨Nat.pos_of_ne_zero hnone, hzero⟩
    have hlt : closingQuotes s % 3 < 3 := Nat.mod_lt _ (by decide)
    refine ⟨a, _, hlt, ha, hs, ?_⟩
    rw [← docstringChars_rest ha hpos hlt, ← hs]

theorem mem_escapeLast {c : Char} (h : c ∈ escapeLast s) : c ∈ s ∨ c = '\\' := by
  fun_induction escapeLast s with
  | case1 => exact Or.inl h
  | case2 => grind
  | case3 d hquote => exact Or.inl h
  | case4 d rest _ ih => grind

theorem mem_docstringChars {c : Char} (h : c ∈ docstringChars s) : c ∈ s ∨ c = '\\' :=
  (mem_escapeLast h).elim mem_escapeTriples Or.inr

/-- What `head?_escapeTriples` says of runs of three holds of the last quote too. -/
theorem head?_escapeLast (s : List Char) : (escapeLast s).head? = s.head? ∨
    (s.head? = some '"' ∧ (escapeLast s).head? = some '\\') := by
  match s with
  | [] => exact Or.inl rfl
  | [c] =>
    by_cases hc : c = '"'
    · subst hc
      exact Or.inr ⟨rfl, rfl⟩
    · exact Or.inl (by rw [escapeLast_cons hc]; rfl)
  | c :: d :: s => exact Or.inl rfl

theorem head?_docstringChars (s : List Char) : (docstringChars s).head? = s.head? ∨
    (s.head? = some '"' ∧ (docstringChars s).head? = some '\\') := by
  rcases head?_escapeTriples s with htriples | ⟨hquote, htriples⟩
  · rcases head?_escapeLast (escapeTriples s) with hlast | ⟨hquote, hlast⟩
    · exact Or.inl (hlast.trans htriples)
    · exact Or.inr ⟨htriples.symm.trans hquote, hlast⟩
  · rcases head?_escapeLast (escapeTriples s) with hlast | ⟨-, hlast⟩
    · exact Or.inr ⟨hquote, hlast.trans htriples⟩
    · exact Or.inr ⟨hquote, hlast⟩

theorem escapeLast_append_unescaped (he : IsUnescaped e) (b : List Char) :
    escapeLast (e ++ b) = e ++ escapeLast b := by
  induction e with
  | nil => rfl
  | cons c e ih =>
    obtain ⟨⟨hquote, -⟩, he⟩ := List.forall_mem_cons.1 he
    rw [List.cons_append, escapeLast_cons hquote, ih he, List.cons_append]

/-- Two parts of a text are escaped by themselves if there is something between them that is not,
such as a line end. -/
theorem docstringChars_between (hne : e ≠ []) (he : IsUnescaped e) (a b : List Char) :
    docstringChars (a ++ (e ++ b)) = escapeTriples a ++ (e ++ docstringChars b) := by
  rw [docstringChars, escapeTriples_between hne he,
    escapeLast_append _ (List.append_ne_nil_of_left_ne_nil hne _), escapeLast_append_unescaped he,
    docstringChars]

end Last

/-! ## Reading -/

section Reading

variable {s : List Char}

/-- A text between triple quotes. -/
def betweenQuotes (s : List Char) : List Char := '"' :: '"' :: '"' :: (s ++ "\"\"\"".toList)

theorem toList_docLiteral (text : String) :
    (docLiteral text).toList = betweenQuotes text.toList := by
  rw [docLiteral, String.toList_append, String.toList_append]
  rfl

theorem readTriple_betweenQuotes (hnull : '\x00' ∉ s) {body rest text : List Char}
    (hcut : cutAtQuotes (s ++ "\"\"\"".toList) = some (body, rest))
    (htext : unescape body = some text) :
    readTriple (betweenQuotes s) = some (text, rest) := by
  have hall : '\x00' ∉ s ++ "\"\"\"".toList := by
    rw [List.mem_append, not_or]
    exact ⟨hnull, by decide⟩
  rw [betweenQuotes, readTriple, if_neg hall, hcut, Option.bind_some]
  exact congrArg (Option.map (·, rest)) htext

theorem null_not_mem_docstringChars (hnull : '\x00' ∉ s) : '\x00' ∉ docstringChars s := fun h =>
  (mem_docstringChars h).elim hnull (by decide)

/-- A documentation text that does not end in a run of three quotes is read as it is. -/
theorem readTriple_docstringChars (hnull : '\x00' ∉ s) (h : ¬ EndsInTriple s) :
    readTriple (betweenQuotes (docstringChars s)) = some (s, []) := by
  obtain ⟨a, n, hn, ha, hs, hescaped⟩ := docstringChars_of_not_endsInTriple h
  -- The quotes left over end in an escaped one, which no quote of the end can join.
  have hlast : cutAtQuotes (escapeLast (List.replicate n '"') ++ "\"\"\"".toList) =
        some (escapeLast (List.replicate n '"'), []) ∧
      unescape (escapeLast (List.replicate n '"')) = some (List.replicate n '"') := by
    match n, hn with
    | 0, _ => decide
    | 1, _ => decide
    | 2, _ => decide
  have hcut : cutAtQuotes (docstringChars s ++ "\"\"\"".toList) = some (docstringChars s, []) := by
    rw [hescaped, List.append_assoc, cutAtQuotes_escapeTriples (Or.inl ha), hlast.1]
    rfl
  have htext : unescape (docstringChars s) = some s := by
    rw [hescaped, unescape_escapeTriples, hlast.2, hs]
    rfl
  exact readTriple_betweenQuotes (null_not_mem_docstringChars hnull) hcut htext

/-- A documentation text that ends in a run of three quotes is closed within them: its last quote
is behind the literal, and a backslash stands for it. -/
theorem readTriple_docstringChars_of_endsInTriple (hnull : '\x00' ∉ s) (h : EndsInTriple s) :
    readTriple (betweenQuotes (docstringChars s)) = some (s.dropLast ++ ['\\'], ['"']) := by
  obtain ⟨a, rfl, ha⟩ := h.exists_eq_append
  have hdrop : (a ++ "\"\"\"".toList).dropLast ++ ['\\'] = a ++ "\"\"\\".toList := by
    rw [List.dropLast_append_of_ne_nil (by decide), List.append_assoc]
    rfl
  rw [hdrop]
  -- The second of the two backslashes belongs to the first, and the quote behind them is the first
  -- of three.
  have hcut : cutAtQuotes (docstringChars (a ++ "\"\"\"".toList) ++ "\"\"\"".toList) =
      some (escapeTriples a ++ "\\\"\\\"\\\\".toList, ['"']) := by
    rw [docstringChars_triple ha, List.append_assoc, cutAtQuotes_escapeTriples (Or.inl ha)]
    rfl
  have htext : unescape (escapeTriples a ++ "\\\"\\\"\\\\".toList) =
      some (a ++ "\"\"\\".toList) := by
    rw [unescape_escapeTriples]
    rfl
  exact readTriple_betweenQuotes (null_not_mem_docstringChars hnull) hcut htext

theorem readTriple_docstringChars_iff (hnull : '\x00' ∉ s) :
    readTriple (betweenQuotes (docstringChars s)) = some (s, []) ↔ ¬ EndsInTriple s := by
  refine ⟨fun hread hends => ?_, readTriple_docstringChars hnull⟩
  rw [readTriple_docstringChars_of_endsInTriple hnull hends] at hread
  have hrest := (Prod.mk.inj (Option.some.inj hread)).2
  cases hrest

end Reading

/-! ## Line ends -/

section Lines

variable {b e s : List Char}

theorem isUnescaped_of_endsLine (h : ∀ c ∈ s, endsLine c = true) : IsUnescaped s := by
  refine fun c hc => ⟨?_, ?_⟩
  all_goals
    rintro rfl
    exact absurd (h _ hc) (by decide)

/-- A line end behind a text keeps its last quote from being escaped. -/
theorem docstringChars_concat (a : List Char) {c : Char} (hc : endsLine c = true) :
    docstringChars (a ++ [c]) = escapeTriples a ++ [c] :=
  docstringChars_between (List.cons_ne_nil c [])
    (isUnescaped_of_endsLine (List.forall_mem_singleton.2 hc)) a []

theorem isUnescaped_unifyLineEnds (h : ∀ c ∈ s, endsLine c = true) :
    IsUnescaped (unifyLineEnds s) :=
  isUnescaped_of_endsLine fun c hc => (mem_unifyLineEnds hc).elim (h c) fun heq => heq ▸ rfl

theorem isLine_escapeTriples (h : IsLine s) : IsLine (escapeTriples s) := fun c hc =>
  (mem_escapeTriples hc).elim (h c) fun heq => heq ▸ rfl

theorem isLine_docstringChars (h : IsLine s) : IsLine (docstringChars s) := fun c hc =>
  (mem_docstringChars hc).elim (h c) fun heq => heq ▸ rfl

theorem isLineEnd_docstringChars (h : IsLineEnd e b) : IsLineEnd e (docstringChars b) := by
  refine h.congr fun c hc hne => ?_
  rcases head?_docstringChars b with hhead | ⟨-, hhead⟩
  · exact ⟨c, hhead.trans hc, hne⟩
  · exact ⟨'\\', hhead, by decide⟩

/-- It makes no difference whether line ends are unified before escaping or after it. -/
theorem unifyLineEnds_docstringChars (s : List Char) :
    unifyLineEnds (docstringChars s) = docstringChars (unifyLineEnds s) := by
  induction s using line_induction with
  | line a ha => rw [(isLine_docstringChars ha).unifyLineEnds_eq, ha.unifyLineEnds_eq]
  | dropped a ha =>
    rw [docstringChars_concat a rfl, (isLine_escapeTriples ha).unifyLineEnds_append,
      ha.unifyLineEnds_append]
    exact (docstringChars_concat a (c := '\n') rfl).symm
  | next a e b ha he ih =>
    rw [docstringChars_between he.ne_nil (isUnescaped_of_endsLine he.ends),
      (isLine_escapeTriples ha).unifyLineEnds_append,
      (isLineEnd_docstringChars he).unifyLineEnds_append, ih, ha.unifyLineEnds_append,
      he.unifyLineEnds_append, docstringChars_between (unifyLineEnds_ne_nil he.ne_nil)
        (isUnescaped_unifyLineEnds he.ends)]

theorem closingQuotes_unifyLineEnds (s : List Char) :
    closingQuotes (unifyLineEnds s) = closingQuotes s := by
  induction s using line_induction with
  | line a ha => rw [ha.unifyLineEnds_eq]
  | dropped a ha =>
    rw [ha.unifyLineEnds_append, closingQuotes_append_cons a [] (by decide)]
    exact closingQuotes_append_cons a [] (by decide)
  | next a e b ha he ih =>
    rw [ha.unifyLineEnds_append, he.unifyLineEnds_append,
      closingQuotes_append_unescaped (unifyLineEnds_ne_nil he.ne_nil)
        (isUnescaped_unifyLineEnds he.ends),
      closingQuotes_append_unescaped he.ne_nil (isUnescaped_of_endsLine he.ends), ih]

theorem unifyLineEnds_betweenQuotes (s : List Char) :
    unifyLineEnds (betweenQuotes s) = betweenQuotes (unifyLineEnds s) := by
  have hquotes : ∀ c ∈ "\"\"\"".toList, endsSourceLine c = false :=
    forall_eq_false_of_any (by decide)
  have hopen (t : List Char) : betweenQuotes t = "\"\"\"".toList ++ (t ++ '"' :: ['"', '"']) := rfl
  rw [hopen, unifyLineEnds_append hquotes, unifyLineEnds_append_cons _ _ (by decide)]
  exact (hopen _).symm

end Lines

/-! ## Documentation texts -/

/-- A documentation text between triple quotes is one literal that stands for the text exactly if
the quotes at the end of the text are none or are no runs of three, whether the line ends are
unified before the reading or not. Otherwise the literal is closed one quote early, and a backslash
stands for the last quote of the text. -/
theorem readTriple_docstring {text : String} (hnull : '\x00' ∉ text.toList) :
    (readTriple (docLiteral (docstring text)).toList = some (text.toList, []) ↔
      ¬ EndsInTriple text.toList) ∧
    (readTriple (unifyLineEnds (docLiteral (docstring text)).toList) =
        some (unifyLineEnds text.toList, []) ↔
      ¬ EndsInTriple text.toList) ∧
    (EndsInTriple text.toList → readTriple (docLiteral (docstring text)).toList =
      some (text.toList.dropLast ++ ['\\'], ['"'])) := by
  have hunified : '\x00' ∉ unifyLineEnds text.toList := fun h =>
    (mem_unifyLineEnds h).elim hnull (by decide)
  have hends : EndsInTriple (unifyLineEnds text.toList) ↔ EndsInTriple text.toList := by
    rw [EndsInTriple, closingQuotes_unifyLineEnds, EndsInTriple]
  rw [toList_docLiteral, docstring, String.toList_ofList, unifyLineEnds_betweenQuotes,
    unifyLineEnds_docstringChars, ← hends]
  refine ⟨?_, readTriple_docstringChars_iff hunified, fun h => ?_⟩
  · rw [hends]
    exact readTriple_docstringChars_iff hnull
  · exact readTriple_docstringChars_of_endsInTriple hnull (hends.1 h)

/-- Runs of quotes of several lengths, at the start, behind backslashes, at line ends and at the end
of the text. -/
def sampleQuotes : String := "\"\"\"\"a\\\"\"\"\r\n\\\\\"\u2028\"\"b\r\"\"\"\"\"\"c\\\n\"\"\"\"\""

theorem readTriple_docstring_sampleQuotes :
    readTriple (docLiteral (docstring sampleQuotes)).toList = some (sampleQuotes.toList, []) ∧
      readTriple (unifyLineEnds (docLiteral (docstring sampleQuotes)).toList) =
        some (unifyLineEnds sampleQuotes.toList, []) := by
  have hnull : '\x00' ∉ sampleQuotes.toList := by decide
  have hread := readTriple_docstring hnull
  have hends : ¬ EndsInTriple sampleQuotes.toList := by decide
  exact ⟨hread.1.2 hends, hread.2.1.2 hends⟩

/-- Of three quotes the last one stays behind the literal. -/
theorem exists_docstring_not_read :
    ∃ text : String, '\x00' ∉ text.toList ∧
      readTriple (docLiteral (docstring text)).toList = some ("\"\"\\".toList, ['"']) ∧
      readTriple (docLiteral (docstring text)).toList ≠ some (text.toList, []) :=
  ⟨"\"\"\"", by decide, by decide, by decide⟩

end ApiDiscovery.Source
