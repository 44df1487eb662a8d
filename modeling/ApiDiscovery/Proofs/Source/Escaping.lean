import ApiDiscovery.Proofs.Literal.Triple
import ApiDiscovery.Source.Docstring
import Mathlib.Data.List.TakeWhile

/-!
# Escaped runs of quotes

A text is taken apart along its quotes, three at a time (`quote_induction`), as `escapeTriples`
does it. Escaped runs do not close a literal between triple quotes (`cutAtQuotes_escapeTriples`),
and there they stand for the text (`unescape_escapeTriples`). What comes behind the text matters
only where quotes are left over at its end, when those are counted by threes (`closingQuotes`).
-/

namespace ApiDiscovery.Source

open ApiDiscovery.Literal

/-- The number of quotes at the end of a text. -/
def closingQuotes (s : List Char) : Nat := (s.reverse.takeWhile (· == '"')).length

/-! ## Quotes at the end -/

theorem closingQuotes_append_quotes (a : List Char) (n : Nat) :
    closingQuotes (a ++ List.replicate n '"') = closingQuotes a + n := by
  have hquotes : ∀ c ∈ List.replicate n '"', (c == '"') = true := fun c hc =>
    beq_iff_eq.2 (List.eq_of_mem_replicate hc)
  rw [closingQuotes, List.reverse_append, List.reverse_replicate,
    List.takeWhile_append_of_pos hquotes, List.length_append, List.length_replicate, Nat.add_comm,
    closingQuotes]

theorem closingQuotes_quotes (n : Nat) : closingQuotes (List.replicate n '"') = n :=
  (closingQuotes_append_quotes [] n).trans (Nat.zero_add n)

/-- The quotes at the end stand behind the last other character. -/
theorem closingQuotes_append_cons (a b : List Char) {c : Char} (hc : c ≠ '"') :
    closingQuotes (a ++ c :: b) = closingQuotes b := by
  have hstop : ((c :: a.reverse).takeWhile (· == '"')) = [] :=
    List.takeWhile_cons_of_neg (by simpa using hc)
  have hsplit : (a ++ c :: b).reverse = b.reverse ++ c :: a.reverse := by simp
  rw [closingQuotes, hsplit, List.takeWhile_append, hstop, List.append_nil, closingQuotes]
  split
  · next hall => exact hall.symm
  · rfl

theorem closingQuotes_cons (b : List Char) {c : Char} (hc : c ≠ '"') :
    closingQuotes (c :: b) = closingQuotes b :=
  closingQuotes_append_cons [] b hc

/-- A text is cut before the quotes at its end. -/
theorem exists_eq_append_quotes (s : List Char) :
    ∃ a, s = a ++ List.replicate (closingQuotes s) '"' ∧ closingQuotes a = 0 := by
  have hquotes : s.reverse.takeWhile (· == '"') = List.replicate (closingQuotes s) '"' := by
    refine List.eq_replicate_iff.2 ⟨rfl, fun c hc => ?_⟩
    simpa using List.mem_takeWhile_imp hc
  have hcut : s = (s.reverse.dropWhile (· == '"')).reverse ++
      List.replicate (closingQuotes s) '"' := by
    rw [← List.reverse_replicate, ← hquotes, ← List.reverse_append,
      List.takeWhile_append_dropWhile, List.reverse_reverse]
  have hcount := congrArg closingQuotes hcut
  rw [closingQuotes_append_quotes] at hcount
  exact ⟨_, hcut, by omega⟩

/-- A text is cut before the quotes at its end that are left over when the others are counted by
threes. -/
theorem exists_eq_append_rest (s : List Char) :
    ∃ a, s = a ++ List.replicate (closingQuotes s % 3) '"' ∧ closingQuotes a % 3 = 0 := by
  obtain ⟨a, hs, ha⟩ := exists_eq_append_quotes s
  refine ⟨a ++ List.replicate (closingQuotes s - closingQuotes s % 3) '"', ?_, ?_⟩
  · rw [List.append_assoc, List.replicate_append_replicate, Nat.sub_add_cancel (Nat.mod_le _ 3)]
    exact hs
  · rw [closingQuotes_append_quotes, ha]
    omega

/-- Three quotes in front do not change how many are left over at the end. -/
theorem closingQuotes_triple (s : List Char) :
    closingQuotes ('"' :: '"' :: '"' :: s) % 3 = closingQuotes s % 3 := by
  -- Either another character stops the count before the three, or the text is quotes only.
  by_cases hother : ∃ c ∈ s, c ≠ '"'
  · obtain ⟨c, hc, hne⟩ := hother
    obtain ⟨a, b, rfl⟩ := List.append_of_mem hc
    rw [closingQuotes_append_cons a b hne]
    exact congrArg (· % 3) (closingQuotes_append_cons ('"' :: '"' :: '"' :: a) b hne)
  · have hquotes : s = List.replicate s.length '"' := List.eq_replicate_iff.2
      ⟨rfl, fun c hc => by_contra fun hne => hother ⟨c, hc, hne⟩⟩
    have hcount : closingQuotes ('"' :: '"' :: '"' :: s) = closingQuotes s + 3 := by
      rw [hquotes, closingQuotes_quotes]
      exact closingQuotes_quotes (s.length + 3)
    rw [hcount, Nat.add_mod_right]

/-! ## Escaped quotes -/

/-- Where no three quotes are in front, the first character is escaped by itself. -/
theorem escapeTriples_cons {c : Char} {s : List Char}
    (h : ∀ rest, c = '"' → s = '"' :: '"' :: rest → False) :
    escapeTriples (c :: s) =
      if c = '\\' then '\\' :: '\\' :: escapeTriples s else c :: escapeTriples s := by
  rw [escapeTriples]
  exact h

theorem escapeTriples_nil : escapeTriples [] = [] := rfl

theorem escapeTriples_triple (s : List Char) :
    escapeTriples ('"' :: '"' :: '"' :: s) = "\\\"\\\"\\\"".toList ++ escapeTriples s := rfl

theorem escapeTriples_char {c : Char} (hquote : c ≠ '"') (hslash : c ≠ '\\') (s : List Char) :
    escapeTriples (c :: s) = c :: escapeTriples s :=
  (escapeTriples_cons fun _ h => absurd h hquote).trans (if_neg hslash)

theorem escapeTriples_slash (s : List Char) :
    escapeTriples ('\\' :: s) = '\\' :: '\\' :: escapeTriples s :=
  (escapeTriples_cons fun _ h => absurd h (by decide)).trans (if_pos rfl)

/-- One or two quotes stay as they are. -/
theorem escapeTriples_quotes {n : Nat} (hn : n < 3) {s : List Char} (hs : s.head? ≠ some '"') :
    escapeTriples (List.replicate n '"' ++ s) = List.replicate n '"' ++ escapeTriples s := by
  have hone : escapeTriples ('"' :: s) = '"' :: escapeTriples s := by
    rw [escapeTriples_cons, if_neg (by decide)]
    rintro rest - rfl
    exact hs rfl
  match n, hn with
  | 0, _ => rfl
  | 1, _ => exact hone
  | 2, _ =>
    show escapeTriples ('"' :: '"' :: s) = '"' :: '"' :: escapeTriples s
    rw [escapeTriples_cons, if_neg (by decide), hone]
    rintro rest - heq
    obtain ⟨-, rfl⟩ := List.cons.inj heq
    exact hs rfl

theorem escapeTriples_last {n : Nat} (hn : n < 3) :
    escapeTriples (List.replicate n '"') = List.replicate n '"' := by
  have hquotes := escapeTriples_quotes hn (s := []) (by decide)
  rwa [escapeTriples_nil, List.append_nil] at hquotes

theorem mem_escapeTriples {s : List Char} {c : Char} (h : c ∈ escapeTriples s) :
    c ∈ s ∨ c = '\\' := by
  fun_induction escapeTriples s with
  | case1 => exact Or.inl h
  | case2 rest ih => grind
  | case3 rest _ ih => grind
  | case4 d rest _ hslash ih => grind

/-- A text starts with the same character after escaping, or with a backslash before a quote. -/
theorem head?_escapeTriples (s : List Char) : (escapeTriples s).head? = s.head? ∨
    (s.head? = some '"' ∧ (escapeTriples s).head? = some '\\') := by
  fun_cases escapeTriples s with
  | case1 => exact Or.inl rfl
  | case2 rest => exact Or.inr ⟨rfl, rfl⟩
  | case3 rest _ => exact Or.inl rfl
  | case4 c rest _ _ => exact Or.inl rfl

theorem head?_escapeTriples_cons {c : Char} (hc : c ≠ '"') (s : List Char) :
    (escapeTriples (c :: s)).head? = some c :=
  (head?_escapeTriples (c :: s)).resolve_right fun h => hc (Option.some.inj h.1)

theorem head?_cons_ne {c : Char} (hc : c ≠ '"') (s : List Char) : (c :: s).head? ≠ some '"' :=
  fun h => hc (Option.some.inj h)

/-- A property of texts goes along their quotes: it holds of two quotes at most, and it goes over to
a text with three quotes more in front, to one with a backslash or another character in front, and
to one with one or two quotes in front that another character follows. -/
theorem quote_induction {P : List Char → Prop} (last : ∀ n < 3, P (List.replicate n '"'))
    (triple : ∀ s, P s → P ('"' :: '"' :: '"' :: s)) (slash : ∀ s, P s → P ('\\' :: s))
    (char : ∀ c s, c ≠ '"' → c ≠ '\\' → P s → P (c :: s))
    (quotes : ∀ n c s, n < 3 → c ≠ '"' → P (c :: s) → P (List.replicate n '"' ++ c :: s))
    (s : List Char) : P s := by
  -- Three quotes are taken at once, so the induction is on the length.
  induction hlength : s.length using Nat.strongRecOn generalizing s with
  | ind k ih =>
    have shorter : ∀ t : List Char, t.length < s.length → P t := fun t ht =>
      ih t.length (hlength ▸ ht) t rfl
    match s with
    | [] => exact last 0 (by omega)
    | c :: s =>
      by_cases hc : c = '"'
      · subst hc
        match s with
        | [] => exact last 1 (by omega)
        | d :: s =>
          by_cases hd : d = '"'
          · subst hd
            match s with
            | [] => exact last 2 (by omega)
            | e :: s =>
              by_cases he : e = '"'
              · subst he
                exact triple s (shorter s (by simp only [List.length_cons]; omega))
              · exact quotes 2 e s (by omega) he
                  (shorter (e :: s) (by simp only [List.length_cons]; omega))
          · exact quotes 1 d s (by omega) hd
              (shorter (d :: s) (by simp only [List.length_cons]; omega))
      · by_cases hslash : c = '\\'
        · subst hslash
          exact slash s (shorter s (by simp only [List.length_cons]; omega))
        · exact char c s hc hslash (shorter s (by simp only [List.length_cons]; omega))

section Escaping

variable {a b e : List Char}

/-- Two texts are escaped one after the other, unless quotes of both would make a run of three. -/
theorem escapeTriples_append (h : closingQuotes a % 3 = 0 ∨ b.head? ≠ some '"') :
    escapeTriples (a ++ b) = escapeTriples a ++ escapeTriples b := by
  induction a using quote_induction with
  -- Only here is there nothing between the quotes left over and the other text.
  | last n hn =>
    rw [escapeTriples_last hn]
    rw [closingQuotes_quotes, Nat.mod_eq_of_lt hn] at h
    rcases h with rfl | hb
    · rfl
    · exact escapeTriples_quotes hn hb
  | triple a ih =>
    rw [closingQuotes_triple] at h
    rw [List.cons_append, List.cons_append, List.cons_append, escapeTriples_triple,
      escapeTriples_triple, ih h, List.append_assoc]
  | slash a ih =>
    rw [closingQuotes_cons _ (by decide)] at h
    rw [List.cons_append, escapeTriples_slash, escapeTriples_slash, ih h]
    rfl
  | char c a hquote hslash ih =>
    rw [closingQuotes_cons _ hquote] at h
    rw [List.cons_append, escapeTriples_char hquote hslash, escapeTriples_char hquote hslash, ih h]
    rfl
  | quotes n c a hn hc ih =>
    rw [closingQuotes_append_cons _ _ hc, ← closingQuotes_cons a hc] at h
    rw [List.append_assoc, List.cons_append, escapeTriples_quotes hn (head?_cons_ne hc (a ++ b)),
      escapeTriples_quotes hn (head?_cons_ne hc a), List.append_assoc]
    exact congrArg _ (ih h)

/-- An escaped text holds no quotes that close a literal, unless they go on behind it. -/
theorem cutAtQuotes_escapeTriples (h : closingQuotes a % 3 = 0 ∨ b.head? ≠ some '"') :
    cutAtQuotes (escapeTriples a ++ b) = behind (escapeTriples a) (cutAtQuotes b) := by
  induction a using quote_induction with
  | last n hn =>
    rw [escapeTriples_last hn]
    rw [closingQuotes_quotes, Nat.mod_eq_of_lt hn] at h
    rcases h with rfl | hb
    · exact (behind_nil _).symm
    · exact cutAtQuotes_quotes hn hb
  | triple a ih =>
    rw [closingQuotes_triple] at h
    rw [escapeTriples_triple, List.append_assoc]
    show cutAtQuotes ('\\' :: '"' :: '\\' :: '"' :: '\\' :: '"' :: (escapeTriples a ++ b)) = _
    rw [cutAtQuotes_escape, cutAtQuotes_escape, cutAtQuotes_escape, ih h, behind_behind,
      behind_behind, behind_behind]
    rfl
  | slash a ih =>
    rw [closingQuotes_cons _ (by decide)] at h
    rw [escapeTriples_slash, List.cons_append, List.cons_append, cutAtQuotes_escape, ih h,
      behind_behind]
    rfl
  | char c a hquote hslash ih =>
    rw [closingQuotes_cons _ hquote] at h
    rw [escapeTriples_char hquote hslash, List.cons_append, cutAtQuotes_char hquote hslash, ih h,
      behind_behind]
    rfl
  | quotes n c a hn hc ih =>
    rw [closingQuotes_append_cons _ _ hc, ← closingQuotes_cons a hc] at h
    have hhead : (escapeTriples (c :: a) ++ b).head? ≠ some '"' := by
      rw [List.head?_append, head?_escapeTriples_cons hc a]
      exact fun heq => hc (Option.some.inj heq)
    rw [escapeTriples_quotes hn (head?_cons_ne hc a), List.append_assoc,
      cutAtQuotes_quotes hn hhead, ih h, behind_behind]

/-- An escaped text stands for the text. -/
theorem unescape_escapeTriples (a b : List Char) :
    unescape (escapeTriples a ++ b) = (unescape b).map (a ++ ·) := by
  have hslash (n : Nat) : '\\' ∉ List.replicate n '"' := fun hmem =>
    absurd (List.eq_of_mem_replicate hmem) (by decide)
  induction a using quote_induction with
  | last n hn => rw [escapeTriples_last hn, unescape_append (hslash n) _]
  | triple a ih =>
    rw [escapeTriples_triple, List.append_assoc]
    show unescape ('\\' :: '"' :: '\\' :: '"' :: '\\' :: '"' :: (escapeTriples a ++ b)) = _
    rw [unescape_escaped rfl, unescape_escaped rfl, unescape_escaped rfl, ih, Option.map_map,
      Option.map_map, Option.map_map]
    rfl
  | slash a ih =>
    rw [escapeTriples_slash, List.cons_append, List.cons_append, unescape_escaped rfl, ih,
      Option.map_map]
    rfl
  | char c a hquote hne ih =>
    rw [escapeTriples_char hquote hne, List.cons_append, unescape_char hne, ih, Option.map_map]
    rfl
  | quotes n c a hn hc ih =>
    rw [escapeTriples_quotes hn (head?_cons_ne hc a), List.append_assoc,
      unescape_append (hslash n) _, ih, Option.map_map]
    refine congrArg (Option.map · (unescape b)) (funext fun s => ?_)
    exact (List.append_assoc _ _ s).symm

/-! ## Texts without escapes -/

/-- No character of the text is escaped. -/
def IsUnescaped (s : List Char) : Prop := ∀ c ∈ s, c ≠ '"' ∧ c ≠ '\\'

theorem escapeTriples_append_unescaped (he : IsUnescaped e) (b : List Char) :
    escapeTriples (e ++ b) = e ++ escapeTriples b := by
  induction e with
  | nil => rfl
  | cons c e ih =>
    obtain ⟨⟨hquote, hslash⟩, he⟩ := List.forall_mem_cons.1 he
    rw [List.cons_append, escapeTriples_char hquote hslash, ih he, List.cons_append]

theorem escapeTriples_between (hne : e ≠ []) (he : IsUnescaped e) (a b : List Char) :
    escapeTriples (a ++ (e ++ b)) = escapeTriples a ++ (e ++ escapeTriples b) := by
  obtain ⟨c, e, rfl⟩ := List.exists_cons_of_ne_nil hne
  have hhead : (c :: e ++ b).head? ≠ some '"' := head?_cons_ne (he c List.mem_cons_self).1 _
  rw [escapeTriples_append (Or.inr hhead), escapeTriples_append_unescaped he]

theorem closingQuotes_append_unescaped (hne : e ≠ []) (he : IsUnescaped e) (a b : List Char) :
    closingQuotes (a ++ (e ++ b)) = closingQuotes b := by
  induction e generalizing a with
  | nil => exact absurd rfl hne
  | cons c e ih =>
    obtain ⟨⟨hquote, -⟩, he⟩ := List.forall_mem_cons.1 he
    rw [List.cons_append, closingQuotes_append_cons _ _ hquote]
    cases e with
    | nil => rfl
    | cons d e => exact ih (List.cons_ne_nil d e) he []

end Escaping

end ApiDiscovery.Source
