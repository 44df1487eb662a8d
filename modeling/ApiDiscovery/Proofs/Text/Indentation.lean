import ApiDiscovery.Proofs.Text.Lines

/-!
# Indented lines

A text is cut at its first line end, and what is behind that is a text again (`line_induction`).
Indenting follows the same cuts: the line stays, its end becomes a line feed, and what is behind it
is indented in its turn, behind a margin unless its first line is empty (`indentLines_next`). One
line end is lost: a carriage return at the very end goes together with the line feed that closes the
text (`indentLines_dropped`).
-/

namespace ApiDiscovery.Text

/-- No character of the text ends a line. -/
def IsLine (s : List Char) : Prop := ∀ c ∈ s, endsLine c = false

/-- The characters end a line, where another text comes behind them: a carriage return with a line
feed, or any one of those that end a line. A carriage return is not alone before a line feed or at
the end of the text, which is closed by a line feed. -/
inductive IsLineEnd : List Char → List Char → Prop
  | pair (b : List Char) : IsLineEnd ['\r', '\n'] b
  | single {c : Char} {b : List Char} (ends : endsLine c = true)
      (alone : c = '\r' → ∃ d, b.head? = some d ∧ d ≠ '\n') : IsLineEnd [c] b

section LineEnds

variable {a b e : List Char}

theorem IsLineEnd.ne_nil (h : IsLineEnd e b) : e ≠ [] := by
  cases h with
  | pair => exact List.cons_ne_nil _ _
  | single => exact List.cons_ne_nil _ _

theorem IsLineEnd.ends (h : IsLineEnd e b) : ∀ c ∈ e, endsLine c = true := by
  cases h with
  | pair => exact List.forall_mem_cons.2 ⟨rfl, List.forall_mem_singleton.2 rfl⟩
  | single ends _ => exact List.forall_mem_singleton.2 ends

/-- What comes behind a carriage return may be another text, unless it starts with a line feed. -/
theorem IsLineEnd.congr {b' : List Char} (h : IsLineEnd e b)
    (hhead : ∀ c, b.head? = some c → c ≠ '\n' → ∃ d, b'.head? = some d ∧ d ≠ '\n') :
    IsLineEnd e b' := by
  cases h with
  | pair => exact .pair b'
  | single ends alone =>
    refine .single ends fun heq => ?_
    obtain ⟨c, hc, hne⟩ := alone heq
    exact hhead c hc hne

/-- No carriage return is left at the end by cutting at a line end. -/
theorem IsLineEnd.getLast?_append (h : IsLineEnd e b) (a : List Char) :
    (a ++ (e ++ b)).getLast? = some '\r' ↔ b.getLast? = some '\r' := by
  rcases List.eq_nil_or_concat b with rfl | ⟨b, d, rfl⟩
  · refine iff_of_false ?_ (by simp)
    cases h with
    | pair => simp
    | @single c _ ends alone =>
      intro hlast
      obtain ⟨d, hd, -⟩ := alone (by simpa using hlast)
      cases hd
  · simp

/-- Lines and their ends are unified one after another. -/
theorem IsLineEnd.unifyLineEnds_append (h : IsLineEnd e b) :
    unifyLineEnds (e ++ b) = unifyLineEnds e ++ unifyLineEnds b := by
  cases h with
  | pair => rfl
  | @single c _ ends alone =>
    by_cases hc : c = '\r'
    · obtain ⟨d, hd, hne⟩ := alone hc
      have hfeed : b.head? ≠ some '\n' := fun h => hne (Option.some.inj (hd.symm.trans h))
      rw [hc]
      exact unifyLineEnds_return hfeed
    · rw [List.singleton_append, unifyLineEnds_cons_of_ne hc, unifyLineEnds_cons_of_ne hc]
      rfl

theorem IsLine.endsSourceLine (h : IsLine a) : ∀ c ∈ a, endsSourceLine c = false := by
  intro c hc
  by_contra hends
  rw [Bool.not_eq_false, Text.endsSourceLine, Bool.or_eq_true, beq_iff_eq, beq_iff_eq] at hends
  have hline := h c hc
  rcases hends with rfl | rfl
  · exact absurd hline (by decide)
  · exact absurd hline (by decide)

theorem IsLine.getLast?_ne (h : IsLine a) : a.getLast? ≠ some '\r' := by
  intro hlast
  exact absurd (h '\r' (List.mem_of_getLast? hlast)) (by decide)

theorem IsLine.unifyLineEnds_append (h : IsLine a) (b : List Char) :
    unifyLineEnds (a ++ b) = a ++ unifyLineEnds b :=
  Text.unifyLineEnds_append h.endsSourceLine b

theorem IsLine.unifyLineEnds_eq (h : IsLine a) : unifyLineEnds a = a := by
  have hunified := h.unifyLineEnds_append []
  rwa [unifyLineEnds_nil, List.append_nil] at hunified

/-- Unified line ends are line ends. -/
theorem mem_unifyLineEnds {s : List Char} {c : Char} (h : c ∈ unifyLineEnds s) :
    c ∈ s ∨ c = '\n' := by
  induction s using return_induction with
  | nil => exact Or.inl h
  | pair s ih =>
    rw [unifyLineEnds_pair] at h
    grind
  | single s hs ih =>
    rw [unifyLineEnds_return hs] at h
    grind
  | char d s hd ih =>
    rw [unifyLineEnds_cons_of_ne hd] at h
    grind

theorem unifyLineEnds_ne_nil {s : List Char} (h : s ≠ []) : unifyLineEnds s ≠ [] := by
  induction s using return_induction with
  | nil => exact absurd rfl h
  | pair s _ => exact List.cons_ne_nil _ _
  | single s hs _ =>
    rw [unifyLineEnds_return hs]
    exact List.cons_ne_nil _ _
  | char c s hc _ =>
    rw [unifyLineEnds_cons_of_ne hc]
    exact List.cons_ne_nil _ _

/-! ## Cutting at line ends -/

theorem lines_cons {c : Char} (hc : endsLine c = false) (s : List Char) :
    lines (c :: s) = match lines s with
      | [] => [[c]]
      | first :: others => (c :: first) :: others := by
  have hreturn : ∀ rest, c = '\r' → s = '\n' :: rest → False := by
    rintro rest rfl
    exact absurd hc (by decide)
  exact (lines.eq_3 c s hreturn).trans (if_neg (Bool.eq_false_iff.1 hc))

/-- A line keeps together, whatever lines come behind it. -/
theorem lines_append {s : List Char} (ha : IsLine a) {others : List (List Char)}
    (hs : lines s = [] :: others) : lines (a ++ s) = a :: others := by
  induction a with
  | nil => exact hs
  | cons c a ih =>
    obtain ⟨hc, ha⟩ := List.forall_mem_cons.1 ha
    rw [List.cons_append, lines_cons hc, ih ha]

theorem lines_lineEnd (h : IsLineEnd e b) :
    lines (e ++ (b ++ ['\n'])) = [] :: lines (b ++ ['\n']) := by
  cases h with
  | pair => rfl
  | @single c _ ends alone =>
    rw [List.singleton_append, lines, ends, if_pos rfl]
    rintro rest rfl hrest
    obtain ⟨d, hd, hne⟩ := alone rfl
    obtain ⟨b', rfl⟩ := List.head?_eq_some_iff.1 hd
    exact hne (List.cons.inj hrest).1

/-- A closed text has a first line, which is empty if the text is or if it starts with a line
end. -/
theorem lines_closed (s : List Char) :
    ∃ first others, lines (s ++ ['\n']) = first :: others ∧
      first.isEmpty = s.head?.all endsLine := by
  cases s with
  | nil => exact ⟨[], [], rfl, rfl⟩
  | cons c s =>
    rw [List.cons_append, List.head?_cons, Option.all_some]
    by_cases hc : endsLine c = true
    · rw [hc, lines.eq_def]
      split
      · next heq => cases heq
      · exact ⟨[], _, rfl, rfl⟩
      · next heq =>
        cases heq
        exact ⟨[], _, if_pos hc, rfl⟩
    · rw [Bool.not_eq_true] at hc
      rw [lines_cons hc, hc]
      cases lines (s ++ ['\n']) with
      | nil => exact ⟨[c], [], rfl, rfl⟩
      | cons first others => exact ⟨c :: first, others, rfl, rfl⟩

/-- A property of texts that holds of a line, and of one with a carriage return behind it, holds of
every text if it goes over to a text with a line more in front. -/
theorem line_induction {P : List Char → Prop} (line : ∀ a, IsLine a → P a)
    (dropped : ∀ a, IsLine a → P (a ++ ['\r']))
    (next : ∀ a e b, IsLine a → IsLineEnd e b → P b → P (a ++ (e ++ b))) (s : List Char) :
    P s := by
  -- A whole line is taken at once, so the induction is on the length.
  induction hlength : s.length using Nat.strongRecOn generalizing s with
  | ind n ih =>
    have hcut := List.takeWhile_append_dropWhile (p := fun c => !endsLine c) (l := s)
    have hline : IsLine (s.takeWhile fun c => !endsLine c) := by
      intro c hc
      simpa using List.mem_takeWhile_imp hc
    cases hrest : s.dropWhile fun c => !endsLine c with
    | nil =>
      rw [hrest, List.append_nil] at hcut
      exact hcut ▸ line _ hline
    | cons c rest =>
      have hends : endsLine c = true := by
        have hstop := List.head?_dropWhile_not (fun c => !endsLine c) s
        rw [hrest] at hstop
        simpa using hstop
      have hshort := congrArg List.length hcut
      rw [hrest, List.length_append, List.length_cons, hlength] at hshort
      rw [hrest] at hcut
      rw [← hcut]
      -- What a carriage return is depends on what comes behind it.
      by_cases hreturn : c = '\r'
      · subst hreturn
        cases rest with
        | nil => exact dropped _ hline
        | cons d rest =>
          by_cases hd : d = '\n'
          · subst hd
            rw [List.length_cons] at hshort
            exact next _ _ rest hline (.pair rest) (ih rest.length (by omega) rest rfl)
          · exact next _ ['\r'] _ hline (.single hends fun _ => ⟨d, rfl, hd⟩)
              (ih (d :: rest).length (by omega) _ rfl)
      · exact next _ [c] rest hline (.single hends fun heq => absurd heq hreturn)
          (ih rest.length (by omega) rest rfl)

/-! ## Indenting -/

/-- What is put before a text that starts a line below the first one. -/
def margin (width : Nat) (s : List Char) : List Char :=
  if s.head?.all endsLine then [] else List.replicate width ' '

variable (width : Nat)

theorem indentLines_of_lines (h : lines (a ++ ['\n']) = [b]) : indentLines width a = b := by
  rw [indentLines, h]
  exact List.intercalate_singleton

theorem indentLines_line (ha : IsLine a) : indentLines width a = a :=
  indentLines_of_lines width (lines_append ha rfl)

theorem indentLines_dropped (ha : IsLine a) : indentLines width (a ++ ['\r']) = a := by
  refine indentLines_of_lines width ?_
  rw [List.append_assoc]
  exact lines_append ha rfl

/-- Behind its first line a text is indented as on its own, but for the margin. -/
theorem indentLines_next (ha : IsLine a) (he : IsLineEnd e b) :
    indentLines width (a ++ (e ++ b)) =
      a ++ '\n' :: (margin width b ++ indentLines width b) := by
  have hlines : lines (a ++ (e ++ b) ++ ['\n']) = a :: lines (b ++ ['\n']) := by
    rw [List.append_assoc, List.append_assoc]
    exact lines_append ha (lines_lineEnd he)
  obtain ⟨first, others, hclosed, hfirst⟩ := lines_closed b
  have hmargin : (if first.isEmpty = true then first else List.replicate width ' ' ++ first) =
      margin width b ++ first := by
    rw [margin, hfirst]
    split
    · rfl
    · rfl
  rw [hclosed] at hlines
  simp only [indentLines, hlines, hclosed, List.map_cons, hmargin, List.intercalate_cons_cons]
  cases others with
  | nil => simp
  | cons second others => simp [List.intercalate_cons_cons]

theorem mem_margin {s : List Char} {c : Char} (h : c ∈ margin width s) : c = ' ' := by
  rw [margin] at h
  split at h
  · cases h
  · exact List.eq_of_mem_replicate h

/-- Nothing comes into an indented text but line feeds and spaces, and no other line end is left. -/
theorem mem_indentLines (s : List Char) :
    ∀ c ∈ indentLines width s, (c ∈ s ∧ endsLine c = false) ∨ c = '\n' ∨ c = ' ' := by
  induction s using line_induction with
  | line a ha =>
    rw [indentLines_line width ha]
    exact fun c hc => Or.inl ⟨hc, ha c hc⟩
  | dropped a ha =>
    rw [indentLines_dropped width ha]
    exact fun c hc => Or.inl ⟨List.mem_append_left _ hc, ha c hc⟩
  | next a e b ha he ih =>
    rw [indentLines_next width ha he]
    intro c hc
    rw [List.mem_append, List.mem_cons, List.mem_append] at hc
    rcases hc with hc | rfl | hc | hc
    · exact Or.inl ⟨List.mem_append_left _ hc, ha c hc⟩
    · exact Or.inr (Or.inl rfl)
    · exact Or.inr (Or.inr (mem_margin width hc))
    · refine (ih c hc).imp_left fun ⟨hmem, hline⟩ => ⟨?_, hline⟩
      exact List.mem_append_right a (List.mem_append_right e hmem)

theorem unifyLineEnds_of_not_mem {s : List Char} (h : '\r' ∉ s) : unifyLineEnds s = s := by
  induction s with
  | nil => rfl
  | cons c s ih =>
    rw [List.mem_cons, not_or] at h
    rw [unifyLineEnds_cons_of_ne (Ne.symm h.1), ih h.2]

/-- The line ends of an indented text are unified. -/
theorem unifyLineEnds_indentLines (s : List Char) :
    unifyLineEnds (indentLines width s) = indentLines width s := by
  refine unifyLineEnds_of_not_mem fun hmem => ?_
  rcases mem_indentLines width s '\r' hmem with ⟨-, hline⟩ | hfeed | hspace
  · exact absurd hline (by decide)
  · exact absurd hfeed (by decide)
  · exact absurd hspace (by decide)

end LineEnds
end ApiDiscovery.Text
