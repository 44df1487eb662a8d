import ApiDiscovery.Proofs.Text.Cutting
import ApiDiscovery.Text.Blank

/-!
# Collapsed white space

A collapsed text has single spaces between its words and no other white space
(`isSpaced_collapsed`). Its words are those of the text (`words_collapsed`), so collapsing it again
changes nothing. Read along the text, each white space is dropped or becomes a space and every other
character stays (`respaced_collapsed`), so what holds of all such changes (`Respaced`) holds of
collapsing.
-/

namespace ApiDiscovery.Text

/-- The characters of a text that are no white space. -/
def visible (s : List Char) : List Char := s.filter fun c => !isBlank c

/-- The only white space in the text are spaces, each right between two characters that are none. -/
def IsSpaced (s : List Char) : Prop :=
  ∀ before c after, s = before ++ c :: after → isBlank c = true →
    c = ' ' ∧ (∃ d, before.getLast? = some d ∧ isBlank d = false) ∧
      ∃ d, after.head? = some d ∧ isBlank d = false

/-- The words of a text with one space between neighbours. -/
def collapsed (s : List Char) : List Char := List.intercalate [' '] (words s)

theorem toList_joinedWords (s : List Char) :
    (joinWith " " ((words s).map String.ofList)).toList = collapsed s := by
  simp [joinWith, collapsed, Function.comp_def]

/-! ## Words -/

/-- A word is not empty, and it has no white space. -/
theorem of_mem_words {s word : List Char} (h : word ∈ words s) :
    word ≠ [] ∧ ∀ c ∈ word, isBlank c = false := by
  obtain ⟨hpiece, hne⟩ := List.mem_filter.1 h
  exact ⟨by simpa using hne, not_of_mem_pieces hpiece⟩

theorem words_cons_blank {c : Char} (hc : isBlank c = true) (s : List Char) :
    words (c :: s) = words s := by
  rw [words, pieces, if_pos hc]
  rfl

theorem pieces_collapsed {s : List Char} (h : words s ≠ []) :
    pieces isBlank (collapsed s) = words s :=
  pieces_intercalate_of (by decide) h fun _ hword => (of_mem_words hword).2

/-- A collapsed text has the words of the text. -/
theorem words_collapsed (s : List Char) : words (collapsed s) = words s := by
  by_cases h : words s = []
  · rw [collapsed, h]
    rfl
  · rw [words, pieces_collapsed h, List.filter_eq_self]
    intro word hword
    simpa using (of_mem_words hword).1

theorem collapsed_collapsed (s : List Char) : collapsed (collapsed s) = collapsed s := by
  rw [collapsed, words_collapsed, ← collapsed]

/-! ## Single spaces -/

/-- White space at the end of a text would leave an empty piece. -/
theorem exists_getLast?_of_pieces {s : List Char} (h : [] ∉ pieces isBlank s) :
    ∃ d, s.getLast? = some d ∧ isBlank d = false := by
  rcases List.eq_nil_or_concat s with rfl | ⟨s, d, rfl⟩
  · exact absurd List.mem_cons_self h
  · refine ⟨d, by simp, Bool.eq_false_iff.2 fun hd => h ?_⟩
    rw [List.concat_eq_append, pieces_append_cons s [] hd]
    exact List.mem_append_right _ List.mem_cons_self

theorem exists_head?_of_pieces {s : List Char} (h : [] ∉ pieces isBlank s) :
    ∃ d, s.head? = some d ∧ isBlank d = false := by
  cases s with
  | nil => exact absurd List.mem_cons_self h
  | cons d s =>
    refine ⟨d, rfl, Bool.eq_false_iff.2 fun hd => h ?_⟩
    rw [pieces, if_pos hd]
    exact List.mem_cons_self

theorem isSpaced_collapsed (s : List Char) : IsSpaced (collapsed s) := by
  intro before c after hsplit hc
  have hmem : c ∈ collapsed s := hsplit ▸ List.mem_append_right before List.mem_cons_self
  have hwords : words s ≠ [] := by
    intro h
    rw [collapsed, h] at hmem
    cases hmem
  have hspace : c = ' ' := by
    rcases mem_intercalate hmem with heq | ⟨word, hword, hcword⟩
    · exact heq
    · rw [(of_mem_words hword).2 c hcword] at hc
      cases hc
  -- All pieces of the collapsed text are words, those before the space and those behind it.
  have hpieces : [] ∉ pieces isBlank before ++ pieces isBlank after := by
    rw [← pieces_append_cons before after hc, ← hsplit, pieces_collapsed hwords]
    exact fun hnil => (of_mem_words hnil).1 rfl
  rw [List.mem_append, not_or] at hpieces
  exact ⟨hspace, exists_getLast?_of_pieces hpieces.1, exists_head?_of_pieces hpieces.2⟩

/-! ## White space along a text -/

/-- The second text is the first one with each white space dropped or turned into a space. -/
inductive Respaced : List Char → List Char → Prop
  | nil : Respaced [] []
  | keep {c : Char} {s t : List Char} (hc : isBlank c = false) (h : Respaced s t) :
      Respaced (c :: s) (c :: t)
  | space {c : Char} {s t : List Char} (hc : isBlank c = true) (h : Respaced s t) :
      Respaced (c :: s) (' ' :: t)
  | drop {c : Char} {s t : List Char} (hc : isBlank c = true) (h : Respaced s t) :
      Respaced (c :: s) t

section Respaced

variable {s t : List Char} (h : Respaced s t)

include h

theorem Respaced.visible_eq : visible t = visible s := by
  induction h with
  | nil => rfl
  | keep hc _ ih => simpa [visible, hc] using ih
  | space hc _ ih => simpa [visible, hc, show isBlank ' ' = true by decide] using ih
  | drop hc _ ih => simpa [visible, hc] using ih

theorem Respaced.mem {c : Char} (hc : isBlank c = false) (hmem : c ∈ t) : c ∈ s := by
  have hvisible : c ∈ visible t := List.mem_filter.2 ⟨hmem, by simp [hc]⟩
  rw [h.visible_eq] at hvisible
  exact List.mem_of_mem_filter hvisible

theorem Respaced.head? {c : Char} (hc : isBlank c = false) (hhead : s.head? = some c) :
    t.head? = some c := by
  cases h with
  | nil => exact hhead
  | keep _ _ => exact hhead
  | space hblank _ =>
    cases hhead
    rw [hc] at hblank
    cases hblank
  | drop hblank _ =>
    cases hhead
    rw [hc] at hblank
    cases hblank

end Respaced

/-- The collapsed text as it goes on behind a character: white space that it starts with is a
space, unless nothing else comes behind it. -/
def continued (s : List Char) : List Char :=
  match pieces isBlank s with
  | [] => []
  | first :: others => List.intercalate [' '] (first :: others.filter fun word => !word.isEmpty)

theorem intercalate_cons_head {α : Type} (separator c : α) (first : List α)
    (others : List (List α)) :
    List.intercalate [separator] ((c :: first) :: others) =
      c :: List.intercalate [separator] (first :: others) := by
  cases others with
  | nil => simp
  | cons next rest => simp [List.intercalate_cons_cons]

section Continued

variable {c : Char}

theorem collapsed_cons (hc : isBlank c = false) (s : List Char) :
    collapsed (c :: s) = c :: continued s := by
  rw [collapsed, words, pieces, continued, hc]
  cases hs : pieces isBlank s with
  | nil => exact absurd hs (pieces_ne_nil isBlank s)
  | cons first others => exact intercalate_cons_head ' ' c first _

theorem continued_cons (hc : isBlank c = false) (s : List Char) :
    continued (c :: s) = c :: continued s := by
  rw [continued, pieces, continued, hc]
  cases hs : pieces isBlank s with
  | nil => exact absurd hs (pieces_ne_nil isBlank s)
  | cons first others => exact intercalate_cons_head ' ' c first _

theorem continued_cons_blank (hc : isBlank c = true) (s : List Char) :
    continued (c :: s) = if words s = [] then collapsed s else ' ' :: collapsed s := by
  rw [continued, pieces, if_pos hc, collapsed]
  dsimp only
  rw [← words]
  cases words s with
  | nil => rfl
  | cons word rest => simp [List.intercalate_cons_cons]

end Continued

theorem respaced_collapsed_continued (s : List Char) :
    Respaced s (collapsed s) ∧ Respaced s (continued s) := by
  -- A character that stays leads from the one form of the rest to the other, so both go together.
  induction s with
  | nil => exact ⟨.nil, .nil⟩
  | cons c s ih =>
    obtain ⟨hcollapsed, hcontinued⟩ := ih
    by_cases hc : isBlank c = true
    · -- White space becomes a space only behind a character, and only if words come behind it.
      rw [collapsed, words_cons_blank hc, ← collapsed, continued_cons_blank hc]
      refine ⟨.drop hc hcollapsed, ?_⟩
      split
      · exact .drop hc hcollapsed
      · exact .space hc hcollapsed
    · have hc : isBlank c = false := Bool.eq_false_iff.2 hc
      rw [collapsed_cons hc, continued_cons hc]
      exact ⟨.keep hc hcontinued, .keep hc hcontinued⟩

theorem respaced_collapsed (s : List Char) : Respaced s (collapsed s) :=
  (respaced_collapsed_continued s).1

end ApiDiscovery.Text
