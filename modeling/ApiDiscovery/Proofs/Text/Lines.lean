import ApiDiscovery.Proofs.Text.Cutting
import ApiDiscovery.Text.Lines
import Mathlib.Data.List.Basic

/-!
# Lines of source text

A line of source text ends with a line feed, a carriage return, or both, so the facts of a text go
by the carriage returns in it (`return_induction`). A text without these characters is one line
(`countP_unifyLineEnds_eq_zero`), and a text that does not start with a line feed has the lines that
it has by itself behind any other text (`unifyLineEnds_append_cons`).
-/

namespace ApiDiscovery.Text

/-- The character ends a line of source text, alone or with the one next to it. -/
def endsSourceLine (c : Char) : Bool := c == '\n' || c == '\r'

/-- The lines of a source text without their ends. What is behind the last end is a line too, even
if it is empty. -/
def sourceLines (s : List Char) : List (List Char) := pieces (· == '\n') (unifyLineEnds s)

/-! ## Pieces -/

section Pieces

variable {α : Type} {p : α → Bool}

theorem forall_eq_false_of_any {s : List α} (h : s.any p = false) : ∀ c ∈ s, p c = false :=
  fun c hc => eq_false_of_ne_true (List.any_eq_false.1 h c hc)

/-- There is one piece more than there are separators. -/
theorem length_pieces (s : List α) : (pieces p s).length = s.countP p + 1 := by
  induction s with
  | nil => rfl
  | cons c s ih =>
    by_cases hc : p c = true
    · rw [pieces_cons_of_pos s hc, List.length_cons, ih, List.countP_cons_of_pos hc]
    · obtain ⟨first, others, hs, hcons⟩ := exists_pieces_cons s (Bool.eq_false_iff.2 hc)
      rw [hs] at ih
      rw [hcons, List.length_cons, List.countP_cons_of_neg hc]
      exact ih

/-- What holds no separator stands at the start of the first piece. -/
theorem pieces_append_of_none {a : List α} (ha : ∀ c ∈ a, p c = false) (b : List α) :
    ∃ first others, pieces p (a ++ b) = (a ++ first) :: others := by
  induction a with
  | nil => exact List.exists_cons_of_ne_nil (pieces_ne_nil p b)
  | cons c a ih =>
    obtain ⟨first, others, h⟩ := ih fun d hd => ha d (List.mem_cons_of_mem c hd)
    obtain ⟨first', others', hs, hcons⟩ := exists_pieces_cons (a ++ b) (ha c List.mem_cons_self)
    rw [h] at hs
    cases hs
    exact ⟨first, others, hcons⟩

end Pieces

/-! ## Line ends -/

theorem unifyLineEnds_nil : unifyLineEnds [] = [] := rfl

theorem unifyLineEnds_pair (s : List Char) :
    unifyLineEnds ('\r' :: '\n' :: s) = '\n' :: unifyLineEnds s := rfl

theorem unifyLineEnds_cons_of_ne {c : Char} (hc : c ≠ '\r') (s : List Char) :
    unifyLineEnds (c :: s) = c :: unifyLineEnds s := by
  rw [unifyLineEnds]
  · intro rest h
    exact absurd h hc
  · exact hc

theorem unifyLineEnds_cons {c : Char} (hc : endsSourceLine c = false) (s : List Char) :
    unifyLineEnds (c :: s) = c :: unifyLineEnds s := by
  refine unifyLineEnds_cons_of_ne ?_ s
  rintro rfl
  exact absurd hc (by decide)

theorem unifyLineEnds_return {s : List Char} (hs : s.head? ≠ some '\n') :
    unifyLineEnds ('\r' :: s) = '\n' :: unifyLineEnds s := by
  rw [unifyLineEnds]
  rintro rest rfl
  exact hs rfl

/-- A property of texts goes over to a text with a carriage return in front, and the line feed with
it if there is one, and to a text with another character in front. -/
theorem return_induction {P : List Char → Prop} (nil : P [])
    (pair : ∀ s, P s → P ('\r' :: '\n' :: s))
    (single : ∀ s, s.head? ≠ some '\n' → P s → P ('\r' :: s))
    (char : ∀ c s, c ≠ '\r' → P s → P (c :: s)) (s : List Char) : P s := by
  induction s using unifyLineEnds.induct with
  | case1 => exact nil
  | case2 rest ih => exact pair rest ih
  | case3 rest hrest ih =>
    refine single rest (fun h => ?_) ih
    obtain ⟨rest', rfl⟩ := List.head?_eq_some_iff.1 h
    exact hrest rest' rfl
  | case4 c rest _ hsingle ih => exact char c rest hsingle ih

theorem unifyLineEnds_append {a : List Char} (ha : ∀ c ∈ a, endsSourceLine c = false)
    (b : List Char) : unifyLineEnds (a ++ b) = a ++ unifyLineEnds b := by
  induction a with
  | nil => rfl
  | cons c a ih =>
    rw [List.cons_append, unifyLineEnds_cons (ha c List.mem_cons_self),
      ih fun d hd => ha d (List.mem_cons_of_mem c hd), List.cons_append]

/-- A character that is no line feed is not taken by a carriage return before it. -/
theorem unifyLineEnds_append_cons (a b : List Char) {c : Char} (hc : c ≠ '\n') :
    unifyLineEnds (a ++ c :: b) = unifyLineEnds a ++ unifyLineEnds (c :: b) := by
  induction a using return_induction with
  | nil => rfl
  | pair a ih => exact congrArg ('\n' :: ·) ih
  | single a ha ih =>
    have hhead : (a ++ c :: b).head? ≠ some '\n' := by
      cases a with
      | nil => simpa using hc
      | cons d a => simpa using ha
    rw [List.cons_append, unifyLineEnds_return hhead, unifyLineEnds_return ha, ih,
      List.cons_append]
  | char d a hd ih =>
    rw [List.cons_append, unifyLineEnds_cons_of_ne hd, unifyLineEnds_cons_of_ne hd, ih,
      List.cons_append]

/-- A text has no line end exactly if it has no character that ends a line. -/
theorem countP_unifyLineEnds_eq_zero {s : List Char} :
    (unifyLineEnds s).countP (· == '\n') = 0 ↔ ∀ c ∈ s, endsSourceLine c = false := by
  constructor
  · intro h
    induction s using return_induction with
    | nil => exact fun c hc => absurd hc List.not_mem_nil
    | pair s ih =>
      rw [unifyLineEnds_pair, List.countP_cons_of_pos (by rfl)] at h
      exact absurd h (Nat.succ_ne_zero _)
    | single s hs ih =>
      rw [unifyLineEnds_return hs, List.countP_cons_of_pos (by rfl)] at h
      exact absurd h (Nat.succ_ne_zero _)
    | char c s hne ih =>
      rw [unifyLineEnds_cons_of_ne hne, List.countP_cons] at h
      have hc : (c == '\n') = false := by
        by_contra hc
        simp at hc
        simp [hc] at h
      intro d hd
      rcases List.mem_cons.1 hd with rfl | hd
      · rw [endsSourceLine, hc, beq_eq_false_iff_ne.2 hne]
        rfl
      · exact ih (by omega) d hd
  · intro h
    have hunified := unifyLineEnds_append h []
    rw [unifyLineEnds_nil, List.append_nil] at hunified
    rw [hunified, List.countP_eq_zero]
    intro c hc hend
    have := h c hc
    rw [endsSourceLine, hend] at this
    cases this

/-- There is one line more than there are line ends. -/
theorem length_sourceLines (s : List Char) :
    (sourceLines s).length = (unifyLineEnds s).countP (· == '\n') + 1 :=
  length_pieces (unifyLineEnds s)

/-- A line that is closed by a line feed, and the lines behind it. -/
theorem sourceLines_line {line : List Char} (hline : ∀ c ∈ line, endsSourceLine c = false)
    (s : List Char) : sourceLines (line ++ '\n' :: s) = line :: sourceLines s := by
  have hnone : ∀ c ∈ line, (c == '\n') = false := by
    intro c hc
    have h := hline c hc
    rw [endsSourceLine, Bool.or_eq_false_iff] at h
    exact h.1
  rw [sourceLines, unifyLineEnds_append hline, unifyLineEnds_cons_of_ne (by decide),
    pieces_append_cons _ _ (by rfl),
    pieces_of_none hnone]
  rfl

end ApiDiscovery.Text
