import ApiDiscovery.Text.Pieces
import Mathlib.Data.List.Basic
import Mathlib.Data.List.TakeWhile

/-!
# Cutting and joining

Joining the pieces of a list with the separator gives the list back (`intercalate_pieces`), and
cutting a joined list gives back the parts if no part holds the separator (`pieces_intercalate`).
A cut at the first or at the last separator is described by the list it was made from
(`cutFirst_eq_some`, `cutFirst_eq_none`, `cutLast_eq_some`).
-/

namespace ApiDiscovery.Text

variable {α : Type} {p : α → Bool}

/-! ## Pieces -/

theorem pieces_cons_of_pos (s : List α) {c : α} (hc : p c = true) :
    pieces p (c :: s) = [] :: pieces p s := if_pos hc

/-- A character that is no separator goes before the first piece of the rest. -/
theorem exists_pieces_cons (s : List α) {c : α} (hc : p c = false) :
    ∃ first others, pieces p s = first :: others ∧ pieces p (c :: s) = (c :: first) :: others := by
  obtain ⟨first, others, hs⟩ := List.exists_cons_of_ne_nil (pieces_ne_nil p s)
  refine ⟨first, others, hs, ?_⟩
  rw [pieces, hc, hs]
  rfl

theorem pieces_of_none {s : List α} (h : ∀ c ∈ s, p c = false) : pieces p s = [s] := by
  induction s with
  | nil => rfl
  | cons c s ih =>
    obtain ⟨first, others, hs, hcons⟩ := exists_pieces_cons s (h c List.mem_cons_self)
    rw [ih fun d hd => h d (List.mem_cons_of_mem c hd)] at hs
    cases hs
    exact hcons

theorem pieces_append_cons (a b : List α) {c : α} (hc : p c = true) :
    pieces p (a ++ c :: b) = pieces p a ++ pieces p b := by
  induction a with
  | nil => exact pieces_cons_of_pos b hc
  | cons d a ih =>
    rw [List.cons_append]
    by_cases hd : p d = true
    · rw [pieces_cons_of_pos _ hd, pieces_cons_of_pos _ hd, ih, List.cons_append]
    · have hd := Bool.eq_false_iff.2 hd
      obtain ⟨first, others, ha, hcons⟩ := exists_pieces_cons a hd
      obtain ⟨first', others', hab, hcons'⟩ := exists_pieces_cons (a ++ c :: b) hd
      rw [ih, ha, List.cons_append] at hab
      cases hab
      rw [hcons, hcons', List.cons_append]

/-- What a piece holds stands in the list that was cut, and is no separator. -/
theorem of_mem_pieces {s part : List α} (h : part ∈ pieces p s) :
    ∀ c ∈ part, c ∈ s ∧ p c = false := by
  induction s generalizing part with
  | nil =>
    obtain rfl := List.mem_singleton.1 h
    exact fun c hc => absurd hc List.not_mem_nil
  | cons d s ih =>
    have hrest : ∀ part ∈ pieces p s, ∀ c ∈ part, c ∈ d :: s ∧ p c = false := by
      intro part hpart c hc
      obtain ⟨hmem, hc⟩ := ih hpart c hc
      exact ⟨List.mem_cons_of_mem d hmem, hc⟩
    by_cases hd : p d = true
    · rw [pieces_cons_of_pos s hd, List.mem_cons] at h
      rcases h with rfl | h
      · exact fun c hc => absurd hc List.not_mem_nil
      · exact hrest part h
    · have hd := Bool.eq_false_iff.2 hd
      obtain ⟨first, others, hs, hcons⟩ := exists_pieces_cons s hd
      rw [hs] at hrest
      rw [hcons] at h
      rcases List.mem_cons.1 h with rfl | h
      · intro c hc
        rcases List.mem_cons.1 hc with rfl | hc
        · exact ⟨List.mem_cons_self, hd⟩
        · exact hrest first List.mem_cons_self c hc
      · exact hrest part (List.mem_cons_of_mem first h)

theorem mem_of_mem_pieces {s part : List α} (h : part ∈ pieces p s) : ∀ c ∈ part, c ∈ s :=
  fun c hc => (of_mem_pieces h c hc).1

theorem not_of_mem_pieces {s part : List α} (h : part ∈ pieces p s) : ∀ c ∈ part, p c = false :=
  fun c hc => (of_mem_pieces h c hc).2

/-- Joined parts are cut at every separator between them if no part holds one. -/
theorem pieces_intercalate_of {separator : α} (hp : p separator = true) {parts : List (List α)}
    (hne : parts ≠ []) (h : ∀ part ∈ parts, ∀ c ∈ part, p c = false) :
    pieces p (List.intercalate [separator] parts) = parts := by
  induction parts with
  | nil => exact absurd rfl hne
  | cons part parts ih =>
    cases parts with
    | nil =>
      rw [List.intercalate_singleton]
      exact pieces_of_none (h part List.mem_cons_self)
    | cons next rest =>
      rw [List.intercalate_cons_cons, List.append_assoc, List.singleton_append,
        pieces_append_cons part _ hp, pieces_of_none (h part List.mem_cons_self),
        ih (List.cons_ne_nil next rest) fun q hq => h q (List.mem_cons_of_mem part hq)]
      rfl

section Joining

variable [BEq α] [LawfulBEq α]

theorem pieces_intercalate (separator : α) {parts : List (List α)} (hne : parts ≠ [])
    (h : ∀ part ∈ parts, separator ∉ part) :
    pieces (· == separator) (List.intercalate [separator] parts) = parts := by
  refine pieces_intercalate_of (p := (· == separator)) (beq_self_eq_true separator) hne
    fun part hpart c hc => ?_
  refine beq_eq_false_iff_ne.2 fun heq => h part hpart ?_
  exact heq ▸ hc

/-- A text is cut at a separator into the parts that it was joined from. -/
theorem splitAt_of_intercalate {separator : Char} {s : String} {parts : List String}
    (hs : s.toList = List.intercalate [separator] (parts.map String.toList)) (hne : parts ≠ [])
    (h : ∀ part ∈ parts, separator ∉ part.toList) : splitAt separator s = parts := by
  have hfree : ∀ chars ∈ parts.map String.toList, separator ∉ chars := by
    intro chars hchars
    obtain ⟨part, hpart, rfl⟩ := List.mem_map.1 hchars
    exact h part hpart
  rw [splitAt, hs, pieces_intercalate separator (by simpa using hne) hfree, List.map_map]
  calc
    _ = parts.map id := List.map_congr_left fun part _ => String.ofList_toList
    _ = parts := List.map_id parts

theorem intercalate_pieces (separator : α) (s : List α) :
    List.intercalate [separator] (pieces (· == separator) s) = s := by
  induction s with
  | nil => rfl
  | cons c s ih =>
    by_cases hc : (c == separator) = true
    · obtain ⟨first, others, hs⟩ := List.exists_cons_of_ne_nil (pieces_ne_nil (· == separator) s)
      rw [hs] at ih
      rw [pieces_cons_of_pos (p := (· == separator)) s hc, hs, List.intercalate_cons_cons, ih,
        LawfulBEq.eq_of_beq hc]
      rfl
    · obtain ⟨first, others, hs, hcons⟩ :=
        exists_pieces_cons (p := (· == separator)) s (Bool.eq_false_iff.2 hc)
      rw [hs] at ih
      rw [hcons]
      cases others with
      | nil =>
        rw [List.intercalate_singleton] at ih ⊢
        rw [ih]
      | cons next rest =>
        rw [List.intercalate_cons_cons] at ih ⊢
        rw [← ih]
        rfl

end Joining

theorem intercalate_append (separator : α) {a b : List (List α)} (ha : a ≠ []) (hb : b ≠ []) :
    List.intercalate [separator] (a ++ b) =
      List.intercalate [separator] a ++ separator :: List.intercalate [separator] b := by
  induction a with
  | nil => exact absurd rfl ha
  | cons first a ih =>
    cases a with
    | nil =>
      cases b with
      | nil => exact absurd rfl hb
      | cons second b => simp [List.intercalate]
    | cons second a =>
      have hrest := ih (List.cons_ne_nil second a)
      rw [List.cons_append] at hrest
      rw [List.cons_append, List.cons_append, List.intercalate_cons_cons, hrest,
        List.intercalate_cons_cons]
      simp only [List.append_assoc]

theorem mem_intercalate {separator : α} {parts : List (List α)} {c : α}
    (h : c ∈ List.intercalate [separator] parts) : c = separator ∨ ∃ part ∈ parts, c ∈ part := by
  induction parts with
  | nil => exact absurd h List.not_mem_nil
  | cons part parts ih =>
    cases parts with
    | nil =>
      rw [List.intercalate_singleton] at h
      exact Or.inr ⟨part, List.mem_cons_self, h⟩
    | cons next rest =>
      rw [List.intercalate_cons_cons, List.append_assoc, List.mem_append, List.singleton_append,
        List.mem_cons] at h
      rcases h with h | h | h
      · exact Or.inr ⟨part, List.mem_cons_self, h⟩
      · exact Or.inl h
      · rcases ih h with h | ⟨q, hq, hc⟩
        · exact Or.inl h
        · exact Or.inr ⟨q, List.mem_cons_of_mem part hq, hc⟩

/-! ## The first and the last separator -/

theorem cutFirst_cons_of_pos (s : List α) {c : α} (hc : p c = true) :
    cutFirst p (c :: s) = ([], some s) := if_pos hc

theorem cutFirst_cons_of_neg (s : List α) {c : α} (hc : p c = false) :
    cutFirst p (c :: s) = (c :: (cutFirst p s).1, (cutFirst p s).2) :=
  if_neg (Bool.eq_false_iff.1 hc)

theorem cutFirst_of_none {s : List α} (h : ∀ c ∈ s, p c = false) : cutFirst p s = (s, none) := by
  induction s with
  | nil => rfl
  | cons c s ih =>
    rw [cutFirst_cons_of_neg s (h c List.mem_cons_self),
      ih fun d hd => h d (List.mem_cons_of_mem c hd)]

theorem cutFirst_append_cons {a : List α} (b : List α) {c : α} (ha : ∀ d ∈ a, p d = false)
    (hc : p c = true) : cutFirst p (a ++ c :: b) = (a, some b) := by
  induction a with
  | nil => exact cutFirst_cons_of_pos b hc
  | cons d a ih =>
    rw [List.cons_append, cutFirst_cons_of_neg _ (ha d List.mem_cons_self),
      ih fun e he => ha e (List.mem_cons_of_mem d he)]

theorem cutFirst_eq_none {s a : List α} (h : cutFirst p s = (a, none)) :
    a = s ∧ ∀ c ∈ s, p c = false := by
  induction s generalizing a with
  | nil =>
    cases h
    exact ⟨rfl, fun c hc => absurd hc List.not_mem_nil⟩
  | cons d s ih =>
    by_cases hd : p d = true
    · rw [cutFirst_cons_of_pos s hd] at h
      cases h
    · rw [cutFirst_cons_of_neg s (Bool.eq_false_iff.2 hd), Prod.mk.injEq] at h
      obtain ⟨rfl, h2⟩ := h
      -- Only the second part of the cut of the rest is known, so the first is named here.
      obtain ⟨h3, h4⟩ := ih (a := (cutFirst p s).1) (Prod.ext rfl h2)
      refine ⟨by rw [h3], fun c hc => ?_⟩
      rcases List.mem_cons.1 hc with rfl | hc
      · exact Bool.eq_false_iff.2 hd
      · exact h4 c hc

theorem cutFirst_eq_some {s a b : List α} (h : cutFirst p s = (a, some b)) :
    ∃ c, p c = true ∧ s = a ++ c :: b ∧ ∀ d ∈ a, p d = false := by
  induction s generalizing a with
  | nil => cases h
  | cons d s ih =>
    by_cases hd : p d = true
    · rw [cutFirst_cons_of_pos s hd] at h
      cases h
      exact ⟨d, hd, rfl, fun c hc => absurd hc List.not_mem_nil⟩
    · rw [cutFirst_cons_of_neg s (Bool.eq_false_iff.2 hd), Prod.mk.injEq] at h
      obtain ⟨rfl, h2⟩ := h
      obtain ⟨c, hc, hs, ha⟩ := ih (a := (cutFirst p s).1) (Prod.ext rfl h2)
      refine ⟨c, hc, by rw [List.cons_append, ← hs], fun e he => ?_⟩
      rcases List.mem_cons.1 he with rfl | he
      · exact Bool.eq_false_iff.2 hd
      · exact ha e he

theorem cutLast_eq_some {s a b : List α} (h : cutLast p s = some (a, b)) :
    ∃ c, p c = true ∧ s = a ++ c :: b ∧ ∀ d ∈ b, p d = false := by
  unfold cutLast at h
  split at h
  · next after before heq =>
    cases h
    obtain ⟨c, hc, hs, hfree⟩ := cutFirst_eq_some heq
    refine ⟨c, hc, ?_, fun d hd => hfree d (List.mem_reverse.1 hd)⟩
    rw [← List.reverse_reverse s, hs]
    simp
  · cases h

theorem cutLast_of_none {s : List α} (h : ∀ c ∈ s, p c = false) : cutLast p s = none := by
  rw [cutLast, cutFirst_of_none fun c hc => h c (List.mem_reverse.1 hc)]

theorem cutLast_append_cons (a : List α) {b : List α} {c : α} (hb : ∀ d ∈ b, p d = false)
    (hc : p c = true) : cutLast p (a ++ c :: b) = some (a, b) := by
  -- The last separator is the first one of the reversed list.
  have hreverse : (a ++ c :: b).reverse = b.reverse ++ c :: a.reverse := by simp
  rw [cutLast, hreverse,
    cutFirst_append_cons a.reverse (fun d hd => hb d (List.mem_reverse.1 hd)) hc]
  simp

theorem cutLast_eq_none {s : List α} (h : cutLast p s = none) : ∀ c ∈ s, p c = false := by
  unfold cutLast at h
  split at h
  · cases h
  · next heq =>
    intro c hc
    exact (cutFirst_eq_none heq).2 c (List.mem_reverse.2 hc)

/-! ## The run before a stop -/

theorem takeWhile_append_stop {a b : List α} (ha : ∀ c ∈ a, p c = true)
    (hb : ∀ c, b.head? = some c → p c = false) : (a ++ b).takeWhile p = a := by
  rw [List.takeWhile_append_of_pos ha]
  cases b with
  | nil => rw [List.takeWhile_nil, List.append_nil]
  | cons c b => rw [List.takeWhile_cons_of_neg (by simp [hb c rfl]), List.append_nil]

theorem dropWhile_append_stop {a b : List α} (ha : ∀ c ∈ a, p c = true)
    (hb : ∀ c, b.head? = some c → p c = false) : (a ++ b).dropWhile p = b := by
  rw [List.dropWhile_append_of_pos ha]
  cases b with
  | nil => rfl
  | cons c b => rw [List.dropWhile_cons_of_neg (by simp [hb c rfl])]

theorem takeWhile_append_of_stop {s : List α} (h : ∃ c ∈ s, p c = false) (t : List α) :
    (s ++ t).takeWhile p = s.takeWhile p := by
  rw [List.takeWhile_append, if_neg]
  intro hlength
  obtain ⟨c, hc, hstop⟩ := h
  rw [← (List.takeWhile_prefix p).eq_of_length hlength] at hc
  rw [List.mem_takeWhile_imp hc] at hstop
  cases hstop

/-- Two runs before the same list are one if that list holds what ends a run. -/
theorem append_run_cancel {x y s a b : List α} (hx : ∀ c ∈ x, p c = true)
    (hy : ∀ c ∈ y, p c = true) (hs : ∃ c ∈ s, p c = false) (h : x ++ (s ++ a) = y ++ (s ++ b)) :
    x = y := by
  have hruns := congrArg (List.takeWhile p) h
  rw [List.takeWhile_append_of_pos hx, List.takeWhile_append_of_pos hy, takeWhile_append_of_stop hs,
    takeWhile_append_of_stop hs] at hruns
  exact List.append_cancel_right hruns

/-- What is left after a run is empty or starts with what ended the run. -/
theorem head?_dropWhile_stop {s : List α} {c : α} (h : (s.dropWhile p).head? = some c) :
    p c = false := by
  have hstop := List.head?_dropWhile_not p s
  rw [h] at hstop
  simpa using hstop

end ApiDiscovery.Text
