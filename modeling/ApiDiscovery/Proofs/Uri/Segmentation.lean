import ApiDiscovery.Proofs.Text.Cutting
import ApiDiscovery.Uri.Template
import Mathlib.Data.List.Chain

/-!
# The segments of a template

A text is read as placeholders where a name stands in braces and as literals elsewhere. These are
the only segments with the text as their source whose placeholders stand just where names stand in
braces, with no literal that is empty or next to another one (`ofText_segments_iff`). A name in
braces at the start of a text is read as one placeholder (`parse_braces`), and where none stands a
character goes into a literal (`parse_other`); every text is made in these two ways
(`reading_induction`).
-/

namespace ApiDiscovery.Uri

open ApiDiscovery.Text

namespace Template

/-! ## Names in braces -/

/-- The text may stand between the braces of a placeholder. -/
structure IsInside (w : List Char) : Prop where
  ne_nil : w ≠ []
  chars : ∀ c ∈ w, isNameChar c = true

/-- The text with braces around it. -/
def braced (w : List Char) : List Char := '\x7b' :: (w ++ ['\x7d'])

theorem length_braced (w : List Char) : (braced w).length = w.length + 2 := by
  simp [braced]

theorem braced_append (w rest : List Char) :
    braced w ++ rest = '\x7b' :: (w ++ '\x7d' :: rest) := by
  simp [braced]

/-- A name ends at the first brace, so a text starts with one name in braces at most. -/
theorem braced_append_inj {v w a b : List Char} (hv : IsInside v) (hw : IsInside w)
    (h : braced v ++ a = braced w ++ b) : v = w ∧ a = b := by
  rw [braced_append, braced_append, List.cons.injEq] at h
  have hstop {u : List Char} (hu : IsInside u) (rest : List Char) :
      (u ++ '\x7d' :: rest).takeWhile isNameChar = u :=
    takeWhile_append_stop hu.chars fun c hc => by
      obtain rfl : '\x7d' = c := by simpa using hc
      decide
  have hname : v = w := by rw [← hstop hv a, h.2, hstop hw b]
  subst hname
  exact ⟨rfl, by simpa using h.2⟩

/-- The text starts with a name in braces. -/
def StartsBraced (t : List Char) : Prop := ∃ w rest, IsInside w ∧ t = braced w ++ rest

/-- The position lies in a part of the text that is a name in braces. -/
def InBraces (t : List Char) (i : Nat) : Prop :=
  ∃ before w after, t = before ++ braced w ++ after ∧ IsInside w ∧
    before.length ≤ i ∧ i < before.length + (braced w).length

theorem not_inBraces_nil (i : Nat) : ¬InBraces [] i := by
  rintro ⟨before, w, after, h, -⟩
  simp [braced] at h

/-- A position lies in braces that start at the first character, or in braces of the rest. -/
theorem inBraces_cons (c : Char) (t : List Char) (i : Nat) :
    InBraces (c :: t) i ↔
      (∃ w rest, IsInside w ∧ c :: t = braced w ++ rest ∧ i < (braced w).length) ∨
        ∃ j, i = j + 1 ∧ InBraces t j := by
  constructor
  · rintro ⟨before, w, after, h, hw, hle, hlt⟩
    cases before with
    | nil => exact Or.inl ⟨w, after, hw, h, by simpa using hlt⟩
    | cons d before =>
      rw [List.length_cons] at hle hlt
      rw [List.append_assoc, List.cons_append, List.cons.injEq, ← List.append_assoc] at h
      exact Or.inr ⟨i - 1, by omega, before, w, after, h.2, hw, by omega, by omega⟩
  · rintro (⟨w, rest, hw, h, hlt⟩ | ⟨j, rfl, before, w, after, rfl, hw, hle, hlt⟩)
    · exact ⟨[], w, rest, h, hw, Nat.zero_le i, by simpa using hlt⟩
    · exact ⟨c :: before, w, after, rfl, hw, by simpa using hle, by simp; omega⟩

/-- A character that is no opening brace is in no braces and starts none. -/
theorem inBraces_cons_of_ne {c : Char} (hc : c ≠ '\x7b') (t : List Char) (i : Nat) :
    InBraces (c :: t) i ↔ ∃ j, i = j + 1 ∧ InBraces t j := by
  rw [inBraces_cons]
  refine or_iff_right ?_
  rintro ⟨w, rest, -, h, -⟩
  rw [braced_append, List.cons.injEq] at h
  exact hc h.1

theorem inBraces_append {a : List Char} (ha : ∀ c ∈ a, c ≠ '\x7b') (t : List Char) (i : Nat) :
    InBraces (a ++ t) i ↔ ∃ j, i = a.length + j ∧ InBraces t j := by
  induction a generalizing i with
  | nil => simp
  | cons c a ih =>
    rw [List.cons_append, inBraces_cons_of_ne (ha c List.mem_cons_self)]
    constructor
    · rintro ⟨j, rfl, hj⟩
      obtain ⟨k, rfl, hk⟩ := (ih (fun d hd => ha d (List.mem_cons_of_mem c hd)) j).1 hj
      exact ⟨k, by rw [List.length_cons]; omega, hk⟩
    · rintro ⟨k, rfl, hk⟩
      refine ⟨a.length + k, by rw [List.length_cons]; omega, ?_⟩
      exact (ih (fun d hd => ha d (List.mem_cons_of_mem c hd)) _).2 ⟨k, rfl, hk⟩

/-- Braces behind a name in braces do not reach into it. -/
theorem inBraces_braced {w : List Char} (hw : IsInside w) (t : List Char) (i : Nat) :
    InBraces (braced w ++ t) i ↔
      i < (braced w).length ∨ ∃ j, i = (braced w).length + j ∧ InBraces t j := by
  -- No other braces start before the closing one.
  have hname : ∀ c ∈ w ++ ['\x7d'], c ≠ '\x7b' := by
    intro c hc
    rcases List.mem_append.1 hc with hc | hc
    · rintro rfl
      exact absurd (hw.chars _ hc) (by decide)
    · obtain rfl := List.mem_singleton.1 hc
      decide
  have hrest (j : Nat) :
      InBraces (w ++ '\x7d' :: t) j ↔ ∃ k, j = w.length + 1 + k ∧ InBraces t k := by
    have happend := inBraces_append hname t j
    simpa using happend
  have hstart : (∃ v rest, IsInside v ∧ braced w ++ t = braced v ++ rest ∧ i < (braced v).length) ↔
      i < (braced w).length := by
    constructor
    · rintro ⟨v, rest, hv, h, hlt⟩
      rwa [(braced_append_inj hw hv h).1]
    · intro hlt
      exact ⟨w, t, hw, rfl, hlt⟩
  rw [braced_append, inBraces_cons, ← braced_append, hstart, length_braced]
  refine or_congr_right ⟨?_, ?_⟩
  · rintro ⟨j, rfl, hj⟩
    obtain ⟨k, rfl, hk⟩ := (hrest j).1 hj
    exact ⟨k, by omega, hk⟩
  · rintro ⟨k, rfl, hk⟩
    exact ⟨w.length + 1 + k, by omega, (hrest _).2 ⟨k, rfl, hk⟩⟩

/-- Where no name in braces starts, the first character is in none. -/
theorem inBraces_other {c : Char} {t : List Char} (h : ¬StartsBraced (c :: t)) (i : Nat) :
    InBraces (c :: t) i ↔ ∃ j, i = j + 1 ∧ InBraces t j := by
  rw [inBraces_cons]
  refine or_iff_right ?_
  rintro ⟨w, rest, hw, heq, -⟩
  exact h ⟨w, rest, hw, heq⟩

/-! ## Reading -/

theorem placeholder?_iff {s rest : List Char} {segment : Segment} :
    placeholder? s = some (segment, rest) ↔
      ∃ w, IsInside w ∧ s = w ++ '\x7d' :: rest ∧ segment = placeholder w := by
  unfold placeholder?
  dsimp only
  constructor
  · intro h
    split at h
    · next after heq =>
      split at h
      · cases h
      · next hempty =>
        cases h
        refine ⟨s.takeWhile isNameChar, ⟨by simpa using hempty, fun c hc => ?_⟩, ?_, rfl⟩
        · exact List.mem_takeWhile_imp hc
        · rw [← heq]
          exact (List.prefix_iff_eq_append.1 (List.takeWhile_prefix isNameChar)).symm
    · cases h
  · rintro ⟨w, hw, rfl, rfl⟩
    have hinside : (w ++ '\x7d' :: rest).takeWhile isNameChar = w :=
      takeWhile_append_stop hw.chars fun c hc => by
        obtain rfl : '\x7d' = c := by simpa using hc
        decide
    rw [hinside, List.drop_left]
    show (if w.isEmpty = true then none else some (placeholder w, rest)) = _
    rw [if_neg (by simpa using hw.ne_nil)]

theorem parse_nil : parse [] = [] := by
  rw [parse]

/-- A name in braces at the start of a text is read as one placeholder. -/
theorem parse_braces {w : List Char} (hw : IsInside w) (rest : List Char) :
    parse (braced w ++ rest) = placeholder w :: parse rest := by
  have hread : placeholder? (w ++ '\x7d' :: rest) = some (placeholder w, rest) :=
    placeholder?_iff.2 ⟨w, hw, rfl, rfl⟩
  rw [braced_append, parse, if_pos rfl]
  split
  · next heq =>
    rw [hread] at heq
    cases heq
    rfl
  · next heq =>
    rw [hread] at heq
    cases heq

/-- A character that starts no name in braces goes into a literal. -/
theorem parse_other {c : Char} {rest : List Char} (h : ¬StartsBraced (c :: rest)) :
    parse (c :: rest) = addLiteral c (parse rest) := by
  rw [parse]
  split
  · next hc =>
    split
    · next segment after heq =>
      obtain ⟨w, hw, rfl, -⟩ := placeholder?_iff.1 heq
      exact absurd ⟨w, after, hw, by rw [braced_append, hc]⟩ h
    · rfl
  · rfl

/-- Every text is made of names in braces and of characters that start none. -/
theorem reading_induction {P : List Char → Prop} (nil : P [])
    (braces : ∀ w rest, IsInside w → P rest → P (braced w ++ rest))
    (other : ∀ c rest, ¬StartsBraced (c :: rest) → P rest → P (c :: rest)) (t : List Char) :
    P t := by
  -- A name in braces is more than one character, so the induction is on the length.
  induction hn : t.length using Nat.strongRecOn generalizing t with
  | ind n ih =>
    cases t with
    | nil => exact nil
    | cons c rest =>
      by_cases h : StartsBraced (c :: rest)
      · obtain ⟨w, after, hw, heq⟩ := h
        have hlength := congrArg List.length heq
        rw [List.length_append, length_braced] at hlength
        rw [heq]
        exact braces w after hw (ih after.length (by omega) after rfl)
      · rw [List.length_cons] at hn
        exact other c rest h (ih rest.length (by omega) rest rfl)

end Template

/-! ## Segments -/

namespace Segment

/-- The segment is no literal. -/
def IsPlaceholder (s : Segment) : Prop := s.name?.isSome = true

/-- What a segment has to be: a literal that is not empty, or a placeholder with a name. A simple
placeholder's name starts with a plus only if it is one. -/
def IsProper : Segment → Prop
  | literal text => text ≠ []
  | simple name => Template.IsInside name ∧ (name.head? = some '+' → name = ['+'])
  | reserved name => Template.IsInside name

theorem isPlaceholder_simple (name : List Char) : (simple name).IsPlaceholder := rfl

theorem isPlaceholder_reserved (name : List Char) : (reserved name).IsPlaceholder := rfl

theorem not_isPlaceholder_literal (text : List Char) : ¬(literal text).IsPlaceholder :=
  Bool.false_ne_true

end Segment

namespace Template

variable {w : List Char}

/-- The text in braces may start with the plus of a reserved placeholder. -/
theorem placeholder_cases (hw : IsInside w) :
    (∃ name, w = '+' :: name ∧ name ≠ [] ∧ placeholder w = .reserved name) ∨
      ((w.head? = some '+' → w = ['+']) ∧ placeholder w = .simple w) := by
  unfold placeholder
  split
  · next c rest => exact Or.inl ⟨c :: rest, rfl, List.cons_ne_nil c rest, rfl⟩
  · next hnot =>
    refine Or.inr ⟨fun hhead => ?_, rfl⟩
    obtain ⟨rest, rfl⟩ : ∃ rest, w = '+' :: rest := List.head?_eq_some_iff.1 hhead
    cases rest with
    | nil => rfl
    | cons c rest => exact absurd rfl (hnot c rest)

theorem source_placeholder (hw : IsInside w) : (placeholder w).source = braced w := by
  rcases placeholder_cases hw with ⟨name, rfl, -, h⟩ | ⟨-, h⟩
  · rw [h]
    rfl
  · rw [h]
    rfl

theorem isPlaceholder_placeholder (hw : IsInside w) : (placeholder w).IsPlaceholder := by
  rcases placeholder_cases hw with ⟨name, -, -, h⟩ | ⟨-, h⟩
  · rw [h]
    exact Segment.isPlaceholder_reserved name
  · rw [h]
    exact Segment.isPlaceholder_simple w

theorem isProper_placeholder (hw : IsInside w) : (placeholder w).IsProper := by
  rcases placeholder_cases hw with ⟨name, rfl, hne, h⟩ | ⟨hplus, h⟩
  · rw [h]
    exact ⟨hne, fun c hc => hw.chars c (List.mem_cons_of_mem '+' hc)⟩
  · rw [h]
    exact ⟨hw, hplus⟩

/-- A placeholder can be read back from its source. -/
theorem exists_braced {s : Segment} (hproper : s.IsProper) (hs : s.IsPlaceholder) :
    ∃ w, IsInside w ∧ placeholder w = s := by
  cases s with
  | literal text => exact absurd hs (Segment.not_isPlaceholder_literal text)
  | simple name =>
    obtain ⟨hinside, hplus⟩ := hproper
    refine ⟨name, hinside, ?_⟩
    rcases placeholder_cases hinside with ⟨rest, rfl, hne, -⟩ | ⟨-, h⟩
    · have hname := hplus rfl
      rw [List.cons.injEq] at hname
      exact absurd hname.2 hne
    · exact h
  | reserved name =>
    have hinside : IsInside ('+' :: name) :=
      ⟨List.cons_ne_nil '+' name, List.forall_mem_cons.2 ⟨by decide, hproper.chars⟩⟩
    refine ⟨'+' :: name, hinside, ?_⟩
    cases name with
    | nil => exact absurd rfl hproper.ne_nil
    | cons c rest => rfl

/-! ## Segments of a text -/

/-- The segments written one after another. -/
def sourceOf (segments : List Segment) : List Char := segments.flatMap Segment.source

/-- The position lies in a placeholder when the segments are written one after another. -/
def InPlaceholder (segments : List Segment) (i : Nat) : Prop :=
  ∃ before s after, segments = before ++ s :: after ∧ s.IsPlaceholder ∧
    (sourceOf before).length ≤ i ∧ i < (sourceOf before).length + s.source.length

/-- The segments are the text cut into pieces: they are its source, each is as it has to be, no two
literals stand next to each other, and a position lies in a placeholder just if it lies in a part of
the text that is a name in braces. -/
structure IsSegmentation (t : List Char) (segments : List Segment) : Prop where
  source : sourceOf segments = t
  proper : ∀ s ∈ segments, s.IsProper
  apart : segments.IsChain fun a b => a.IsPlaceholder ∨ b.IsPlaceholder
  place : ∀ i, InPlaceholder segments i ↔ InBraces t i

theorem sourceOf_cons (s : Segment) (segments : List Segment) :
    sourceOf (s :: segments) = s.source ++ sourceOf segments := List.flatMap_cons

theorem sourceOf_addLiteral (c : Char) (segments : List Segment) :
    sourceOf (addLiteral c segments) = c :: sourceOf segments := by
  unfold addLiteral
  split <;> simp [sourceOf_cons, Segment.source]

theorem inPlaceholder_cons (s : Segment) (segments : List Segment) (i : Nat) :
    InPlaceholder (s :: segments) i ↔ (s.IsPlaceholder ∧ i < s.source.length) ∨
      ∃ j, i = s.source.length + j ∧ InPlaceholder segments j := by
  constructor
  · rintro ⟨before, r, after, h, hr, hle, hlt⟩
    cases before with
    | nil =>
      rw [List.nil_append, List.cons.injEq] at h
      obtain ⟨rfl, rfl⟩ := h
      exact Or.inl ⟨hr, by simpa [sourceOf] using hlt⟩
    | cons first before =>
      rw [List.cons_append, List.cons.injEq] at h
      obtain ⟨rfl, rfl⟩ := h
      rw [sourceOf_cons, List.length_append] at hle hlt
      exact Or.inr ⟨i - s.source.length, by omega, before, r, after, rfl, hr, by omega, by omega⟩
  · rintro (⟨hs, hlt⟩ | ⟨j, rfl, before, r, after, rfl, hr, hle, hlt⟩)
    · exact ⟨[], s, segments, rfl, hs, Nat.zero_le i, by simpa [sourceOf] using hlt⟩
    · refine ⟨s :: before, r, after, rfl, hr, ?_, ?_⟩
      · rw [sourceOf_cons, List.length_append]
        omega
      · rw [sourceOf_cons, List.length_append]
        omega

theorem not_inPlaceholder_nil (i : Nat) : ¬InPlaceholder [] i := by
  rintro ⟨before, s, after, h, -⟩
  simp at h

/-- A character put in front goes into no placeholder. -/
theorem inPlaceholder_addLiteral (c : Char) (segments : List Segment) (i : Nat) :
    InPlaceholder (addLiteral c segments) i ↔ ∃ j, i = j + 1 ∧ InPlaceholder segments j := by
  unfold addLiteral
  split
  · next text others =>
    rw [inPlaceholder_cons, or_iff_right fun h => Segment.not_isPlaceholder_literal _ h.1]
    constructor
    · rintro ⟨j, rfl, hj⟩
      refine ⟨text.length + j, ?_, (inPlaceholder_cons _ _ _).2 (Or.inr ⟨j, rfl, hj⟩)⟩
      simp only [Segment.source, List.length_cons]
      omega
    · rintro ⟨j, rfl, hj⟩
      rw [inPlaceholder_cons, or_iff_right fun h => Segment.not_isPlaceholder_literal _ h.1] at hj
      obtain ⟨k, rfl, hk⟩ := hj
      refine ⟨k, ?_, hk⟩
      simp only [Segment.source, List.length_cons]
      omega
  · rw [inPlaceholder_cons, or_iff_right fun h => Segment.not_isPlaceholder_literal _ h.1]
    simp only [Segment.source, List.length_singleton, Nat.add_comm 1]

/-- A character put in front keeps literals apart: it goes into the first one, or no literal is
there. -/
theorem isChain_addLiteral {c : Char} {segments : List Segment} :
    (addLiteral c segments).IsChain (fun a b => a.IsPlaceholder ∨ b.IsPlaceholder) ↔
      segments.IsChain fun a b => a.IsPlaceholder ∨ b.IsPlaceholder := by
  cases segments with
  | nil => simp [addLiteral]
  | cons first others =>
    cases first with
    | literal text =>
      cases others with
      | nil => simp [addLiteral]
      | cons second others =>
        simp [addLiteral, Segment.not_isPlaceholder_literal]
    | simple name => simp [addLiteral, Segment.isPlaceholder_simple]
    | reserved name => simp [addLiteral, Segment.isPlaceholder_reserved]

/-! ## The only segments -/

section Step

variable {c : Char} {t : List Char} {segments : List Segment}

/-- A segmentation behind a name in braces goes with its placeholder. -/
theorem isSegmentation_braced (hw : IsInside w) :
    IsSegmentation (braced w ++ t) (placeholder w :: segments) ↔ IsSegmentation t segments := by
  have hplaceholder := isPlaceholder_placeholder hw
  have hlength := congrArg List.length (source_placeholder hw)
  have hplace : (∀ i, InPlaceholder (placeholder w :: segments) i ↔ InBraces (braced w ++ t) i) ↔
      ∀ i, InPlaceholder segments i ↔ InBraces t i := by
    simp only [inPlaceholder_cons, inBraces_braced hw, hlength]
    constructor
    · intro h j
      have hj := h ((braced w).length + j)
      simpa [hplaceholder, Nat.not_lt.2 (Nat.le_add_right _ j)] using hj
    · intro h i
      simp [hplaceholder, h]
  constructor
  · intro h
    have hsource := h.source
    rw [sourceOf_cons, source_placeholder hw, List.append_cancel_left_eq] at hsource
    exact ⟨hsource, fun s hs => h.proper s (List.mem_cons_of_mem _ hs), h.apart.tail,
      hplace.1 h.place⟩
  · intro h
    refine ⟨?_, ?_, ?_, hplace.2 h.place⟩
    · rw [sourceOf_cons, source_placeholder hw, h.source]
    · exact List.forall_mem_cons.2 ⟨isProper_placeholder hw, h.proper⟩
    · exact List.isChain_cons.2 ⟨fun b _ => Or.inl hplaceholder, h.apart⟩

theorem isProper_addLiteral (h : ∀ s ∈ segments, s.IsProper) :
    ∀ s ∈ addLiteral c segments, s.IsProper := by
  unfold addLiteral
  split
  · exact List.forall_mem_cons.2 ⟨List.cons_ne_nil _ _, (List.forall_mem_cons.1 h).2⟩
  · exact List.forall_mem_cons.2 ⟨List.cons_ne_nil _ _, h⟩

/-- A segmentation behind a character that starts no name in braces takes it into a literal. -/
theorem isSegmentation_addLiteral (hother : ¬StartsBraced (c :: t))
    (hproper : ∀ s ∈ segments, s.IsProper) :
    IsSegmentation (c :: t) (addLiteral c segments) ↔ IsSegmentation t segments := by
  have hplace : (∀ i, InPlaceholder (addLiteral c segments) i ↔ InBraces (c :: t) i) ↔
      ∀ i, InPlaceholder segments i ↔ InBraces t i := by
    simp only [inPlaceholder_addLiteral, inBraces_other hother]
    constructor
    · intro h j
      simpa using h (j + 1)
    · intro h i
      simp only [h]
  constructor
  · intro h
    have hsource := h.source
    rw [sourceOf_addLiteral, List.cons.injEq] at hsource
    exact ⟨hsource.2, hproper, isChain_addLiteral.1 h.apart, hplace.1 h.place⟩
  · intro h
    refine ⟨?_, isProper_addLiteral hproper, isChain_addLiteral.2 h.apart, hplace.2 h.place⟩
    rw [sourceOf_addLiteral, h.source]

/-- The first position of a text lies in a placeholder just if that is the first segment. -/
theorem exists_first (h : IsSegmentation (c :: t) segments) :
    ∃ first others, segments = first :: others ∧
      (first.IsPlaceholder ↔ InBraces (c :: t) 0) := by
  cases segments with
  | nil => cases h.source
  | cons first others =>
    refine ⟨first, others, rfl, ?_⟩
    have hpos : 0 < first.source.length := by
      have hproper := h.proper first List.mem_cons_self
      cases first with
      | literal text => exact List.length_pos_iff.2 hproper
      | simple name => exact Nat.succ_pos _
      | reserved name => exact Nat.succ_pos _
    rw [← h.place, inPlaceholder_cons]
    constructor
    · intro hfirst
      exact Or.inl ⟨hfirst, hpos⟩
    · rintro (⟨hfirst, -⟩ | ⟨j, hj, -⟩)
      · exact hfirst
      · omega

/-- A name in braces at the start of a text is the first placeholder of its segments. -/
theorem exists_placeholder (hw : IsInside w) (h : IsSegmentation (braced w ++ t) segments) :
    ∃ others, segments = placeholder w :: others := by
  obtain ⟨first, others, rfl, hfirst⟩ := exists_first h
  have hplaceholder : first.IsPlaceholder := by
    refine hfirst.2 ((inBraces_braced hw t 0).2 (Or.inl ?_))
    rw [length_braced]
    exact Nat.succ_pos _
  obtain ⟨v, hv, rfl⟩ := exists_braced (h.proper _ List.mem_cons_self) hplaceholder
  have hsource := h.source
  rw [sourceOf_cons, source_placeholder hv] at hsource
  rw [(braced_append_inj hv hw hsource).1]
  exact ⟨others, rfl⟩

/-- A character that starts no name in braces is the first one of a literal. -/
theorem exists_addLiteral (hother : ¬StartsBraced (c :: t))
    (h : IsSegmentation (c :: t) segments) :
    ∃ others, segments = addLiteral c others ∧ ∀ s ∈ others, s.IsProper := by
  obtain ⟨first, others, rfl, hfirst⟩ := exists_first h
  obtain ⟨hproper, hothers⟩ := List.forall_mem_cons.1 h.proper
  have hnone : ¬first.IsPlaceholder := by
    rw [hfirst, inBraces_other hother]
    rintro ⟨j, hj, -⟩
    cases hj
  obtain ⟨d, text, rfl⟩ : ∃ d text, first = .literal (d :: text) := by
    cases first with
    | literal text =>
      obtain ⟨d, rest, rfl⟩ := List.exists_cons_of_ne_nil hproper
      exact ⟨d, rest, rfl⟩
    | simple name => exact absurd (Segment.isPlaceholder_simple name) hnone
    | reserved name => exact absurd (Segment.isPlaceholder_reserved name) hnone
  obtain rfl : d = c := by
    have hsource := h.source
    rw [sourceOf_cons, Segment.source, List.cons_append, List.cons.injEq] at hsource
    exact hsource.1
  by_cases htext : text = []
  · -- Behind a literal of one character no other literal stands.
    subst htext
    refine ⟨others, ?_, hothers⟩
    cases others with
    | nil => rfl
    | cons second others =>
      cases second with
      | literal text =>
        have hapart := (List.isChain_cons_cons.1 h.apart).1
        exact absurd (hapart.resolve_left hnone) (Segment.not_isPlaceholder_literal text)
      | simple name => rfl
      | reserved name => rfl
  · exact ⟨.literal text :: others, rfl, List.forall_mem_cons.2 ⟨htext, hothers⟩⟩

end Step

theorem isSegmentation_nil {segments : List Segment} :
    IsSegmentation [] segments ↔ segments = [] := by
  constructor
  · intro h
    cases segments with
    | nil => rfl
    | cons first others =>
      have hsource := h.source
      have hproper := h.proper first List.mem_cons_self
      rw [sourceOf_cons, List.append_eq_nil_iff] at hsource
      cases first with
      | literal text => exact absurd hsource.1 hproper
      | simple name => cases hsource.1
      | reserved name => cases hsource.1
  · rintro rfl
    refine ⟨rfl, fun s hs => absurd hs List.not_mem_nil, .nil, fun i => ?_⟩
    exact iff_of_false (not_inPlaceholder_nil i) (not_inBraces_nil i)

/-- What is read from a text are its segments, whatever stands in it. -/
theorem isSegmentation_parse (t : List Char) : IsSegmentation t (parse t) := by
  induction t using reading_induction with
  | nil =>
    rw [parse_nil]
    exact isSegmentation_nil.2 rfl
  | braces w rest hw ih =>
    rw [parse_braces hw]
    exact (isSegmentation_braced hw).2 ih
  | other c rest hother ih =>
    rw [parse_other hother]
    exact (isSegmentation_addLiteral hother ih.proper).2 ih

/-- The segments of a text are read from it. -/
theorem eq_parse {t : List Char} {segments : List Segment} (h : IsSegmentation t segments) :
    segments = parse t := by
  induction t using reading_induction generalizing segments with
  | nil => rw [parse_nil, isSegmentation_nil.1 h]
  | braces w rest hw ih =>
    obtain ⟨others, rfl⟩ := exists_placeholder hw h
    rw [parse_braces hw, ih ((isSegmentation_braced hw).1 h)]
  | other c rest hother ih =>
    obtain ⟨others, rfl, hproper⟩ := exists_addLiteral hother h
    rw [parse_other hother, ih ((isSegmentation_addLiteral hother hproper).1 h)]

/-- The segments of a template are the only ones with its text as their source, with literals that
are neither empty nor next to each other, with names that are neither empty nor hold a brace, and
with placeholders just where such names stand in braces. -/
theorem ofText_segments_iff (text : String) (segments : List Segment) :
    (ofText text).segments = segments ↔ IsSegmentation text.toList segments := by
  constructor
  · rintro rfl
    exact isSegmentation_parse text.toList
  · intro h
    exact (eq_parse h).symm

/-- Braces that stand around braces, or around nothing, are literal. -/
example :
    parse ['\x7b', '\x7b', 'a', '\x7d', '\x7d', '\x7b', '\x7d', '\x7b', '+', '+', '\x7d'] =
      [.literal ['\x7b'], .simple ['a'], .literal ['\x7d', '\x7b', '\x7d'], .reserved ['+']] := by
  cbv

end Template
end ApiDiscovery.Uri
