import ApiDiscovery.Discovery.Resource
import ApiDiscovery.Naming.Identifier
import ApiDiscovery.Proofs.Text.Cutting

/-!
# The words of names

The words of two names with a separator between them are the words of the one and then those of the
other (`wordsOf_append`), so the class of a resource is named after the words along its path
(`nameWords_pathIn`). An identifier keeps the words of its name: they can be read back from it
(`partsOf_identifier`), and two names with one identifier have one class name
(`nameWords_eq_of_identifier`). An identifier has small letters, digits and underscores only and
does not start with a digit (`isPlain_identifier`). It starts with a letter, or it is an underscore
that nothing or a digit follows (`isOpen_identifier`); the name of the attribute behind it never is
of this form (`ne_backingField`).
-/

namespace ApiDiscovery.Naming

open ApiDiscovery.Text

/-! ## Characters of a name -/

/-- What the lower case of a character leaves in a name. The two forms of a small sigma leave
nothing, so the context of a character does not matter. -/
def charName (c : Char) : List Char :=
  nameChars (if c = 'Σ' then ['σ'] else lowerChar c)

/-- The words of a name that is given as a list of characters. -/
def wordsOf (s : List Char) : List (List Char) :=
  (pieces (· == '_') (nameChars (snakeChars s))).filter fun word => !word.isEmpty

theorem nameWords_eq (name : String) : nameWords name = wordsOf name.toList := rfl

theorem nameChars_append (a b : List Char) : nameChars (a ++ b) = nameChars a ++ nameChars b := by
  simp [nameChars]

/-- Lower case is read character by character. -/
theorem nameChars_lowerAfter (before s : List Char) :
    nameChars (lowerAfter before s) = s.flatMap charName := by
  induction s generalizing before with
  | nil => rfl
  | cons c s ih =>
    rw [lowerAfter, nameChars_append, ih, List.flatMap_cons, charName]
    congr 1
    by_cases hc : c = 'Σ'
    · rw [if_pos hc, if_pos hc]
      split
      · decide
      · rfl
    · rw [if_neg hc, if_neg hc]

/-- The characters of a name with its humps marked, as they are cut into words. -/
theorem nameChars_snakeChars (s : List Char) :
    nameChars (snakeChars s) = (splitHumps (splitAcronyms s)).flatMap charName :=
  nameChars_lowerAfter [] _

/-! ## Separators -/

/-- The character is no part of a word, and stands between words as an underscore does. -/
structure IsSeparator (c : Char) : Prop where
  capital : isCapital c = false
  small : isSmall c = false
  digit : isDecimalDigit c = false
  name : charName c = ['_']

theorem isSeparator_underscore : IsSeparator '_' :=
  ⟨by decide, by decide, by decide, by decide⟩

theorem isSeparator_dot : IsSeparator '.' :=
  ⟨by decide, by decide, by decide, by decide⟩

section Separator

variable {c : Char}

theorem startsCapitalised_append (hc : IsSeparator c) (a b : List Char) :
    startsCapitalised (a ++ c :: b) = startsCapitalised a := by
  cases a with
  | nil =>
    cases b with
    | nil => rfl
    | cons d b =>
      show (isCapital c && isSmall d) = false
      rw [hc.capital]
      rfl
  | cons d a =>
    cases a with
    | nil =>
      show (isCapital d && isSmall c) = false
      rw [hc.small, Bool.and_false]
    | cons e a => rfl

theorem splitAcronyms_append (hc : IsSeparator c) (a b : List Char) :
    splitAcronyms (a ++ c :: b) = splitAcronyms a ++ c :: splitAcronyms b := by
  induction a with
  | nil => simp [splitAcronyms, hc.capital]
  | cons d a ih =>
    rw [List.cons_append, splitAcronyms, splitAcronyms, startsCapitalised_append hc, ih]
    split
    · rfl
    · rfl

theorem splitHumps_cons (hc : IsSeparator c) (b : List Char) :
    splitHumps (c :: b) = c :: splitHumps b := by
  cases b with
  | nil => rfl
  | cons d b => simp [splitHumps, hc.small, hc.digit]

theorem splitHumps_append (hc : IsSeparator c) (a b : List Char) :
    splitHumps (a ++ c :: b) = splitHumps a ++ c :: splitHumps b := by
  induction a with
  | nil => exact splitHumps_cons hc b
  | cons d a ih =>
    cases a with
    | nil =>
      -- A capital is looked for after the last character, and the separator is none.
      have hcons := splitHumps_cons hc b
      simp only [List.cons_append, List.nil_append, splitHumps, hc.capital, Bool.and_false,
        hcons]
      rfl
    | cons e a =>
      rw [List.cons_append] at ih
      rw [List.cons_append, List.cons_append, splitHumps, splitHumps, ih]
      split
      · rfl
      · rfl

/-- The words of two names with a separator between them are those of the one and then those of the
other. -/
theorem wordsOf_append (hc : IsSeparator c) (a b : List Char) :
    wordsOf (a ++ c :: b) = wordsOf a ++ wordsOf b := by
  have hcut : nameChars (snakeChars (a ++ c :: b)) =
      nameChars (snakeChars a) ++ '_' :: nameChars (snakeChars b) := by
    rw [nameChars_snakeChars, splitAcronyms_append hc, splitHumps_append hc,
      List.flatMap_append, List.flatMap_cons, hc.name, nameChars_snakeChars,
      nameChars_snakeChars]
    rfl
  rw [wordsOf, hcut, pieces_append_cons _ _ (by rfl), List.filter_append]
  rfl

theorem wordsOf_intercalate (hc : IsSeparator c) (parts : List (List Char)) :
    wordsOf (List.intercalate [c] parts) = parts.flatMap wordsOf := by
  induction parts with
  | nil => rfl
  | cons part parts ih =>
    cases parts with
    | nil => simp
    | cons next rest =>
      rw [List.intercalate_cons_cons, List.append_assoc, List.singleton_append,
        wordsOf_append hc, ih]
      rfl

end Separator

/-! ## Words along a path -/

/-- The class of a resource is named after its path as any other name. -/
theorem resourceClass_eq (path : String) : resourceClass path = className path "Resource" := by
  have hwords : nameWords (joinWith "_" (splitAt '.' path)) = nameWords path := by
    have hjoined : (joinWith "_" (splitAt '.' path)).toList =
        List.intercalate ['_'] (pieces (· == '.') path.toList) := by
      simp [joinWith, splitAt, Function.comp_def]
    rw [nameWords_eq, hjoined, wordsOf_intercalate isSeparator_underscore,
      ← wordsOf_intercalate isSeparator_dot, intercalate_pieces]
    rfl
  rw [resourceClass, className, hwords, className]

theorem nameWords_append {separator : String} {c : Char} (hseparator : separator.toList = [c])
    (hc : IsSeparator c) (a b : String) :
    nameWords (a ++ separator ++ b) = nameWords a ++ nameWords b := by
  have hchars : (a ++ separator ++ b).toList = a.toList ++ c :: b.toList := by simp [hseparator]
  rw [nameWords_eq, hchars, wordsOf_append hc]
  rfl

/-- A name behind a path adds its words to those of the path. -/
theorem nameWords_below (above name : String) :
    nameWords (above ++ "." ++ name) = nameWords above ++ nameWords name :=
  nameWords_append rfl isSeparator_dot above name

theorem nameWords_pathIn (above name : String) :
    nameWords (Discovery.Resource.pathIn above name) = nameWords above ++ nameWords name := by
  rw [Discovery.Resource.pathIn]
  split
  · next h =>
    subst h
    rfl
  · exact nameWords_below above name

/-- The class of a resource does not depend on how an empty path above it is written. -/
theorem resourceClass_below (above name : String) :
    resourceClass (above ++ "." ++ name) =
      resourceClass (Discovery.Resource.pathIn above name) := by
  rw [resourceClass_eq, resourceClass_eq, className, className, nameWords_below,
    nameWords_pathIn]

/-! ## What words consist of -/

/-- A word is not empty, and it consists of small letters and digits. -/
structure IsWord (word : List Char) : Prop where
  ne_nil : word ≠ []
  chars : ∀ c ∈ word, isNameChar c = true ∧ c ≠ '_'

theorem isWord_of_mem {name : String} {word : List Char} (h : word ∈ nameWords name) :
    IsWord word := by
  obtain ⟨hpiece, hne⟩ := List.mem_filter.1 h
  refine ⟨by simpa using hne, fun c hc => ⟨?_, ?_⟩⟩
  · exact (List.mem_filter.1 (mem_of_mem_pieces hpiece c hc)).2
  · simpa using not_of_mem_pieces hpiece c hc

/-- Joined words start with the first word, behind an underscore if that starts with a digit; no
words are a lone underscore. -/
theorem joinWords_cases {words : List (List Char)} (h : ∀ word ∈ words, IsWord word) :
    (words = [] ∧ joinWords words = ['_']) ∨
      ∃ c s, List.intercalate ['_'] words = c :: s ∧ c ≠ '_' ∧
        ((startsWithDigit (c :: s) = true ∧ joinWords words = '_' :: c :: s) ∨
          (startsWithDigit (c :: s) = false ∧ joinWords words = c :: s)) := by
  cases words with
  | nil => exact Or.inl ⟨rfl, rfl⟩
  | cons word words =>
    right
    obtain ⟨hword, hchars⟩ := h word List.mem_cons_self
    have hstart : ∃ c s, List.intercalate ['_'] (word :: words) = c :: s ∧ c ≠ '_' := by
      cases word with
      | nil => exact absurd rfl hword
      | cons c word =>
        have hc : c ≠ '_' := (hchars c List.mem_cons_self).2
        cases words with
        | nil => exact ⟨c, word, List.intercalate_singleton, hc⟩
        | cons next rest =>
          exact ⟨c, word ++ ['_'] ++ List.intercalate ['_'] (next :: rest),
            List.intercalate_cons_cons, hc⟩
    obtain ⟨c, s, hjoined, hc⟩ := hstart
    refine ⟨c, s, hjoined, hc, ?_⟩
    rw [joinWords, hjoined]
    by_cases hdigit : startsWithDigit (c :: s) = true
    · exact Or.inl ⟨hdigit, by simp [hdigit]⟩
    · exact Or.inr ⟨Bool.eq_false_iff.2 hdigit, by simp [hdigit]⟩

/-! ## Reading words back -/

/-- The non-empty parts of an identifier between its underscores. -/
def partsOf (s : List Char) : List (List Char) :=
  (pieces (· == '_') s).filter fun part => !part.isEmpty

theorem partsOf_append (a b : List Char) : partsOf (a ++ '_' :: b) = partsOf a ++ partsOf b := by
  rw [partsOf, pieces_append_cons _ _ (by rfl), List.filter_append]
  rfl

theorem partsOf_intercalate {words : List (List Char)} (h : ∀ word ∈ words, IsWord word) :
    partsOf (List.intercalate ['_'] words) = words := by
  by_cases hne : words = []
  · subst hne
    rfl
  · have hfree : ∀ word ∈ words, '_' ∉ word := fun word hword hmem =>
      ((h word hword).chars '_' hmem).2 rfl
    rw [partsOf, pieces_intercalate '_' hne hfree, List.filter_eq_self]
    intro word hword
    simpa using (h word hword).ne_nil

theorem partsOf_joinWords {words : List (List Char)} (h : ∀ word ∈ words, IsWord word) :
    partsOf (joinWords words) = words := by
  have hparts := partsOf_intercalate h
  rcases joinWords_cases h with ⟨rfl, hwords⟩ | ⟨c, s, hjoined, -, hwords⟩
  · rw [hwords]
    rfl
  · rw [hjoined] at hparts
    rcases hwords with ⟨-, hwords⟩ | ⟨-, hwords⟩
    · rw [hwords]
      exact hparts
    · rw [hwords]
      exact hparts

theorem toList_avoid (taken : List String) (name : String) :
    (avoid taken name).toList = name.toList ∨ (avoid taken name).toList = name.toList ++ ['_'] := by
  rw [avoid]
  split
  · right
    simp
  · left
    rfl

theorem partsOf_avoid (taken : List String) (name : String) :
    partsOf (avoid taken name).toList = partsOf name.toList := by
  rcases toList_avoid taken name with h | h
  · rw [h]
  · rw [h, partsOf_append]
    exact List.append_nil _

/-- The words of a name are read back from the sanitised name. -/
theorem partsOf_sanitize (name : String) : partsOf (sanitize name).toList = nameWords name := by
  rw [sanitize, String.toList_ofList]
  exact partsOf_joinWords fun word hword => isWord_of_mem hword

/-- The words of a name are read back from its identifier. -/
theorem partsOf_identifier (name : String) : partsOf (identifier name).toList = nameWords name := by
  rw [identifier, partsOf_avoid, partsOf_sanitize]

/-- Names with one identifier have the same words. -/
theorem nameWords_eq_of_identifier {a b : String} (h : identifier a = identifier b) :
    nameWords a = nameWords b := by
  rw [← partsOf_identifier a, ← partsOf_identifier b, h]

/-- Names with one identifier lead to one class below the same path. -/
theorem resourceClass_eq_of_identifier {a b : String} (h : identifier a = identifier b)
    (above : String) : resourceClass (Discovery.Resource.pathIn above a) =
      resourceClass (Discovery.Resource.pathIn above b) := by
  rw [resourceClass_eq, resourceClass_eq, className, className, nameWords_pathIn, nameWords_pathIn,
    nameWords_eq_of_identifier h]

/-- Names with one identifier lead to one class behind the same path, also behind an empty one. -/
theorem resourceClass_eq_behind {a b : String} (h : identifier a = identifier b) (above : String) :
    resourceClass (above ++ "." ++ a) = resourceClass (above ++ "." ++ b) := by
  rw [resourceClass_below, resourceClass_below, resourceClass_eq_of_identifier h]

/-! ## How identifiers start -/

/-- The name starts with no digit, and if it starts with an underscore then nothing or a digit
comes after it. -/
def isOpen : List Char → Bool
  | [] => false
  | c :: rest =>
    if c = '_' then rest.isEmpty || startsWithDigit rest else !startsWithDigit (c :: rest)

/-- An underscore before an open name makes it one that is not open. -/
theorem isOpen_underscore {s : List Char} (h : isOpen s = true) : isOpen ('_' :: s) = false := by
  cases s with
  | nil => cases h
  | cons c s =>
    by_cases hc : c = '_'
    · subst hc
      rfl
    · rw [isOpen, if_neg hc, Bool.not_eq_true'] at h
      simp [isOpen, h]

theorem isOpen_backingField {name : String} (h : isOpen name.toList = true) :
    isOpen (backingField name).toList = false := by
  have hchars : (backingField name).toList = '_' :: name.toList := by simp [backingField]
  rw [hchars]
  exact isOpen_underscore h

/-- No open name is that of the attribute behind another one. -/
theorem ne_backingField {a b : String} (ha : isOpen a.toList = true)
    (hb : isOpen b.toList = true) : a ≠ backingField b := by
  intro heq
  have hclosed := isOpen_backingField hb
  rw [← heq, ha] at hclosed
  cases hclosed

/-- What comes behind an open name other than a lone underscore leaves it open. -/
theorem isOpen_append {s : List Char} (h : isOpen s = true) (hne : s ≠ ['_']) (t : List Char) :
    isOpen (s ++ t) = true := by
  cases s with
  | nil => cases h
  | cons c s =>
    rw [List.cons_append, isOpen]
    rw [isOpen] at h
    by_cases hc : c = '_'
    · subst hc
      rw [if_pos rfl] at h ⊢
      cases s with
      | nil => exact absurd rfl hne
      | cons d s => exact h
    · rw [if_neg hc] at h ⊢
      exact h

theorem isOpen_joinWords {words : List (List Char)} (h : ∀ word ∈ words, IsWord word) :
    isOpen (joinWords words) = true := by
  rcases joinWords_cases h with ⟨-, hwords⟩ | ⟨c, s, -, hc, hwords⟩
  · rw [hwords]
    rfl
  · rcases hwords with ⟨hdigit, hwords⟩ | ⟨hdigit, hwords⟩
    · rw [hwords]
      simpa [isOpen] using hdigit
    · rw [hwords, isOpen, if_neg hc, hdigit]
      rfl

/-- Keywords are no lone underscore, so an identifier stays open if it avoids them. -/
theorem isOpen_identifier (name : String) : isOpen (identifier name).toList = true := by
  have hopen : isOpen (sanitize name).toList = true := by
    rw [sanitize, String.toList_ofList]
    exact isOpen_joinWords fun word hword => isWord_of_mem hword
  rw [identifier, avoid]
  split
  · next htaken =>
    have hne : (sanitize name).toList ≠ ['_'] := by
      intro heq
      have hname : sanitize name = "_" := String.toList_inj.1 heq
      rw [hname] at htaken
      exact absurd htaken (by decide)
    rw [String.toList_append]
    exact isOpen_append hopen hne _
  · exact hopen

/-! ## Characters of identifiers and class names -/

theorem isNameChar_joinWords {words : List (List Char)} (h : ∀ word ∈ words, IsWord word) :
    ∀ c ∈ joinWords words, isNameChar c = true := by
  have hparts : ∀ c ∈ List.intercalate ['_'] words, isNameChar c = true := by
    intro c hc
    rcases mem_intercalate hc with rfl | ⟨word, hword, hc⟩
    · decide
    · exact ((h word hword).chars c hc).1
  rcases joinWords_cases h with ⟨-, hwords⟩ | ⟨c, s, hjoined, -, hwords⟩
  · rw [hwords]
    exact List.forall_mem_singleton.2 (by decide)
  · rw [hjoined] at hparts
    rcases hwords with ⟨-, hwords⟩ | ⟨-, hwords⟩
    · rw [hwords]
      exact List.forall_mem_cons.2 ⟨by decide, hparts⟩
    · rw [hwords]
      exact hparts

/-- An identifier consists of small letters, digits and underscores. -/
theorem isNameChar_identifier (name : String) :
    ∀ c ∈ (identifier name).toList, isNameChar c = true := by
  have hchars : ∀ c ∈ (sanitize name).toList, isNameChar c = true := by
    rw [sanitize, String.toList_ofList]
    exact isNameChar_joinWords fun word hword => isWord_of_mem hword
  intro c hc
  rcases toList_avoid keywords (sanitize name) with h | h
  · rw [identifier, h] at hc
    exact hchars c hc
  · rw [identifier, h] at hc
    rcases List.mem_append.1 hc with hc | hc
    · exact hchars c hc
    · obtain rfl := List.mem_singleton.1 hc
      decide

/-- The text starts with a small letter or an underscore, and small letters, digits and underscores
come after that. -/
def isPlain : List Char → Bool
  | [] => false
  | c :: rest => (isSmall c || c == '_') && rest.all isNameChar

theorem isPlain_of_isOpen {s : List Char} (h : isOpen s = true)
    (hchars : ∀ c ∈ s, isNameChar c = true) : isPlain s = true := by
  cases s with
  | nil => cases h
  | cons c rest =>
    obtain ⟨hc, hrest⟩ := List.forall_mem_cons.1 hchars
    have hstart : (isSmall c || c == '_') = true := by
      by_cases hline : c = '_'
      · simp [hline]
      · rw [isOpen, if_neg hline, startsWithDigit, Bool.not_eq_true'] at h
        rw [isNameChar, h, Bool.or_false] at hc
        exact hc
    rw [isPlain, hstart, Bool.true_and, List.all_eq_true]
    exact hrest

theorem isPlain_identifier (name : String) : isPlain (identifier name).toList = true :=
  isPlain_of_isOpen (isOpen_identifier name) (isNameChar_identifier name)

theorem capital_ne_parenthesis {c : Char} (h : isNameChar c = true) : capital c ≠ '(' := by
  rw [capital]
  split
  · next hsmall =>
    rw [isSmall, Bool.and_eq_true, decide_eq_true_eq, decide_eq_true_eq] at hsmall
    have hshifted : ∀ n < 123, 97 ≤ n → Char.ofNat (n - 32) ≠ '(' := by decide
    exact hshifted c.toNat (Nat.lt_succ_of_le hsmall.2) hsmall.1
  · rintro rfl
    revert h
    decide

theorem parenthesis_not_mem_resourceClass (path : String) :
    '(' ∉ (resourceClass path).toList := by
  have hwords : '(' ∉ (nameWords path).flatMap capitalise := by
    intro hmem
    obtain ⟨word, hword, hmem⟩ := List.mem_flatMap.1 hmem
    have hchars := (isWord_of_mem hword).chars
    cases word with
    | nil => exact absurd hmem List.not_mem_nil
    | cons c rest =>
      rcases List.mem_cons.1 hmem with heq | hmem
      · exact capital_ne_parenthesis (hchars c List.mem_cons_self).1 heq.symm
      · exact absurd (hchars '(' (List.mem_cons_of_mem c hmem)).1 (by decide)
  have hclass : '(' ∉ classChars (nameWords path) := by
    rw [classChars]
    split
    · rw [List.mem_cons, not_or]
      exact ⟨by decide, hwords⟩
    · exact hwords
  rw [resourceClass_eq, className, String.toList_append, String.toList_ofList, List.mem_append,
    not_or]
  exact ⟨hclass, by decide⟩

end ApiDiscovery.Naming
