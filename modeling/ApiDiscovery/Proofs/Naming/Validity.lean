import ApiDiscovery.Proofs.Naming.Keyword
import ApiDiscovery.Source.Writer
import Mathlib.Data.List.Chain

/-!
# Valid names

Whatever a document calls a thing, what it is called in a module is a valid name
(`names_areValid`). The words of a name are joined by single underscores, and an underscore is added
only in front of a digit or behind a word that has none, so no two come together
(`isIdentifier_identifier`). An identifier has no capitals and no character that is dropped, so its
words are cut as they were joined and it is its own identifier (`identifier_identifier`). A class
name starts with a capital or an underscore (`isClassPlain_className`), and there is something
before its suffix, so it is no keyword and no name that the module imports (`className_not_mem`).
-/

namespace ApiDiscovery.Naming

open ApiDiscovery.Text
open Source (importsText)

/-- The name can stand for a member, an argument or a module: it can stand for an argument, and no
two underscores come together in it. -/
structure IsIdentifier (name : String) : Prop extends IsUsable name where
  single : ¬ ['_', '_'] <:+: name.toList

/-- The character may stand in a class name. -/
def isClassChar (c : Char) : Bool := isCapital c || isNameChar c

/-- The text starts with a capital or an underscore, and letters, digits and underscores come after
that. -/
def isClassPlain : List Char → Bool
  | [] => false
  | c :: rest => (isCapital c || c == '_') && rest.all isClassChar

/-- The names that a module imports: the last word of each line of its imports. -/
def importedNames : List String :=
  ((splitAt '\n' importsText).filter (· ≠ "")).filterMap fun line => (splitAt ' ' line).getLast?

/-- The lines of the imports. -/
def importLines : List String :=
  ["from __future__ import annotations", "", "from typing import Any", "", "import httpx", "",
    "from discoclient.authenticator import Authenticator",
    "from discoclient.requests import ReturnType", "from discoclient.service import Service", ""]

theorem importsText_eq : importsText = joinWith "\n" importLines := by
  rfl

theorem splitAt_importsText : splitAt '\n' importsText = importLines := by
  refine splitAt_of_intercalate ?_ (List.cons_ne_nil _ _) (by decide)
  rw [importsText_eq, joinWith, String.toList_intercalate]
  rfl

theorem importedNames_eq : importedNames =
    ["annotations", "Any", "httpx", "Authenticator", "ReturnType", "Service"] := by
  rw [importedNames, splitAt_importsText]
  decide

/-- The name can stand for a class of a module: it is no keyword and nothing that the module
imports. -/
structure IsClassName (name : String) : Prop where
  plain : isClassPlain name.toList = true
  keyword : name ∉ keywords
  imported : name ∉ importedNames

/-! ## Single underscores -/

/-- Two characters that are not both underscores. -/
def AreApart (a b : Char) : Prop := ¬ (a = '_' ∧ b = '_')

theorem areApart_of_ne_left {a b : Char} (h : a ≠ '_') : AreApart a b := fun heq => h heq.1

theorem areApart_of_ne_right {a b : Char} (h : b ≠ '_') : AreApart a b := fun heq => h heq.2

theorem isChain_of_not_mem {s : List Char} (h : '_' ∉ s) : s.IsChain AreApart := by
  induction s with
  | nil => exact List.IsChain.nil
  | cons c s ih =>
    rw [List.mem_cons, not_or] at h
    exact List.isChain_cons.2 ⟨fun d _ => areApart_of_ne_left (Ne.symm h.1), ih h.2⟩

theorem single_of_isChain {s : List Char} (h : s.IsChain AreApart) : ¬ ['_', '_'] <:+: s := by
  intro hinfix
  have hpair := h.infix hinfix
  rw [List.isChain_pair] at hpair
  exact hpair ⟨rfl, rfl⟩

theorem isChain_intercalate {words : List (List Char)} (h : ∀ word ∈ words, IsWord word) :
    (List.intercalate ['_'] words).IsChain AreApart := by
  induction words with
  | nil => exact List.IsChain.nil
  | cons word words ih =>
    obtain ⟨hword, hwords⟩ := List.forall_mem_cons.1 h
    have hfree : '_' ∉ word := fun hmem => (hword.chars '_' hmem).2 rfl
    cases words with
    | nil =>
      rw [List.intercalate_singleton]
      exact isChain_of_not_mem hfree
    | cons next rest =>
      -- What comes behind the underscore is the start of a word, and so no underscore.
      obtain ⟨hnil, -⟩ | ⟨c, s, hjoined, hc, -⟩ := joinWords_cases hwords
      · cases hnil
      have hrest := ih hwords
      rw [hjoined] at hrest
      rw [List.intercalate_cons_cons, List.append_assoc, List.singleton_append, hjoined,
        List.isChain_append]
      refine ⟨isChain_of_not_mem hfree, List.isChain_cons_cons.2 ⟨areApart_of_ne_right hc, hrest⟩,
        fun d hd _ _ => areApart_of_ne_left ?_⟩
      rintro rfl
      exact hfree (List.mem_of_getLast? hd)

theorem isChain_sanitize (name : String) : (sanitize name).toList.IsChain AreApart := by
  have hwords : ∀ word ∈ nameWords name, IsWord word := fun word hword => isWord_of_mem hword
  have hchain := isChain_intercalate hwords
  rw [sanitize, String.toList_ofList]
  rcases joinWords_cases hwords with ⟨-, hname⟩ | ⟨c, s, hjoined, hc, ⟨-, hname⟩ | ⟨-, hname⟩⟩
  · rw [hname]
    exact List.isChain_singleton '_'
  · rw [hname]
    rw [hjoined] at hchain
    exact List.isChain_cons_cons.2 ⟨areApart_of_ne_right hc, hchain⟩
  · rwa [hname, ← hjoined]

/-- An underscore behind a word that has none comes alone. -/
theorem isChain_avoid {taken : List String} (h : ∀ word ∈ taken, '_' ∉ word.toList) {name : String}
    (hname : name.toList.IsChain AreApart) : (avoid taken name).toList.IsChain AreApart := by
  rw [avoid]
  split
  · next htaken =>
    -- A taken word has no underscore, so the one behind it has none before it.
    have hfree : '_' ∉ name.toList := h name (by simpa using htaken)
    rw [String.toList_append, List.isChain_append]
    refine ⟨hname, List.isChain_singleton '_', fun c hc _ _ => areApart_of_ne_left ?_⟩
    rintro rfl
    exact hfree (List.mem_of_getLast? hc)
  · exact hname

theorem underscore_not_mem_reservedLocals : ∀ word ∈ reservedLocals, '_' ∉ word.toList := by
  decide

theorem isChain_identifier (name : String) : (identifier name).toList.IsChain AreApart :=
  isChain_avoid underscore_not_mem_keywords (isChain_sanitize name)

theorem isIdentifier_identifier (name : String) : IsIdentifier (identifier name) :=
  ⟨isUsable_identifier name, single_of_isChain (isChain_identifier name)⟩

theorem isIdentifier_argument (name : String) : IsIdentifier (argument name) :=
  ⟨isUsable_argument name,
    single_of_isChain (isChain_avoid underscore_not_mem_reservedLocals (isChain_identifier name))⟩

/-! ## Identifiers of identifiers -/

/-- What holds of the small letters, the digits of ASCII and the underscore holds of every character
of an identifier. -/
theorem of_isNameChar {P : Char → Prop}
    (h : ∀ n < 123, isNameChar (Char.ofNat n) = true → P (Char.ofNat n)) {c : Char}
    (hc : isNameChar c = true) : P c := by
  have hlow : c.toNat < 123 := by
    simp only [isNameChar, isSmall, Bool.or_eq_true, Bool.and_eq_true, decide_eq_true_eq,
      beq_iff_eq] at hc
    rcases hc with (⟨-, hz⟩ | ⟨-, hnine⟩) | rfl
    · exact Nat.lt_succ_of_le hz
    · exact Nat.lt_of_le_of_lt hnine (by decide)
    · decide
  have hchar := h c.toNat hlow
  rw [Char.ofNat_toNat] at hchar
  exact hchar hc

theorem isCapital_of_isNameChar {c : Char} (h : isNameChar c = true) : isCapital c = false :=
  of_isNameChar (P := fun c => isCapital c = false) (by decide) h

theorem charName_of_isNameChar {c : Char} (h : isNameChar c = true) : charName c = [c] :=
  of_isNameChar (P := fun c => charName c = [c]) (by decide +kernel) h

section Small

variable {s : List Char}

theorem splitAcronyms_eq_self (h : ∀ c ∈ s, isCapital c = false) : splitAcronyms s = s := by
  induction s with
  | nil => rfl
  | cons c s ih =>
    obtain ⟨hc, hs⟩ := List.forall_mem_cons.1 h
    rw [splitAcronyms, hc, ih hs]
    rfl

theorem splitHumps_eq_self (h : ∀ c ∈ s, isCapital c = false) : splitHumps s = s := by
  induction s with
  | nil => rfl
  | cons c s ih =>
    obtain ⟨-, hs⟩ := List.forall_mem_cons.1 h
    cases s with
    | nil => rfl
    | cons d s =>
      obtain ⟨hd, -⟩ := List.forall_mem_cons.1 hs
      rw [splitHumps, hd, Bool.and_false, ih hs]
      rfl

/-- Nothing of a name changes that has the characters of an identifier only. -/
theorem nameChars_snakeChars_eq_self (h : ∀ c ∈ s, isNameChar c = true) :
    nameChars (snakeChars s) = s := by
  have hcapital : ∀ c ∈ s, isCapital c = false := fun c hc => isCapital_of_isNameChar (h c hc)
  rw [nameChars_snakeChars, splitAcronyms_eq_self hcapital, splitHumps_eq_self hcapital]
  calc s.flatMap charName = s.flatMap fun c => [c] :=
        List.flatMap_congr fun c hc => charName_of_isNameChar (h c hc)
    _ = s := List.flatMap_singleton' s

end Small

/-- An identifier is its own identifier. -/
theorem identifier_identifier (name : String) : identifier (identifier name) = identifier name := by
  have hwords : nameWords (identifier name) = nameWords name := by
    rw [nameWords, nameChars_snakeChars_eq_self (isNameChar_identifier name)]
    exact partsOf_identifier name
  rw [identifier, sanitize, hwords, ← sanitize, ← identifier]

/-! ## Class names -/

theorem isClassChar_capital {c : Char} (h : isNameChar c = true) : isClassChar (capital c) = true :=
  of_isNameChar (P := fun c => isClassChar (capital c) = true) (by decide) h

/-- A word starts with a capital or a digit once it is capitalised. -/
theorem isCapital_capital {c : Char} (h : isNameChar c = true) (hline : c ≠ '_')
    (hdigit : startsWithDigit [capital c] = false) : isCapital (capital c) = true :=
  of_isNameChar (P := fun c => c ≠ '_' → startsWithDigit [capital c] = false →
    isCapital (capital c) = true) (by decide) h hline hdigit

theorem isClassChar_capitalise {word : List Char} (h : ∀ c ∈ word, isNameChar c = true) :
    ∀ c ∈ capitalise word, isClassChar c = true := by
  cases word with
  | nil => exact fun c hc => absurd hc List.not_mem_nil
  | cons c rest =>
    obtain ⟨hc, hrest⟩ := List.forall_mem_cons.1 h
    refine List.forall_mem_cons.2 ⟨isClassChar_capital hc, fun d hd => ?_⟩
    rw [isClassChar, hrest d hd, Bool.or_true]

theorem isClassPlain_classChars {words : List (List Char)} (h : ∀ word ∈ words, IsWord word) :
    isClassPlain (classChars words) = true := by
  have hchars : ∀ c ∈ words.flatMap capitalise, isClassChar c = true := by
    intro c hc
    obtain ⟨word, hword, hc⟩ := List.mem_flatMap.1 hc
    exact isClassChar_capitalise (fun d hd => ((h word hword).chars d hd).1) c hc
  rw [classChars]
  split
  · rw [isClassPlain, List.all_eq_true.2 hchars]
    rfl
  · next hstart =>
    rw [Bool.or_eq_true, not_or, Bool.not_eq_true, Bool.not_eq_true] at hstart
    obtain ⟨hne, hdigit⟩ := hstart
    cases words with
    | nil => cases hne
    | cons word words =>
      obtain ⟨hword, -⟩ := List.forall_mem_cons.1 h
      cases word with
      | nil => exact absurd rfl hword.ne_nil
      | cons c rest =>
        obtain ⟨hname, hline⟩ := hword.chars c List.mem_cons_self
        rw [List.flatMap_cons, capitalise, List.cons_append] at hchars hdigit ⊢
        rw [isClassPlain, isCapital_capital hname hline hdigit,
          List.all_eq_true.2 (List.forall_mem_cons.1 hchars).2]
        rfl

theorem isClassPlain_className (name : String) {suffix : String}
    (h : ∀ c ∈ suffix.toList, isClassChar c = true) :
    isClassPlain (className name suffix).toList = true := by
  have hplain : isClassPlain (classChars (nameWords name)) = true :=
    isClassPlain_classChars fun word hword => isWord_of_mem hword
  rw [className, String.toList_append, String.toList_ofList]
  cases hclass : classChars (nameWords name) with
  | nil =>
    rw [hclass] at hplain
    cases hplain
  | cons c rest =>
    rw [hclass, isClassPlain, Bool.and_eq_true] at hplain
    rw [List.cons_append, isClassPlain, List.all_append, hplain.1, hplain.2,
      List.all_eq_true.2 h]
    rfl

/-- A class name is none of some words that do not go on before its suffix. -/
theorem className_not_mem {reserved : List String} {suffix : String}
    (h : ∀ word ∈ reserved, suffix.toList <:+ word.toList → word = suffix) (name : String) :
    className name suffix ∉ reserved := by
  intro hmem
  have hplain : isClassPlain (classChars (nameWords name)) = true :=
    isClassPlain_classChars fun word hword => isWord_of_mem hword
  have hchars : (className name suffix).toList = classChars (nameWords name) ++ suffix.toList := by
    rw [className, String.toList_append, String.toList_ofList]
  have hsuffix : suffix.toList <:+ (className name suffix).toList := by
    rw [hchars]
    exact List.suffix_append _ _
  -- Nothing would be left before the suffix.
  rw [h _ hmem hsuffix, List.self_eq_append_left] at hchars
  rw [hchars] at hplain
  cases hplain

theorem isClassName_className (name : String) {suffix : String}
    (hchars : ∀ c ∈ suffix.toList, isClassChar c = true)
    (hreserved : ∀ word ∈ keywords ++ importedNames,
      suffix.toList <:+ word.toList → word = suffix) :
    IsClassName (className name suffix) := by
  have hfree := className_not_mem hreserved name
  rw [List.mem_append, not_or] at hfree
  exact ⟨isClassPlain_className name hchars, hfree.1, hfree.2⟩

/-! ## All names -/

/-- Every name becomes a valid one: as an identifier, which is its own identifier, as the name of an
argument, which is no name that the body of a method uses, as the name of a module together with any
version, and as the name of a class of either kind. -/
theorem names_areValid (name version : String) :
    IsIdentifier (identifier name) ∧ IsIdentifier (argument name) ∧
      IsIdentifier (moduleName name version) ∧ argument name ∉ reservedLocals ∧
      identifier (identifier name) = identifier name ∧
      IsClassName (resourceClass name) ∧ IsClassName (serviceClass name) := by
  refine ⟨isIdentifier_identifier name, isIdentifier_argument name, isIdentifier_identifier _,
    avoid_not_mem underscore_not_mem_reservedLocals _, identifier_identifier name, ?_, ?_⟩
  · refine isClassName_className _ (List.all_eq_true.1 (by decide)) ?_
    rw [importedNames_eq]
    decide
  · refine isClassName_className name (List.all_eq_true.1 (by decide)) ?_
    rw [importedNames_eq]
    decide

end ApiDiscovery.Naming
