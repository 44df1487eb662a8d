import ApiDiscovery.Proofs.Text.Cutting
import ApiDiscovery.Uri.Reference
import Mathlib.Data.List.TakeWhile

/-!
# Reading and writing the parts of an address

Parts that can be told apart when they are written (`Reference.Proper`) are read back from their
text (`ofText_text`); what is read from a text is always such (`proper_ofText`) and gives the text
when it is written (`text_ofText`). So a question mark and a query after a text without either mark
become the query of its address and change nothing else (`ofText_append_query`).
-/

namespace ApiDiscovery.Uri.Reference

open ApiDiscovery.Text

/-- The parts can be told apart when they are written one after another. -/
structure Proper (r : Reference) : Prop where
  scheme : ∀ scheme, r.scheme = some scheme → isScheme scheme = true
  authority : ∀ authority, r.authority = some authority → ∀ c ∈ authority, endsAuthority c = false
  path : ∀ c ∈ r.path, endsPath c = false
  query : ∀ query, r.query = some query → '#' ∉ query
  rooted : r.authority ≠ none → r.path = [] ∨ r.path.head? = some '/'
  single : r.authority = none → ¬ ['/', '/'] <+: r.path
  unnamed : r.scheme = none → r.authority = none → (cutScheme r.path).1 = none

/-! ## The marks -/

theorem isSchemeChar_of_mem {s : List Char} (h : isScheme s = true) :
    ∀ c ∈ s, isSchemeChar c = true := by
  cases s with
  | nil => exact fun c hc => absurd hc List.not_mem_nil
  | cons d s =>
    rw [isScheme, Bool.and_eq_true, List.all_eq_true] at h
    intro c hc
    rcases List.mem_cons.1 hc with rfl | hc
    · rw [isSchemeChar, h.1]
      rfl
    · exact h.2 c hc

theorem not_isScheme_of_mem {s : List Char} {c : Char} (hc : c ∈ s)
    (h : isSchemeChar c = false) : isScheme s = false := by
  refine Bool.eq_false_iff.2 fun hs => ?_
  rw [isSchemeChar_of_mem hs c hc] at h
  cases h

/-- No mark after a path stands in a scheme. -/
theorem endsPath_of_isSchemeChar {c : Char} (h : isSchemeChar c = true) : endsPath c = false := by
  rw [← Bool.not_eq_true, endsPath, Bool.or_eq_true, beq_iff_eq, beq_iff_eq]
  rintro (rfl | rfl)
  all_goals exact absurd h (by decide)

/-- A text of parts after the path is empty or starts with the mark of one of them. -/
theorem head?_marks {query fragment : Option (List Char)} {c : Char}
    (h : (after ['?'] query ++ after ['#'] fragment).head? = some c) : c = '?' ∨ c = '#' := by
  cases query with
  | some q =>
    simp only [after, List.cons_append, List.head?_cons, Option.some.injEq] at h
    exact Or.inl h.symm
  | none =>
    cases fragment with
    | some f =>
      simp only [after, List.nil_append, List.cons_append, List.head?_cons,
        Option.some.injEq] at h
      exact Or.inr h.symm
    | none => cases h

/-! ## What was written is read back -/

theorem cutScheme_append {scheme : List Char} (h : isScheme scheme = true) (rest : List Char) :
    cutScheme (scheme ++ ':' :: rest) = (some scheme, rest) := by
  have hfree : ∀ c ∈ scheme, (c == ':') = false := by
    intro c hc
    apply beq_eq_false_iff_ne.2
    rintro rfl
    exact absurd (isSchemeChar_of_mem h _ hc) (by decide)
  rw [cutScheme, cutFirst_append_cons (p := (· == ':')) rest hfree (beq_self_eq_true ':')]
  show (if isScheme scheme = true then _ else _) = _
  rw [if_pos h]

/-- A text reads without a scheme if a character that no scheme holds stands before its first
colon. -/
theorem cutScheme_of_mem {a : List Char} {c : Char} (ha : ∀ d ∈ a, d ≠ ':')
    (hc : isSchemeChar c = false) (hne : c ≠ ':') (rest : List Char) :
    cutScheme (a ++ c :: rest) = (none, a ++ c :: rest) := by
  rw [cutScheme]
  split
  · next scheme after heq =>
    obtain ⟨d, hd, hs, hfree⟩ := cutFirst_eq_some heq
    rw [beq_iff_eq] at hd
    subst hd
    -- The first colon stands behind `a`, so what is cut off before it reaches over the character.
    have hmem : c ∈ scheme := by
      rcases List.append_eq_append_iff.1 hs with ⟨t, hscheme, hrest⟩ | ⟨t, ha', hrest⟩
      · cases t with
        | nil =>
          simp only [List.nil_append, List.cons.injEq] at hrest
          exact absurd hrest.1 hne
        | cons e t =>
          simp only [List.cons_append, List.cons.injEq] at hrest
          rw [hscheme, hrest.1]
          simp
      · cases t with
        | nil =>
          simp only [List.nil_append, List.cons.injEq] at hrest
          exact absurd hrest.1.symm hne
        | cons e t =>
          simp only [List.cons_append, List.cons.injEq] at hrest
          exact absurd rfl (ha ':' (by rw [ha', ← hrest.1]; simp))
    rw [if_neg (by rw [not_isScheme_of_mem hmem hc]; exact Bool.false_ne_true)]
  · rfl

/-- A text reads without a scheme if what stands before its first colon is none. -/
theorem cutScheme_eq_none_iff {s : List Char} :
    (cutScheme s).1 = none ↔ ∀ a b, s = a ++ ':' :: b → ':' ∉ a → isScheme a = false := by
  constructor
  · rintro h a b rfl ha
    refine Bool.eq_false_iff.2 fun hscheme => ?_
    rw [cutScheme_append hscheme b] at h
    cases h
  · intro h
    rw [cutScheme]
    split
    · next scheme rest hcut =>
      obtain ⟨c, hc, hs, hfree⟩ := cutFirst_eq_some hcut
      obtain rfl := beq_iff_eq.1 hc
      rw [if_neg]
      rw [h scheme rest hs fun hmem => absurd (hfree _ hmem) (by decide)]
      exact Bool.false_ne_true
    · rfl

/-- Marks and parts after a path do not make its start a scheme. -/
theorem cutScheme_append_marks {path : List Char} (h : (cutScheme path).1 = none)
    (query fragment : Option (List Char)) :
    cutScheme (path ++ (after ['?'] query ++ after ['#'] fragment)) =
      (none, path ++ (after ['?'] query ++ after ['#'] fragment)) := by
  generalize hmarks : after ['?'] query ++ after ['#'] fragment = marks
  -- A colon in the path is the first one; otherwise the mark stands before any colon.
  cases hcut : cutFirst (· == ':') path with
  | mk before behind =>
    cases behind with
    | some behind =>
      obtain ⟨c, hc, hpath, hfree⟩ := cutFirst_eq_some hcut
      rw [cutScheme, hcut] at h
      dsimp only at h
      split at h
      · cases h
      · next hnot =>
        rw [cutScheme, hpath, List.append_assoc, List.cons_append,
          cutFirst_append_cons (p := (· == ':')) _ hfree hc]
        show (if isScheme before = true then _ else _) = _
        rw [if_neg hnot]
    | none =>
      obtain ⟨-, hfree⟩ := cutFirst_eq_none hcut
      cases marks with
      | nil =>
        rw [List.append_nil, cutScheme, cutFirst_of_none hfree]
      | cons c marks =>
        have hc : c = '?' ∨ c = '#' := head?_marks (by rw [hmarks]; rfl)
        refine cutScheme_of_mem (fun d hd => beq_eq_false_iff_ne.1 (hfree d hd)) ?_ ?_ marks
        · rcases hc with rfl | rfl <;> decide
        · rcases hc with rfl | rfl <;> decide

theorem cutAuthority_append {authority rest : List Char}
    (h : ∀ c ∈ authority, endsAuthority c = false)
    (hrest : ∀ c, rest.head? = some c → endsAuthority c = true) :
    cutAuthority ('/' :: '/' :: (authority ++ rest)) = (some authority, rest) := by
  rw [cutAuthority, takeWhile_append_stop, dropWhile_append_stop]
  · exact fun c hc => by rw [h c hc]; rfl
  · exact fun c hc => by rw [hrest c hc]; rfl
  · exact fun c hc => by rw [h c hc]; rfl
  · exact fun c hc => by rw [hrest c hc]; rfl

theorem cutAuthority_of_not_prefix {s : List Char} (h : ¬ ['/', '/'] <+: s) :
    cutAuthority s = (none, s) := by
  unfold cutAuthority
  split
  · next rest => exact absurd ⟨rest, rfl⟩ h
  · rfl

theorem cutQuery_after {query fragment : Option (List Char)}
    (h : ∀ q, query = some q → '#' ∉ q) :
    cutQuery (after ['?'] query ++ after ['#'] fragment) = (query, after ['#'] fragment) := by
  cases query with
  | none => cases fragment <;> rfl
  | some q =>
    have hq : ∀ c ∈ q, (c != '#') = true := by
      intro c hc
      rw [bne_iff_ne]
      rintro rfl
      exact h q rfl hc
    have hstop : ∀ c, (after ['#'] fragment).head? = some c → (c != '#') = false := by
      intro c hc
      cases fragment with
      | none => cases hc
      | some f =>
        cases hc
        rfl
    show cutQuery ('?' :: (q ++ after ['#'] fragment)) = _
    rw [cutQuery, takeWhile_append_stop hq hstop, dropWhile_append_stop hq hstop]

theorem cutFragment_after (fragment : Option (List Char)) :
    cutFragment (after ['#'] fragment) = fragment := by
  cases fragment <;> rfl

/-- The text of the parts after a scheme. -/
def rest (r : Reference) : List Char :=
  after ['/', '/'] r.authority ++ (r.path ++ (after ['?'] r.query ++ after ['#'] r.fragment))

theorem text_eq (r : Reference) :
    r.text = (match r.scheme with
      | some scheme => scheme ++ [':']
      | none => []) ++ r.rest := by
  cases hscheme : r.scheme with
  | none => simp only [text, rest, hscheme, List.append_assoc]
  | some scheme => simp only [text, rest, hscheme, List.append_assoc]

theorem Proper.cutScheme_text {r : Reference} (h : r.Proper) :
    cutScheme r.text = (r.scheme, r.rest) := by
  rw [text_eq]
  cases hs : r.scheme with
  | some scheme =>
    show cutScheme ((scheme ++ [':']) ++ r.rest) = _
    rw [List.append_assoc, List.singleton_append, cutScheme_append (h.scheme scheme hs)]
  | none =>
    show cutScheme ([] ++ r.rest) = _
    rw [List.nil_append, rest]
    cases ha : r.authority with
    | some authority =>
      show cutScheme ([] ++ '/' :: ('/' :: authority ++ _)) = _
      exact cutScheme_of_mem (fun d hd => absurd hd List.not_mem_nil) (by decide) (by decide) _
    | none => exact cutScheme_append_marks (h.unnamed hs ha) r.query r.fragment

theorem Proper.cutAuthority_rest {r : Reference} (h : r.Proper) :
    cutAuthority r.rest =
      (r.authority, r.path ++ (after ['?'] r.query ++ after ['#'] r.fragment)) := by
  rw [rest]
  cases ha : r.authority with
  | some authority =>
    show cutAuthority ('/' :: '/' :: (authority ++ _)) = _
    refine cutAuthority_append (h.authority authority ha) fun c hc => ?_
    rcases h.rooted (by rw [ha]; exact Option.some_ne_none authority) with hp | hp
    · rw [hp, List.nil_append] at hc
      rcases head?_marks hc with rfl | rfl <;> rfl
    · rw [List.head?_append, hp] at hc
      cases hc
      rfl
  | none =>
    -- Two slashes at the start are both of the path, for neither mark is a slash.
    refine cutAuthority_of_not_prefix fun hprefix => ?_
    obtain ⟨t, ht⟩ := hprefix
    have hsingle := h.single ha
    cases hp : r.path with
    | nil =>
      rw [hp] at ht
      have hhead : (after ['?'] r.query ++ after ['#'] r.fragment).head? = some '/' := by
        simpa [after] using (congrArg List.head? ht).symm
      exact absurd (head?_marks hhead) (by decide)
    | cons c path =>
      rw [hp] at ht hsingle
      simp only [after, List.nil_append, List.cons_append, List.cons.injEq] at ht
      obtain ⟨rfl, ht⟩ := ht
      cases path with
      | nil =>
        have hhead : (after ['?'] r.query ++ after ['#'] r.fragment).head? = some '/' := by
          simpa [after] using (congrArg List.head? ht).symm
        exact absurd (head?_marks hhead) (by decide)
      | cons d path =>
        simp only [List.cons_append, List.cons.injEq] at ht
        obtain ⟨rfl, -⟩ := ht
        exact hsingle ⟨path, rfl⟩

theorem ofText_text {r : Reference} (h : r.Proper) : ofText r.text = r := by
  have hpath : ∀ c ∈ r.path, (!endsPath c) = true := fun c hc => by rw [h.path c hc]; rfl
  have hstop : ∀ c, (after ['?'] r.query ++ after ['#'] r.fragment).head? = some c →
      (!endsPath c) = false := by
    intro c hc
    rcases head?_marks hc with rfl | rfl <;> rfl
  simp only [ofText, h.cutScheme_text, h.cutAuthority_rest, takeWhile_append_stop hpath hstop,
    dropWhile_append_stop hpath hstop, cutQuery_after h.query, cutFragment_after]

/-! ## What was read is written back -/

theorem cutScheme_some {s scheme behind : List Char}
    (h : cutScheme s = (some scheme, behind)) :
    isScheme scheme = true ∧ s = scheme ++ ':' :: behind := by
  unfold cutScheme at h
  split at h
  · next before after heq =>
    split at h
    · next hscheme =>
      cases h
      obtain ⟨c, hc, hs, -⟩ := cutFirst_eq_some heq
      rw [beq_iff_eq] at hc
      subst hc
      exact ⟨hscheme, hs⟩
    · cases h
  · cases h

theorem cutScheme_none {s behind : List Char} (h : cutScheme s = (none, behind)) : behind = s := by
  unfold cutScheme at h
  split at h
  · split at h
    · cases h
    · cases h
      rfl
  · cases h
    rfl

theorem cutAuthority_text (s : List Char) :
    s = after ['/', '/'] (cutAuthority s).1 ++ (cutAuthority s).2 := by
  unfold cutAuthority
  split
  · next rest =>
    simp only [after, List.cons_append, List.nil_append, List.takeWhile_append_dropWhile]
  · rfl

/-- What an authority holds, and how the text after it starts. -/
theorem cutAuthority_some {s authority rest : List Char}
    (h : cutAuthority s = (some authority, rest)) :
    (∀ c ∈ authority, endsAuthority c = false) ∧
      ∀ c, rest.head? = some c → endsAuthority c = true := by
  unfold cutAuthority at h
  split at h
  · cases h
    refine ⟨fun c hc => ?_, fun c hc => ?_⟩
    · simpa using List.mem_takeWhile_imp hc
    · simpa using head?_dropWhile_stop hc
  · cases h

theorem cutAuthority_none {s rest : List Char} (h : cutAuthority s = (none, rest)) :
    rest = s ∧ ¬ ['/', '/'] <+: s := by
  unfold cutAuthority at h
  split at h
  · cases h
  · next hnot =>
    cases h
    refine ⟨rfl, ?_⟩
    rintro ⟨t, rfl⟩
    exact hnot t rfl

theorem cutQuery_text {s : List Char} (h : ∀ c, s.head? = some c → endsPath c = true) :
    s = after ['?'] (cutQuery s).1 ++ after ['#'] (cutFragment (cutQuery s).2) := by
  have hfragment : ∀ t : List Char, (∀ c, t.head? = some c → c = '#') →
      t = after ['#'] (cutFragment t) := by
    intro t ht
    cases t with
    | nil => rfl
    | cons c t =>
      obtain rfl := ht c rfl
      rfl
  unfold cutQuery
  split
  · next rest =>
    have hstop : rest.dropWhile (· != '#') =
        after ['#'] (cutFragment (rest.dropWhile (· != '#'))) := by
      refine hfragment _ fun c hc => ?_
      simpa using head?_dropWhile_stop hc
    dsimp only
    rw [← hstop, after, List.append_assoc, List.takeWhile_append_dropWhile]
    rfl
  · next hnot =>
    refine hfragment s fun c hc => ?_
    have hmark := h c hc
    simp only [endsPath, Bool.or_eq_true, beq_iff_eq] at hmark
    rcases hmark with rfl | rfl
    · cases s with
      | nil => cases hc
      | cons d s =>
        cases hc
        exact absurd rfl (hnot s)
    · rfl

theorem rest_ofText (s : List Char) : (ofText s).rest = (cutScheme s).2 := by
  conv_rhs => rw [cutAuthority_text (cutScheme s).2]
  rw [rest]
  simp only [ofText]
  rw [← cutQuery_text (fun c hc => by simpa using head?_dropWhile_stop hc),
    List.takeWhile_append_dropWhile]

theorem text_ofText (s : List Char) : (ofText s).text = s := by
  rw [text_eq, rest_ofText]
  have hscheme : (ofText s).scheme = (cutScheme s).1 := rfl
  rw [hscheme]
  cases h : cutScheme s with
  | mk scheme behind =>
    cases scheme with
    | some scheme =>
      rw [(cutScheme_some h).2]
      show (scheme ++ [':']) ++ behind = scheme ++ ':' :: behind
      rw [List.append_assoc]
      rfl
    | none => exact cutScheme_none h

theorem proper_ofText (s : List Char) : (ofText s).Proper where
  scheme := fun scheme h => (cutScheme_some (Prod.ext h rfl)).1
  authority := by
    intro authority h
    exact (cutAuthority_some (Prod.ext h rfl)).1
  path := by
    intro c hc
    simpa using List.mem_takeWhile_imp hc
  query := by
    intro query h hmem
    simp only [ofText] at h
    unfold cutQuery at h
    split at h
    · simp only [Option.some.injEq] at h
      rw [← h] at hmem
      simpa using List.mem_takeWhile_imp hmem
    · cases h
  rooted := by
    intro h
    obtain ⟨authority, ha⟩ := Option.ne_none_iff_exists'.1 h
    have hstop : ∀ c, (cutAuthority (cutScheme s).2).2.head? = some c → endsAuthority c = true :=
      (cutAuthority_some (Prod.ext ha rfl)).2
    have hpath : (ofText s).path =
        (cutAuthority (cutScheme s).2).2.takeWhile fun c => !endsPath c := rfl
    rw [hpath]
    cases hrest : (cutAuthority (cutScheme s).2).2 with
    | nil => exact Or.inl rfl
    | cons c rest =>
      have hc := hstop c (by rw [hrest]; rfl)
      simp only [endsAuthority, Bool.or_eq_true, beq_iff_eq] at hc
      rcases hc with (rfl | rfl) | rfl
      · exact Or.inr rfl
      · exact Or.inl rfl
      · exact Or.inl rfl
  single := by
    intro h hprefix
    obtain ⟨hrest, hnot⟩ := cutAuthority_none (Prod.ext h rfl)
    apply hnot
    have hpath : (ofText s).path <+: (cutAuthority (cutScheme s).2).2 :=
      List.takeWhile_prefix _
    have hbehind : (cutAuthority (cutScheme s).2).2 = (cutScheme s).2 := hrest
    rw [hbehind] at hpath
    exact hprefix.trans hpath
  unnamed := by
    intro hs ha
    obtain ⟨hrest, -⟩ := cutAuthority_none (Prod.ext ha rfl)
    have hwhole : (cutScheme s).2 = s := cutScheme_none (Prod.ext hs rfl)
    have hpath : (ofText s).path =
        (cutAuthority (cutScheme s).2).2.takeWhile fun c => !endsPath c := rfl
    have hbehind : (cutAuthority (cutScheme s).2).2 = s := hrest.trans hwhole
    rw [hpath, hbehind]
    -- The first colon of the path, if it has one, is the first colon of the text.
    cases hcut : cutFirst (· == ':') (s.takeWhile fun c => !endsPath c) with
    | mk before behind =>
      cases behind with
      | none => rw [cutScheme, hcut]
      | some behind =>
        obtain ⟨c, hc, hs', hfree⟩ := cutFirst_eq_some hcut
        have hsplit : s = before ++ c :: (behind ++ s.dropWhile fun c => !endsPath c) := by
          rw [← List.cons_append, ← List.append_assoc, ← hs', List.takeWhile_append_dropWhile]
        have hnone : (cutScheme s).1 = none := hs
        rw [hsplit, cutScheme, cutFirst_append_cons (p := (· == ':')) _ hfree hc] at hnone
        rw [cutScheme, hcut]
        dsimp only at hnone ⊢
        split at hnone
        · cases hnone
        · next hscheme => rw [if_neg hscheme]

/-! ## Texts that are paths -/

/-- The text is a path and nothing else. -/
def IsPath (s : List Char) : Prop := ofText s = ⟨none, none, s, none, none⟩

theorem isPath_iff {s : List Char} :
    IsPath s ↔ (∀ c ∈ s, endsPath c = false) ∧ ¬ ['/', '/'] <+: s ∧ (cutScheme s).1 = none := by
  constructor
  · intro h
    have hproper := proper_ofText s
    rw [h] at hproper
    exact ⟨hproper.path, hproper.single rfl, hproper.unnamed rfl rfl⟩
  · rintro ⟨hpath, hsingle, hunnamed⟩
    have hproper : (⟨none, none, s, none, none⟩ : Reference).Proper :=
      { scheme := fun _ h => by cases h
        authority := fun _ h => by cases h
        path := hpath
        query := fun _ h => by cases h
        rooted := fun h => absurd rfl h
        single := fun _ => hsingle
        unnamed := fun _ _ => hunnamed }
    have htext : (⟨none, none, s, none, none⟩ : Reference).text = s := by simp [text, after]
    have hread := ofText_text hproper
    rw [htext] at hread
    exact hread

/-! ## Texts without query and fragment -/

/-- No query and no fragment starts in the text. -/
def IsPlain (s : List Char) : Prop := ∀ c ∈ s, endsPath c = false

theorem ofText_of_isPlain {s : List Char} (h : IsPlain s) :
    (ofText s).query = none ∧ (ofText s).fragment = none := by
  have hrest : (cutAuthority (cutScheme s).2).2.dropWhile (fun c => !endsPath c) = [] := by
    refine List.dropWhile_eq_nil_iff.2 fun c hc => ?_
    have hbehind : c ∈ (cutScheme s).2 := by
      rw [cutAuthority_text (cutScheme s).2]
      exact List.mem_append_right _ hc
    have hmem : c ∈ s := by
      rw [← text_ofText s, text_eq, rest_ofText]
      exact List.mem_append_right _ hbehind
    rw [h c hmem]
    rfl
  have hquery : (ofText s).query = (cutQuery ((cutAuthority (cutScheme s).2).2.dropWhile
    fun c => !endsPath c)).1 := rfl
  have hfragment : (ofText s).fragment = cutFragment (cutQuery
    ((cutAuthority (cutScheme s).2).2.dropWhile fun c => !endsPath c)).2 := rfl
  rw [hquery, hfragment, hrest]
  exact ⟨rfl, rfl⟩

/-- A number sign anywhere starts a fragment. -/
theorem fragment_ne_none {s : List Char} (h : '#' ∈ s) : (ofText s).fragment ≠ none := by
  intro hnone
  have hproper := proper_ofText s
  -- The sign would stand in one of the other parts, and none of them holds it.
  rw [← text_ofText s, text, hnone] at h
  simp only [List.mem_append] at h
  rcases h with (((h | h) | h) | h) | h
  · cases hscheme : (ofText s).scheme with
    | none =>
      rw [hscheme] at h
      exact absurd h List.not_mem_nil
    | some scheme =>
      rw [hscheme] at h
      rcases List.mem_append.1 h with h | h
      · exact absurd (isSchemeChar_of_mem (hproper.scheme scheme hscheme) _ h) (by decide)
      · exact absurd (List.mem_singleton.1 h) (by decide)
  · cases hauthority : (ofText s).authority with
    | none =>
      rw [hauthority] at h
      exact absurd h List.not_mem_nil
    | some authority =>
      rw [hauthority] at h
      rcases List.mem_append.1 h with h | h
      · exact absurd h (by decide)
      · exact absurd (hproper.authority authority hauthority _ h) (by decide)
  · exact absurd (hproper.path _ h) (by decide)
  · cases hquery : (ofText s).query with
    | none =>
      rw [hquery] at h
      exact absurd h List.not_mem_nil
    | some query =>
      rw [hquery] at h
      rcases List.mem_append.1 h with h | h
      · exact absurd h (by decide)
      · exact hproper.query query hquery h
  · exact absurd h List.not_mem_nil

/-- A query after a plain text is the query of the address, and its other parts are those of the
text. -/
theorem ofText_append_query {s query : List Char} (hs : IsPlain s) (hq : '#' ∉ query) :
    ofText (s ++ '?' :: query) = { ofText s with query := some query } := by
  obtain ⟨hquery, hfragment⟩ := ofText_of_isPlain hs
  have hproper := proper_ofText s
  have hread : ({ ofText s with query := some query } : Reference).Proper :=
    { hproper with
      query := fun q h => by
        cases h
        exact hq }
  have htext : ({ ofText s with query := some query } : Reference).text =
      s ++ '?' :: query := by
    -- The parts of the text are written with the query behind them.
    conv_rhs => rw [← text_ofText s]
    simp [text, hquery, hfragment, after]
  rw [← htext, ofText_text hread]

/-- What is put behind the text of parts that can be told apart is read as a query, or it becomes
part of the query or of the fragment; the parts before these are not touched. -/
theorem ofText_text_append_query {r : Reference} (h : r.Proper) {query : List Char}
    (hq : '#' ∉ query) :
    ∃ query' fragment', ofText (r.text ++ '?' :: query) =
      { r with query := query', fragment := fragment' } := by
  cases hfragment : r.fragment with
  | some fragment =>
    have hproper : ({ r with fragment := some (fragment ++ '?' :: query) } : Reference).Proper :=
      { h with }
    refine ⟨r.query, some (fragment ++ '?' :: query), ?_⟩
    rw [← ofText_text hproper]
    simp [text, hfragment, after]
  | none =>
    cases hquery : r.query with
    | some written =>
      have hproper : ({ r with query := some (written ++ '?' :: query) } : Reference).Proper :=
        { h with
          query := fun q heq => by
            cases heq
            rw [List.mem_append, List.mem_cons, not_or, not_or]
            exact ⟨h.query written hquery, by decide, hq⟩ }
      refine ⟨some (written ++ '?' :: query), r.fragment, ?_⟩
      rw [← ofText_text hproper]
      simp [text, hfragment, hquery, after]
    | none =>
      have hproper : ({ r with query := some query } : Reference).Proper :=
        { h with
          query := fun q heq => by
            cases heq
            exact hq }
      refine ⟨some query, r.fragment, ?_⟩
      rw [← ofText_text hproper]
      simp [text, hfragment, hquery, after]

end ApiDiscovery.Uri.Reference
