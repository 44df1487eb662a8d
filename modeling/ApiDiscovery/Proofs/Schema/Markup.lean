import ApiDiscovery.Proofs.Text.Spacing
import ApiDiscovery.Schema.Markup

/-!
# Descriptions in normal form

A description without markup holds no tag, and white space in it is single spaces between other
characters (`IsStripped`). Whatever the text is, stripping it gives such a description, and
stripping that again changes nothing (`stripMarkup_normal`). Taking tags out makes no new ones:
behind an opening bracket that stays a closing bracket comes at once or never
(`afterTag?_eq_none`), and that is still so when other tags are gone (`not_hasTag_withoutTags`) and
white space is collapsed (`not_hasTag_of_respaced`).
-/

namespace ApiDiscovery.Schema

open ApiDiscovery.Text

/-- The text holds a tag: two brackets around at least one character, and no closing bracket between
them. -/
def HasTag (s : List Char) : Prop :=
  ∃ inside, inside ≠ [] ∧ '>' ∉ inside ∧ '<' :: (inside ++ ['>']) <:+: s

/-- No tag starts in the text, whatever comes behind it: right behind each opening bracket there is
a closing one. -/
def StartsNoTag (s : List Char) : Prop :=
  ∀ before after, s = before ++ '<' :: after → after.head? = some '>'

/-- The text has no tags, and white space only as single spaces between other characters. -/
structure IsStripped (s : List Char) : Prop where
  tagless : ¬ HasTag s
  spaced : IsSpaced s

/-! ## Behind an opening bracket -/

theorem afterTag?_append {inside : List Char} (hne : inside ≠ []) (hfree : '>' ∉ inside)
    (rest : List Char) : afterTag? (inside ++ '>' :: rest) = some rest := by
  have hinside : (inside ++ '>' :: rest).takeWhile (· != '>') = inside := by
    refine takeWhile_append_stop (fun c hc => ?_) fun c hc => ?_
    · rw [bne_iff_ne]
      rintro rfl
      exact hfree hc
    · cases hc
      rfl
  rw [afterTag?, hinside, List.drop_left]
  dsimp only
  rw [List.isEmpty_eq_false_iff.2 hne]
  rfl

theorem afterTag?_of_not_mem {s : List Char} (h : '>' ∉ s) : afterTag? s = none := by
  have hall : s.takeWhile (· != '>') = s := by
    refine List.takeWhile_eq_self_iff.2 fun c hc => ?_
    rw [bne_iff_ne]
    rintro rfl
    exact h hc
  rw [afterTag?, hall, List.drop_length]

/-- What goes on with a text behind an opening bracket: no tag if a closing bracket never comes or
comes at once, and a tag up to the first closing bracket otherwise. -/
theorem afterTag?_cases (s : List Char) :
    ('>' ∉ s ∧ afterTag? s = none) ∨ (s.head? = some '>' ∧ afterTag? s = none) ∨
      ∃ inside rest, inside ≠ [] ∧ '>' ∉ inside ∧ s = inside ++ '>' :: rest ∧
        afterTag? s = some rest := by
  by_cases hmem : '>' ∈ s
  · obtain ⟨inside, rest, rfl, hfree⟩ := List.eq_append_cons_of_mem hmem
    cases inside with
    | nil => exact .inr (.inl ⟨rfl, rfl⟩)
    | cons c inside =>
      have hne : c :: inside ≠ [] := List.cons_ne_nil c inside
      exact .inr (.inr ⟨c :: inside, rest, hne, hfree, rfl, afterTag?_append hne hfree rest⟩)
  · exact .inl ⟨hmem, afterTag?_of_not_mem hmem⟩

theorem afterTag?_eq_some {s rest : List Char} :
    afterTag? s = some rest ↔ ∃ inside, inside ≠ [] ∧ '>' ∉ inside ∧ s = inside ++ '>' :: rest := by
  constructor
  · intro h
    rcases afterTag?_cases s with ⟨-, hnone⟩ | ⟨-, hnone⟩ |
      ⟨inside, found, hne, hfree, hs, hsome⟩
    · cases h.symm.trans hnone
    · cases h.symm.trans hnone
    · cases h.symm.trans hsome
      exact ⟨inside, hne, hfree, hs⟩
  · rintro ⟨inside, hne, hfree, rfl⟩
    exact afterTag?_append hne hfree rest

/-- No tag goes on with a text if a closing bracket comes at once or never. -/
theorem afterTag?_eq_none {s : List Char} :
    afterTag? s = none ↔ s.head? = some '>' ∨ '>' ∉ s := by
  rcases afterTag?_cases s with ⟨hfree, hnone⟩ | ⟨hhead, hnone⟩ |
    ⟨inside, rest, hne, hfree, rfl, hsome⟩
  · exact iff_of_true hnone (.inr hfree)
  · exact iff_of_true hnone (.inl hhead)
  · refine iff_of_false (by simp [hsome]) ?_
    rintro (hhead | hnever)
    · rw [List.head?_append_of_ne_nil _ hne] at hhead
      exact hfree (List.mem_of_mem_head? hhead)
    · exact hnever (List.mem_append_right inside List.mem_cons_self)

/-- A text has a tag if one starts with its first character or there is one in the rest. -/
theorem hasTag_cons {c : Char} {s : List Char} :
    HasTag (c :: s) ↔ (c = '<' ∧ afterTag? s ≠ none) ∨ HasTag s := by
  constructor
  · rintro ⟨inside, hne, hfree, htag⟩
    rcases List.infix_cons_iff.1 htag with hstart | hlater
    · obtain ⟨rfl, rest, rfl⟩ := List.cons_prefix_cons.1 hstart
      rw [List.append_assoc, List.singleton_append, afterTag?_append hne hfree]
      exact .inl ⟨rfl, by simp⟩
    · exact .inr ⟨inside, hne, hfree, hlater⟩
  · rintro (⟨rfl, htag⟩ | ⟨inside, hne, hfree, htag⟩)
    · obtain ⟨rest, hrest⟩ := Option.ne_none_iff_exists'.1 htag
      obtain ⟨inside, hne, hfree, rfl⟩ := afterTag?_eq_some.1 hrest
      exact ⟨inside, hne, hfree, [], rest, by simp⟩
    · exact ⟨inside, hne, hfree, htag.trans (List.suffix_cons c s).isInfix⟩

theorem not_hasTag_cons {c : Char} {s : List Char} :
    ¬ HasTag (c :: s) ↔ (c = '<' → afterTag? s = none) ∧ ¬ HasTag s := by
  rw [hasTag_cons, not_or, not_and, not_not]

theorem not_hasTag_nil : ¬ HasTag [] := by
  rintro ⟨inside, -, -, htag⟩
  exact List.cons_ne_nil _ _ (List.infix_nil.1 htag)

instance decidableHasTag : (s : List Char) → Decidable (HasTag s)
  | [] => .isFalse not_hasTag_nil
  | _ :: s =>
    have := decidableHasTag s
    decidable_of_iff _ hasTag_cons.symm

/-! ## Taking tags out -/

theorem withoutTags_tag {rest after : List Char} (h : afterTag? rest = some after) :
    withoutTags ('<' :: rest) = withoutTags after := by
  rw [withoutTags, if_pos rfl]
  split
  · next found hfound =>
    rw [h] at hfound
    cases hfound
    rfl
  · next hnone =>
    rw [h] at hnone
    cases hnone

theorem withoutTags_keep {c : Char} {rest : List Char} (h : c = '<' → afterTag? rest = none) :
    withoutTags (c :: rest) = c :: withoutTags rest := by
  rw [withoutTags]
  split
  · next hc =>
    split
    · next found hfound =>
      rw [h hc] at hfound
      cases hfound
    · rfl
  · rfl

/-- What is proved of a text from what is behind its first tag or its first character. -/
theorem tag_induction {P : List Char → Prop} (nil : P [])
    (tag : ∀ rest after, afterTag? rest = some after → P after → P ('<' :: rest))
    (keep : ∀ c rest, (c = '<' → afterTag? rest = none) → P rest → P (c :: rest))
    (s : List Char) : P s := by
  fun_induction withoutTags s with
  | case1 => exact nil
  | case2 rest after h ih => exact tag rest after h ih
  | case3 rest h ih => exact keep '<' rest (fun _ => h) ih
  | case4 c rest hc ih => exact keep c rest (fun heq => absurd heq hc) ih

theorem withoutTags_sublist (s : List Char) : (withoutTags s).Sublist s := by
  induction s using tag_induction with
  | nil =>
    rw [withoutTags]
  | tag rest after h ih =>
    rw [withoutTags_tag h]
    obtain ⟨inside, -, -, rfl⟩ := afterTag?_eq_some.1 h
    -- The tag stands in front of what is left.
    have hbehind : after <:+ '<' :: (inside ++ '>' :: after) :=
      ⟨'<' :: (inside ++ ['>']), by simp⟩
    exact ih.trans hbehind.sublist
  | keep c rest h ih =>
    rw [withoutTags_keep h]
    exact ih.cons_cons c

/-- No tag goes on with a text after others in it are gone if none did before. -/
theorem afterTag?_withoutTags {s : List Char} (h : afterTag? s = none) :
    afterTag? (withoutTags s) = none := by
  rw [afterTag?_eq_none] at h ⊢
  rcases h with hhead | hnever
  · -- A closing bracket starts no tag, so it is still the first character.
    left
    cases s with
    | nil => cases hhead
    | cons c s =>
      cases hhead
      rw [withoutTags_keep (fun heq => absurd heq (by decide))]
      rfl
  · exact .inr fun hmem => hnever ((withoutTags_sublist s).mem hmem)

/-- Taking tags out makes no new ones. -/
theorem not_hasTag_withoutTags (s : List Char) : ¬ HasTag (withoutTags s) := by
  induction s using tag_induction with
  | nil =>
    rw [withoutTags]
    exact not_hasTag_nil
  | tag rest after h ih => rwa [withoutTags_tag h]
  | keep c rest h ih =>
    rw [withoutTags_keep h, not_hasTag_cons]
    exact ⟨fun hc => afterTag?_withoutTags (h hc), ih⟩

theorem withoutTags_eq_self {s : List Char} (h : ¬ HasTag s) : withoutTags s = s := by
  induction s with
  | nil => rw [withoutTags]
  | cons c s ih =>
    obtain ⟨hstart, hrest⟩ := not_hasTag_cons.1 h
    rw [withoutTags_keep hstart, ih hrest]

/-- The first tag goes, and the text before it stays. -/
theorem withoutTags_append {before inside : List Char} (hbefore : StartsNoTag before)
    (hne : inside ≠ []) (hfree : '>' ∉ inside) (after : List Char) :
    withoutTags (before ++ '<' :: (inside ++ '>' :: after)) = before ++ withoutTags after := by
  induction before with
  | nil => exact withoutTags_tag (afterTag?_append hne hfree after)
  | cons c before ih =>
    have hrest : StartsNoTag before := fun x y heq => hbefore (c :: x) y (by rw [heq]; rfl)
    have hkeep : c = '<' → afterTag? (before ++ '<' :: (inside ++ '>' :: after)) = none := by
      -- The bracket that comes at once is in the part before the tag.
      rintro rfl
      have hhead := hbefore [] before rfl
      rw [afterTag?_eq_none, List.head?_append, hhead]
      exact .inl rfl
    rw [List.cons_append, withoutTags_keep hkeep, ih hrest, List.cons_append]

/-! ## White space and tags -/

/-- Dropping white space or turning it into spaces makes no tags. -/
theorem not_hasTag_of_respaced {s t : List Char} (h : Respaced s t) (hnone : ¬ HasTag s) :
    ¬ HasTag t := by
  induction h with
  | nil => exact hnone
  | keep _ h ih =>
    rw [not_hasTag_cons] at hnone ⊢
    obtain ⟨hstart, hrest⟩ := hnone
    refine ⟨fun hc => ?_, ih hrest⟩
    have hbehind := hstart hc
    rw [afterTag?_eq_none] at hbehind ⊢
    exact hbehind.imp (h.head? (by decide)) fun hnever hmem => hnever (h.mem (by decide) hmem)
  | space _ _ ih =>
    -- The space itself starts no tag, whatever the character was.
    rw [not_hasTag_cons] at hnone ⊢
    exact ⟨fun hspace => absurd hspace (by decide), ih hnone.2⟩
  | drop _ _ ih => exact ih (not_hasTag_cons.1 hnone).2

/-! ## Stripped texts -/

theorem toList_stripMarkup (s : String) :
    (stripMarkup s).toList = collapsed (withoutTags s.toList) :=
  toList_joinedWords (withoutTags s.toList)

theorem isStripped_stripMarkup (s : String) : IsStripped (stripMarkup s).toList := by
  rw [toList_stripMarkup]
  exact ⟨not_hasTag_of_respaced (respaced_collapsed _) (not_hasTag_withoutTags s.toList),
    isSpaced_collapsed _⟩

theorem visible_stripMarkup (s : String) :
    visible (stripMarkup s).toList = visible (withoutTags s.toList) := by
  rw [toList_stripMarkup]
  exact (respaced_collapsed _).visible_eq

theorem stripMarkup_stripMarkup (s : String) : stripMarkup (stripMarkup s) = stripMarkup s := by
  have htagless := (isStripped_stripMarkup s).tagless
  rw [← String.toList_inj, toList_stripMarkup (stripMarkup s), withoutTags_eq_self htagless,
    toList_stripMarkup s, collapsed_collapsed]

/-- Every text is in normal form once it is stripped: it has no tag and no white space other than
single spaces between other characters, and stripping it again changes nothing. No other characters
come in or change places. They all stay in a text without tags, and otherwise in the part before the
first tag; the part behind that tag is stripped in the same way. -/
theorem stripMarkup_normal (s : String) :
    IsStripped (stripMarkup s).toList ∧ stripMarkup (stripMarkup s) = stripMarkup s ∧
      (visible (stripMarkup s).toList).Sublist (visible s.toList) ∧
      (¬ HasTag s.toList → visible (stripMarkup s).toList = visible s.toList) ∧
      ∀ before inside after, StartsNoTag before → inside ≠ [] → '>' ∉ inside →
        s.toList = before ++ '<' :: (inside ++ '>' :: after) →
          visible (stripMarkup s).toList =
            visible before ++ visible (stripMarkup (String.ofList after)).toList := by
  refine ⟨isStripped_stripMarkup s, stripMarkup_stripMarkup s, ?_, ?_, ?_⟩
  · rw [visible_stripMarkup]
    exact (withoutTags_sublist s.toList).filter _
  · intro htagless
    rw [visible_stripMarkup, withoutTags_eq_self htagless]
  · intro before inside after hbefore hne hfree hs
    rw [visible_stripMarkup, visible_stripMarkup, hs, withoutTags_append hbefore hne hfree,
      String.toList_ofList, visible, List.filter_append, ← visible, ← visible]

/-- A text with a tag that has an opening bracket in it, white space of other kinds, and brackets
around nothing. -/
def sampleTagged : String := "a\n<<b>c\u00a0 <> d<"

/-- What is behind the tag of that text. -/
def sampleTagless : String := "c\u00a0 <> d<"

theorem stripMarkup_normal_sampleTagged :
    stripMarkup sampleTagged = "a c <> d<" ∧ IsStripped (stripMarkup sampleTagged).toList ∧
      stripMarkup (stripMarkup sampleTagged) = stripMarkup sampleTagged ∧
      visible (stripMarkup sampleTagged).toList =
        visible "a\n".toList ++ visible (stripMarkup sampleTagless).toList ∧
      ¬ HasTag sampleTagless.toList ∧
      visible (stripMarkup sampleTagless).toList = "c<>d<".toList := by
  obtain ⟨hstripped, hagain, -, -, hcut⟩ := stripMarkup_normal sampleTagged
  obtain ⟨-, -, -, hkept, -⟩ := stripMarkup_normal sampleTagless
  have hstart : StartsNoTag "a\n".toList := by
    intro before after heq
    have hmem : '<' ∈ "a\n".toList := heq ▸ List.mem_append_right before List.mem_cons_self
    exact absurd hmem (by decide)
  have htagless : ¬ HasTag sampleTagless.toList := by decide
  refine ⟨by decide +kernel, hstripped, hagain, ?_, htagless, ?_⟩
  · exact hcut _ "<b".toList sampleTagless.toList hstart (by decide) (by decide) (by decide)
  · rw [hkept htagless]
    decide

end ApiDiscovery.Schema
