import ApiDiscovery.Proofs.Outcome
import ApiDiscovery.Proofs.Uri.Percent
import ApiDiscovery.Proofs.Uri.Segmentation

/-!
# Templates that are lists of segments

A template whose text is a list of single segments with slashes between them, each a literal or a
placeholder, is filled in segment by segment: what comes out is a list of as many texts with slashes
between them, and each decodes to what its segment stands for (`expandSegments_joined`). Any
template fails with the first placeholder that has no value (`expand_error_iff`), and with no other
fault.
-/

namespace ApiDiscovery.Uri

open ApiDiscovery.Text Outcome

namespace Segment

/-- The segment is a whole one of a path: a literal without marks, or one placeholder. A literal
does not stand for a place relative to the path. -/
def IsWhole : Segment → Prop
  | literal text => text ≠ [] ∧ text ≠ ['.'] ∧ text ≠ ['.', '.'] ∧
      ∀ c ∈ text, Percent.isUnreserved c = true
  | simple name => name ≠ [] ∧ (∀ c ∈ name, Template.isNameChar c = true) ∧
      Template.placeholder name = simple name
  | reserved _ => False

/-- What the segment stands for. -/
def meaning? (values : List (String × String)) : Segment → Option (List Char)
  | literal text => some text
  | simple name => (values.lookup (String.ofList name)).map String.toList
  | reserved name => (values.lookup (String.ofList name)).map String.toList

end Segment

namespace Template

variable {values : List (String × String)}

/-! ## Reading a template -/

theorem expandSegments_addLiteral (c : Char) (segments : List Segment) :
    expandSegments values (addLiteral c segments) =
      (expandSegments values segments).map (c :: ·) := by
  cases segments with
  | nil => rfl
  | cons first others =>
    cases first with
    | literal text =>
      rw [addLiteral, expandSegments, expandSegments]
      simp only [expandSegment]
      cases expandSegments values others <;> rfl
    | simple name =>
      rw [addLiteral, expandSegments]
      · simp only [expandSegment]
        cases expandSegments values (.simple name :: others) <;> rfl
      · exact fun _ _ h => by cases h
    | reserved name =>
      rw [addLiteral, expandSegments]
      · simp only [expandSegment]
        cases expandSegments values (.reserved name :: others) <;> rfl
      · exact fun _ _ h => by cases h

theorem expandSegments_cons_eq_ok {segment : Segment} {segments : List Segment} {text : List Char} :
    expandSegments values (segment :: segments) = .ok text ↔
      ∃ first others, expandSegment values segment = .ok first ∧
        expandSegments values segments = .ok others ∧ text = first ++ others := by
  rw [expandSegments]
  cases expandSegment values segment with
  | error name => simp
  | ok first =>
    cases expandSegments values segments with
    | error name => simp
    | ok others => simp [eq_comm]

/-- A text without an opening brace at the start of a template is kept. -/
theorem expandSegments_parse_append {text : List Char} (h : ∀ c ∈ text, c ≠ '\x7b')
    (rest : List Char) :
    expandSegments values (parse (text ++ rest)) =
      (expandSegments values (parse rest)).map (text ++ ·) := by
  induction text with
  | nil =>
    rw [List.nil_append]
    cases expandSegments values (parse rest) <;> rfl
  | cons c text ih =>
    rw [List.cons_append, parse, if_neg (h c List.mem_cons_self), expandSegments_addLiteral,
      ih fun d hd => h d (List.mem_cons_of_mem c hd)]
    cases expandSegments values (parse rest) <;> rfl

/-! ## Filling in segments -/

/-- The text a whole segment becomes decodes to what the segment stands for, and holds no mark. -/
theorem expandSegment_whole {part : Segment} {text : List Char} (hpart : part.IsWhole)
    (h : expandSegment values part = .ok text) :
    part.meaning? values = some (Percent.decode text) ∧
      ∀ c ∈ text, Percent.isUnreserved c = true ∨ c = '%' := by
  cases part with
  | literal literal =>
    cases h
    obtain ⟨-, -, -, hchars⟩ := hpart
    -- A literal without marks is its own encoding.
    have hself : Percent.encode Percent.isUnreserved text = text := Percent.encode_of_keeps hchars
    refine ⟨?_, fun c hc => Or.inl (hchars c hc)⟩
    rw [← hself, Percent.decode_encode (by decide), hself]
    rfl
  | simple name =>
    rw [expandSegment] at h
    split at h
    · next value hvalue =>
      cases h
      constructor
      · rw [Segment.meaning?, hvalue, Segment.encodeSimple, Percent.decode_encode (by decide)]
        rfl
      · exact Percent.encode_forall (Or.inr rfl)
          (fun n hn => Or.inl (Percent.isUnreserved_hexDigitUpper n hn))
          fun c _ hkeep => Or.inl hkeep
    · cases h
  | reserved name => cases hpart

theorem expandSegments_source {part : Segment} {text rest : List Char} (hpart : part.IsWhole)
    (h : expandSegments values (parse (part.source ++ rest)) = .ok text) :
    ∃ first others, expandSegment values part = .ok first ∧
      expandSegments values (parse rest) = .ok others ∧ text = first ++ others := by
  cases part with
  | literal literal =>
    obtain ⟨-, -, -, hchars⟩ := hpart
    -- A literal starts no placeholder, for a brace is reserved.
    have hbrace : ∀ c ∈ literal, c ≠ '\x7b' := by
      rintro c hc rfl
      exact absurd (hchars _ hc) (by decide)
    rw [Segment.source, expandSegments_parse_append hbrace, map_eq_ok] at h
    obtain ⟨others, hothers, rfl⟩ := h
    exact ⟨literal, others, rfl, hothers, rfl⟩
  | simple name =>
    obtain ⟨hne, hchars, hsimple⟩ := hpart
    have hsource : (Segment.simple name).source ++ rest = braced name ++ rest := rfl
    rw [hsource, parse_braces ⟨hne, hchars⟩, hsimple] at h
    exact expandSegments_cons_eq_ok.1 h
  | reserved name => cases hpart

/-- A list of whole segments is filled in segment by segment. -/
theorem expandSegments_joined {parts : List Segment} (hparts : ∀ part ∈ parts, part.IsWhole)
    {text : List Char}
    (h : expandSegments values (parse (List.intercalate ['/'] (parts.map Segment.source))) =
      .ok text) :
    ∃ filled, text = List.intercalate ['/'] filled ∧
      List.Forall₂ (fun part segment => expandSegment values part = .ok segment) parts filled := by
  induction parts generalizing text with
  | nil =>
    rw [List.map_nil, List.intercalate_nil, parse, expandSegments] at h
    cases h
    exact ⟨[], rfl, List.Forall₂.nil⟩
  | cons part parts ih =>
    have hpart := hparts part List.mem_cons_self
    cases parts with
    | nil =>
      have hjoined : List.intercalate ['/'] ([part].map Segment.source) = part.source ++ [] := by
        simp [List.intercalate]
      rw [hjoined] at h
      obtain ⟨first, others, hfirst, hothers, rfl⟩ := expandSegments_source hpart h
      rw [parse, expandSegments] at hothers
      cases hothers
      exact ⟨[first], by simp [List.intercalate], List.Forall₂.cons hfirst List.Forall₂.nil⟩
    | cons second parts =>
      have hjoined : List.intercalate ['/'] ((part :: second :: parts).map Segment.source) =
          part.source ++
            (['/'] ++ List.intercalate ['/'] ((second :: parts).map Segment.source)) := by
        simp [List.intercalate]
      rw [hjoined] at h
      obtain ⟨first, others, hfirst, hothers, rfl⟩ := expandSegments_source hpart h
      have hslash : ∀ c ∈ ['/'], c ≠ '\x7b' := by
        intro c hc
        obtain rfl := List.mem_singleton.1 hc
        decide
      rw [expandSegments_parse_append hslash, map_eq_ok] at hothers
      obtain ⟨behind, hbehind, rfl⟩ := hothers
      obtain ⟨filled, rfl, hfilled⟩ :=
        ih (fun p hp => hparts p (List.mem_cons_of_mem part hp)) hbehind
      refine ⟨first :: filled, ?_, List.Forall₂.cons hfirst hfilled⟩
      cases hfilled with
      | cons _ _ => simp [List.intercalate]

/-! ## Placeholders without a value -/

theorem expandSegment_error_iff {segment : Segment} {name : String} :
    expandSegment values segment = .error name ↔
      segment.name? = some name ∧ values.lookup name = none := by
  have hlookup {inside : List Char} {outcome : Except String (List Char)}
      (hsome : ∀ value, values.lookup (String.ofList inside) = some value →
        ∃ text, outcome = .ok text)
      (hnone : values.lookup (String.ofList inside) = none →
        outcome = .error (String.ofList inside)) :
      outcome = .error name ↔
        some (String.ofList inside) = some name ∧ values.lookup name = none := by
    cases hvalue : values.lookup (String.ofList inside) with
    | some value =>
      obtain ⟨text, rfl⟩ := hsome value hvalue
      refine iff_of_false (fun h => by cases h) ?_
      rintro ⟨hname, hmissing⟩
      rw [← Option.some.inj hname, hvalue] at hmissing
      cases hmissing
    | none =>
      rw [hnone hvalue]
      simp only [Except.error.injEq, Option.some.injEq, iff_self_and]
      rintro rfl
      exact hvalue
  cases segment with
  | literal text => exact iff_of_false (fun h => by cases h) fun h => by cases h.1
  | simple inside =>
    exact hlookup (fun value hvalue => ⟨_, by rw [expandSegment, hvalue]⟩) fun hnone => by
      rw [expandSegment, hnone]
  | reserved inside =>
    exact hlookup (fun value hvalue => ⟨_, by rw [expandSegment, hvalue]⟩) fun hnone => by
      rw [expandSegment, hnone]

theorem expandSegments_error_iff {segments : List Segment} {name : String} :
    expandSegments values segments = .error name ↔
      ((segments.filterMap Segment.name?).filter fun n => (values.lookup n).isNone).head? =
        some name := by
  induction segments with
  | nil => exact iff_of_false (fun h => by cases h) fun h => by cases h
  | cons segment segments ih =>
    rw [expandSegments]
    cases hsegment : expandSegment values segment with
    | error missing =>
      obtain ⟨hname, hnone⟩ := expandSegment_error_iff.1 hsegment
      rw [List.filterMap_cons_some hname, List.filter_cons_of_pos (by rw [hnone]; rfl)]
      simp
    | ok text =>
      -- What has a value is not missing, so the first that is stands in the rest.
      have hrest : ((segment :: segments).filterMap Segment.name?).filter
            (fun n => (values.lookup n).isNone) =
          (segments.filterMap Segment.name?).filter fun n => (values.lookup n).isNone := by
        cases hname : segment.name? with
        | none => rw [List.filterMap_cons_none hname]
        | some n =>
          rw [List.filterMap_cons_some hname, List.filter_cons_of_neg]
          intro hnone
          rw [expandSegment_error_iff.2 ⟨hname, Option.isNone_iff_eq_none.1 hnone⟩] at hsegment
          cases hsegment
      rw [hrest, ← ih]
      dsimp only
      cases expandSegments values segments <;> simp

/-- The fault of a template is its first placeholder without a value. -/
theorem expand_error_iff {t : Template} {name : String} :
    t.expand values = .error name ↔ (t.missing values).head? = some name := by
  rw [missing, placeholders, ← expandSegments_error_iff, expand]
  cases expandSegments values t.segments <;> simp [Except.map]

/-- A template is filled in if no placeholder is without a value. -/
theorem expand_isOk {t : Template} (h : t.missing values = []) :
    ∃ text, t.expand values = .ok text := by
  cases hexpand : t.expand values with
  | ok text => exact ⟨text, rfl⟩
  | error name =>
    rw [expand_error_iff, h] at hexpand
    cases hexpand

end Template
end ApiDiscovery.Uri
