import ApiDiscovery.Proofs.Uri.Template

/-!
# What placeholders become

A template fails with its first placeholder without a value, or else every placeholder becomes a
text of characters to keep and of escapes that is read back as the value (`expand_isFilled`). Hence
where a mark stands between any two placeholders, the values can be read off the expansion: the text
of a placeholder ends at the first character that can be no part of it
(`lookup_eq_of_expandSegments`).
-/

namespace ApiDiscovery.Uri

open ApiDiscovery.Text

namespace Percent

/-! ## Escaped texts -/

/-- The character is a digit of an escape. -/
def isEscapeDigit (c : Char) : Bool := ('0' ≤ c && c ≤ '9') || ('A' ≤ c && c ≤ 'F')

/-- The text consists of characters to keep and of escapes. -/
inductive IsEscaped (keep : Char → Bool) : List Char → Prop
  | nil : IsEscaped keep []
  | kept {c : Char} {rest : List Char} (hc : keep c = true) (hrest : IsEscaped keep rest) :
      IsEscaped keep (c :: rest)
  | escape {a b : Char} {rest : List Char} (ha : isEscapeDigit a = true)
      (hb : isEscapeDigit b = true) (hrest : IsEscaped keep rest) :
      IsEscaped keep ('%' :: a :: b :: rest)

/-- The text is escaped, and it stands for the value. -/
structure IsEncoding (keep : Char → Bool) (value : String) (text : List Char) : Prop where
  escaped : IsEscaped keep text
  decoded : Utf8.decode (bytes text) = .ok value.toList

variable {keep : Char → Bool}

theorem isEscapeDigit_hexDigitUpper : ∀ n < 16, isEscapeDigit (hexDigitUpper n) = true := by
  decide

theorem isEscaped_escapes (bs : List UInt8) {rest : List Char} (h : IsEscaped keep rest) :
    IsEscaped keep (bs.flatMap escapeByte ++ rest) := by
  induction bs with
  | nil => exact h
  | cons b bs ih =>
    have hb : b.toNat < 256 := b.toNat_lt
    exact .escape (isEscapeDigit_hexDigitUpper _ (by omega))
      (isEscapeDigit_hexDigitUpper _ (by omega)) ih

theorem isEscaped_encode (s : List Char) : IsEscaped keep (encode keep s) := by
  induction s with
  | nil => exact .nil
  | cons c s ih =>
    rw [encode_cons, encodeChar]
    split
    · next hc => exact .kept hc ih
    · exact isEscaped_escapes _ ih

theorem isEncoding_encode (hpercent : keep '%' = false) (value : String) :
    IsEncoding keep value (encode keep value.toList) := by
  refine ⟨isEscaped_encode _, ?_⟩
  have hbytes := bytes_encode hpercent value.toList []
  rw [List.append_nil, bytes, List.append_nil] at hbytes
  rw [hbytes, Utf8.decode_encode]

end Percent

/-! ## Filled segments -/

/-- The text stands for the segment: it is the literal, or it encodes the value of the placeholder.
The value of a simple placeholder keeps unreserved characters only, that of a reserved one keeps
reserved characters too. -/
def Segment.IsFilled (values : List (String × String)) : Segment → List Char → Prop
  | literal text, filled => filled = text
  | simple name, filled => ∃ value, values.lookup (String.ofList name) = some value ∧
      Percent.IsEncoding Percent.isUnreserved value filled
  | reserved name, filled => ∃ value, values.lookup (String.ofList name) = some value ∧
      Percent.IsEncoding (fun c => Percent.isUnreserved c || Percent.isReserved c) value filled

namespace Template

variable {values others : List (String × String)}

theorem isFilled_of_expandSegment {segment : Segment} {text : List Char}
    (h : expandSegment values segment = .ok text) : segment.IsFilled values text := by
  cases segment with
  | literal literal =>
    cases h
    rfl
  | simple name =>
    rw [expandSegment] at h
    split at h
    · next value hvalue =>
      cases h
      exact ⟨value, hvalue, Percent.isEncoding_encode (by decide) value⟩
    · cases h
  | reserved name =>
    rw [expandSegment] at h
    split at h
    · next value hvalue =>
      cases h
      exact ⟨value, hvalue, Percent.isEncoding_encode (by decide) value⟩
    · cases h

theorem isFilled_of_expandSegments {segments : List Segment} {text : List Char}
    (h : expandSegments values segments = .ok text) :
    ∃ parts, text = parts.flatten ∧ List.Forall₂ (Segment.IsFilled values) segments parts := by
  induction segments generalizing text with
  | nil =>
    cases h
    exact ⟨[], rfl, .nil⟩
  | cons segment segments ih =>
    obtain ⟨first, rest, hfirst, hrest, rfl⟩ := expandSegments_cons_eq_ok.1 h
    obtain ⟨parts, rfl, hparts⟩ := ih hrest
    exact ⟨first :: parts, rfl, .cons (isFilled_of_expandSegment hfirst) hparts⟩

/-! ## Separated placeholders -/

/-- The character may stand in the text of a simple placeholder. -/
def isFilling (c : Char) : Bool := Percent.isUnreserved c || c == '%'

/-- The literal text in front of the first placeholder. -/
def gap (segments : List Segment) : List Char :=
  sourceOf (segments.takeWhile fun s => s.name?.isNone)

/-- Between two placeholders that follow each other stands a character that can be in neither of
their texts. -/
def isSeparated : List Segment → Bool
  | [] => true
  | segment :: rest =>
    (segment.name?.isNone || rest.all (fun s => s.name?.isNone) ||
      (gap rest).any fun c => !isFilling c) && isSeparated rest

theorem encodeSimple_forall (value : String) :
    ∀ c ∈ Segment.encodeSimple value, isFilling c = true := by
  refine Percent.encode_forall (by decide) (fun n hn => ?_) fun c _ hkeep => ?_
  · rw [isFilling, Percent.isUnreserved_hexDigitUpper n hn, Bool.true_or]
  · rw [isFilling, hkeep, Bool.true_or]

theorem encodeSimple_injective {v w : String}
    (h : Segment.encodeSimple v = Segment.encodeSimple w) : v = w := by
  have hdecoded := congrArg Percent.decode h
  rw [Segment.encodeSimple, Segment.encodeSimple, Percent.decode_encode (by decide),
    Percent.decode_encode (by decide)] at hdecoded
  exact String.toList_inj.1 hdecoded

/-- Literals become what they are, whatever the values. -/
theorem expandSegments_literals {literals : List Segment}
    (h : ∀ s ∈ literals, s.name?.isNone = true) (rest : List Segment) :
    expandSegments values (literals ++ rest) =
      (expandSegments values rest).map (sourceOf literals ++ ·) := by
  induction literals with
  | nil =>
    rw [List.nil_append]
    cases expandSegments values rest <;> rfl
  | cons first literals ih =>
    obtain ⟨hfirst, hliterals⟩ := List.forall_mem_cons.1 h
    cases first with
    | literal text =>
      rw [List.cons_append, expandSegments, ih hliterals, sourceOf_cons]
      cases expandSegments values rest with
      | error name => rfl
      | ok others =>
        show Except.ok (text ++ (sourceOf literals ++ others)) = _
        rw [← List.append_assoc]
        rfl
    | simple name => cases hfirst
    | reserved name => cases hfirst

/-- What comes of segments starts with the literal text in front of the first placeholder. -/
theorem gap_of_expandSegments {segments : List Segment} {text : List Char}
    (h : expandSegments values segments = .ok text) : ∃ rest, text = gap segments ++ rest := by
  have hliterals : ∀ s ∈ segments.takeWhile fun s => s.name?.isNone, s.name?.isNone = true :=
    fun s hs => List.mem_takeWhile_imp (p := fun s : Segment => s.name?.isNone) hs
  rw [← List.takeWhile_append_dropWhile (p := fun s : Segment => s.name?.isNone) (l := segments),
    expandSegments_literals hliterals, Outcome.map_eq_ok] at h
  obtain ⟨rest, -, rfl⟩ := h
  exact ⟨rest, rfl⟩

/-- The text of a placeholder can be told from the text behind it. -/
theorem encodeSimple_append_inj {v w : String} {rest : List Segment} {a b : List Char}
    (hrest : (rest.all (fun s => s.name?.isNone) || (gap rest).any fun c => !isFilling c) = true)
    (ha : expandSegments values rest = .ok a) (hb : expandSegments others rest = .ok b)
    (h : Segment.encodeSimple v ++ a = Segment.encodeSimple w ++ b) : v = w ∧ a = b := by
  have htexts : Segment.encodeSimple v = Segment.encodeSimple w := by
    rcases Bool.or_eq_true_iff.1 hrest with hliterals | hmark
    · -- Behind the last placeholder the same literals stand in both texts.
      have hsame (some : List (String × String)) :
          expandSegments some rest = .ok (sourceOf rest) := by
        have hall : expandSegments some (rest ++ []) =
            (expandSegments some []).map (sourceOf rest ++ ·) :=
          expandSegments_literals (List.all_eq_true.1 hliterals) []
        rwa [List.append_nil, expandSegments, Except.map, List.append_nil] at hall
      rw [hsame] at ha hb
      cases ha
      cases hb
      exact List.append_cancel_right h
    · -- Before another one a mark stands that ends the text.
      obtain ⟨c, hc, hstop⟩ := List.any_eq_true.1 hmark
      obtain ⟨a, rfl⟩ := gap_of_expandSegments ha
      obtain ⟨b, rfl⟩ := gap_of_expandSegments hb
      exact append_run_cancel (encodeSimple_forall v) (encodeSimple_forall w)
        ⟨c, hc, by simpa using hstop⟩ h
  rw [htexts] at h
  exact ⟨encodeSimple_injective htexts, List.append_cancel_left h⟩

/-- The values of separated simple placeholders can be read off what the segments become. -/
theorem lookup_eq_of_expandSegments {segments : List Segment} {text : List Char}
    (hsimple : ∀ name, .reserved name ∉ segments) (hseparated : isSeparated segments = true)
    (h : expandSegments values segments = .ok text)
    (hother : expandSegments others segments = .ok text) :
    ∀ name ∈ segments.filterMap Segment.name?, values.lookup name = others.lookup name := by
  induction segments generalizing text with
  | nil => exact fun name hname => absurd hname List.not_mem_nil
  | cons segment segments ih =>
    obtain ⟨first, rest, hfirst, hrest, rfl⟩ := expandSegments_cons_eq_ok.1 h
    obtain ⟨first', rest', hfirst', hrest', heq⟩ := expandSegments_cons_eq_ok.1 hother
    rw [isSeparated, Bool.and_eq_true] at hseparated
    have hrestSimple : ∀ name, .reserved name ∉ segments := fun name hname =>
      hsimple name (List.mem_cons_of_mem segment hname)
    cases segment with
    | literal literal =>
      cases hfirst
      cases hfirst'
      obtain rfl := List.append_cancel_left heq
      exact ih hrestSimple hseparated.2 hrest hrest'
    | simple name =>
      rw [expandSegment] at hfirst hfirst'
      split at hfirst
      · next v hv =>
        split at hfirst'
        · next w hw =>
          cases hfirst
          cases hfirst'
          obtain ⟨rfl, rfl⟩ := encodeSimple_append_inj hseparated.1 hrest hrest' heq
          refine List.forall_mem_cons.2 ⟨?_, ih hrestSimple hseparated.2 hrest hrest'⟩
          rw [hv, hw]
        · cases hfirst'
      · cases hfirst
    | reserved name => exact absurd List.mem_cons_self (hsimple name)

/-- A template fails with its first placeholder without a value, and with nothing else. If there is
none, every placeholder becomes a text of characters that it may keep and of escapes, and read back
that is its value. Where all placeholders are simple and separated, no other values have the same
expansion. -/
theorem expand_isFilled (t : Template) (values : List (String × String)) :
    (∀ name, t.expand values = .error name ↔ (t.missing values).head? = some name) ∧
      (t.missing values = [] → ∃ parts, t.expand values = .ok (String.ofList parts.flatten) ∧
        List.Forall₂ (Segment.IsFilled values) t.segments parts) ∧
      ((∀ name, .reserved name ∉ t.segments) → isSeparated t.segments = true →
        ∀ others text, t.expand values = .ok text → t.expand others = .ok text →
          ∀ name ∈ t.placeholders, values.lookup name = others.lookup name) := by
  refine ⟨fun name => expand_error_iff, fun hnone => ?_, ?_⟩
  · obtain ⟨text, htext⟩ := expand_isOk hnone
    obtain ⟨chars, hchars, rfl⟩ := Outcome.map_eq_ok.1 htext
    obtain ⟨parts, rfl, hparts⟩ := isFilled_of_expandSegments hchars
    exact ⟨parts, htext, hparts⟩
  · intro hsimple hseparated others text h hother
    obtain ⟨chars, hchars, rfl⟩ := Outcome.map_eq_ok.1 h
    obtain ⟨chars', hchars', heq⟩ := Outcome.map_eq_ok.1 hother
    obtain rfl : chars' = chars := by simpa using congrArg String.toList heq
    exact lookup_eq_of_expandSegments hsimple hseparated hchars hchars'

/-- A template with a placeholder that comes twice. -/
def samplePaged : Template := ofText "\x7bbook\x7d/\x7bpage\x7d:\x7bbook\x7d"

theorem expand_isFilled_samplePaged :
    samplePaged.missing [("page", "a/b"), ("book", "é")] = [] ∧
      (∃ parts, samplePaged.expand [("page", "a/b"), ("book", "é")] =
          .ok (String.ofList parts.flatten) ∧
        List.Forall₂ (Segment.IsFilled [("page", "a/b"), ("book", "é")]) samplePaged.segments
          parts) ∧
      samplePaged.expand [("page", "a/b"), ("book", "é")] = .ok "%C3%A9/a%2Fb:%C3%A9" ∧
      samplePaged.expand [("book", "é"), ("size", "1"), ("page", "a/b")] =
        .ok "%C3%A9/a%2Fb:%C3%A9" ∧
      [("page", "a/b"), ("book", "é")].lookup "page" =
        [("book", "é"), ("size", "1"), ("page", "a/b")].lookup "page" := by
  have hsegments : samplePaged.segments = [.simple ['b', 'o', 'o', 'k'], .literal ['/'],
      .simple ['p', 'a', 'g', 'e'], .literal [':'], .simple ['b', 'o', 'o', 'k']] := by decide +kernel
  have hsimple : ∀ name, .reserved name ∉ samplePaged.segments := by
    intro name
    rw [hsegments]
    simp
  have hseparated : isSeparated samplePaged.segments = true := by
    rw [hsegments]
    decide
  have hmissing : samplePaged.missing [("page", "a/b"), ("book", "é")] = [] := by decide +kernel
  have hfirst : samplePaged.expand [("page", "a/b"), ("book", "é")] =
      .ok "%C3%A9/a%2Fb:%C3%A9" := by decide +kernel
  have hsecond : samplePaged.expand [("book", "é"), ("size", "1"), ("page", "a/b")] =
      .ok "%C3%A9/a%2Fb:%C3%A9" := by decide +kernel
  have hpage : "page" ∈ samplePaged.placeholders := by
    rw [placeholders, hsegments]
    decide
  obtain ⟨-, htotal, hinjective⟩ :=
    expand_isFilled samplePaged [("page", "a/b"), ("book", "é")]
  exact ⟨hmissing, htotal hmissing, hfirst, hsecond,
    hinjective hsimple hseparated _ _ hfirst hsecond "page" hpage⟩

end Template
end ApiDiscovery.Uri
