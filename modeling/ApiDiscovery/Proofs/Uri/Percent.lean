import ApiDiscovery.Proofs.Text.Utf8
import ApiDiscovery.Uri.Percent

/-!
# Percent encoding is undone by decoding

If the percent sign itself is never kept, decoding an encoded text gives the text back
(`decode_encode`). What an encoded text holds is known character by character (`encode_forall`), and
a text that holds only characters to keep is its own encoding (`encode_of_keeps`); where the
percent sign and the digits of escapes are kept, encoding a second time changes nothing
(`encode_encode`).
-/

namespace ApiDiscovery.Uri.Percent

open ApiDiscovery.Text

/-! ## Digits of escapes -/

theorem hexValue_hexDigitUpper : ∀ n < 16, hexValue? (hexDigitUpper n) = some n := by
  decide

/-- The digits of an escape are unreserved. -/
theorem isUnreserved_hexDigitUpper : ∀ n < 16, isUnreserved (hexDigitUpper n) = true := by
  decide

theorem byte?_escape (b : UInt8) :
    byte? (hexDigitUpper (b.toNat / 16)) (hexDigitUpper (b.toNat % 16)) = some b := by
  have hb : b.toNat < 256 := b.toNat_lt
  unfold byte?
  rw [hexValue_hexDigitUpper _ (by omega), hexValue_hexDigitUpper _ (by omega)]
  show some (UInt8.ofNat (b.toNat / 16 * 16 + b.toNat % 16)) = some b
  rw [show b.toNat / 16 * 16 + b.toNat % 16 = b.toNat by omega, UInt8.ofNat_toNat]

/-! ## What an encoded text holds -/

section Characters

variable {keep : Char → Bool} {Q : Char → Prop}

theorem escapeByte_forall (hpercent : Q '%') (hdigit : ∀ n < 16, Q (hexDigitUpper n)) (b : UInt8) :
    ∀ c ∈ escapeByte b, Q c := by
  intro c hc
  have hb : b.toNat < 256 := b.toNat_lt
  unfold escapeByte at hc
  simp only [List.mem_cons, List.not_mem_nil, or_false] at hc
  rcases hc with rfl | rfl | rfl
  · exact hpercent
  · exact hdigit _ (by omega)
  · exact hdigit _ (by omega)

theorem encodeChar_forall (hpercent : Q '%') (hdigit : ∀ n < 16, Q (hexDigitUpper n)) {d : Char}
    (hkeep : keep d = true → Q d) : ∀ c ∈ encodeChar keep d, Q c := by
  intro c hc
  unfold encodeChar at hc
  split at hc
  · next hd =>
    rw [List.mem_singleton] at hc
    subst hc
    exact hkeep hd
  · obtain ⟨b, -, hcb⟩ := List.mem_flatMap.1 hc
    exact escapeByte_forall hpercent hdigit b c hcb

/-- A property of the characters that are kept, of the percent sign and of the digits of escapes
holds of every character of an encoded text. -/
theorem encode_forall (hpercent : Q '%') (hdigit : ∀ n < 16, Q (hexDigitUpper n)) {s : List Char}
    (hkeep : ∀ c ∈ s, keep c = true → Q c) : ∀ c ∈ encode keep s, Q c := by
  intro c hc
  obtain ⟨d, hd, hcd⟩ := List.mem_flatMap.1 hc
  exact encodeChar_forall hpercent hdigit (hkeep d hd) c hcd

end Characters

section Encoding

variable {keep : Char → Bool}

@[simp]
theorem encode_nil : encode keep [] = [] := rfl

theorem encode_cons (c : Char) (s : List Char) :
    encode keep (c :: s) = encodeChar keep c ++ encode keep s := List.flatMap_cons

theorem encodeChar_of_keeps {c : Char} (h : keep c = true) : encodeChar keep c = [c] := if_pos h

/-- An encoded character is either kept or starts with a percent sign. -/
theorem encodeChar_cases (keep : Char → Bool) (c : Char) :
    keep c = true ∧ encodeChar keep c = [c] ∨ ∃ rest, encodeChar keep c = '%' :: rest := by
  by_cases h : keep c = true
  · exact Or.inl ⟨h, encodeChar_of_keeps h⟩
  · right
    obtain ⟨lead, tail, henc, -⟩ := Utf8.step_encodeChar c []
    rw [encodeChar, if_neg h, henc, List.flatMap_cons]
    exact ⟨_, rfl⟩

theorem encodeChar_ne_nil (c : Char) : encodeChar keep c ≠ [] := by
  rcases encodeChar_cases keep c with ⟨-, h⟩ | ⟨rest, h⟩
  · rw [h]
    exact List.cons_ne_nil c []
  · rw [h]
    exact List.cons_ne_nil '%' rest

theorem encode_eq_nil {s : List Char} : encode keep s = [] ↔ s = [] := by
  cases s with
  | nil => simp
  | cons c s => simp [encode_cons, encodeChar_ne_nil]

/-- Before the first escape an encoded text starts as the text does. -/
theorem append_of_encode {s a rest : List Char} (ha : '%' ∉ a) (h : encode keep s = a ++ rest) :
    ∃ t, s = a ++ t ∧ encode keep t = rest := by
  induction a generalizing s with
  | nil => exact ⟨s, rfl, h⟩
  | cons d a ih =>
    rw [List.mem_cons, not_or] at ha
    cases s with
    | nil => cases h
    | cons c s =>
      -- An escape would start with a percent sign, which the text in front does not hold.
      rw [encode_cons, List.cons_append] at h
      rcases encodeChar_cases keep c with ⟨-, hc⟩ | ⟨tail, hc⟩
      · rw [hc, List.singleton_append, List.cons.injEq] at h
        obtain ⟨t, rfl, ht⟩ := ih ha.2 h.2
        exact ⟨t, by rw [h.1, List.cons_append], ht⟩
      · rw [hc, List.cons_append, List.cons.injEq] at h
        exact absurd h.1 ha.1

theorem encode_of_keeps {s : List Char} (h : ∀ c ∈ s, keep c = true) : encode keep s = s := by
  induction s with
  | nil => rfl
  | cons c s ih =>
    rw [encode_cons, encodeChar_of_keeps (h c List.mem_cons_self),
      ih fun d hd => h d (List.mem_cons_of_mem c hd)]
    rfl

theorem encode_encode (hpercent : keep '%' = true)
    (hdigit : ∀ n < 16, keep (hexDigitUpper n) = true) (s : List Char) :
    encode keep (encode keep s) = encode keep s :=
  encode_of_keeps (encode_forall (Q := fun c => keep c = true) hpercent hdigit fun _ _ h => h)

end Encoding

/-! ## Decoding -/

theorem bytes_nil : bytes [] = [] := rfl

theorem bytes_cons_of_ne {c : Char} (h : c ≠ '%') (rest : List Char) :
    bytes (c :: rest) = Utf8.encodeChar c ++ bytes rest :=
  bytes.eq_3 c rest fun _ _ _ hc _ => h hc

theorem bytes_escapeByte (b : UInt8) (rest : List Char) :
    bytes (escapeByte b ++ rest) = b :: bytes rest := by
  show bytes ('%' :: hexDigitUpper (b.toNat / 16) :: hexDigitUpper (b.toNat % 16) :: rest) = _
  rw [bytes, byte?_escape]

theorem bytes_escapes (bs : List UInt8) (rest : List Char) :
    bytes (bs.flatMap escapeByte ++ rest) = bs ++ bytes rest := by
  induction bs with
  | nil => rfl
  | cons b bs ih =>
    rw [List.flatMap_cons, List.append_assoc, bytes_escapeByte, ih, List.cons_append]

theorem bytes_encode {keep : Char → Bool} (hpercent : keep '%' = false) (s rest : List Char) :
    bytes (encode keep s ++ rest) = Utf8.encode s ++ bytes rest := by
  induction s with
  | nil => rfl
  | cons c s ih =>
    rw [encode_cons, List.append_assoc, Utf8.encode_cons, List.append_assoc]
    -- The bytes of a kept character are read as they are, those of another one from its escapes.
    by_cases hc : keep c = true
    · have hne : c ≠ '%' := by
        rintro rfl
        rw [hpercent] at hc
        cases hc
      rw [encodeChar_of_keeps hc, List.singleton_append, bytes_cons_of_ne hne, ih]
    · rw [encodeChar, if_neg hc, bytes_escapes, ih]

theorem decode_encode {keep : Char → Bool} (hpercent : keep '%' = false) (s : List Char) :
    decode (encode keep s) = s := by
  have h := bytes_encode hpercent s []
  rw [List.append_nil, bytes_nil, List.append_nil] at h
  rw [decode, h, Utf8.decodeTolerant_encode]

/-- A character of ASCII that no escape holds is not lost in decoding. -/
theorem mem_bytes {m : Char} (hm : m.toNat < 0x80) (hpercent : m ≠ '%')
    (hdigit : hexValue? m = none) {s : List Char} (h : m ∈ s) : UInt8.ofNat m.toNat ∈ bytes s := by
  have hself : ∀ rest, UInt8.ofNat m.toNat ∈ Utf8.encodeChar m ++ rest := by
    intro rest
    rw [Utf8.encodeChar, if_pos hm]
    exact List.mem_cons_self
  induction s using bytes.induct with
  | case1 => exact absurd h List.not_mem_nil
  | case2 a b rest byte hbyte ih =>
    rw [bytes, hbyte]
    -- Both characters of the escape are digits, so the character stands behind it.
    have hvalues : hexValue? a ≠ none ∧ hexValue? b ≠ none := by
      unfold byte? at hbyte
      cases ha : hexValue? a with
      | none =>
        rw [ha] at hbyte
        cases hbyte
      | some high =>
        cases hb : hexValue? b with
        | none =>
          rw [ha, hb] at hbyte
          cases hbyte
        | some low => exact ⟨Option.some_ne_none high, Option.some_ne_none low⟩
    refine List.mem_cons_of_mem byte (ih ?_)
    rcases List.mem_cons.1 h with h | h
    · exact absurd h hpercent
    rcases List.mem_cons.1 h with rfl | h
    · exact absurd hdigit hvalues.1
    rcases List.mem_cons.1 h with rfl | h
    · exact absurd hdigit hvalues.2
    · exact h
  | case3 a b rest hbyte ih =>
    rw [bytes, hbyte]
    exact List.mem_append_right _ (ih ((List.mem_cons.1 h).resolve_left hpercent))
  | case4 c rest hother ih =>
    rw [bytes.eq_3 c rest hother]
    rcases List.mem_cons.1 h with rfl | h
    · exact hself _
    · exact List.mem_append_right _ (ih h)

theorem mem_decode {m : Char} (hm : m.toNat < 0x80) (hpercent : m ≠ '%')
    (hdigit : hexValue? m = none) {s : List Char} (h : m ∈ s) : m ∈ decode s := by
  have hbyte : (UInt8.ofNat m.toNat).toNat = m.toNat := Utf8.toNat_byte (by omega)
  have hsmall : UInt8.ofNat m.toNat < 0x80 := Utf8.lt_of_toNat (by rw [hbyte]; exact hm)
  have hmem := Utf8.mem_decodeTolerant hsmall _ (mem_bytes hm hpercent hdigit h)
  rw [hbyte, Char.ofNat_toNat] at hmem
  exact hmem

end ApiDiscovery.Uri.Percent
