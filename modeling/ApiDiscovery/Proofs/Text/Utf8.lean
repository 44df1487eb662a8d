import ApiDiscovery.Text.Utf8
import Mathlib.Data.List.Basic

/-!
# Reading UTF-8 back

The bytes of a character are read as that character and nothing after them is touched
(`step_encodeChar`), so tolerant reading gives back every text from its bytes
(`decodeTolerant_encode`). Whatever bytes it reads, it loses no character of ASCII
(`mem_decodeTolerant`).
-/

namespace ApiDiscovery.Text.Utf8

/-! ## Bytes as numbers -/

theorem toNat_byte {n : Nat} (h : n < 256) : (UInt8.ofNat n).toNat = n := by
  rw [UInt8.toNat_ofNat', Nat.mod_eq_of_lt h]

theorem not_lt_of_toNat {a b : UInt8} (h : b.toNat ≤ a.toNat) : ¬ a < b := by
  rw [UInt8.lt_iff_toNat_lt]
  omega

theorem lt_of_toNat {a b : UInt8} (h : a.toNat < b.toNat) : a < b :=
  UInt8.lt_iff_toNat_lt.2 h

theorem isContinuation_tail {n : Nat} (h : n < 64) :
    isContinuation (UInt8.ofNat (0x80 + n)) = true := by
  have hn : (UInt8.ofNat (0x80 + n)).toNat = 0x80 + n := toNat_byte (by omega)
  unfold isContinuation
  rw [Bool.and_eq_true, decide_eq_true_eq, decide_eq_true_eq, UInt8.le_iff_toNat_le,
    UInt8.le_iff_toNat_le, hn]
  constructor
  · show 0x80 ≤ 0x80 + n
    omega
  · show 0x80 + n ≤ 0xbf
    omega

theorem payload_tail {n : Nat} (h : n < 64) : payload (UInt8.ofNat (0x80 + n)) = n := by
  unfold payload
  rw [toNat_byte (by omega)]
  omega

/-- A second byte passes if it is in the narrower range that its lead asks for. -/
theorem isSecond_tail {lead : UInt8} {n : Nat} (h : n < 64)
    (he0 : lead.toNat = 0xe0 → 0x20 ≤ n) (hed : lead.toNat = 0xed → n < 0x20)
    (hf0 : lead.toNat = 0xf0 → 0x10 ≤ n) (hf4 : lead.toNat = 0xf4 → n < 0x10) :
    isSecond lead (UInt8.ofNat (0x80 + n)) = true := by
  have hn : (UInt8.ofNat (0x80 + n)).toNat = 0x80 + n := toNat_byte (by omega)
  unfold isSecond
  rw [isContinuation_tail h, Bool.true_and]
  split
  · next heq =>
    have := he0 (congrArg UInt8.toNat (beq_iff_eq.1 heq))
    exact decide_eq_true (UInt8.le_iff_toNat_le.2 (by rw [hn]; show 0xa0 ≤ 0x80 + n; omega))
  split
  · next heq =>
    have := hed (congrArg UInt8.toNat (beq_iff_eq.1 heq))
    exact decide_eq_true (UInt8.le_iff_toNat_le.2 (by rw [hn]; show 0x80 + n ≤ 0x9f; omega))
  split
  · next heq =>
    have := hf0 (congrArg UInt8.toNat (beq_iff_eq.1 heq))
    exact decide_eq_true (UInt8.le_iff_toNat_le.2 (by rw [hn]; show 0x90 ≤ 0x80 + n; omega))
  split
  · next heq =>
    have := hf4 (congrArg UInt8.toNat (beq_iff_eq.1 heq))
    exact decide_eq_true (UInt8.le_iff_toNat_le.2 (by rw [hn]; show 0x80 + n ≤ 0x8f; omega))
  · rfl

/-! ## One character -/

/-- A code point is no surrogate and lies in one of the planes. -/
theorem toNat_ranges (c : Char) : c.toNat < 0xd800 ∨ 0xdfff < c.toNat ∧ c.toNat < 0x110000 := by
  have h := c.valid
  simpa [UInt32.isValidChar, Nat.isValidChar] using h

theorem step_encodeChar (c : Char) (rest : List UInt8) :
    ∃ lead tail, encodeChar c = lead :: tail ∧ step lead (tail ++ rest) = .char c rest := by
  have hranges := toNat_ranges c
  generalize hn : c.toNat = n at hranges
  have hc : Char.ofNat n = c := by rw [← hn, Char.ofNat_toNat]
  unfold encodeChar
  simp only [hn]
  -- One case for each number of bytes; the lead tells it, and the payloads add up to the code.
  by_cases h1 : n < 0x80
  · refine ⟨_, [], if_pos h1, ?_⟩
    have hl : (UInt8.ofNat n).toNat = n := toNat_byte (by omega)
    rw [step.eq_def, if_pos (lt_of_toNat (by rw [hl]; exact h1)), hl, hc]
    rfl
  rw [if_neg h1]
  by_cases h2 : n < 0x800
  · refine ⟨_, _, if_pos h2, ?_⟩
    have hl : (UInt8.ofNat (0xc0 + n / 64)).toNat = 0xc0 + n / 64 := toNat_byte (by omega)
    rw [step.eq_def, if_neg (not_lt_of_toNat (by rw [hl]; show 0x80 ≤ _; omega)),
      if_neg (not_lt_of_toNat (by rw [hl]; show 0xc2 ≤ _; omega)),
      if_pos (lt_of_toNat (by rw [hl]; show _ < 0xe0; omega)), hl]
    show (if isContinuation (UInt8.ofNat (0x80 + n % 64)) = true then _ else _) = _
    rw [if_pos (isContinuation_tail (by omega)), payload_tail (by omega),
      show (0xc0 + n / 64 - 0xc0) * 64 + n % 64 = n by omega, hc]
    rfl
  rw [if_neg h2]
  by_cases h3 : n < 0x10000
  · refine ⟨_, _, if_pos h3, ?_⟩
    have hl : (UInt8.ofNat (0xe0 + n / 4096)).toNat = 0xe0 + n / 4096 := toNat_byte (by omega)
    rw [step.eq_def, if_neg (not_lt_of_toNat (by rw [hl]; show 0x80 ≤ _; omega)),
      if_neg (not_lt_of_toNat (by rw [hl]; show 0xc2 ≤ _; omega)),
      if_neg (not_lt_of_toNat (by rw [hl]; show 0xe0 ≤ _; omega)),
      if_pos (lt_of_toNat (by rw [hl]; show _ < 0xf0; omega))]
    show (if isSecond (UInt8.ofNat (0xe0 + n / 4096)) (UInt8.ofNat (0x80 + n / 64 % 64)) = true
      then if isContinuation (UInt8.ofNat (0x80 + n % 64)) = true then _ else _ else _) = _
    rw [if_pos (isSecond_tail (by omega) (by omega) (by omega) (by omega) (by omega)),
      if_pos (isContinuation_tail (by omega)), hl, payload_tail (by omega),
      payload_tail (by omega),
      show (0xe0 + n / 4096 - 0xe0) * 4096 + n / 64 % 64 * 64 + n % 64 = n by omega, hc]
    rfl
  · refine ⟨_, _, if_neg h3, ?_⟩
    have hl : (UInt8.ofNat (0xf0 + n / 262144)).toNat = 0xf0 + n / 262144 :=
      toNat_byte (by omega)
    rw [step.eq_def, if_neg (not_lt_of_toNat (by rw [hl]; show 0x80 ≤ _; omega)),
      if_neg (not_lt_of_toNat (by rw [hl]; show 0xc2 ≤ _; omega)),
      if_neg (not_lt_of_toNat (by rw [hl]; show 0xe0 ≤ _; omega)),
      if_neg (not_lt_of_toNat (by rw [hl]; show 0xf0 ≤ _; omega)),
      if_pos (lt_of_toNat (by rw [hl]; show _ < 0xf5; omega))]
    show (if isSecond (UInt8.ofNat (0xf0 + n / 262144)) (UInt8.ofNat (0x80 + n / 4096 % 64)) = true
      then if isContinuation (UInt8.ofNat (0x80 + n / 64 % 64)) = true
        then if isContinuation (UInt8.ofNat (0x80 + n % 64)) = true then _ else _ else _
      else _) = _
    rw [if_pos (isSecond_tail (by omega) (by omega) (by omega) (by omega) (by omega)),
      if_pos (isContinuation_tail (by omega)), if_pos (isContinuation_tail (by omega)), hl,
      payload_tail (by omega), payload_tail (by omega), payload_tail (by omega),
      show (0xf0 + n / 262144 - 0xf0) * 262144 + n / 4096 % 64 * 4096 + n / 64 % 64 * 64 +
        n % 64 = n by omega, hc]
    rfl

/-! ## Bytes of ASCII -/

theorem not_isContinuation {b : UInt8} (h : b < 0x80) : isContinuation b = false := by
  have hlow : b.toNat < 0x80 := UInt8.lt_iff_toNat_lt.1 h
  rw [isContinuation, Bool.and_eq_false_iff]
  refine Or.inl (decide_eq_false ?_)
  rw [UInt8.le_iff_toNat_le]
  exact Nat.not_le.2 hlow

/-- A step that does not read a byte of ASCII leaves it. -/
theorem mem_step {m lead : UInt8} {rest : List UInt8} (hm : m < 0x80) (h : m ∈ lead :: rest) :
    step lead rest = .char (Char.ofNat m.toNat) rest ∨ m ∈ (step lead rest).rest := by
  rcases List.mem_cons.1 h with rfl | h
  · exact Or.inl (if_pos hm)
  have hcontinuation : ∀ b, isContinuation b = true → m ≠ b := by
    rintro b hb rfl
    rw [not_isContinuation hm] at hb
    cases hb
  have hsecond : ∀ b, isSecond lead b = true → m ≠ b := fun b hb =>
    hcontinuation b (Bool.and_eq_true_iff.1 hb).1
  right
  -- A byte that is taken after the lead is a continuation, and no byte of ASCII is one.
  unfold step
  repeat' split
  all_goals simp_all [Step.rest]

/-! ## Steps of tolerant reading -/

section Steps

variable {lead : UInt8} {rest rest' : List UInt8}

theorem decodeTolerant_nil : decodeTolerant [] = [] := by
  rw [decodeTolerant]

theorem decodeTolerant_char {c : Char} (h : step lead rest = .char c rest') :
    decodeTolerant (lead :: rest) = c :: decodeTolerant rest' := by
  rw [decodeTolerant]
  split
  · next heq =>
    cases h.symm.trans heq
    rfl
  · next heq => cases h.symm.trans heq

theorem decodeTolerant_fault {why : Fault} {skipped : List UInt8}
    (h : step lead rest = .fault why skipped rest') :
    decodeTolerant (lead :: rest) = '\uFFFD' :: decodeTolerant rest' := by
  rw [decodeTolerant]
  split
  · next heq => cases h.symm.trans heq
  · next heq =>
    cases h.symm.trans heq
    rfl

end Steps

/-- Reading loses no character of ASCII. -/
theorem mem_decodeTolerant {m : UInt8} (hm : m < 0x80) (bytes : List UInt8) (h : m ∈ bytes) :
    Char.ofNat m.toNat ∈ decodeTolerant bytes := by
  -- A step takes up to four bytes, so the induction is on their number.
  induction hn : bytes.length using Nat.strongRecOn generalizing bytes with
  | ind n ih =>
    cases bytes with
    | nil => exact absurd h List.not_mem_nil
    | cons lead rest =>
      have hstep := mem_step hm h
      have hlength := step_rest_length lead rest
      rw [List.length_cons] at hn
      cases heq : step lead rest with
      | char c rest' =>
        rw [heq] at hstep hlength
        simp only [Step.rest] at hlength
        rw [decodeTolerant_char heq]
        rcases hstep with hstep | hstep
        · cases hstep
          exact List.mem_cons_self
        · exact List.mem_cons_of_mem c (ih rest'.length (by omega) rest' hstep rfl)
      | fault why skipped rest' =>
        rw [heq] at hstep hlength
        simp only [Step.rest] at hlength
        rw [decodeTolerant_fault heq]
        rcases hstep with hstep | hstep
        · cases hstep
        · exact List.mem_cons_of_mem _ (ih rest'.length (by omega) rest' hstep rfl)

/-! ## Whole texts -/

theorem decodeTolerant_encodeChar (c : Char) (rest : List UInt8) :
    decodeTolerant (encodeChar c ++ rest) = c :: decodeTolerant rest := by
  obtain ⟨lead, tail, henc, hstep⟩ := step_encodeChar c rest
  rw [henc, List.cons_append, decodeTolerant_char hstep]

theorem encode_nil : encode [] = [] := rfl

theorem encode_cons (c : Char) (s : List Char) : encode (c :: s) = encodeChar c ++ encode s :=
  List.flatMap_cons

theorem decodeTolerant_encode (s : List Char) : decodeTolerant (encode s) = s := by
  induction s with
  | nil => rw [encode_nil, decodeTolerant_nil]
  | cons c s ih => rw [encode_cons, decodeTolerant_encodeChar, ih]

theorem decodeFrom_encodeChar (position : Nat) (c : Char) (rest : List UInt8) :
    ∃ next, decodeFrom position (encodeChar c ++ rest) = (decodeFrom next rest).map (c :: ·) := by
  obtain ⟨lead, tail, henc, hstep⟩ := step_encodeChar c rest
  refine ⟨position + ((tail ++ rest).length + 1 - rest.length), ?_⟩
  rw [henc, List.cons_append, decodeFrom]
  split
  · next d rest' h =>
    rw [hstep] at h
    cases h
    cases decodeFrom (position + ((tail ++ rest).length + 1 - rest.length)) rest with
    | error e => rfl
    | ok chars => rfl
  · next why skipped rest' h =>
    rw [hstep] at h
    cases h

/-- The bytes of a text are read as the text, and no byte of them is a fault. -/
theorem decode_encode (s : List Char) : decode (encode s) = .ok s := by
  have hfrom (position : Nat) : decodeFrom position (encode s) = .ok s := by
    induction s generalizing position with
    | nil => rw [encode_nil, decodeFrom]
    | cons c s ih =>
      obtain ⟨next, h⟩ := decodeFrom_encodeChar position c (encode s)
      rw [encode_cons, h, ih]
      rfl
  exact hfrom 0

end ApiDiscovery.Text.Utf8
