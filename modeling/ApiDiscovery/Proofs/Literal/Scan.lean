import ApiDiscovery.Proofs.Literal.Reader
import ApiDiscovery.Proofs.Text.Cutting
import ApiDiscovery.Text.Quoted
import Mathlib.Algebra.Group.Nat.Defs

/-!
# Scanning words, texts and lines

A word is scanned as itself, and a quoted text as the text that it quotes, character by character
(`scan_quotedChars`). A text that is scanned has no line ends but line feeds, and none between
quotes, so moving its lines to the right changes nothing that is scanned (`scan_indentLines`).
-/

namespace ApiDiscovery.Literal

open ApiDiscovery.Text

/-! ## One character after another -/

theorem scan_cons (st : Scan) (c : Char) (s : List Char) :
    scan st (c :: s) = (step st c).bind fun next => scan next s := List.foldlM_cons

theorem scan_of_step {st next : Scan} {c : Char} (h : step st c = some next) (s : List Char) :
    scan st (c :: s) = scan next s := by
  rw [scan_cons, h]
  rfl

theorem scan_append (st : Scan) (a b : List Char) :
    scan st (a ++ b) = (scan st a).bind fun next => scan next b := List.foldlM_append

theorem scan_of_scan {st next : Scan} {a : List Char} (h : scan st a = some next) (b : List Char) :
    scan st (a ++ b) = scan next b := by
  rw [scan_append, h]
  rfl

variable {tokens : List Token} {depth : Nat}

/-! ## Words -/

theorem isQuote_of_isWordChar {c : Char} (h : isWordChar c = true) : isQuote c = false := by
  rw [isQuote, Bool.or_eq_false_iff, beq_eq_false_iff_ne, beq_eq_false_iff_ne]
  constructor
  · rintro rfl
    exact absurd h (by decide)
  · rintro rfl
    exact absurd h (by decide)

theorem scan_word_from {a w : List Char} (hw : ∀ c ∈ w, isWordChar c = true) :
    scan ⟨.word a :: tokens, depth, .word⟩ w = some ⟨.word (a ++ w) :: tokens, depth, .word⟩ := by
  induction w generalizing a with
  | nil => rw [List.append_nil]; rfl
  | cons c w ih =>
    rw [List.forall_mem_cons] at hw
    have hstep : step ⟨.word a :: tokens, depth, .word⟩ c =
        some ⟨.word (a ++ [c]) :: tokens, depth, .word⟩ := if_pos hw.1
    rw [scan_of_step hstep, ih hw.2, List.append_assoc]
    rfl

/-- A word is scanned as itself. -/
theorem scan_word {w : List Char} (hne : w ≠ []) (hw : ∀ c ∈ w, isWordChar c = true) :
    scan ⟨tokens, depth, .between⟩ w = some ⟨.word w :: tokens, depth, .word⟩ := by
  cases w with
  | nil => exact absurd rfl hne
  | cons c w =>
    rw [List.forall_mem_cons] at hw
    have hstep : step ⟨tokens, depth, .between⟩ c = some ⟨.word [c] :: tokens, depth, .word⟩ := by
      simp [step, isQuote_of_isWordChar hw.1, hw.1]
    rw [scan_of_step hstep]
    exact scan_word_from hw.2

/-! ## Quoted texts -/

theorem hexValue?_hexDigit {n : Nat} (h : n < 16) : hexValue? (hexDigit n) = some n := by
  have hall : ∀ n : Fin 16, hexValue? (hexDigit n) = some n.val := by decide
  exact hall ⟨n, h⟩

/-- The digits of a code, but for those still to come. -/
theorem scan_hexDigits {quote : Char} {width left n : Nat} (hleft : 0 < left) (value : Nat)
    (hn : n < 16 ^ width) :
    scan ⟨tokens, depth, .code quote (width + left) value⟩ (hexDigits width n) =
      some ⟨tokens, depth, .code quote left (value * 16 ^ width + n)⟩ := by
  induction width generalizing left n with
  | zero =>
    obtain rfl : n = 0 := by simpa using hn
    simp [hexDigits, scan]
  | succ width ih =>
    have hpower : 16 ^ (width + 1) = 16 ^ width * 16 := Nat.pow_succ ..
    have hprefix := @ih (left + 1) (n / 16) (by omega) (by omega)
    have hcode : 16 * (value * 16 ^ width + n / 16) + n % 16 = value * 16 ^ (width + 1) + n := by
      rw [hpower, ← Nat.mul_assoc]
      omega
    have hstep : step ⟨tokens, depth, .code quote (left + 1) (value * 16 ^ width + n / 16)⟩
        (hexDigit (n % 16)) =
          some ⟨tokens, depth, .code quote left (value * 16 ^ (width + 1) + n)⟩ := by
      simp [step, hexValue?_hexDigit (Nat.mod_lt n (by omega)), hcode, hleft]
    rw [hexDigits, show width + 1 + left = width + (left + 1) by omega, scan_of_scan hprefix,
      scan_of_step hstep]
    rfl

section Text

variable {quote : Char} {a : List Char}

/-- An escape by the code of a character. -/
theorem scan_code {width : Nat} {c : Char} (hc : c.toNat < 16 ^ (width + 1)) :
    scan ⟨.text a :: tokens, depth, .code quote (width + 1) 0⟩ (hexDigits (width + 1) c.toNat) =
      some ⟨.text (a ++ [c]) :: tokens, depth, .text quote⟩ := by
  have hpower : 16 ^ (width + 1) = 16 ^ width * 16 := Nat.pow_succ ..
  have hprefix : scan ⟨.text a :: tokens, depth, .code quote (width + 1) 0⟩
      (hexDigits width (c.toNat / 16)) =
        some ⟨.text a :: tokens, depth, .code quote 1 (0 * 16 ^ width + c.toNat / 16)⟩ :=
    scan_hexDigits (by omega) 0 (by omega)
  have hcode : 16 * (0 * 16 ^ width + c.toNat / 16) + c.toNat % 16 = c.toNat := by omega
  have hvalid : c.toNat.isValidChar := c.valid
  have hstep : step ⟨.text a :: tokens, depth, .code quote 1 (0 * 16 ^ width + c.toNat / 16)⟩
      (hexDigit (c.toNat % 16)) = some ⟨.text (a ++ [c]) :: tokens, depth, .text quote⟩ := by
    simp only [step, hexValue?_hexDigit (Nat.mod_lt c.toNat (show 0 < 16 by omega)), hcode]
    simp [hvalid, extended]
  rw [hexDigits, scan_of_scan hprefix, scan_of_step hstep]
  rfl

theorem step_backslash (hquote : isQuote quote = true) :
    step ⟨.text a :: tokens, depth, .text quote⟩ '\\' =
      some ⟨.text a :: tokens, depth, .escape quote⟩ := by
  have hne : '\\' ≠ quote := by
    rintro rfl
    exact absurd hquote (by decide)
  simp [step, hne, show standsRaw '\\' = true by decide]

/-- An escape by a letter or a mark. -/
theorem scan_escaped (hquote : isQuote quote = true) {letter c : Char}
    (h : escaped? letter = some c) :
    scan ⟨.text a :: tokens, depth, .text quote⟩ ['\\', letter] =
      some ⟨.text (a ++ [c]) :: tokens, depth, .text quote⟩ := by
  have hstep : step ⟨.text a :: tokens, depth, .escape quote⟩ letter =
      some ⟨.text (a ++ [c]) :: tokens, depth, .text quote⟩ := by
    simp [step, h, extended]
  rw [scan_of_step (step_backslash hquote), scan_of_step hstep]
  rfl

/-- An escape by a code, whose letter tells how many digits it has. -/
theorem scan_escapedCode (hquote : isQuote quote = true) {letter c : Char} (width : Nat)
    (hletter : escaped? letter = none ∧ codeLength? letter = some (width + 1))
    (hc : c.toNat < 16 ^ (width + 1)) :
    scan ⟨.text a :: tokens, depth, .text quote⟩
        ('\\' :: letter :: hexDigits (width + 1) c.toNat) =
      some ⟨.text (a ++ [c]) :: tokens, depth, .text quote⟩ := by
  have hstep : step ⟨.text a :: tokens, depth, .escape quote⟩ letter =
      some ⟨.text a :: tokens, depth, .code quote (width + 1) 0⟩ := by
    simp [step, hletter]
  rw [scan_of_step (step_backslash hquote), scan_of_step hstep]
  exact scan_code hc

theorem toNat_of_endsLine {c : Char} (h : endsLine c = true) :
    c.toNat ∈ [0xa, 0xb, 0xc, 0xd, 0x1c, 0x1d, 0x1e, 0x85, 0x2028, 0x2029] := by
  simp only [endsLine, Bool.or_eq_true, Bool.and_eq_true, decide_eq_true_eq, beq_iff_eq] at h
  simp only [List.mem_cons, List.not_mem_nil, or_false]
  omega

/-- A character with a glyph may stand between quotes. -/
theorem standsRaw_of_isPrintable {c : Char} (h : isPrintable c = true) : standsRaw c = true := by
  have hall : ∀ n ∈ [0xa, 0xb, 0xc, 0xd, 0x1c, 0x1d, 0x1e, 0x85, 0x2028, 0x2029],
      PrintTable.unprintable.contains n = true := by decide +kernel
  rw [standsRaw, Bool.and_eq_true, Bool.not_eq_true', bne_iff_ne]
  constructor
  · by_contra hends
    rw [isPrintable, hall _ (toNat_of_endsLine (Bool.not_eq_false _ ▸ hends))] at h
    cases h
  · rintro rfl
    exact absurd h (by decide)

/-- A character is scanned as itself from the way it is quoted. -/
theorem scan_quotedChar (hquote : isQuote quote = true) (c : Char) :
    scan ⟨.text a :: tokens, depth, .text quote⟩ (quotedChar quote c) =
      some ⟨.text (a ++ [c]) :: tokens, depth, .text quote⟩ := by
  unfold quotedChar
  split
  · next hself =>
    rw [Bool.or_eq_true, beq_iff_eq, beq_iff_eq] at hself
    refine scan_escaped hquote ?_
    rcases hself with rfl | rfl
    · simp [escaped?, hquote]
    · rfl
  next hself =>
  split
  · next h =>
    obtain rfl := beq_iff_eq.1 h
    exact scan_escaped hquote rfl
  split
  · next h =>
    obtain rfl := beq_iff_eq.1 h
    exact scan_escaped hquote rfl
  split
  · next h =>
    obtain rfl := beq_iff_eq.1 h
    exact scan_escaped hquote rfl
  split
  · next hprintable =>
    simp only [Bool.or_eq_true, beq_iff_eq, not_or] at hself
    have hstep : step ⟨.text a :: tokens, depth, .text quote⟩ c =
        some ⟨.text (a ++ [c]) :: tokens, depth, .text quote⟩ := by
      simp [step, extended, standsRaw_of_isPrintable hprintable, hself]
    rw [scan_of_step hstep]
    rfl
  split
  · exact scan_escapedCode hquote 1 ⟨rfl, rfl⟩ (by omega)
  split
  · exact scan_escapedCode hquote 3 ⟨rfl, rfl⟩ (by omega)
  · have hlt : c.toNat < 0x110000 := by
      have hvalid : c.toNat.isValidChar := c.valid
      rw [Nat.isValidChar] at hvalid
      omega
    exact scan_escapedCode hquote 7 ⟨rfl, rfl⟩ (by omega)

theorem scan_quotedAll (hquote : isQuote quote = true) (s : List Char) :
    scan ⟨.text a :: tokens, depth, .text quote⟩ (s.flatMap (quotedChar quote)) =
      some ⟨.text (a ++ s) :: tokens, depth, .text quote⟩ := by
  induction s generalizing a with
  | nil => rw [List.append_nil]; rfl
  | cons c s ih =>
    rw [List.flatMap_cons, scan_of_scan (scan_quotedChar hquote c), ih, List.append_assoc]
    rfl

end Text

theorem isQuote_quoteFor (s : List Char) : isQuote (quoteFor s) = true := by
  unfold quoteFor
  split
  · rfl
  · rfl

/-- A quoted text is scanned as the text, behind the text that stands next to it if there is one. -/
theorem scan_quotedChars {before : List Token} {a : List Char}
    (hbefore : withText before = .text a :: tokens) (s : List Char) :
    scan ⟨before, depth, .between⟩ (quotedChars s) =
      some ⟨.text (a ++ s) :: tokens, depth, .closed⟩ := by
  have hquote := isQuote_quoteFor s
  have hopen : step ⟨before, depth, .between⟩ (quoteFor s) =
      some ⟨.text a :: tokens, depth, .text (quoteFor s)⟩ := by
    simp [step, hquote, hbefore]
  have hraw : standsRaw (quoteFor s) = true := by
    unfold quoteFor
    split
    · decide
    · decide
  have hclose : step ⟨.text (a ++ s) :: tokens, depth, .text (quoteFor s)⟩ (quoteFor s) =
      some ⟨.text (a ++ s) :: tokens, depth, .closed⟩ := by
    simp [step, hraw]
  show scan _ (quoteFor s :: (s.flatMap (quotedChar (quoteFor s)) ++ [quoteFor s])) = _
  rw [scan_of_step hopen, scan_of_scan (scan_quotedAll hquote s), scan_of_step hclose]
  rfl

/-! ## Lines -/

/-- No character that ends a line is scanned but the line feed. -/
theorem step_eq_none {c : Char} (hends : endsLine c = true) (hne : c ≠ '\n') (st : Scan) :
    step st c = none := by
  have hcode : ∀ n ∈ [0xa, 0xb, 0xc, 0xd, 0x1c, 0x1d, 0x1e, 0x85, 0x2028, 0x2029],
      Char.ofNat n ≠ '\n' → isQuote (Char.ofNat n) = false ∧ isWordChar (Char.ofNat n) = false ∧
        escaped? (Char.ofNat n) = none ∧ codeLength? (Char.ofNat n) = none ∧
        hexValue? (Char.ofNat n) = none := by decide
  have hmark : ∀ n ∈ [0xa, 0xb, 0xc, 0xd, 0x1c, 0x1d, 0x1e, 0x85, 0x2028, 0x2029],
      Char.ofNat n ≠ '\n' → Char.ofNat n ≠ ' ' ∧ Char.ofNat n ≠ ',' ∧ Char.ofNat n ≠ ':' ∧
        isOpening (Char.ofNat n) = false ∧ isClosing (Char.ofNat n) = false := by decide
  have hmem := toNat_of_endsLine hends
  have hself : Char.ofNat c.toNat = c := Char.ofNat_toNat c
  -- A character is known by its code, so what the tables say of the codes holds of it.
  obtain ⟨hquote, hword, hescaped, hlength, hvalue⟩ := hself ▸ hcode _ hmem (hself.symm ▸ hne)
  obtain ⟨hspace, hcomma, hcolon, hopening, hclosing⟩ := hself ▸ hmark _ hmem (hself.symm ▸ hne)
  have hquiet : stepQuiet st c = none := by
    simp [stepQuiet, hne, hspace, hcomma, hcolon, hopening, hclosing]
  unfold step
  split
  · rw [if_neg (by simp [hquote]), if_neg (by simp [hword]), hquiet]
  · rw [if_neg (by simp [hword]), hquiet]
  · exact hquiet
  · exact if_pos (by simp [standsRaw, hends])
  · rw [hescaped, hlength]
  · rw [hvalue]

theorem eq_lineFeed_of_scan {st next : Scan} {s : List Char} (h : scan st s = some next) :
    ∀ c ∈ s, endsLine c = true → c = '\n' := by
  induction s generalizing st with
  | nil =>
    intro c hc
    cases hc
  | cons d s ih =>
    rw [scan_cons, Option.bind_eq_some_iff] at h
    obtain ⟨after, hstep, h⟩ := h
    intro c hc hends
    rcases List.mem_cons.1 hc with rfl | hc
    · by_contra hne
      rw [step_eq_none hends hne] at hstep
      cases hstep
    · exact ih h c hc hends

/-- Behind a line feed the scan is between tokens. -/
theorem mode_of_lineFeed {st next : Scan} (h : step st '\n' = some next) :
    next.mode = .between := by
  obtain ⟨tokens, depth, mode⟩ := st
  have hquiet : stepQuiet ⟨tokens, depth, mode⟩ '\n' = some next → next.mode = .between := by
    intro hstep
    by_cases hdepth : depth = 0
    · simp [stepQuiet, hdepth] at hstep
    · simp [stepQuiet, hdepth] at hstep
      rw [← hstep]
  -- Between quotes no line feed is scanned.
  cases mode with
  | between => exact hquiet h
  | word => exact hquiet h
  | closed => exact hquiet h
  | text quote => cases h
  | escape quote => cases h
  | code quote left value => cases h

/-- Spaces between tokens are passed over. -/
theorem scan_spaces (width : Nat) (s : List Char) :
    scan ⟨tokens, depth, .between⟩ (List.replicate width ' ' ++ s) =
      scan ⟨tokens, depth, .between⟩ s := by
  induction width with
  | zero => rfl
  | succ width ih =>
    have hstep : step ⟨tokens, depth, .between⟩ ' ' = some ⟨tokens, depth, .between⟩ := rfl
    rw [List.replicate_succ, List.cons_append, scan_of_step hstep, ih]

/-- A line moved to the right, unless it is empty. -/
def moved (width : Nat) (line : List Char) : List Char :=
  if line.isEmpty then line else List.replicate width ' ' ++ line

/-- Lines below the first one may be moved to the right. -/
theorem scan_moved {st last : Scan} {width : Nat} {first : List Char} {others : List (List Char)}
    (h : scan st (List.intercalate ['\n'] (first :: others)) = some last) :
    scan st (List.intercalate ['\n'] (first :: others.map (moved width))) = some last := by
  induction others generalizing st first with
  | nil => exact h
  | cons second others ih =>
    have hjoin (lines : List (List Char)) (second : List Char) :
        List.intercalate ['\n'] (first :: second :: lines) =
          first ++ '\n' :: List.intercalate ['\n'] (second :: lines) := by
      simp
    rw [hjoin, scan_append, Option.bind_eq_some_iff] at h
    obtain ⟨middle, hfirst, h⟩ := h
    rw [scan_cons, Option.bind_eq_some_iff] at h
    obtain ⟨next, hstep, h⟩ := h
    rw [List.map_cons, hjoin, scan_of_scan hfirst, scan_of_step hstep]
    have hrest := ih h
    -- The step over the line feed leads between tokens, where spaces do not count.
    obtain ⟨tokens, depth, mode⟩ := next
    obtain rfl := mode_of_lineFeed hstep
    unfold moved
    split
    · exact hrest
    · have hspaces : List.intercalate ['\n']
          ((List.replicate width ' ' ++ second) :: others.map (moved width)) =
            List.replicate width ' ' ++
              List.intercalate ['\n'] (second :: others.map (moved width)) := by
        cases others with
        | nil => simp
        | cons third others => simp [List.intercalate_cons_cons]
      exact (congrArg _ hspaces).trans ((scan_spaces width _).trans hrest)

/-- Where no character but the line feed ends a line, the lines are the pieces between them. -/
theorem lines_eq_pieces {s : List Char} (h : ∀ c ∈ s, endsLine c = true → c = '\n') :
    lines (s ++ ['\n']) = pieces (· == '\n') s := by
  induction s with
  | nil => rfl
  | cons c s ih =>
    rw [List.forall_mem_cons] at h
    have hreturn : c ≠ '\r' := by
      rintro rfl
      exact absurd (h.1 rfl) (by decide)
    rw [List.cons_append, lines, ih h.2, pieces]
    · by_cases hc : c = '\n'
      · subst hc
        rfl
      · have hends : endsLine c = false := by
          rw [← Bool.not_eq_true]
          exact fun hends => hc (h.1 hends)
        simp only [hends, beq_iff_eq, hc, Bool.false_eq_true, if_false]
        cases pieces (· == '\n') s with
        | nil => rfl
        | cons first others => rfl
    · rintro rest rfl
      exact absurd rfl hreturn

/-- A text that is scanned is scanned alike with its lines moved to the right. -/
theorem scan_indentLines {st last : Scan} {s : List Char} (h : scan st s = some last)
    (width : Nat) : scan st (indentLines width s) = some last := by
  have hlines := lines_eq_pieces (eq_lineFeed_of_scan h)
  have hjoined := intercalate_pieces '\n' s
  rw [indentLines, hlines]
  split
  · next heq => exact absurd heq (pieces_ne_nil _ _)
  · next first others heq =>
    rw [heq] at hjoined
    exact scan_moved (hjoined.symm ▸ h)

end ApiDiscovery.Literal
