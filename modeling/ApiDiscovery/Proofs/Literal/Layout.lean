import ApiDiscovery.Json.Layout
import ApiDiscovery.Proofs.Literal.Value

/-!
# Reading the literal of a value over several lines

However a value is laid out over lines, its literal is scanned as the tokens of the value: a text is
cut into parts that together are the text (`Layout.flatten_chunks`), and quoted texts next to each
other are one text. So the literal is read as the value, and it still is when its lines are moved to
the right (`read_indentLines`).
-/

namespace ApiDiscovery.Literal

open ApiDiscovery.Text
open Json.Layout (keptLines spacedWords gather chunks newLine stringLayout layout itemLayout
  memberLayout)

/-! ## The parts of a text -/

theorem flatten_keptLines (s : List Char) : (keptLines s).flatten = s := by
  fun_induction keptLines s with
  | case1 => rfl
  | case2 rest ih => simp [ih]
  | case3 c rest _ _ ih => simp [ih]
  | case4 c rest _ _ hnil ih =>
    rw [hnil] at ih
    simp [← ih]
  | case5 c rest _ _ first others heq ih =>
    rw [heq] at ih
    simp [← ih]

theorem flatten_spacedWords (s : List Char) : (spacedWords s).flatten = s := by
  fun_induction spacedWords s with
  | case1 => rfl
  | case2 c rest hnil ih =>
    rw [hnil] at ih
    simp [← ih]
  | case3 c rest part others heq _ ih =>
    rw [heq] at ih
    simp [← ih]
  | case4 c rest part others heq _ ih =>
    rw [heq] at ih
    simp [← ih]

theorem flatten_gather (indent allowance : Nat) (lastLine : Bool) (current : List Char)
    (parts : List (List Char)) :
    (gather indent allowance lastLine current parts).flatten = current ++ parts.flatten := by
  induction parts generalizing current with
  | nil =>
    rw [gather]
    split
    · next hempty => simp [List.isEmpty_iff.1 hempty]
    · simp
  | cons part parts ih =>
    rw [gather]
    generalize (if parts.isEmpty && lastLine then allowance else 0) = reserve
    -- The part still fits, or it starts another line, the first one or a later one.
    split
    · rw [ih, List.append_assoc]
      rfl
    split
    · next hempty => rw [ih, List.isEmpty_iff.1 hempty]; rfl
    · rw [List.flatten_cons, ih]
      rfl

/-- The parts that a text is cut into are the text. -/
theorem flatten_chunks (indent allowance : Nat) (lines : List (List Char)) :
    (chunks indent allowance lines).flatten = lines.flatten := by
  induction lines with
  | nil => rfl
  | cons line lines ih =>
    rw [chunks, List.flatten_append, ih, List.flatten_cons]
    congr 1
    generalize (if lines.isEmpty then allowance else 0) = reserve
    -- A line that fits is one part, another is cut at its spaces.
    split
    · simp
    · rw [flatten_gather, flatten_spacedWords]
      rfl

/-! ## Texts over several lines -/

theorem toList_newLine (indent : Nat) :
    (newLine indent).toList = '\n' :: List.replicate indent ' ' := String.toList_ofList

/-- Quoted texts with gaps between them are scanned as one text. -/
theorem scan_parts {depth : Nat} {gap : List Char}
    (hgap : ∀ tokens, scan ⟨tokens, depth, .closed⟩ gap = some ⟨tokens, depth, .between⟩)
    {before rest : List Token} {a first : List Char}
    (hbefore : withText before = .text a :: rest) (parts : List (List Char)) :
    scan ⟨before, depth, .between⟩
        (List.intercalate gap (quotedChars first :: parts.map quotedChars)) =
      some ⟨.text (a ++ (first :: parts).flatten) :: rest, depth, .closed⟩ := by
  induction parts generalizing before a first with
  | nil =>
    have hfirst : scan ⟨before, depth, .between⟩ (quotedChars first) =
        some ⟨.text (a ++ first) :: rest, depth, .closed⟩ := scan_quotedChars hbefore first
    simpa using hfirst
  | cons second parts ih =>
    have hfirst : scan ⟨before, depth, .between⟩ (quotedChars first) =
        some ⟨.text (a ++ first) :: rest, depth, .closed⟩ := scan_quotedChars hbefore first
    have hrest := @ih (.text (a ++ first) :: rest) (a ++ first) second rfl
    rw [List.map_cons, List.intercalate_cons_cons, List.append_assoc, scan_of_scan hfirst,
      scan_of_scan (hgap _), hrest]
    simp

/-- A text over several lines is scanned as the text. -/
theorem scans_parts {depth : Nat} (hdepth : 0 < depth) (width : Nat) {first : List Char}
    {parts : List (List Char)} :
    Scans depth (joinWith (newLine width)
        ((first :: parts).map fun part => String.ofList (quotedChars part))).toList
      [.text (first :: parts).flatten] := by
  have hgap (tokens : List Token) :
      scan ⟨tokens, depth, .closed⟩ (newLine width).toList = some ⟨tokens, depth, .between⟩ := by
    have hstep : step ⟨tokens, depth, .closed⟩ '\n' = some ⟨tokens, depth, .between⟩ := by
      simp [step, stepQuiet, Nat.pos_iff_ne_zero.1 hdepth]
    rw [toList_newLine, scan_of_step hstep, isGap_spaces depth width tokens]
  intro before hbefore
  have htexts : ((first :: parts).map fun part => String.ofList (quotedChars part)).map
      String.toList = quotedChars first :: parts.map quotedChars := by
    simp [Function.comp_def]
  rw [joinWith, String.toList_intercalate, htexts]
  exact ⟨.closed, rfl, scan_parts hgap hbefore parts⟩

theorem scans_quoted (s : String) (depth : Nat) :
    Scans depth (quoted s).toList [.text s.toList] := by
  have htext : (quoted s).toList = quotedChars s.toList := String.toList_ofList
  rw [htext]
  exact Scans.text s.toList depth

/-- A text inside brackets, over several lines if it does not fit on one. -/
theorem scans_stringLayout {depth : Nat} (hdepth : 0 < depth) (indent allowance : Nat) (s : String) :
    Scans depth (stringLayout false indent allowance s).toList [.text s.toList] := by
  have hflatten : (chunks (indent + 0) (allowance + 0) (keptLines s.toList)).flatten = s.toList := by
    rw [flatten_chunks, flatten_keptLines]
  unfold stringLayout
  dsimp only
  rw [if_neg Bool.false_ne_true]
  split
  · exact scans_quoted s depth
  · exact scans_quoted s depth
  · next parts hnil hone =>
    cases hparts : chunks (indent + 0) (allowance + 0) (keptLines s.toList) with
    | nil => exact absurd hparts hnil
    | cons first others =>
      rw [hparts] at hflatten
      rw [← hflatten]
      exact scans_parts hdepth (indent + 0)

/-- A text that is the whole value, in parentheses if it is cut. -/
theorem scans_whole_stringLayout (indent allowance : Nat) (s : String) :
    ∃ ts, Scans 0 (stringLayout true indent allowance s).toList ts ∧ Builds ts (.str s) := by
  have hflatten : (chunks (indent + 1) (allowance + 1) (keptLines s.toList)).flatten = s.toList := by
    rw [flatten_chunks, flatten_keptLines]
  unfold stringLayout
  dsimp only
  rw [if_pos rfl]
  split
  · exact ⟨_, scans_quoted s 0, builds_text s⟩
  · exact ⟨_, scans_quoted s 0, builds_text s⟩
  · next parts hnil hone =>
    cases hparts : chunks (indent + 1) (allowance + 1) (keptLines s.toList) with
    | nil => exact absurd hparts hnil
    | cons first others =>
      rw [hparts] at hflatten
      rw [if_pos rfl, toList_brackets]
      refine ⟨_, (scans_parts Nat.zero_lt_one (indent + 1)).bracketed (o := '(') (c := ')') rfl rfl,
        ?_⟩
      intro frames
      rw [hflatten]
      have hopen : buildStep ⟨frames, none⟩ (.mark '(') = some ⟨.group :: frames, none⟩ := rfl
      rw [build_of_step hopen, build_of_builds (builds_text s)]
      rfl

/-! ## Values over several lines -/

theorem toList_lines (a b : String) (indent : Nat) :
    (a ++ "," ++ newLine indent ++ b).toList =
      a.toList ++ ',' :: ('\n' :: List.replicate indent ' ' ++ b.toList) := by
  rw [toList_brackets, String.toList_append, toList_newLine]
  simp

/-- A value is scanned as its tokens however it is laid out, unless it is a text that is cut outside
of brackets. The parts follow the layouts of values, of items and of members. -/
theorem scans_layouts :
    (∀ whole indent allowance, ∀ v : Json, v.hasFiniteNumbers = true → ∀ depth,
        (∀ s, v = .str s → whole = false ∧ 0 < depth) →
          Scans depth (layout whole indent allowance v).toList (tokens v)) ∧
      (∀ indent allowance items, Json.itemsHaveFiniteNumbers items = true → ∀ depth, 0 < depth →
        Scans depth (itemLayout indent allowance items).toList (itemTokens items)) ∧
      (∀ indent allowance members, Json.membersHaveFiniteNumbers members = true → ∀ depth,
        0 < depth →
          Scans depth (memberLayout indent allowance members).toList (memberTokens members)) := by
  apply Json.Layout.layout.mutual_induct
  case case1 =>
    intro whole indent allowance members line hfits hfinite depth _
    rw [layout, if_pos hfits]
    exact scans_literal hfinite depth
  case case2 =>
    intro whole indent allowance members line hfits ih hfinite depth _
    rw [layout, if_neg hfits, toList_brackets]
    exact (ih hfinite (depth + 1) (Nat.succ_pos depth)).bracketed rfl rfl
  case case3 =>
    intro whole indent allowance items line hfits hfinite depth _
    rw [layout, if_pos hfits]
    exact scans_literal hfinite depth
  case case4 =>
    intro whole indent allowance items line hfits ih hfinite depth _
    rw [layout, if_neg hfits, toList_brackets]
    exact (ih hfinite (depth + 1) (Nat.succ_pos depth)).bracketed rfl rfl
  -- A text is on one line, or it is cut, which only happens inside brackets here.
  case case5 =>
    intro whole indent allowance s line hfits _ depth _
    rw [layout, if_pos hfits]
    exact scans_quoted s depth
  case case6 =>
    intro whole indent allowance s line hfits _ depth hdepth
    obtain ⟨rfl, hpos⟩ := hdepth s rfl
    rw [layout, if_neg hfits]
    exact scans_stringLayout hpos indent allowance s
  case case7 =>
    intro whole indent allowance v hobj harr hstr hfinite depth _
    rw [layout]
    · exact scans_literal hfinite depth
    · exact hobj
    · exact harr
    · exact hstr
  -- Items: none, the last one, and one with others on the lines below.
  case case8 =>
    intro indent allowance _ depth _
    rw [itemLayout, itemTokens]
    exact Scans.nil depth
  case case9 =>
    intro indent allowance item ih hfinite depth hdepth
    rw [Json.itemsHaveFiniteNumbers, Bool.and_eq_true] at hfinite
    rw [itemLayout, itemTokens]
    exact ih hfinite.1 depth fun _ _ => ⟨rfl, hdepth⟩
  case case10 =>
    intro indent allowance item rest hrest ihitem ihrest hfinite depth hdepth
    rw [Json.itemsHaveFiniteNumbers, Bool.and_eq_true] at hfinite
    rw [itemLayout, itemTokens, toList_lines]
    · exact (ihitem hfinite.1 depth fun _ _ => ⟨rfl, hdepth⟩).separated (Or.inl rfl)
        (isGap_lineFeed hdepth indent) (ihrest hfinite.2 depth hdepth)
    · exact hrest
    · exact hrest
  -- Members, in the same way.
  case case11 =>
    intro indent allowance _ depth _
    rw [memberLayout, memberTokens]
    exact Scans.nil depth
  case case12 =>
    intro indent allowance key value name ih hfinite depth hdepth
    rw [Json.membersHaveFiniteNumbers, Bool.and_eq_true] at hfinite
    rw [memberLayout, memberTokens, toList_colon]
    exact Scans.member key (ih hfinite.1 depth fun _ _ => ⟨rfl, hdepth⟩)
  case case13 =>
    intro indent allowance key value rest hrest name ihvalue ihrest hfinite depth hdepth
    rw [Json.membersHaveFiniteNumbers, Bool.and_eq_true] at hfinite
    rw [memberLayout, memberTokens, toList_lines, toList_colon]
    · exact (Scans.member key (ihvalue hfinite.1 depth fun _ _ => ⟨rfl, hdepth⟩)).separated
        (Or.inl rfl) (isGap_lineFeed hdepth indent) (ihrest hfinite.2 depth hdepth)
    · exact hrest
    · exact hrest

/-- The literal of a value is scanned as tokens that are put together to the value. -/
theorem exists_tokens {v : Json} (hfinite : v.hasFiniteNumbers = true)
    (hkeys : v.hasDistinctKeys = true) :
    ∃ ts, Scans 0 v.sourceLiteral.toList ts ∧ Builds ts v := by
  by_cases htext : ∃ s, v = .str s
  · -- Only here a text may be cut outside of brackets, and then it gets parentheses.
    obtain ⟨s, rfl⟩ := htext
    rw [Json.sourceLiteral, layout]
    split
    · exact ⟨_, scans_quoted s 0, builds_text s⟩
    · exact scans_whole_stringLayout 0 0 s
  · refine ⟨tokens v, scans_layouts.1 true 0 0 v hfinite 0 ?_, builds_tokens hfinite hkeys⟩
    intro s hs
    exact absurd ⟨s, hs⟩ htext

/-! ## Reading -/

theorem read_of_scan {s : List Char} {ts : List Token} {v : Json} {mode : Mode}
    (hscan : scan {} s = some ⟨ts.reverse, 0, mode⟩) (hmode : mode.isQuiet = true)
    (hbuild : Builds ts v) : read s = some v := by
  have hbuilt : build {} ts = some ⟨[], some v⟩ := hbuild []
  simp [read, hscan, hmode, hbuilt]

/-- The literal of a value is read as the value, also with its lines moved to the right. -/
theorem read_indentLines {v : Json} (hfinite : v.hasFiniteNumbers = true)
    (hkeys : v.hasDistinctKeys = true) (width : Nat) :
    read v.sourceLiteral.toList = some v ∧
      read (indentLines width v.sourceLiteral.toList) = some v := by
  obtain ⟨ts, hscans, hbuilds⟩ := exists_tokens hfinite hkeys
  obtain ⟨mode, hmode, hscan⟩ := hscans [] rfl
  rw [List.append_nil] at hscan
  exact ⟨read_of_scan hscan hmode hbuilds,
    read_of_scan (scan_indentLines hscan width) hmode hbuilds⟩

end ApiDiscovery.Literal
