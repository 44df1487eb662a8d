import ApiDiscovery.Proofs.Json.Keys
import ApiDiscovery.Proofs.Literal.Number
import ApiDiscovery.Proofs.Literal.Scan

/-!
# Reading the literal of a value

The literal of a value on one line is scanned as the tokens of the value (`scans_literal`), and the
tokens of a value are put together to the value (`builds_tokens`). Both are shown along the value,
for any state of the machine that goes on behind it, so the literal of a part is read as the part
wherever it stands.
-/

namespace ApiDiscovery.Json

mutual

/-- Every double in the value is a finite number. -/
def hasFiniteNumbers : Json → Bool
  | double x => x.isFinite
  | arr items => itemsHaveFiniteNumbers items
  | obj members => membersHaveFiniteNumbers members
  | _ => true

/-- Every double in an item is a finite number. -/
def itemsHaveFiniteNumbers : List Json → Bool
  | [] => true
  | item :: rest => hasFiniteNumbers item && itemsHaveFiniteNumbers rest

/-- Every double in the value of a member is a finite number. -/
def membersHaveFiniteNumbers : List (String × Json) → Bool
  | [] => true
  | (_, value) :: rest => hasFiniteNumbers value && membersHaveFiniteNumbers rest

end

end ApiDiscovery.Json

namespace ApiDiscovery.Literal

open ApiDiscovery.Text

mutual

/-- The tokens of a value. -/
def tokens : Json → List Token
  | .str s => [.text s.toList]
  | .arr items => .mark '[' :: (itemTokens items ++ [.mark ']'])
  | .obj members => .mark '\x7b' :: (memberTokens members ++ [.mark '\x7d'])
  | v => [.word v.literal.toList]

/-- The tokens of items, with commas between them. -/
def itemTokens : List Json → List Token
  | [] => []
  | [item] => tokens item
  | item :: rest => tokens item ++ .mark ',' :: itemTokens rest

/-- The tokens of members, with commas between them. -/
def memberTokens : List (String × Json) → List Token
  | [] => []
  | [(key, value)] => .text key.toList :: .mark ':' :: tokens value
  | (key, value) :: rest =>
    .text key.toList :: .mark ':' :: (tokens value ++ .mark ',' :: memberTokens rest)

end

/-! ## Scanning -/

/-- Behind tokens of which the last is no text, the characters are scanned as the tokens, and the
brackets that they open are closed again. -/
def Scans (depth : Nat) (s : List Char) (ts : List Token) : Prop :=
  ∀ before, withText before = .text [] :: before →
    ∃ mode : Mode, mode.isQuiet = true ∧
      scan ⟨before, depth, .between⟩ s = some ⟨ts.reverse ++ before, depth, mode⟩

/-- The characters may stand between tokens. -/
def IsGap (depth : Nat) (s : List Char) : Prop :=
  ∀ tokens, scan ⟨tokens, depth, .between⟩ s = some ⟨tokens, depth, .between⟩

theorem isGap_spaces (depth width : Nat) : IsGap depth (List.replicate width ' ') := by
  intro tokens
  have hspaces : scan ⟨tokens, depth, .between⟩ (List.replicate width ' ' ++ []) =
      scan ⟨tokens, depth, .between⟩ [] := scan_spaces width []
  rwa [List.append_nil] at hspaces

/-- Inside brackets a line may end, and the next one be indented. -/
theorem isGap_lineFeed {depth : Nat} (hdepth : 0 < depth) (width : Nat) :
    IsGap depth ('\n' :: List.replicate width ' ') := by
  intro tokens
  have hstep : step ⟨tokens, depth, .between⟩ '\n' = some ⟨tokens, depth, .between⟩ := by
    simp [step, stepQuiet, isQuote, isWordChar, Nat.pos_iff_ne_zero.1 hdepth]
  rw [scan_of_step hstep, isGap_spaces depth width tokens]

theorem step_quiet {tokens : List Token} {depth : Nat} {mode : Mode} (hmode : mode.isQuiet = true)
    {c : Char} (hquote : isQuote c = false) (hword : isWordChar c = false) :
    step ⟨tokens, depth, mode⟩ c = stepQuiet ⟨tokens, depth, mode⟩ c := by
  cases mode with
  | between => simp [step, hquote, hword]
  | word => simp [step, hword]
  | closed => rfl
  | text quote => cases hmode
  | escape quote => cases hmode
  | code quote left value => cases hmode

theorem isOpening_ne {c : Char} (h : isOpening c = true) : isQuote c = false ∧
    isWordChar c = false ∧ c ≠ ' ' ∧ c ≠ '\n' ∧ c ≠ ',' ∧ c ≠ ':' := by
  simp only [isOpening, Bool.or_eq_true, beq_iff_eq] at h
  rcases h with (rfl | rfl) | rfl
  · decide
  · decide
  · decide

theorem isClosing_ne {c : Char} (h : isClosing c = true) : isQuote c = false ∧
    isWordChar c = false ∧ c ≠ ' ' ∧ c ≠ '\n' ∧ c ≠ ',' ∧ c ≠ ':' ∧ isOpening c = false := by
  simp only [isClosing, Bool.or_eq_true, beq_iff_eq] at h
  rcases h with (rfl | rfl) | rfl
  · decide
  · decide
  · decide

namespace Scans

variable {depth : Nat} {a b : List Char} {ta tb : List Token}

theorem nil (depth : Nat) : Scans depth [] [] := fun _ _ => ⟨.between, rfl, rfl⟩

theorem word {w : List Char} (hne : w ≠ []) (hw : ∀ c ∈ w, isWordChar c = true) (depth : Nat) :
    Scans depth w [.word w] :=
  fun _ _ => ⟨.word, rfl, scan_word hne hw⟩

theorem text (s : List Char) (depth : Nat) : Scans depth (quotedChars s) [.text s] :=
  fun _ hbefore => ⟨.closed, rfl, scan_quotedChars hbefore s⟩

/-- Two parts with a comma or a colon and a gap between them. -/
theorem separated (ha : Scans depth a ta) {c : Char} (hc : c = ',' ∨ c = ':') {gap : List Char}
    (hgap : IsGap depth gap) (hb : Scans depth b tb) :
    Scans depth (a ++ c :: (gap ++ b)) (ta ++ .mark c :: tb) := by
  intro before hbefore
  obtain ⟨mode, hmode, hscan⟩ := ha before hbefore
  have hstep : step ⟨ta.reverse ++ before, depth, mode⟩ c =
      some ⟨.mark c :: (ta.reverse ++ before), depth, .between⟩ := by
    rcases hc with rfl | rfl
    · rw [step_quiet hmode rfl rfl]
      rfl
    · rw [step_quiet hmode rfl rfl]
      rfl
  obtain ⟨last, hlast, hrest⟩ := hb (.mark c :: (ta.reverse ++ before)) rfl
  refine ⟨last, hlast, ?_⟩
  rw [scan_of_scan hscan, scan_of_step hstep, scan_of_scan (hgap _), hrest]
  simp

/-- A key and its value. -/
theorem member (key : String) (hb : Scans depth b tb) :
    Scans depth ((quoted key).toList ++ ':' :: ([' '] ++ b))
      (.text key.toList :: .mark ':' :: tb) := by
  have htext : (quoted key).toList = quotedChars key.toList := String.toList_ofList
  rw [htext]
  exact (text key.toList depth).separated (Or.inr rfl) (isGap_spaces depth 1) hb

/-- A part between brackets. -/
theorem bracketed (ha : Scans (depth + 1) a ta) {o c : Char} (ho : isOpening o = true)
    (hc : isClosing c = true) : Scans depth (o :: (a ++ [c])) (.mark o :: (ta ++ [.mark c])) := by
  obtain ⟨hquote, hword, hspace, hline, hcomma, hcolon⟩ := isOpening_ne ho
  obtain ⟨hquote', hword', hspace', hline', hcomma', hcolon', hnot⟩ := isClosing_ne hc
  intro before hbefore
  have hfirst : step ⟨before, depth, .between⟩ o =
      some ⟨.mark o :: before, depth + 1, .between⟩ := by
    rw [step_quiet rfl hquote hword]
    simp [stepQuiet, hspace, hline, hcomma, hcolon, ho]
  obtain ⟨mode, hmode, hscan⟩ := ha (.mark o :: before) rfl
  have hlast : step ⟨ta.reverse ++ .mark o :: before, depth + 1, mode⟩ c =
      some ⟨.mark c :: (ta.reverse ++ .mark o :: before), depth, .between⟩ := by
    rw [step_quiet hmode hquote' hword']
    simp [stepQuiet, hspace', hline', hcomma', hcolon', hnot, hc]
  refine ⟨.between, rfl, ?_⟩
  rw [scan_of_step hfirst, scan_of_scan hscan, scan_of_step hlast]
  simp [scan]

end Scans

/-! ## Words -/

theorem isWordChar_of_isNumeric {c : Char} (h : isNumeric c = true) : isWordChar c = true := by
  rw [isNumeric, Bool.or_eq_true, List.contains_iff_mem] at h
  rcases h with h | h
  · simp [isWordChar, Char.isAlphanum, h]
  · have hmarks : ∀ c ∈ ".e+-".toList, isWordChar c = true := List.all_eq_true.1 (by decide)
    exact hmarks c h

/-- The literal of a value that is neither a text nor a collection is a word. -/
theorem scans_word {v : Json} (hword : word? v.literal.toList = some v)
    (hchars : ∀ c ∈ v.literal.toList, isWordChar c = true) (depth : Nat) :
    Scans depth v.literal.toList [.word v.literal.toList] := by
  refine Scans.word ?_ hchars depth
  intro hnil
  rw [hnil] at hword
  cases hword

theorem isWordChar_toText {x : Double} (hx : x.isFinite = true) :
    ∀ c ∈ x.toText.toList, isWordChar c = true := by
  have hbody : ∀ c ∈ x.magnitudeText, isWordChar c = true :=
    fun c hc => isWordChar_of_isNumeric (x.magnitudeText_forall c hc)
  unfold Double.toText
  rw [hx]
  split
  · exact List.all_eq_true.1 (by decide)
  · dsimp only
    rw [if_pos rfl, String.toList_ofList]
    split
    · exact List.forall_mem_cons.2 ⟨rfl, hbody⟩
    · exact hbody

/-! ## Literals on one line -/

theorem toList_brackets (o s c : String) :
    (o ++ s ++ c).toList = o.toList ++ (s.toList ++ c.toList) := by
  rw [String.toList_append, String.toList_append, List.append_assoc]

theorem toList_separated (a b : String) {c : Char} {gap : List Char} {separator : String}
    (h : separator.toList = c :: gap) :
    (a ++ separator ++ b).toList = a.toList ++ c :: (gap ++ b.toList) := by
  rw [toList_brackets, h]
  rfl

theorem toList_colon (a b : String) :
    (a ++ ": " ++ b).toList = a.toList ++ ':' :: ([' '] ++ b.toList) := toList_separated a b rfl

theorem toList_comma (a b : String) :
    (a ++ ", " ++ b).toList = a.toList ++ ',' :: ([' '] ++ b.toList) := toList_separated a b rfl

/-- The literal of a value on one line is scanned as the tokens of the value. The parts follow the
writers of values, of members and of items. -/
theorem scans_literals :
    (∀ v : Json, v.hasFiniteNumbers = true → ∀ depth, Scans depth v.literal.toList (tokens v)) ∧
      (∀ members, Json.membersHaveFiniteNumbers members = true → ∀ depth,
        Scans depth (Json.literalMembers members).toList (memberTokens members)) ∧
      (∀ items, Json.itemsHaveFiniteNumbers items = true → ∀ depth,
        Scans depth (Json.literalItems items).toList (itemTokens items)) := by
  apply Json.literal.mutual_induct
  case case1 =>
    intro _
    exact scans_word (v := .null) rfl (List.all_eq_true.1 (by decide))
  case case2 =>
    intro _
    exact scans_word (v := .bool true) rfl (List.all_eq_true.1 (by decide))
  case case3 =>
    intro b hb _
    cases b with
    | true => exact absurd rfl hb
    | false => exact scans_word (v := .bool false) rfl (List.all_eq_true.1 (by decide))
  -- Numbers, which are words too.
  case case4 =>
    intro n _
    refine scans_word (v := .int n) (word?_toString n) ?_
    exact fun c hc => isWordChar_of_isNumeric (isNumeric_toString n c hc)
  case case5 =>
    intro x hx
    exact scans_word (v := .double x) (word?_toText hx) (isWordChar_toText hx)
  case case6 =>
    intro s _ depth
    have htext : (Json.str s).literal.toList = quotedChars s.toList := String.toList_ofList
    rw [htext]
    exact Scans.text s.toList depth
  case case7 =>
    intro items ih hfinite depth
    rw [Json.literal, toList_brackets]
    exact (ih hfinite (depth + 1)).bracketed rfl rfl
  case case8 =>
    intro members ih hfinite depth
    rw [Json.literal, toList_brackets]
    exact (ih hfinite (depth + 1)).bracketed rfl rfl
  -- Items: none, the last one, and one with others behind it.
  case case9 =>
    intro _ depth
    rw [Json.literalItems, itemTokens]
    exact Scans.nil depth
  case case10 =>
    intro item ih hfinite depth
    rw [Json.itemsHaveFiniteNumbers, Bool.and_eq_true] at hfinite
    rw [Json.literalItems, itemTokens]
    exact ih hfinite.1 depth
  case case11 =>
    intro item rest hrest ihitem ihrest hfinite depth
    rw [Json.itemsHaveFiniteNumbers, Bool.and_eq_true] at hfinite
    rw [Json.literalItems, itemTokens, toList_comma]
    · exact (ihitem hfinite.1 depth).separated (Or.inl rfl) (isGap_spaces depth 1)
        (ihrest hfinite.2 depth)
    · exact hrest
    · exact hrest
  -- Members, in the same way.
  case case12 =>
    intro _ depth
    rw [Json.literalMembers, memberTokens]
    exact Scans.nil depth
  case case13 =>
    intro key value ih hfinite depth
    rw [Json.membersHaveFiniteNumbers, Bool.and_eq_true] at hfinite
    rw [Json.literalMembers, memberTokens, toList_colon]
    exact Scans.member key (ih hfinite.1 depth)
  case case14 =>
    intro key value rest hrest ihvalue ihrest hfinite depth
    rw [Json.membersHaveFiniteNumbers, Bool.and_eq_true] at hfinite
    rw [Json.literalMembers, memberTokens, toList_comma, toList_colon]
    · exact (Scans.member key (ihvalue hfinite.1 depth)).separated (Or.inl rfl)
        (isGap_spaces depth 1) (ihrest hfinite.2 depth)
    · exact hrest
    · exact hrest

theorem scans_literal {v : Json} (h : v.hasFiniteNumbers = true) (depth : Nat) :
    Scans depth v.literal.toList (tokens v) := scans_literals.1 v h depth

/-! ## Building -/

/-- The tokens are put together to the value, whatever is not complete around them. -/
def Builds (ts : List Token) (v : Json) : Prop :=
  ∀ frames, build ⟨frames, none⟩ ts = some ⟨frames, some v⟩

theorem build_of_step {b next : Build} {t : Token} (h : buildStep b t = some next)
    (ts : List Token) : build b (t :: ts) = build next ts := by
  rw [build, List.foldlM_cons, h]
  rfl

theorem build_of_builds {ts : List Token} {v : Json} (h : Builds ts v) (frames : List Frame)
    (rest : List Token) : build ⟨frames, none⟩ (ts ++ rest) = build ⟨frames, some v⟩ rest := by
  rw [build, List.foldlM_append]
  have hfirst := h frames
  rw [build] at hfirst
  rw [hfirst]
  rfl

theorem builds_text (s : String) : Builds [.text s.toList] (.str s) := by
  intro frames
  have hstep : buildStep ⟨frames, none⟩ (.text s.toList) =
      some ⟨frames, some (.str (String.ofList s.toList))⟩ := rfl
  rw [build_of_step hstep, String.ofList_toList]
  rfl

theorem builds_word {s : List Char} {v : Json} (h : word? s = some v) : Builds [.word s] v := by
  intro frames
  have hstep : buildStep ⟨frames, none⟩ (.word s) = some ⟨frames, some v⟩ := by
    simp [buildStep, h]
  rw [build_of_step hstep]
  rfl

/-- The tokens of items build the rest of a list. -/
def BuildsItems (items : List Json) : Prop :=
  items ≠ [] → ∀ before frames, build ⟨.list before :: frames, none⟩
    (itemTokens items ++ [.mark ']']) = some ⟨frames, some (.arr (before ++ items))⟩

/-- The tokens of members build the rest of a dictionary with other keys. -/
def BuildsMembers (members : Json.Members) : Prop :=
  members ≠ [] → ∀ before frames, (Json.keys (before ++ members)).Nodup →
    build ⟨.key before :: frames, none⟩ (memberTokens members ++ [.mark '\x7d']) =
      some ⟨frames, some (.obj (before ++ members))⟩

theorem builds_arr {items : List Json} (h : BuildsItems items) :
    Builds (tokens (.arr items)) (.arr items) := by
  intro frames
  have hopen : buildStep ⟨frames, none⟩ (.mark '[') = some ⟨.list [] :: frames, none⟩ := rfl
  rw [tokens, build_of_step hopen]
  cases items with
  | nil =>
    rw [itemTokens]
    rfl
  | cons item items => exact h (List.cons_ne_nil item items) [] frames

theorem builds_obj {members : Json.Members} (h : BuildsMembers members)
    (hkeys : (Json.keys members).Nodup) : Builds (tokens (.obj members)) (.obj members) := by
  intro frames
  have hopen : buildStep ⟨frames, none⟩ (.mark '\x7b') = some ⟨.key [] :: frames, none⟩ := rfl
  rw [tokens, build_of_step hopen]
  cases members with
  | nil =>
    rw [memberTokens]
    rfl
  | cons p members => exact h (List.cons_ne_nil p members) [] frames hkeys

/-- A key, a colon and a value stand for a member. -/
theorem build_member {key : String} {value : Json} (h : Builds (tokens value) value)
    (before : Json.Members) (frames : List Frame) (rest : List Token) :
    build ⟨.key before :: frames, none⟩ (.text key.toList :: .mark ':' :: (tokens value ++ rest)) =
      build ⟨.value before key :: frames, some value⟩ rest := by
  have hkey : buildStep ⟨.key before :: frames, none⟩ (.text key.toList) =
      some ⟨.key before :: frames, some (.str key)⟩ := by
    simp [buildStep]
  have hcolon : buildStep ⟨.key before :: frames, some (.str key)⟩ (.mark ':') =
      some ⟨.value before key :: frames, none⟩ := rfl
  rw [build_of_step hkey, build_of_step hcolon, build_of_builds h]

theorem insert_of_nodup {before : Json.Members} {key : String} {value : Json} {rest : Json.Members}
    (h : (Json.keys (before ++ (key, value) :: rest)).Nodup) :
    Ordered.insert key value before = before ++ [(key, value)] := by
  refine Ordered.insert_of_not_mem value fun hmem => ?_
  rw [Json.keys, List.map_append, List.map_cons] at h
  exact (List.nodup_append.1 h).2.2 key hmem key List.mem_cons_self rfl

/-- The tokens of a value are put together to the value. The parts follow the writers of values, of
members and of items. -/
theorem builds_all :
    (∀ v : Json, v.hasFiniteNumbers = true → v.hasDistinctKeys = true → Builds (tokens v) v) ∧
      (∀ members, Json.membersHaveFiniteNumbers members = true →
        Json.membersHaveDistinctKeys members = true → BuildsMembers members) ∧
      (∀ items, Json.itemsHaveFiniteNumbers items = true →
        Json.itemsHaveDistinctKeys items = true → BuildsItems items) := by
  apply Json.literal.mutual_induct
  case case1 =>
    intro _ _
    exact builds_word (v := .null) rfl
  case case2 =>
    intro _ _
    exact builds_word (v := .bool true) rfl
  case case3 =>
    intro b hb _ _
    cases b with
    | true => exact absurd rfl hb
    | false => exact builds_word (v := .bool false) rfl
  case case4 =>
    intro n _ _
    exact builds_word (word?_toString n)
  case case5 =>
    intro x hx _
    exact builds_word (word?_toText hx)
  case case6 =>
    intro s _ _
    exact builds_text s
  case case7 =>
    intro items ih hfinite hkeys
    exact builds_arr (ih hfinite hkeys)
  case case8 =>
    intro members ih hfinite hkeys
    rw [Json.hasDistinctKeys, Bool.and_eq_true, decide_eq_true_eq] at hkeys
    exact builds_obj (ih hfinite hkeys.2) hkeys.1
  -- Items: none, the last one, and one with others behind it.
  case case9 =>
    intro _ _ hne
    exact absurd rfl hne
  case case10 =>
    intro item ih hfinite hkeys _ before frames
    rw [Json.itemsHaveFiniteNumbers, Bool.and_eq_true] at hfinite
    rw [Json.itemsHaveDistinctKeys, Bool.and_eq_true] at hkeys
    rw [itemTokens, build_of_builds (ih hfinite.1 hkeys.1)]
    rfl
  case case11 =>
    intro item rest hrest ihitem ihrest hfinite hkeys _ before frames
    rw [Json.itemsHaveFiniteNumbers, Bool.and_eq_true] at hfinite
    rw [Json.itemsHaveDistinctKeys, Bool.and_eq_true] at hkeys
    have hcomma : buildStep ⟨.list before :: frames, some item⟩ (.mark ',') =
        some ⟨.list (before ++ [item]) :: frames, none⟩ := rfl
    rw [itemTokens, List.append_assoc, build_of_builds (ihitem hfinite.1 hkeys.1),
      List.cons_append, build_of_step hcomma, ihrest hfinite.2 hkeys.2 hrest, List.append_assoc]
    · rfl
    · exact hrest
  -- Members, in the same way; the key of each is new to the members before it.
  case case12 =>
    intro _ _ hne
    exact absurd rfl hne
  case case13 =>
    intro key value ih hfinite hkeys _ before frames hnodup
    rw [Json.membersHaveFiniteNumbers, Bool.and_eq_true] at hfinite
    rw [Json.membersHaveDistinctKeys, Bool.and_eq_true] at hkeys
    have hclose : buildStep ⟨.value before key :: frames, some value⟩ (.mark '\x7d') =
        some ⟨frames, some (.obj (Ordered.insert key value before))⟩ := rfl
    rw [memberTokens, List.cons_append, List.cons_append, build_member (ih hfinite.1 hkeys.1),
      build_of_step hclose, insert_of_nodup hnodup]
    rfl
  case case14 =>
    intro key value rest hrest ihvalue ihrest hfinite hkeys _ before frames hnodup
    rw [Json.membersHaveFiniteNumbers, Bool.and_eq_true] at hfinite
    rw [Json.membersHaveDistinctKeys, Bool.and_eq_true] at hkeys
    have hcomma : buildStep ⟨.value before key :: frames, some value⟩ (.mark ',') =
        some ⟨.key (before ++ [(key, value)]) :: frames, none⟩ := by
      rw [← insert_of_nodup hnodup]
      rfl
    have hsplit : before ++ [(key, value)] ++ rest = before ++ (key, value) :: rest := by simp
    rw [memberTokens, List.cons_append, List.cons_append, List.append_assoc,
      build_member (ihvalue hfinite.1 hkeys.1), List.cons_append, build_of_step hcomma,
      ihrest hfinite.2 hkeys.2 hrest _ _ (hsplit ▸ hnodup), hsplit]
    exact hrest

/-- The tokens of a value are put together to the value. -/
theorem builds_tokens {v : Json} (hfinite : v.hasFiniteNumbers = true)
    (hkeys : v.hasDistinctKeys = true) : Builds (tokens v) v :=
  builds_all.1 v hfinite hkeys

end ApiDiscovery.Literal
