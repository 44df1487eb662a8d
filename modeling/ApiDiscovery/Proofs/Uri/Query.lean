import ApiDiscovery.Proofs.Text.Cutting
import ApiDiscovery.Proofs.Uri.Percent
import ApiDiscovery.Uri.Query

/-!
# Reading written queries

A written query is read as the pairs it was written from, gathered by name (`parse_build`). No
name and no value can be mistaken for a separator: what stands in a written component is unreserved,
a percent sign or a plus sign (`encodeComponent_forall`). Gathering is idempotent
(`gather_gather`) and neither loses nor invents pairs (`gather_perm`). Parameters with distinct names
need no gathering, and come back from a query as they were (`toParameters_ofParameters`). When one
parameter is set (`IsSet`) all others keep their values and their order (`IsSet.others`), and the
query that is written then is read as it was meant (`parse_build_set`).
-/

namespace ApiDiscovery.Uri.Query

open ApiDiscovery.Text

/-! ## Names and values -/

/-- The character stands for itself in a name or a value, or for itself as a plus sign. -/
def keepsInComponent (c : Char) : Bool := Percent.isUnreserved c || c == ' '

theorem encodeComponent_eq (s : String) :
    encodeComponent s = (Percent.encode keepsInComponent s.toList).map fun c =>
      if c == ' ' then '+' else c := rfl

/-- A property of the unreserved characters, of the percent sign and of the plus sign holds of
every character of a written name or value. -/
theorem encodeComponent_forall {Q : Char → Prop} (hunreserved : ∀ c, Percent.isUnreserved c → Q c)
    (hpercent : Q '%') (hplus : Q '+') (s : String) : ∀ c ∈ encodeComponent s, Q c := by
  intro c hc
  rw [encodeComponent_eq, List.mem_map] at hc
  obtain ⟨d, hd, rfl⟩ := hc
  -- A space is written as a plus sign; of the other characters nothing changes.
  by_cases hspace : d = ' '
  · subst hspace
    exact hplus
  rw [if_neg (by simpa using hspace)]
  refine Percent.encode_forall (Q := fun c => c ≠ ' ' → Q c) (fun _ => hpercent)
    (fun n hn _ => hunreserved _ (Percent.isUnreserved_hexDigitUpper n hn)) ?_ d hd hspace
  intro c _ hkeep hne
  simp only [keepsInComponent, Bool.or_eq_true, beq_iff_eq, hne, or_false] at hkeep
  exact hunreserved c hkeep

/-- A plus sign is read as a space, and no other character changes. -/
theorem plusToSpace_encodeComponent (s : String) :
    plusToSpace (encodeComponent s) = Percent.encode keepsInComponent s.toList := by
  rw [plusToSpace, encodeComponent_eq, List.map_map]
  have hne : ∀ c ∈ Percent.encode keepsInComponent s.toList, c ≠ '+' := by
    -- A plus sign of the text itself is written as an escape.
    refine Percent.encode_forall (by decide) (by decide) ?_
    rintro c - hkeep rfl
    exact absurd hkeep (by decide)
  calc
    _ = (Percent.encode keepsInComponent s.toList).map id := by
      refine List.map_congr_left fun c hc => ?_
      have hplus := hne c hc
      by_cases hspace : c = ' '
      · subst hspace
        rfl
      · simp [hspace, hplus]
    _ = _ := List.map_id _

theorem component_encodeComponent (s : String) : component (encodeComponent s) = s := by
  rw [component, plusToSpace_encodeComponent, Percent.decode_encode (by decide),
    String.ofList_toList]

/-! ## Pairs -/

theorem encodeComponent_not_mem {c : Char} (hunreserved : Percent.isUnreserved c = false)
    (hpercent : c ≠ '%') (hplus : c ≠ '+') (s : String) : c ∉ encodeComponent s := by
  intro hc
  refine encodeComponent_forall (Q := fun d => d ≠ c) ?_ hpercent.symm hplus.symm s c hc rfl
  rintro d hd rfl
  rw [hunreserved] at hd
  cases hd

theorem pairText_not_mem {c : Char} (hunreserved : Percent.isUnreserved c = false)
    (hpercent : c ≠ '%') (hplus : c ≠ '+') (hequals : c ≠ '=') (p : String × String) :
    c ∉ pairText p := by
  intro hc
  rw [pairText, List.mem_append, List.mem_cons] at hc
  rcases hc with hc | hc | hc
  · exact encodeComponent_not_mem hunreserved hpercent hplus p.1 hc
  · exact hequals hc
  · exact encodeComponent_not_mem hunreserved hpercent hplus p.2 hc

theorem pairText_ne_nil (p : String × String) : pairText p ≠ [] := by
  rw [pairText]
  exact List.append_ne_nil_of_right_ne_nil _ (List.cons_ne_nil _ _)

/-- A property of the characters of written names and values, of the equals sign and of the
ampersand holds of every character of a written query. -/
theorem build_forall {Q : Char → Prop} (hunreserved : ∀ c, Percent.isUnreserved c → Q c)
    (hpercent : Q '%') (hplus : Q '+') (hequals : Q '=') (hampersand : Q '&') (pairs : Pairs) :
    ∀ c ∈ (build pairs).toList, Q c := by
  intro c hc
  rw [build, String.toList_ofList] at hc
  rcases mem_intercalate hc with rfl | ⟨part, hpart, hc⟩
  · exact hampersand
  obtain ⟨p, -, rfl⟩ := List.mem_map.1 hpart
  rw [pairText, List.mem_append, List.mem_cons] at hc
  rcases hc with hc | rfl | hc
  · exact encodeComponent_forall hunreserved hpercent hplus p.1 c hc
  · exact hequals
  · exact encodeComponent_forall hunreserved hpercent hplus p.2 c hc

theorem pair_pairText (p : String × String) : pair (pairText p) = p := by
  have hname : ∀ c ∈ encodeComponent p.1, (c == '=') = false := by
    intro c hc
    apply beq_eq_false_iff_ne.2
    rintro rfl
    exact encodeComponent_not_mem (by decide) (by decide) (by decide) p.1 hc
  rw [pair, pairText, cutFirst_append_cons (p := (· == '=')) _ hname (beq_self_eq_true '=')]
  show (component (encodeComponent p.1), component (encodeComponent p.2)) = p
  rw [component_encodeComponent, component_encodeComponent]

/-- Pieces that are not empty and have no ampersand are read one by one. -/
theorem pairsInOrder_intercalate {parts : List (List Char)}
    (h : ∀ part ∈ parts, part ≠ [] ∧ '&' ∉ part) :
    pairsInOrder (List.intercalate ['&'] parts) = parts.map pair := by
  cases parts with
  | nil => rfl
  | cons part parts =>
    have hfilter : (part :: parts).filter (fun piece => !piece.isEmpty) = part :: parts :=
      List.filter_eq_self.2 fun piece hpiece => by simpa using (h piece hpiece).1
    rw [pairsInOrder, pieces_intercalate '&' (List.cons_ne_nil _ _) fun q hq => (h q hq).2,
      hfilter]

theorem pairText_isPiece (p : String × String) : pairText p ≠ [] ∧ '&' ∉ pairText p :=
  ⟨pairText_ne_nil p, pairText_not_mem (by decide) (by decide) (by decide) (by decide) p⟩

theorem map_pair_pairText (pairs : Pairs) : (pairs.map pairText).map pair = pairs := by
  rw [List.map_map]
  calc
    _ = pairs.map id := List.map_congr_left fun p _ => pair_pairText p
    _ = pairs := List.map_id pairs

theorem pairsInOrder_build (pairs : Pairs) : pairsInOrder (build pairs).toList = pairs := by
  rw [build, String.toList_ofList, pairsInOrder_intercalate, map_pair_pairText]
  intro part hpart
  obtain ⟨q, -, rfl⟩ := List.mem_map.1 hpart
  exact pairText_isPiece q

/-! ## Gathering -/

theorem distinct_cons (name : String) (names : List String) :
    distinct (name :: names) = name :: (distinct names).filter fun other => other ≠ name := rfl

theorem distinct_filter (p : String → Bool) (names : List String) :
    distinct (names.filter p) = (distinct names).filter p := by
  induction names with
  | nil => rfl
  | cons n names ih =>
    rw [distinct_cons, List.filter_cons, List.filter_cons]
    by_cases hn : p n = true
    · rw [if_pos hn, if_pos hn, distinct_cons, ih, List.filter_filter, List.filter_filter]
      simp only [Bool.and_comm]
    · rw [if_neg hn, if_neg hn, ih, List.filter_filter]
      refine List.filter_congr fun m _ => ?_
      by_cases hm : m = n
      · subst hm
        simp [Bool.eq_false_iff.2 hn]
      · simp [hm]

theorem mem_distinct {name : String} {names : List String} :
    name ∈ distinct names ↔ name ∈ names := by
  induction names with
  | nil => rfl
  | cons n names ih =>
    rw [distinct_cons, List.mem_cons, List.mem_cons, List.mem_filter, ih]
    by_cases h : name = n <;> simp [h]

theorem nodup_distinct (names : List String) : (distinct names).Nodup := by
  induction names with
  | nil => exact List.nodup_nil
  | cons n names ih =>
    rw [distinct_cons, List.nodup_cons, List.mem_filter]
    exact ⟨fun h => by simpa using h.2, ih.filter _⟩

/-- The pairs of the first name come first, and the other pairs are gathered among themselves. -/
theorem gather_cons (p : String × String) (pairs : Pairs) :
    gather (p :: pairs) =
      p :: withName p.1 pairs ++ gather (pairs.filter fun q => q.1 ≠ p.1) := by
  have hnames : (pairs.filter fun q => q.1 ≠ p.1).map Prod.fst =
      (pairs.map Prod.fst).filter fun n => n ≠ p.1 := by
    rw [List.filter_map]
    rfl
  rw [gather, gather, hnames, distinct_filter, List.map_cons, distinct_cons, List.flatMap_cons]
  congr 1
  · simp [withName]
  · refine List.flatMap_congr fun n hn => ?_
    have hne : n ≠ p.1 := by simpa using (List.mem_filter.1 hn).2
    rw [withName, withName, List.filter_cons, if_neg (by simpa using hne.symm),
      List.filter_filter]
    refine List.filter_congr fun q _ => ?_
    by_cases hq : q.1 = n <;> simp [hq, hne]

theorem mem_gather {q : String × String} {pairs : Pairs} : q ∈ gather pairs ↔ q ∈ pairs := by
  rw [gather, List.mem_flatMap]
  constructor
  · rintro ⟨n, -, hq⟩
    exact (List.mem_filter.1 hq).1
  · intro hq
    exact ⟨q.1, mem_distinct.2 (List.mem_map_of_mem hq), List.mem_filter.2 ⟨hq, by simp⟩⟩

/-- Pairs are gathered name by name: what holds of the pairs of other names than the first holds of
all. -/
theorem gather_induction {motive : Pairs → Prop} (nil : motive [])
    (cons : ∀ (p : String × String) (pairs : Pairs),
      motive (pairs.filter fun q => q.1 ≠ p.1) → motive (p :: pairs))
    (pairs : Pairs) : motive pairs := by
  -- The pairs of other names than the first are fewer, but no tail of the list.
  induction hn : pairs.length using Nat.strongRecOn generalizing pairs with
  | ind n ih =>
    cases pairs with
    | nil => exact nil
    | cons p pairs =>
      have hle := List.length_filter_le (fun q : String × String => q.1 ≠ p.1) pairs
      refine cons p pairs (ih _ ?_ _ rfl)
      rw [← hn, List.length_cons]
      omega

/-- Gathering changes nothing but the order of the pairs. -/
theorem gather_perm (pairs : Pairs) : (gather pairs).Perm pairs := by
  induction pairs using gather_induction with
  | nil => exact List.Perm.refl []
  | cons p pairs ih =>
    rw [gather_cons, List.cons_append]
    apply List.Perm.cons p
    apply (ih.append_left _).trans
    rw [withName]
    simpa using List.filter_append_perm (fun q : String × String => q.1 = p.1) pairs

section Names

variable {name : String} {pairs : Pairs}

theorem fst_of_mem_withName {q : String × String} (h : q ∈ withName name pairs) : q.1 = name :=
  of_decide_eq_true (List.mem_filter.1 h).2

theorem withName_append (a b : Pairs) :
    withName name (a ++ b) = withName name a ++ withName name b := List.filter_append ..

theorem withName_of_forall_eq (h : ∀ p ∈ pairs, p.1 = name) : withName name pairs = pairs :=
  List.filter_eq_self.2 fun p hp => decide_eq_true (h p hp)

theorem withName_of_forall_ne (h : ∀ p ∈ pairs, p.1 ≠ name) : withName name pairs = [] :=
  List.filter_eq_nil_iff.2 fun p hp => by simpa using h p hp

theorem filter_of_forall_eq (h : ∀ p ∈ pairs, p.1 = name) :
    (pairs.filter fun p => p.1 ≠ name) = [] :=
  List.filter_eq_nil_iff.2 fun p hp => by simpa using h p hp

theorem filter_of_forall_ne (h : ∀ p ∈ pairs, p.1 ≠ name) :
    (pairs.filter fun p => p.1 ≠ name) = pairs :=
  List.filter_eq_self.2 fun p hp => decide_eq_true (h p hp)

theorem gather_forall_ne (h : ∀ p ∈ pairs, p.1 ≠ name) : ∀ p ∈ gather pairs, p.1 ≠ name :=
  fun p hp => h p (mem_gather.1 hp)

end Names

/-- Pairs of one name that stand before all others are gathered already. -/
theorem gather_block {p : String × String} {block others : Pairs}
    (hblock : ∀ q ∈ block, q.1 = p.1) (hothers : ∀ q ∈ others, q.1 ≠ p.1) :
    gather (p :: block ++ others) = p :: block ++ gather others := by
  rw [List.cons_append, gather_cons, withName_append, withName_of_forall_eq hblock,
    withName_of_forall_ne hothers, List.append_nil, List.filter_append,
    filter_of_forall_eq hblock, filter_of_forall_ne hothers, List.nil_append]

theorem gather_lone (p : String × String) {others : Pairs} (h : ∀ q ∈ others, q.1 ≠ p.1) :
    gather (p :: others) = p :: gather others := by
  rw [gather_cons, withName_of_forall_ne h, filter_of_forall_ne h]
  rfl

theorem gather_gather (pairs : Pairs) : gather (gather pairs) = gather pairs := by
  induction pairs using gather_induction with
  | nil => rfl
  | cons p pairs ih =>
    have hothers : ∀ q ∈ gather (pairs.filter fun q => q.1 ≠ p.1), q.1 ≠ p.1 :=
      gather_forall_ne fun q hq => of_decide_eq_true (List.mem_filter.1 hq).2
    rw [gather_cons, gather_block (fun _ => fst_of_mem_withName) hothers, ih]

/-! ## A query behind another one -/

theorem questionMark_mem_component {s : List Char} (h : '?' ∈ s) :
    '?' ∈ (component s).toList := by
  rw [component, String.toList_ofList]
  apply Percent.mem_decode (by decide) (by decide) (by decide)
  exact List.mem_map.2 ⟨'?', h, by decide⟩

/-- A question mark in front of a pair gets into its name or its value. -/
theorem pair_append (x : List Char) (p : String × String) :
    '?' ∈ (pair (x ++ '?' :: pairText p)).1.toList ∨
      '?' ∈ (pair (x ++ '?' :: pairText p)).2.toList := by
  cases hcut : cutFirst (· == '=') x with
  | mk a behind =>
    cases behind with
    | some b =>
      -- The name ends in the text in front, so the mark is in the value.
      obtain ⟨c, hc, rfl, hfree⟩ := cutFirst_eq_some hcut
      right
      rw [pair, List.append_assoc, List.cons_append,
        cutFirst_append_cons (p := (· == '=')) _ hfree hc]
      exact questionMark_mem_component (List.mem_append_right _ List.mem_cons_self)
    | none =>
      -- The text in front and the mark belong to the name.
      obtain ⟨-, hfree⟩ := cutFirst_eq_none hcut
      have hname : ∀ c ∈ x ++ '?' :: encodeComponent p.1, (c == '=') = false := by
        intro c hc
        rcases List.mem_append.1 hc with hc | hc
        · exact hfree c hc
        rcases List.mem_cons.1 hc with rfl | hc
        · decide
        · apply beq_eq_false_iff_ne.2
          rintro rfl
          exact encodeComponent_not_mem (by decide) (by decide) (by decide) p.1 hc
      have hpiece : x ++ '?' :: pairText p =
          (x ++ '?' :: encodeComponent p.1) ++ '=' :: encodeComponent p.2 := by
        rw [pairText, List.append_assoc, List.cons_append]
      left
      rw [hpiece, pair, cutFirst_append_cons (p := (· == '=')) _ hname (beq_self_eq_true '=')]
      exact questionMark_mem_component (List.mem_append_right _ List.mem_cons_self)

/-- Behind a text without an ampersand and a question mark only the first written pair is read
otherwise. -/
theorem pairsInOrder_behind {x : List Char} (hx : '&' ∉ x) (p : String × String) (pairs : Pairs) :
    pairsInOrder (x ++ '?' :: (build (p :: pairs)).toList) =
      pair (x ++ '?' :: pairText p) :: pairs := by
  have hjoined : x ++ '?' :: (build (p :: pairs)).toList =
      List.intercalate ['&'] ((x ++ '?' :: pairText p) :: pairs.map pairText) := by
    rw [build, String.toList_ofList]
    cases pairs with
    | nil => simp [List.intercalate]
    | cons q pairs => simp [List.intercalate]
  rw [hjoined, pairsInOrder_intercalate, List.map_cons, map_pair_pairText]
  intro part hpart
  rcases List.mem_cons.1 hpart with rfl | hpart
  · refine ⟨List.append_ne_nil_of_right_ne_nil x (List.cons_ne_nil _ _), ?_⟩
    rw [List.mem_append, List.mem_cons]
    rintro (h | h | h)
    · exact hx h
    · exact absurd h (by decide)
    · exact (pairText_isPiece p).2 h
  · obtain ⟨q, -, rfl⟩ := List.mem_map.1 hpart
    exact pairText_isPiece q

/-- Behind another query and a question mark a written query is not read as it was meant. -/
theorem parse_behind_ne (w : List Char) {p : String × String} (pairs : Pairs)
    (hname : '?' ∉ p.1.toList) (hvalue : '?' ∉ p.2.toList) :
    parse (String.ofList (w ++ '?' :: (build (p :: pairs)).toList)) ≠ gather (p :: pairs) := by
  -- What stands before the last ampersand of the other query is read on its own.
  obtain ⟨front, x, hread⟩ : ∃ front x,
      pairsInOrder (w ++ '?' :: (build (p :: pairs)).toList) =
        front ++ pair (x ++ '?' :: pairText p) :: pairs := by
    cases hcut : cutLast (· == '&') w with
    | none =>
      refine ⟨[], w, pairsInOrder_behind (fun hmem => ?_) p pairs⟩
      exact absurd (cutLast_eq_none hcut _ hmem) (by decide)
    | some parts =>
      obtain ⟨a, x⟩ := parts
      obtain ⟨c, hc, rfl, hfree⟩ := cutLast_eq_some hcut
      have hx : '&' ∉ x := fun hmem => absurd (hfree _ hmem) (by decide)
      refine ⟨pairsInOrder a, x, ?_⟩
      rw [← pairsInOrder_behind hx, List.append_assoc, List.cons_append, pairsInOrder,
        pieces_append_cons (p := (· == '&')) a _ hc, List.filter_append, List.map_append]
      rfl
  rw [parse, String.toList_ofList, hread]
  intro heq
  -- Gathering keeps the number of pairs, so there are none in front.
  have hlength := (gather_perm (front ++ pair (x ++ '?' :: pairText p) :: pairs)).length_eq
  rw [heq, (gather_perm (p :: pairs)).length_eq, List.length_append, List.length_cons,
    List.length_cons] at hlength
  obtain rfl : front = [] := List.length_eq_zero_iff.1 (by omega)
  rw [List.nil_append, gather_cons, gather_cons, List.cons_append, List.cons_append,
    List.cons.injEq] at heq
  rcases pair_append x p with h | h
  · rw [heq.1] at h
    exact hname h
  · rw [heq.1] at h
    exact hvalue h

/-! ## Round trip -/

theorem parse_build (pairs : Pairs) : parse (build pairs) = gather pairs := by
  rw [parse, pairsInOrder_build]

/-! ## Parameters -/

theorem distinct_of_nodup {names : List String} (h : names.Nodup) : distinct names = names := by
  induction names with
  | nil => rfl
  | cons n names ih =>
    rw [List.nodup_cons] at h
    rw [distinct_cons, ih h.2, List.filter_eq_self.2]
    rintro m hm
    have hne : m ≠ n := fun heq => h.1 (heq ▸ hm)
    simpa using hne

/-- Where names are distinct, the pairs of the name of a pair are this pair alone. -/
theorem withName_of_nodup {pairs : Pairs} (h : (pairs.map Prod.fst).Nodup) {p : String × String}
    (hp : p ∈ pairs) : withName p.1 pairs = [p] := by
  induction pairs with
  | nil => exact absurd hp List.not_mem_nil
  | cons q pairs ih =>
    rw [List.map_cons, List.nodup_cons] at h
    rw [withName, List.filter_cons]
    rcases List.mem_cons.1 hp with rfl | hp
    · have hnone : pairs.filter (fun q => q.1 = p.1) = [] := by
        refine List.filter_eq_nil_iff.2 fun q hq heq => h.1 ?_
        exact of_decide_eq_true heq ▸ List.mem_map_of_mem hq
      rw [if_pos (by simp), hnone]
    · have hne : q.1 ≠ p.1 := fun heq => h.1 (heq ▸ List.mem_map_of_mem hp)
      rw [if_neg (by simpa using hne)]
      exact ih h.2 hp

theorem gather_of_nodup {pairs : Pairs} (h : (pairs.map Prod.fst).Nodup) :
    gather pairs = pairs := by
  rw [gather, distinct_of_nodup h, List.flatMap_map]
  calc
    _ = pairs.flatMap fun p => [p] := List.flatMap_congr fun p hp => withName_of_nodup h hp
    _ = pairs := List.flatMap_singleton' pairs

theorem lastOfEach_of_nodup {pairs : Pairs} (h : (pairs.map Prod.fst).Nodup) :
    lastOfEach pairs = pairs := by
  rw [lastOfEach, distinct_of_nodup h, List.filterMap_map]
  calc
    _ = pairs.filterMap some := by
      refine List.filterMap_congr fun p hp => ?_
      rw [Function.comp_apply, withName_of_nodup h hp]
      rfl
    _ = pairs := List.filterMap_some

/-- The last values stand under all names, each once. -/
theorem names_lastOfEach (pairs : Pairs) :
    (lastOfEach pairs).map Prod.fst = distinct (pairs.map Prod.fst) := by
  have hname : ∀ name ∈ distinct (pairs.map Prod.fst),
      (withName name pairs).getLast?.map Prod.fst = some name := by
    intro name hname
    obtain ⟨p, hp, rfl⟩ := List.mem_map.1 (mem_distinct.1 hname)
    have hne : withName p.1 pairs ≠ [] :=
      List.ne_nil_of_mem (List.mem_filter.2 ⟨hp, decide_eq_true rfl⟩)
    have hlast := List.getLast_mem hne
    rw [List.getLast?_eq_some_getLast hne, Option.map_some]
    exact congrArg some (of_decide_eq_true (List.mem_filter.1 hlast).2)
  rw [lastOfEach, List.map_filterMap]
  calc
    _ = (distinct (pairs.map Prod.fst)).filterMap some := List.filterMap_congr hname
    _ = _ := List.filterMap_some

theorem nodup_toParameters (query : String) : ((toParameters query).map Prod.fst).Nodup := by
  rw [toParameters, names_lastOfEach]
  exact nodup_distinct _

/-- A written query starts with no question mark. -/
theorem dropWhile_build (pairs : Pairs) :
    (build pairs).toList.dropWhile (· == '?') = (build pairs).toList := by
  have hmark : ∀ c ∈ (build pairs).toList, c ≠ '?' :=
    build_forall (fun c hc heq => by rw [heq] at hc; exact absurd hc (by decide)) (by decide)
      (by decide) (by decide) (by decide) pairs
  cases hquery : (build pairs).toList with
  | nil => rfl
  | cons c query =>
    have hc : (c == '?') = false := beq_eq_false_iff_ne.2 (hmark c (hquery ▸ List.mem_cons_self))
    rw [List.dropWhile_cons_of_neg (by simp [hc])]

theorem toParameters_build (pairs : Pairs) : toParameters (build pairs) = lastOfEach pairs := by
  rw [toParameters, dropWhile_build, pairsInOrder_build]

/-- Parameters with distinct names are read back from the query that names them, in order. -/
theorem toParameters_ofParameters {parameters : Pairs}
    (h : (parameters.map Prod.fst).Nodup) : toParameters (ofParameters parameters) = parameters := by
  rw [ofParameters, toParameters_build, gather_of_nodup h, lastOfEach_of_nodup h]

/-! ## One parameter set -/

/-- The pairs on the right are those on the left with a name set to a value: the pairs of the name
become one at the place of the first, or there are none and one is added at the end. -/
inductive IsSet (name value : String) : Pairs → Pairs → Prop
  | replaced (front : Pairs) (old : String) (behind : Pairs) (h : ∀ p ∈ front, p.1 ≠ name) :
      IsSet name value (front ++ (name, old) :: behind)
        (front ++ (name, value) :: behind.filter fun p => p.1 ≠ name)
  | added (pairs : Pairs) (h : ∀ p ∈ pairs, p.1 ≠ name) :
      IsSet name value pairs (pairs ++ [(name, value)])

section IsSet

variable {name value : String}

theorem isSet_set (name value : String) (pairs : Pairs) :
    IsSet name value pairs (set name value pairs) := by
  induction pairs with
  | nil => exact .added [] fun _ h => absurd h List.not_mem_nil
  | cons p pairs ih =>
    obtain ⟨n, v⟩ := p
    rw [set]
    by_cases hn : n = name
    · subst hn
      rw [if_pos rfl]
      exact .replaced [] v pairs fun _ h => absurd h List.not_mem_nil
    · rw [if_neg hn]
      generalize set name value pairs = after at ih
      cases ih with
      | replaced front old behind h =>
        exact .replaced ((n, v) :: front) old behind (List.forall_mem_cons.2 ⟨hn, h⟩)
      | added _ h => exact .added ((n, v) :: pairs) (List.forall_mem_cons.2 ⟨hn, h⟩)

theorem withName_filter_ne (pairs : Pairs) :
    withName name (pairs.filter fun p => p.1 ≠ name) = [] :=
  withName_of_forall_ne fun p hp => by simpa using (List.mem_filter.1 hp).2

/-- The name that was set stands there once, with its value. -/
theorem IsSet.withName {before after : Pairs} (h : IsSet name value before after) :
    withName name after = [(name, value)] := by
  cases h with
  | replaced front old behind h =>
    rw [withName_append, withName_of_forall_ne h, Query.withName, List.filter_cons, if_pos (by simp)]
    exact congrArg ((name, value) :: ·) (withName_filter_ne behind)
  | added _ h =>
    rw [withName_append, withName_of_forall_ne h]
    simp [Query.withName]

/-- The pairs of other names keep their values and their order. -/
theorem IsSet.others {before after : Pairs} (h : IsSet name value before after) :
    (after.filter fun p => p.1 ≠ name) = before.filter fun p => p.1 ≠ name := by
  cases h with
  | replaced front old behind h =>
    rw [List.filter_append, List.filter_append, List.filter_cons, List.filter_cons,
      if_neg (by simp), if_neg (by simp), List.filter_filter]
    simp only [Bool.and_self]
  | added _ h => simp [List.filter_append]

/-- A first pair of another name stays the first. -/
theorem IsSet.head? {before after : Pairs} (h : IsSet name value before after)
    {p : String × String} (hp : before.head? = some p) (hne : p.1 ≠ name) :
    after.head? = some p := by
  cases h with
  | replaced front old behind h =>
    cases front with
    | nil =>
      cases hp
      exact absurd rfl hne
    | cons q front => exact hp
  | added _ h =>
    cases before with
    | nil => cases hp
    | cons q pairs => exact hp

end IsSet

theorem set_append {name : String} {front : Pairs} (h : ∀ p ∈ front, p.1 ≠ name) (value : String)
    (pairs : Pairs) : set name value (front ++ pairs) = front ++ set name value pairs := by
  induction front with
  | nil => rfl
  | cons p front ih =>
    obtain ⟨hp, hfront⟩ := List.forall_mem_cons.1 h
    rw [List.cons_append, set, if_neg hp, ih hfront, List.cons_append]

theorem mem_set {name value : String} {pairs : Pairs} {q : String × String}
    (h : q ∈ set name value pairs) : q = (name, value) ∨ q ∈ pairs := by
  have hset := isSet_set name value pairs
  generalize set name value pairs = after at h hset
  cases hset with
  | replaced front old behind _ =>
    rcases List.mem_append.1 h with h | h
    · exact .inr (List.mem_append_left _ h)
    · refine (List.mem_cons.1 h).imp id fun h => ?_
      exact List.mem_append_right _ (List.mem_cons_of_mem _ (List.mem_filter.1 h).1)
  | added _ _ =>
    rcases List.mem_append.1 h with h | h
    · exact .inr h
    · exact .inl (List.mem_singleton.1 h)

/-- Pairs that are gathered by name still are when a parameter is set. -/
theorem gather_set (name value : String) (pairs : Pairs) :
    gather (set name value (gather pairs)) = set name value (gather pairs) := by
  induction pairs using gather_induction with
  | nil => exact gather_of_nodup (List.pairwise_singleton _ name)
  | cons p pairs ih =>
    have hblock : ∀ q ∈ withName p.1 pairs, q.1 = p.1 := fun _ => fst_of_mem_withName
    have hothers : ∀ q ∈ gather (pairs.filter fun q => q.1 ≠ p.1), q.1 ≠ p.1 :=
      gather_forall_ne fun q hq => of_decide_eq_true (List.mem_filter.1 hq).2
    rw [gather_cons, List.cons_append, set]
    by_cases hname : p.1 = name
    · subst hname
      rw [if_pos rfl, List.filter_append, filter_of_forall_eq hblock, filter_of_forall_ne hothers,
        List.nil_append]
      have hset := gather_lone (p.1, value) hothers
      rw [gather_gather] at hset
      exact hset
    · have hset : ∀ q ∈ set name value (gather (pairs.filter fun q => q.1 ≠ p.1)),
          q.1 ≠ p.1 := by
        intro q hq
        rcases mem_set hq with rfl | hq
        · exact fun heq => hname heq.symm
        · exact hothers q hq
      rw [if_neg hname, set_append fun q hq => (hblock q hq).trans_ne hname, ← List.cons_append,
        gather_block hblock hset, ih]

/-- A written query with a parameter set is read with this parameter set. -/
theorem parse_build_set (name value query : String) :
    parse (build (set name value (parse query))) = set name value (parse query) := by
  rw [parse_build, parse, gather_set]

end ApiDiscovery.Uri.Query
