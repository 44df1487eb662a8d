import ApiDiscovery.Proofs.Json.Number
import ApiDiscovery.Proofs.Ordered
import ApiDiscovery.Proofs.Outcome
import ApiDiscovery.Proofs.Uri.Query
import ApiDiscovery.Request.Draft

/-!
# The pairs of a query

The query of a request is written from the encoding of the response and from the supplied parameters
that are for the query (`Draft.queryPairs_eq`). With texts as names its pairs are gathered by name
and nothing else happens to them (`Draft.groupedPairs_textPairs`).
-/

namespace ApiDiscovery

open ApiDiscovery.Text

theorem Json.same_str (s t : String) : (Json.str s).same (.str t) = (s == t) := by
  simp [Json.same, Json.sameKey]

namespace Request.Draft

open Outcome
open Uri.Query (Pairs gather withName gather_cons)

/-! ## Groups of values -/

/-- Values under texts as names. -/
abbrev Groups := List (String × List String)

/-- The groups with their names as values. -/
def asKeys (groups : Groups) : List (Json × List String) :=
  groups.map fun g => (.str g.1, g.2)

/-- The pairs of a group. -/
def pairsOf (g : String × List String) : Pairs := g.2.map fun value => (g.1, value)

/-- Pairs with texts as names, with their names as values. -/
def textPairs (pairs : Pairs) : List (Json × String) := pairs.map fun p => (.str p.1, p.2)

theorem addToGroup_of_not_mem {name : String} (value : String) {groups : Groups}
    (h : name ∉ Ordered.names groups) :
    addToGroup (.str name) value (asKeys groups) = asKeys (groups ++ [(name, [value])]) := by
  induction groups with
  | nil => rfl
  | cons g groups ih =>
    rw [Ordered.names_cons, List.mem_cons, not_or] at h
    have hne : Json.sameKey (.str name) (.str g.1) = false := by
      rw [Json.sameKey]
      exact beq_eq_false_iff_ne.2 h.1
    rw [asKeys, List.map_cons, addToGroup, hne]
    show (Json.str g.1, g.2) :: addToGroup (.str name) value (asKeys groups) = _
    rw [ih h.2]
    rfl

theorem addToGroup_of_mem {name : String} (value : String) {groups : Groups}
    (hnodup : (Ordered.names groups).Nodup) (h : name ∈ Ordered.names groups) :
    addToGroup (.str name) value (asKeys groups) =
      asKeys (groups.map fun g => if g.1 = name then (g.1, g.2 ++ [value]) else g) := by
  induction groups with
  | nil => exact absurd h List.not_mem_nil
  | cons g groups ih =>
    rw [Ordered.names_cons, List.nodup_cons] at hnodup
    rw [Ordered.names_cons, List.mem_cons] at h
    rw [asKeys, List.map_cons, addToGroup]
    -- The names differ, so the group of the name is the only one that changes.
    by_cases hname : g.1 = name
    · have hsame : Json.sameKey (.str name) (.str g.1) = true := by
        rw [Json.sameKey]
        exact beq_iff_eq.2 hname.symm
      have hothers : (groups.map fun g => if g.1 = name then (g.1, g.2 ++ [value]) else g) =
          groups := by
        refine (List.map_congr_left fun other hother => ?_).trans (List.map_id groups)
        refine if_neg fun heq => hnodup.1 ?_
        rw [hname, ← heq]
        exact List.mem_map_of_mem hother
      rw [hsame, if_pos rfl, List.map_cons, hothers, if_pos hname]
      rfl
    · have hne : Json.sameKey (.str name) (.str g.1) = false := by
        rw [Json.sameKey]
        exact beq_eq_false_iff_ne.2 (Ne.symm hname)
      rw [hne, List.map_cons, if_neg hname]
      show (Json.str g.1, g.2) :: addToGroup (.str name) value (asKeys groups) = _
      rw [ih hnodup.2 (h.resolve_left (Ne.symm hname))]
      rfl

/-- Adding pairs to groups puts the values of the names that are there behind the old ones, and
gathers the other pairs after the groups. -/
theorem foldl_addToGroup (groups : Groups) (hnodup : (Ordered.names groups).Nodup) (pairs : Pairs) :
    ∃ groups' : Groups, (textPairs pairs).foldl (fun groups p => addToGroup p.1 p.2 groups)
        (asKeys groups) = asKeys groups' ∧ (Ordered.names groups').Nodup ∧
      groups'.flatMap pairsOf = (groups.flatMap fun g => pairsOf g ++ withName g.1 pairs) ++
        gather (pairs.filter fun p => p.1 ∉ Ordered.names groups) := by
  induction pairs generalizing groups with
  | nil =>
    refine ⟨groups, rfl, hnodup, ?_⟩
    simp [withName, gather, Uri.Query.distinct]
  | cons p pairs ih =>
    -- A value goes to the group of its name if there is one, and starts a new one otherwise.
    by_cases h : p.1 ∈ Ordered.names groups
    · have hnames : Ordered.names (groups.map fun g =>
          if g.1 = p.1 then (g.1, g.2 ++ [p.2]) else g) = Ordered.names groups := by
        rw [Ordered.names, List.map_map]
        refine List.map_congr_left fun g _ => ?_
        by_cases hg : g.1 = p.1 <;> simp [hg]
      obtain ⟨groups', hfold, hnodup', hpairs⟩ := ih _ (hnames ▸ hnodup)
      refine ⟨groups', ?_, hnodup', ?_⟩
      · rw [textPairs, List.map_cons, List.foldl_cons, addToGroup_of_mem p.2 hnodup h]
        exact hfold
      · rw [hpairs, hnames, List.filter_cons, if_neg (by simpa using h), List.flatMap_map]
        congr 1
        refine List.flatMap_congr fun g _ => ?_
        by_cases hg : g.1 = p.1
        · simp [hg, pairsOf, withName]
        · simp [hg, withName, Ne.symm hg]
    · have hnodup₁ : (Ordered.names (groups ++ [(p.1, [p.2])])).Nodup := by
        rw [Ordered.names, List.map_append, List.map_singleton]
        refine List.nodup_append.2 ⟨hnodup, List.pairwise_singleton _ _, ?_⟩
        rintro name hname _ hnew rfl
        exact h (List.mem_singleton.1 hnew ▸ hname)
      obtain ⟨groups', hfold, hnodup', hpairs⟩ := ih _ hnodup₁
      refine ⟨groups', ?_, hnodup', ?_⟩
      · rw [textPairs, List.map_cons, List.foldl_cons, addToGroup_of_not_mem p.2 h]
        exact hfold
      · have hnew : withName p.1 (pairs.filter fun q => q.1 ∉ Ordered.names groups) =
            withName p.1 pairs := by
          rw [withName, withName, List.filter_filter]
          refine List.filter_congr fun q _ => ?_
          by_cases hq : q.1 = p.1 <;> simp [hq, h]
        have hrest : (pairs.filter fun q => q.1 ∉ Ordered.names groups).filter
            (fun q => q.1 ≠ p.1) =
            pairs.filter fun q => q.1 ∉ Ordered.names (groups ++ [(p.1, [p.2])]) := by
          rw [List.filter_filter]
          refine List.filter_congr fun q _ => ?_
          have hnames : ∀ name, name ∈ Ordered.names (groups ++ [(p.1, [p.2])]) ↔
              name ∈ Ordered.names groups ∨ name = p.1 := by
            intro name
            rw [Ordered.names, List.map_append, List.mem_append, List.map_singleton,
              List.mem_singleton, Ordered.names]
          by_cases hq : q.1 = p.1 <;> simp [hnames, hq]
        have hold : (groups.flatMap fun g => pairsOf g ++ withName g.1 pairs) =
            groups.flatMap fun g => pairsOf g ++ withName g.1 (p :: pairs) := by
          refine List.flatMap_congr fun g hg => ?_
          have hne : p.1 ≠ g.1 := fun heq => h (heq ▸ List.mem_map_of_mem hg)
          simp [withName, hne]
        rw [hpairs, List.filter_cons, if_pos (by simpa using h), gather_cons, hnew, hrest,
          List.flatMap_append, hold]
        simp [pairsOf]

/-- Pairs with texts as names are gathered by name. -/
theorem groupedPairs_textPairs (pairs : Pairs) : groupedPairs (textPairs pairs) = gather pairs := by
  obtain ⟨groups, hfold, hnodup, hpairs⟩ :=
    foldl_addToGroup [] List.nodup_nil pairs
  have hnamed : (asKeys groups).foldl (fun named g => Ordered.insert g.1.display g.2 named) [] =
      groups := by
    rw [asKeys, List.foldl_map]
    exact Ordered.foldl_insert hnodup
  have hgroups : groupedPairs (textPairs pairs) = groups.flatMap pairsOf := by
    rw [groupedPairs]
    -- Every group is added at the end, since their names differ.
    have hstart : ([] : List (Json × List String)) = asKeys [] := rfl
    rw [hstart, hfold, hnamed]
    rfl
  rw [hgroups, hpairs]
  simp [Ordered.names]

/-! ## The encoding of the response -/

/-- No scalar but a text is written as the name of the parameter for the encoding. -/
theorem display_ne_encodingName {name : Json} (hscalar : name.isScalar = true)
    (h : name.same (.str encodingName) = false) : name.display ≠ encodingName := by
  cases name with
  | null => decide
  | bool b => cases b <;> decide
  | int n =>
    -- A number is written without letters but that of its exponent.
    intro heq
    have hletter : 'l' ∈ (toString n).toList := by
      show 'l' ∈ (Json.display (.int n)).toList
      rw [heq]
      decide
    exact absurd (isNumeric_toString n _ hletter) (by decide)
  | double x =>
    intro heq
    apply x.not_mem_toText
    show 'l' ∈ (Json.display (.double x)).toList
    rw [heq]
    decide
  | str s =>
    rw [Json.same_str] at h
    exact beq_eq_false_iff_ne.1 h
  | arr items => cases hscalar
  | obj members => cases hscalar

theorem sameKey_encodingName {name : Json} (h : name.display ≠ encodingName) :
    name.sameKey (.str encodingName) = false := by
  cases name with
  | str s => exact beq_eq_false_iff_ne.2 h
  | null => rfl
  | bool b => cases b <;> rfl
  | int n => rfl
  | double x =>
    show Json.sameNumber (.double x) (.str encodingName) = false
    have hnone : (Json.str encodingName).exactRatio? = none := rfl
    rw [Json.sameNumber, hnone]
    · cases (Json.double x).exactRatio? <;> rfl
    · exact fun _ _ _ heq => by cases heq
  | arr items => rfl
  | obj members => rfl

theorem addToGroup_names {name : Json} {value : String} {groups : List (Json × List String)}
    {g : Json × List String} (h : g ∈ addToGroup name value groups) :
    g.1 = name ∨ ∃ g' ∈ groups, g.1 = g'.1 := by
  induction groups with
  | nil =>
    obtain rfl := List.mem_singleton.1 h
    exact Or.inl rfl
  | cons first groups ih =>
    rw [addToGroup] at h
    split at h
    · rcases List.mem_cons.1 h with rfl | h
      · exact Or.inr ⟨first, List.mem_cons_self, rfl⟩
      · exact Or.inr ⟨g, List.mem_cons_of_mem first h, rfl⟩
    · rcases List.mem_cons.1 h with rfl | h
      · exact Or.inr ⟨first, List.mem_cons_self, rfl⟩
      · apply (ih h).imp_right
        rintro ⟨g', hg', heq⟩
        exact ⟨g', List.mem_cons_of_mem first hg', heq⟩

/-- Pairs of other names leave the group of the encoding as it is and in its place. -/
theorem foldl_addToGroup_encoding {pairs : List (Json × String)} (value : String)
    (h : ∀ p ∈ pairs, p.1.display ≠ encodingName) (others : List (Json × List String))
    (hothers : ∀ g ∈ others, g.1.display ≠ encodingName) :
    ∃ others', pairs.foldl (fun groups p => addToGroup p.1 p.2 groups)
        ((.str encodingName, [value]) :: others) = (.str encodingName, [value]) :: others' ∧
      ∀ g ∈ others', g.1.display ≠ encodingName := by
  induction pairs generalizing others with
  | nil => exact ⟨others, rfl, hothers⟩
  | cons p pairs ih =>
    have hp := h p List.mem_cons_self
    have hstep : addToGroup p.1 p.2 ((.str encodingName, [value]) :: others) =
        (.str encodingName, [value]) :: addToGroup p.1 p.2 others := by
      rw [addToGroup, sameKey_encodingName hp]
      rfl
    rw [List.foldl_cons, hstep]
    refine ih (fun q hq => h q (List.mem_cons_of_mem p hq)) _ fun g hg => ?_
    rcases addToGroup_names hg with heq | ⟨g', hg', heq⟩
    · rw [heq]
      exact hp
    · rw [heq]
      exact hothers g' hg'

theorem foldl_insert_encoding {groups : List (Json × List String)} (values : List String)
    (h : ∀ g ∈ groups, g.1.display ≠ encodingName) (others : Ordered (List String))
    (hothers : ∀ g ∈ others, g.1 ≠ encodingName) :
    ∃ others', groups.foldl (fun named g => Ordered.insert g.1.display g.2 named)
        ((encodingName, values) :: others) = (encodingName, values) :: others' ∧
      ∀ g ∈ others', g.1 ≠ encodingName := by
  induction groups generalizing others with
  | nil => exact ⟨others, rfl, hothers⟩
  | cons g groups ih =>
    have hg := h g List.mem_cons_self
    have hstep : Ordered.insert g.1.display g.2 ((encodingName, values) :: others) =
        (encodingName, values) :: Ordered.insert g.1.display g.2 others := by
      rw [Ordered.insert, if_neg (Ne.symm hg)]
    rw [List.foldl_cons, hstep]
    refine ih (fun g' hg' => h g' (List.mem_cons_of_mem g hg')) _ fun g' hg' => ?_
    rcases Ordered.mem_insert hg' with heq | ⟨old, hold, heq⟩
    · rw [heq]
      exact hg
    · rw [heq]
      exact hothers old hold

/-- Whatever the other names are, the encoding comes first and is not repeated. -/
theorem groupedPairs_encoding {pairs : List (Json × String)} (value : String)
    (h : ∀ p ∈ pairs, p.1.display ≠ encodingName) :
    ∃ others, groupedPairs ((.str encodingName, value) :: pairs) = (encodingName, value) :: others ∧
      ∀ p ∈ others, p.1 ≠ encodingName := by
  obtain ⟨groups, hgroups, hfree⟩ :=
    foldl_addToGroup_encoding value h [] fun g hg => absurd hg List.not_mem_nil
  obtain ⟨named, hnamed, hothers⟩ :=
    foldl_insert_encoding [value] hfree [] fun g hg => absurd hg List.not_mem_nil
  refine ⟨named.flatMap fun g => g.2.map fun value => (g.1, value), ?_, ?_⟩
  · have hfold : ((.str encodingName, value) :: pairs).foldl
        (fun groups p => addToGroup p.1 p.2 groups) [] =
        (.str encodingName, [value]) :: groups := hgroups
    rw [groupedPairs, hfold, List.foldl_cons]
    have hstart : Ordered.insert (Json.display (.str encodingName)) [value] [] =
        [(encodingName, [value])] := rfl
    dsimp only
    rw [hstart, hnamed]
    rfl
  · intro p hp
    obtain ⟨g, hg, hp⟩ := List.mem_flatMap.1 hp
    obtain ⟨_, -, rfl⟩ := List.mem_map.1 hp
    exact hothers g hg

/-! ## The pairs of a draft -/

/-- The names of the declared parameters on the wire are texts. -/
def HasTextNames (d : Draft) : Prop :=
  ∀ p ∈ d.method.parameters, p.2.wireName.isText = true

instance (d : Draft) : Decidable d.HasTextNames :=
  inferInstanceAs (Decidable (∀ p ∈ d.method.parameters, p.2.wireName.isText = true))

/-- The name on the wire of a supplied parameter that is for the query. -/
def queryName? (d : Draft) (name : String) : Option String :=
  match Ordered.get? d.method.parameters name with
  | none => none
  | some declared =>
    if declared.location = .path then none
    else
      match declared.wireName with
      | .str wire => if wire = encodingName then none else some wire
      | _ => none

/-- The pair of the query that a supplied parameter becomes. -/
def queryPair? (d : Draft) (p : String × String) : Option (String × String) :=
  (d.queryName? p.1).map fun wire => (wire, p.2)

/-- What the query of the request has to say: the encoding of the response, and then the supplied
parameters for the query in the order in which they are supplied. -/
def declaredPairs (d : Draft) : Pairs :=
  (encodingName, d.returnType.name) :: d.parameters.filterMap d.queryPair?

theorem HasTextNames.of_get? {d : Draft} (h : d.HasTextNames) {name : String}
    {declared : Discovery.Parameter}
    (hget : Ordered.get? d.method.parameters name = some declared) :
    ∃ wire, declared.wireName = .str wire := by
  have htext := h (name, declared) (Ordered.mem_of_get? hget)
  cases hwire : declared.wireName with
  | str wire => exact ⟨wire, rfl⟩
  | _ =>
    rw [hwire] at htext
    cases htext

theorem queryPairs_eq_ok {d : Draft} (hnames : d.HasTextNames) {supplied : Ordered String}
    {pairs : List (Json × String)} (h : d.queryPairs supplied = .ok pairs) :
    pairs = textPairs (supplied.filterMap d.queryPair?) := by
  induction supplied generalizing pairs with
  | nil =>
    cases h
    rfl
  | cons p supplied ih =>
    obtain ⟨name, value⟩ := p
    rw [queryPairs] at h
    cases hget : Ordered.get? d.method.parameters name with
    | none =>
      rw [hget] at h
      cases h
    | some declared =>
      obtain ⟨wire, hwire⟩ := hnames.of_get? hget
      have hencoding :
          declared.wireName.same (.str encodingName) = decide (wire = encodingName) := by
        rw [hwire, Json.same_str]
        exact beq_eq_decide wire encodingName
      rw [hget] at h
      dsimp only at h
      split at h
      · cases h
      · next others hothers =>
        cases h
        rw [ih hothers, hencoding, List.filterMap_cons]
        by_cases hpath : declared.location = .path
        · simp [queryPair?, queryName?, hget, hpath]
        · by_cases hname : wire = encodingName
          · simp [queryPair?, queryName?, hget, hpath, hwire, hname]
          · simp [queryPair?, queryName?, hget, hpath, hwire, hname, textPairs]

theorem queryPairs_ne_encoding {d : Draft} {supplied : Ordered String}
    {pairs : List (Json × String)} (h : d.queryPairs supplied = .ok pairs) :
    ∀ p ∈ pairs, p.1.same (.str encodingName) = false := by
  induction supplied generalizing pairs with
  | nil =>
    cases h
    exact fun p hp => absurd hp List.not_mem_nil
  | cons q supplied ih =>
    obtain ⟨name, value⟩ := q
    rw [queryPairs] at h
    split at h
    · cases h
    · next declared _ =>
      split at h
      · cases h
      · next others hothers =>
        cases h
        intro p hp
        split at hp
        · exact ih hothers p hp
        · next hkept =>
          rw [Bool.or_eq_true, not_or, Bool.not_eq_true] at hkept
          rcases List.mem_cons.1 hp with rfl | hp
          · exact Bool.not_eq_true _ ▸ hkept.2
          · exact ih hothers p hp

/-! ## What the query says -/

/-- The pairs that are written: the encoding of the response, and then the supplied parameters that
are for the query. -/
def wirePairs (d : Draft) : Except Fault (List (Json × String)) := do
  let pairs ← d.queryPairs d.parameters
  return (.str encodingName, d.returnType.name) :: pairs

/-- The pairs of the query as they are grouped. -/
def askedPairs (d : Draft) : Except Fault Pairs := d.wirePairs.map groupedPairs

theorem queryText_eq_ok {pairs : List (Json × String)} {query : String}
    (h : queryText pairs = .ok query) :
    (∀ p ∈ pairs, p.1.isScalar = true) ∧ query = Uri.Query.build (groupedPairs pairs) := by
  rw [queryText] at h
  split at h
  · next hscalar =>
    cases h
    exact ⟨List.all_eq_true.1 hscalar, rfl⟩
  · cases h

/-- What is written as a query starts with the encoding of the response and does not repeat it. -/
theorem askedPairs_of_queryText {d : Draft} {pairs : List (Json × String)} {query : String}
    (hpairs : d.wirePairs = .ok pairs) (h : queryText pairs = .ok query) :
    ∃ others, d.askedPairs = .ok ((encodingName, d.returnType.name) :: others) ∧
      (∀ p ∈ others, p.1 ≠ encodingName) ∧
      query = Uri.Query.build ((encodingName, d.returnType.name) :: others) := by
  obtain ⟨hscalar, rfl⟩ := queryText_eq_ok h
  have hwire := hpairs
  simp only [wirePairs, bind_eq_ok, pure_eq_ok] at hwire
  obtain ⟨rest, hrest, rfl⟩ := hwire
  obtain ⟨others, hgrouped, hothers⟩ := groupedPairs_encoding d.returnType.name fun p hp =>
    display_ne_encodingName (hscalar p (List.mem_cons_of_mem _ hp))
      (queryPairs_ne_encoding hrest p hp)
  refine ⟨others, ?_, hothers, ?_⟩
  · rw [askedPairs, hpairs, ← hgrouped]
    rfl
  · rw [hgrouped]

/-- With texts as names the query says what the draft declares. -/
theorem askedPairs_eq_ok {d : Draft} (hnames : d.HasTextNames) {asked : Pairs}
    (h : d.askedPairs = .ok asked) : asked = gather d.declaredPairs := by
  simp only [askedPairs, wirePairs, map_eq_ok, bind_eq_ok, pure_eq_ok] at h
  obtain ⟨pairs, ⟨rest, hrest, rfl⟩, rfl⟩ := h
  rw [queryPairs_eq_ok hnames hrest]
  exact groupedPairs_textPairs d.declaredPairs

end Request.Draft
end ApiDiscovery
