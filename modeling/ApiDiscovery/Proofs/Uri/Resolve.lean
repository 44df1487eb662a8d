import ApiDiscovery.Proofs.Uri.Url
import ApiDiscovery.Uri.Resolve

/-!
# Where references lead

Resolving brings in neither a query nor a fragment that neither the base nor the reference has
(`resolve_isPlain`).
-/

namespace ApiDiscovery.Uri

open ApiDiscovery.Text

/-! ## Texts without query and fragment -/

namespace Reference

variable {s t : List Char}

theorem isPlain_nil : IsPlain [] := fun _ hc => absurd hc List.not_mem_nil

theorem isPlain_append : IsPlain (s ++ t) ↔ IsPlain s ∧ IsPlain t := by
  unfold IsPlain
  rw [List.forall_mem_append]

theorem isPlain_cons {c : Char} : IsPlain (c :: s) ↔ endsPath c = false ∧ IsPlain s := by
  unfold IsPlain
  rw [List.forall_mem_cons]

theorem IsPlain.of_subset (ht : IsPlain t) (h : s ⊆ t) : IsPlain s := fun c hc => ht c (h hc)

theorem isPlain_after {mark : List Char} {part : Option (List Char)} (hmark : IsPlain mark)
    (hpart : IsPlain (part.getD [])) : IsPlain (after mark part) := by
  cases part with
  | none => exact isPlain_nil
  | some part => exact isPlain_append.2 ⟨hmark, hpart⟩

/-- The text of plain parts is plain. -/
theorem isPlain_text {r : Reference} (hscheme : IsPlain (r.scheme.getD []))
    (hauthority : IsPlain (r.authority.getD [])) (hpath : IsPlain r.path) (hquery : r.query = none)
    (hfragment : r.fragment = none) : IsPlain r.text := by
  unfold text
  rw [hquery, hfragment]
  refine isPlain_append.2 ⟨isPlain_append.2 ⟨isPlain_append.2 ⟨isPlain_append.2 ⟨?_, ?_⟩, hpath⟩,
    isPlain_nil⟩, isPlain_nil⟩
  · cases hs : r.scheme with
    | none => exact isPlain_nil
    | some scheme =>
      rw [hs] at hscheme
      exact isPlain_append.2 ⟨hscheme, isPlain_cons.2 ⟨by decide, isPlain_nil⟩⟩
  · refine isPlain_after ?_ hauthority
    exact isPlain_cons.2 ⟨by decide, isPlain_cons.2 ⟨by decide, isPlain_nil⟩⟩

/-- The parts of a plain text are plain. -/
theorem IsPlain.ofText (h : IsPlain s) :
    IsPlain ((ofText s).scheme.getD []) ∧ IsPlain ((ofText s).authority.getD []) ∧
      IsPlain (ofText s).path := by
  have htext := h
  rw [← text_ofText s, text] at htext
  obtain ⟨htext, -⟩ := isPlain_append.1 htext
  obtain ⟨htext, -⟩ := isPlain_append.1 htext
  obtain ⟨htext, hpath⟩ := isPlain_append.1 htext
  obtain ⟨hscheme, hauthority⟩ := isPlain_append.1 htext
  refine ⟨?_, ?_, hpath⟩
  · cases hs : (Reference.ofText s).scheme with
    | none => exact isPlain_nil
    | some scheme =>
      rw [hs] at hscheme
      exact (isPlain_append.1 hscheme).1
  · cases ha : (Reference.ofText s).authority with
    | none => exact isPlain_nil
    | some authority =>
      rw [ha] at hauthority
      exact (isPlain_append.1 hauthority).2

end Reference

namespace Resolve

open Reference (IsPlain isPlain_nil isPlain_append isPlain_cons)

/-- The parts hold no mark of a query or a fragment, and there are none of these. -/
structure Parts.IsPlain (p : Parts) : Prop where
  scheme : Reference.IsPlain p.scheme
  authority : Reference.IsPlain p.authority
  path : Reference.IsPlain p.path
  parameters : Reference.IsPlain p.parameters
  query : p.query = []
  fragment : p.fragment = []

theorem given_getD (part : List Char) : (given part).getD [] = part := by
  cases part with
  | nil => rfl
  | cons c part => rfl

theorem cutParameters_subset (path : List Char) :
    (cutParameters path).1 ⊆ path ∧ (cutParameters path).2 ⊆ path := by
  have hlast : (path.reverse.takeWhile (· != '/')).reverse ⊆ path := by
    intro c hc
    exact List.mem_reverse.1 (List.takeWhile_subset _ (List.mem_reverse.1 hc))
  unfold cutParameters
  dsimp only
  split
  · next kept parameters hcut =>
    obtain ⟨d, -, hs, -⟩ := cutFirst_eq_some hcut
    rw [hs] at hlast
    refine ⟨List.append_subset.2 ⟨List.take_subset _ _, ?_⟩, ?_⟩
    · exact (List.append_subset.1 hlast).1
    · exact (List.cons_subset.1 (List.append_subset.1 hlast).2).2
  · exact ⟨fun c hc => hc, List.nil_subset _⟩

theorem Parts.isPlain_ofText {scheme s : List Char} (hscheme : Reference.IsPlain scheme)
    (h : Reference.IsPlain s) : (Parts.ofText scheme s).IsPlain := by
  obtain ⟨hs, ha, hp⟩ := h.ofText
  obtain ⟨hq, hf⟩ := Reference.ofText_of_isPlain h
  have hsmall : Reference.IsPlain
      ((((Reference.ofText s).scheme).map (·.map Url.small)).getD scheme) := by
    cases hcut : (Reference.ofText s).scheme with
    | none => exact hscheme
    | some written =>
      intro c hc
      exact Reference.endsPath_of_isSchemeChar (Reference.isSchemeChar_of_mem
        (Url.isScheme_small ((Reference.proper_ofText s).scheme written hcut)) c hc)
  have hcut := cutParameters_subset (Reference.ofText s).path
  refine ⟨hsmall, ha, ?_, ?_, ?_, ?_⟩
  · unfold Parts.ofText
    dsimp only
    split
    · exact hp.of_subset hcut.1
    · exact hp
  · unfold Parts.ofText
    dsimp only
    split
    · exact hp.of_subset hcut.2
    · exact isPlain_nil
  · unfold Parts.ofText
    dsimp only
    rw [hq]
    rfl
  · unfold Parts.ofText
    dsimp only
    rw [hf]
    rfl

/-- A plain path is plain with its parameters behind it. -/
theorem isPlain_append_parameters {path parameters : List Char} (hpath : IsPlain path)
    (hparameters : IsPlain parameters) :
    IsPlain (path ++ Reference.after [';'] (given parameters)) := by
  refine isPlain_append.2 ⟨hpath, Reference.isPlain_after ?_ ?_⟩
  · exact isPlain_cons.2 ⟨by decide, isPlain_nil⟩
  · rw [given_getD]
    exact hparameters

theorem Parts.IsPlain.text {p : Parts} (h : p.IsPlain) : Reference.IsPlain p.text := by
  have hpath := isPlain_append_parameters h.path h.parameters
  unfold Parts.text
  apply Reference.isPlain_text
  · rw [given_getD]
    exact h.scheme
  · dsimp only
    split
    · exact h.authority
    · exact isPlain_nil
  · dsimp only
    split
    · split
      · exact hpath
      · exact isPlain_cons.2 ⟨by decide, hpath⟩
    · exact hpath
  · rw [h.query]
    rfl
  · rw [h.fragment]
    rfl

/-! ## Paths -/

/-- A segment that is left was there before. -/
theorem mem_pathResolve {segment : List Char} {kept segments : List (List Char)}
    (h : segment ∈ Path.resolve kept segments) : segment ∈ kept ∨ segment ∈ segments := by
  induction segments generalizing kept with
  | nil => exact Or.inl (List.mem_reverse.1 h)
  | cons first segments ih =>
    rw [Path.resolve] at h
    split at h
    · exact (ih h).imp_right (List.mem_cons_of_mem first)
    split at h
    · exact (ih h).imp List.mem_of_mem_drop (List.mem_cons_of_mem first)
    · rcases ih h with h | h
      · rcases List.mem_cons.1 h with rfl | h
        · exact Or.inr List.mem_cons_self
        · exact Or.inl h
      · exact Or.inr (List.mem_cons_of_mem first h)

theorem mem_mergedSegments {segment base path : List Char}
    (h : segment ∈ mergedSegments base path) :
    segment ∈ pieces (· == '/') base ∨ segment ∈ pieces (· == '/') path := by
  have habove : (if (pieces (· == '/') base).getLast? == some [] then pieces (· == '/') base
      else (pieces (· == '/') base).dropLast) ⊆ pieces (· == '/') base := by
    split
    · exact fun s hs => hs
    · exact List.dropLast_subset _
  unfold mergedSegments at h
  dsimp only at h
  split at h
  · exact absurd h List.not_mem_nil
  · next first rest hall =>
    have hmem : segment ∈ first :: rest := by
      rcases List.mem_cons.1 h with rfl | h
      · exact List.mem_cons_self
      · apply List.mem_cons_of_mem first
        rcases List.mem_append.1 h with h | h
        · exact List.dropLast_subset _ (List.mem_of_mem_filter h)
        · exact List.mem_of_mem_drop h
    rw [← hall] at hmem
    exact (List.mem_append.1 hmem).imp_left fun hs => habove hs

theorem isPlain_resolvedPath {base path : List Char} (hbase : IsPlain base)
    (hpath : IsPlain path) : IsPlain (resolvedPath base path) := by
  have hpieces : ∀ s : List Char, IsPlain s → ∀ segment ∈ pieces (· == '/') s, IsPlain segment :=
    fun s hs segment hsegment c hc => hs c (mem_of_mem_pieces hsegment c hc)
  have hsegments : ∀ segment ∈ (if path.head? = some '/' then pieces (· == '/') path
      else mergedSegments base path), IsPlain segment := by
    intro segment hsegment
    split at hsegment
    · exact hpieces path hpath segment hsegment
    · rcases mem_mergedSegments hsegment with h | h
      · exact hpieces base hbase segment h
      · exact hpieces path hpath segment h
  have hdirectory : ∀ relative : Bool, ∀ segment ∈ (if relative then [[]] else []),
      IsPlain segment := by
    intro relative segment hsegment
    cases relative with
    | false => exact absurd hsegment List.not_mem_nil
    | true =>
      obtain rfl := List.mem_singleton.1 hsegment
      exact isPlain_nil
  have hslash : Reference.endsPath '/' = false := by decide
  unfold resolvedPath
  -- Whichever segments are resolved, each of them was there before or is empty.
  generalize (if path.head? = some '/' then pieces (· == '/') path
    else mergedSegments base path) = segments at hsegments ⊢
  dsimp only
  generalize hend : (if Path.endsRelative segments then [[]] else []) = directory
  split
  · exact isPlain_cons.2 ⟨hslash, isPlain_nil⟩
  · intro c hc
    rcases mem_intercalate hc with rfl | ⟨segment, hsegment, hc⟩
    · exact hslash
    · rcases List.mem_append.1 hsegment with hsegment | hsegment
      · rcases mem_pathResolve hsegment with h | h
        · exact absurd h List.not_mem_nil
        · exact hsegments segment h c hc
      · exact hdirectory _ segment (hend ▸ hsegment) c hc

/-! ## References -/

theorem isPlain_resolveParts {b r : Parts} {reference : List Char} (hb : b.IsPlain)
    (hr : r.IsPlain) (hreference : IsPlain reference) :
    IsPlain (resolveParts b r reference) := by
  have hauthority : IsPlain (if isOneOf withAuthority r.scheme then b.authority
      else r.authority) := by
    split
    · exact hb.authority
    · exact hr.authority
  unfold resolveParts
  split
  · exact hreference
  split
  · exact hr.text
  dsimp only
  split
  · refine Parts.IsPlain.text ⟨hr.scheme, hauthority, hb.path, hb.parameters, ?_, hr.fragment⟩
    dsimp only
    split
    · exact hb.query
    · exact hr.query
  · exact Parts.IsPlain.text ⟨hr.scheme, hauthority, isPlain_resolvedPath hb.path hr.path,
      hr.parameters, hr.query, hr.fragment⟩

/-- A base and a reference without query and fragment lead to an address without them. -/
theorem resolve_isPlain {base reference joined : List Char} (hbase : IsPlain base)
    (hreference : IsPlain reference) (h : resolve base reference = .ok joined) :
    IsPlain joined := by
  unfold resolve at h
  split at h
  · cases h
    exact hreference
  split at h
  · cases h
    exact hbase
  dsimp only at h
  split at h
  · cases h
  · cases h
    have hb := Parts.isPlain_ofText isPlain_nil hbase
    exact isPlain_resolveParts hb (Parts.isPlain_ofText hb.scheme hreference) hreference

/-! ## A path from a base -/

/-- The path of an address with this scheme and its parameters, if the scheme has them. -/
def splitPath (scheme path : List Char) : List Char × List Char :=
  if isOneOf withParameters scheme then cutParameters path else (path, [])

theorem splitPath_subset (scheme path : List Char) :
    (splitPath scheme path).1 ⊆ path ∧ (splitPath scheme path).2 ⊆ path := by
  unfold splitPath
  split
  · exact cutParameters_subset path
  · exact ⟨fun c hc => hc, List.nil_subset path⟩

theorem cutParameters_eq_nil {path : List Char} (h : cutParameters path = ([], [])) :
    path = [] ∨ path = [';'] := by
  have hlast : ∃ front, path = front ++ (path.reverse.takeWhile (· != '/')).reverse := by
    refine ⟨(path.reverse.dropWhile (· != '/')).reverse, ?_⟩
    rw [← List.reverse_append, List.takeWhile_append_dropWhile, List.reverse_reverse]
  unfold cutParameters at h
  dsimp only at h
  generalize (path.reverse.takeWhile (· != '/')).reverse = last at h hlast
  obtain ⟨front, rfl⟩ := hlast
  split at h
  · next kept parameters hcut =>
    obtain ⟨c, hc, rfl, -⟩ := cutFirst_eq_some hcut
    obtain rfl := beq_iff_eq.1 hc
    simp only [Prod.mk.injEq, List.append_eq_nil_iff] at h
    obtain ⟨⟨hfront, rfl⟩, rfl⟩ := h
    have hfront : front = [] := by simpa using hfront
    rw [hfront]
    exact Or.inr rfl
  · exact Or.inl (Prod.mk.inj h).1

theorem splitPath_eq_nil {scheme path : List Char} (h : splitPath scheme path = ([], [])) :
    path = [] ∨ path = [';'] := by
  unfold splitPath at h
  split at h
  · exact cutParameters_eq_nil h
  · exact Or.inl (Prod.mk.inj h).1

theorem Parts.ofText_chars {u : Url} (hu : u.reference.Proper)
    (hsmall : u.scheme.map Url.small = u.scheme) :
    Parts.ofText [] u.chars = ⟨u.scheme, u.authority, (splitPath u.scheme u.path).1,
      (splitPath u.scheme u.path).2, u.query.getD [], u.fragment.getD []⟩ := by
  have hread : Reference.ofText u.chars = u.reference := Reference.ofText_text hu
  have hscheme : (u.reference.scheme.map (·.map Url.small)).getD [] = u.scheme := by
    unfold Url.reference
    dsimp only
    split
    · next hempty => exact (List.isEmpty_iff.1 hempty).symm
    · exact hsmall
  have hauthority : u.reference.authority.getD [] = u.authority := by
    unfold Url.reference
    dsimp only
    split
    · next hempty => exact (List.isEmpty_iff.1 hempty).symm
    · rfl
  unfold Parts.ofText
  rw [hread]
  dsimp only
  rw [hscheme, hauthority]
  rfl

theorem Parts.ofText_isPath {s : List Char} (hs : Reference.IsPath s) (scheme : List Char) :
    Parts.ofText scheme s =
      ⟨scheme, [], (splitPath scheme s).1, (splitPath scheme s).2, [], []⟩ := by
  unfold Parts.ofText
  rw [hs]
  rfl

theorem withAuthority_of_hierarchical {scheme : List Char}
    (h : isOneOf hierarchical scheme = true) : isOneOf withAuthority scheme = true := by
  have hall : ∀ s ∈ hierarchical, withAuthority.contains s = true := by decide
  exact hall _ (List.contains_iff_mem.1 h)

/-- What a path leads to from a base with a hierarchy. -/
def fromBase (base : Url) (s : List Char) : Parts :=
  let above := splitPath base.scheme base.path
  let below := splitPath base.scheme s
  if below = ([], []) then
    ⟨base.scheme, base.authority, above.1, above.2, base.query.getD [], []⟩
  else ⟨base.scheme, base.authority, resolvedPath above.1 below.1, below.2, [], []⟩

theorem resolve_isPath {base : Url} {s target : List Char} (hbase : base.reference.Proper)
    (hsmall : base.scheme.map Url.small = base.scheme)
    (hscheme : isOneOf hierarchical base.scheme = true) (hnonempty : base.chars ≠ [])
    (hs : Reference.IsPath s) (hne : s ≠ []) (h : resolve base.chars s = .ok target) :
    target = (fromBase base s).text := by
  unfold resolve at h
  rw [if_neg (by simpa using hnonempty), if_neg (by simpa using hne),
    Parts.ofText_chars hbase hsmall] at h
  dsimp only at h
  rw [Parts.ofText_isPath hs] at h
  split at h
  · cases h
  · cases h
    unfold resolveParts
    rw [if_neg (by simp [hscheme]), if_neg (by simp),
      if_pos (withAuthority_of_hierarchical hscheme)]
    dsimp only
    unfold fromBase
    by_cases hbelow : splitPath base.scheme s = ([], [])
    · simp [hbelow]
    · have hparts : ((splitPath base.scheme s).1.isEmpty &&
          (splitPath base.scheme s).2.isEmpty) = false := by
        rw [← Bool.not_eq_true, Bool.and_eq_true, List.isEmpty_iff, List.isEmpty_iff]
        exact fun hnil => hbelow (Prod.ext hnil.1 hnil.2)
      rw [hparts, if_neg hbelow]
      rfl

/-- With a scheme and an authority only the path of the text is open. -/
theorem Parts.text_of_authority {p : Parts} (hscheme : p.scheme ≠ [])
    (hauthority : p.authority ≠ []) (hquery : p.query = []) (hfragment : p.fragment = [])
    (hpath : Reference.IsPlain p.path)
    (hparameters : Reference.IsPlain p.parameters) :
    ∃ path, p.text = Reference.text ⟨some p.scheme, some p.authority, path, none, none⟩ ∧
      Url.IsRooted path ∧ Reference.IsPlain path := by
  have hplain := isPlain_append_parameters hpath hparameters
  unfold Parts.text
  generalize p.path ++ Reference.after [';'] (given p.parameters) = path at hplain
  have hgiven : given p.scheme = some p.scheme := if_neg (by simpa using hscheme)
  refine ⟨if path.isEmpty || path.head? == some '/' then path else '/' :: path, ?_, ?_, ?_⟩
  · rw [hquery, hfragment, hgiven]
    simp [hauthority, given]
  · split
    · next hrooted =>
      rw [Bool.or_eq_true, List.isEmpty_iff, beq_iff_eq] at hrooted
      exact hrooted
    · exact Or.inr rfl
  · split
    · exact hplain
    · exact isPlain_cons.2 ⟨by decide, hplain⟩

/-- From a base with a scheme and an authority a path leads to an address with these, with a path
from the root, and with nothing behind it. -/
theorem resolve_isPath_of_authority {base : Url} {s target : List Char}
    (hbase : base.reference.Proper) (hsmall : base.scheme.map Url.small = base.scheme)
    (hscheme : isOneOf hierarchical base.scheme = true) (hnamed : base.scheme ≠ [])
    (hauthority : base.authority ≠ []) (hs : Reference.IsPath s)
    (hbare : s = [] ∨ s = [';'] → base.query = none ∧ base.fragment = none)
    (h : resolve base.chars s = .ok target) :
    ∃ path, target = Reference.text ⟨some base.scheme, some base.authority, path, none, none⟩ ∧
      Url.IsRooted path ∧ Reference.IsPlain path := by
  have hsome : base.reference.scheme = some base.scheme := if_neg (by simpa using hnamed)
  have hplace : base.reference.authority = some base.authority := if_neg (by simpa using hauthority)
  have hnonempty : base.chars ≠ [] := by
    unfold Url.chars Reference.text
    rw [hsome]
    simp
  -- An empty reference leads to the base itself, with the query and the fragment of the base.
  by_cases hnil : s = []
  · obtain ⟨hquery, hfragment⟩ := hbare (Or.inl hnil)
    subst hnil
    unfold resolve at h
    have hempty : ([] : List Char).isEmpty = true := rfl
    rw [if_neg (by simpa using hnonempty), if_pos hempty] at h
    cases h
    refine ⟨base.path, ?_, ?_, hbase.path⟩
    · have hwhole : base.reference =
          ⟨some base.scheme, some base.authority, base.path, none, none⟩ := by
        have heta : base.reference = ⟨base.reference.scheme, base.reference.authority, base.path,
          base.query, base.fragment⟩ := rfl
        rw [heta, hsome, hplace, hquery, hfragment]
      rw [Url.chars, hwhole]
    · exact hbase.rooted (by rw [hplace]; exact Option.some_ne_none _)
  · obtain rfl := resolve_isPath hbase hsmall hscheme hnonempty hs hnil h
    have hsplain : Reference.IsPlain s := (Reference.isPath_iff.1 hs).1
    have habove := splitPath_subset base.scheme base.path
    have hbelow := splitPath_subset base.scheme s
    unfold fromBase
    dsimp only
    split
    · -- An empty path keeps that of the base, and its query.
      next hsplit =>
      have hquery : base.query.getD [] = [] := by
        rw [(hbare (splitPath_eq_nil hsplit)).1]
        rfl
      exact Parts.text_of_authority hnamed hauthority hquery rfl
        (Reference.IsPlain.of_subset hbase.path habove.1)
        (Reference.IsPlain.of_subset hbase.path habove.2)
    · exact Parts.text_of_authority hnamed hauthority rfl rfl
        (isPlain_resolvedPath (Reference.IsPlain.of_subset hbase.path habove.1)
          (hsplain.of_subset hbelow.1)) (hsplain.of_subset hbelow.2)

end Resolve

/-! ## Addresses that are written and read again -/

theorem Url.SamePlace.reference {u v : Url} (h : u.SamePlace v) :
    u.reference.scheme = v.reference.scheme ∧ u.reference.authority = v.reference.authority := by
  obtain ⟨hscheme, huserinfo, hhost, hport⟩ := h
  have hauthority : u.authority = v.authority := by
    rw [Url.authority_eq, Url.authority_eq, Url.hostText, Url.hostText, Url.portText, Url.portText,
      huserinfo, hhost, hport]
  rw [Url.reference, Url.reference, hscheme, hauthority]
  exact ⟨rfl, rfl⟩

/-- Addresses of one place whose parts can be told apart are still of one place when they are
written and read again. -/
theorem Url.SamePlace.reread {u v u' v' : Url} (h : u.SamePlace v) (hu : u.reference.Proper)
    (hv : v.reference.Proper) (hu' : Url.ofText u.chars = .ok u')
    (hv' : Url.ofText v.chars = .ok v') : u'.SamePlace v' := by
  have hread := Url.ofText_eq_ok hu'
  have hread' := Url.ofText_eq_ok hv'
  rw [Url.chars, Reference.ofText_text hu] at hread
  rw [Url.chars, Reference.ofText_text hv] at hread'
  exact hread.samePlace hread' h.reference.1 h.reference.2

/-! ## Joining -/

theorem Url.join_eq_ok {base joined : Url} {reference : List Char}
    (h : base.join reference = .ok joined) :
    ∃ r target, Url.ofText reference = .ok r ∧ Resolve.resolve base.chars r.chars = .ok target ∧
      Url.ofText target = .ok joined := by
  unfold Url.join at h
  split at h
  · cases h
  next r hr =>
  split at h
  · cases h
  next target htarget =>
  refine ⟨r, target, hr, htarget, ?_⟩
  cases hjoined : Url.ofText target with
  | error fault =>
    rw [hjoined] at h
    cases h
  | ok u =>
    rw [hjoined] at h
    cases h
    rfl

/-- A path joined with a base that has a scheme and a host leads to an address that is read from the
scheme and the authority of the base and from a path. -/
theorem Url.join_isPath {base joined : Url} {t s : List Char} (hbase : Url.ofText t = .ok base)
    (hscheme : Resolve.isOneOf Resolve.hierarchical base.scheme = true)
    (habsolute : base.isAbsolute = true) (hs : Reference.IsPath s)
    (hbare : s = [] ∨ s = [';'] → base.query = none ∧ base.fragment = none)
    (h : base.join s = .ok joined) :
    ∃ path, (⟨some base.scheme, some base.authority, path, none, none⟩ : Reference).Proper ∧
      joined.IsNormalForm ⟨some base.scheme, some base.authority, path, none, none⟩ := by
  obtain ⟨r, target, hr, htarget, hjoined⟩ := Url.join_eq_ok h
  obtain ⟨hnamed, hhost⟩ := Url.ne_nil_of_isAbsolute habsolute
  have hread := Url.ofText_eq_ok hbase
  have hwritten := Reference.proper_ofText t
  have hauthority := Url.authority_ne_nil hhost
  have hproper : base.reference.Proper := hread.proper hwritten
    (fun hnil => absurd hnil hauthority) fun hnil => absurd hnil hnamed
  rw [Url.chars_of_isPath hs hr] at htarget
  have hshort : Percent.encode keepsInPath s = [] ∨ Percent.encode keepsInPath s = [';'] →
      base.query = none ∧ base.fragment = none := by
    rintro (hnil | hsemicolon)
    · exact hbare (Or.inl (Percent.encode_eq_nil.1 hnil))
    · obtain ⟨v, rfl, hv⟩ := Percent.append_of_encode (a := [';']) (by decide) hsemicolon
      exact hbare (Or.inr (by rw [Percent.encode_eq_nil.1 hv]; rfl))
  obtain ⟨path, rfl, hrooted, hplain⟩ := Resolve.resolve_isPath_of_authority hproper
    hread.map_small hscheme hnamed hauthority (Url.isPath_encode hs) hshort htarget
  have hparts : (⟨some base.scheme, some base.authority, path, none, none⟩ : Reference).Proper :=
    { scheme := fun _ heq => by
        cases heq
        exact hread.isScheme_scheme hwritten
      authority := fun _ heq => by
        cases heq
        exact hread.authority_forall hwritten
      path := hplain
      query := fun _ heq => by cases heq
      rooted := fun _ => hrooted
      single := fun heq => by cases heq
      unnamed := fun heq => by cases heq }
  refine ⟨path, hparts, ?_⟩
  rw [← Reference.ofText_text hparts]
  exact Url.ofText_eq_ok hjoined

/-- The address has neither a query nor a fragment. -/
def Url.IsBare (u : Url) : Prop := u.query = none ∧ u.fragment = none

/-- What a path leads to has neither a query nor a fragment, and its parts can be told apart when it
is written. -/
theorem Url.join_isPath_isBare {base joined : Url} {t s : List Char}
    (hbase : Url.ofText t = .ok base)
    (hscheme : Resolve.isOneOf Resolve.hierarchical base.scheme = true)
    (habsolute : base.isAbsolute = true) (hs : Reference.IsPath s)
    (hbare : s = [] ∨ s = [';'] → base.query = none ∧ base.fragment = none)
    (h : base.join s = .ok joined) : joined.IsBare ∧ joined.reference.Proper := by
  obtain ⟨path, hparts, hjoined⟩ := Url.join_isPath hbase hscheme habsolute hs hbare h
  refine ⟨⟨hjoined.query, hjoined.fragment⟩, ?_⟩
  obtain ⟨hscheme, hhost⟩ := Url.ne_nil_of_isAbsolute habsolute
  -- The authority of the base has a host, and its normal form is one again.
  have hjoinedHost : joined.host ≠ [] := by
    intro hnil
    have hnormal := hjoined.host
    rw [hnil] at hnormal
    exact host_authority_ne_nil
      ((Url.ofText_eq_ok hbase).host_forall (Reference.proper_ofText t)) hhost
      (normalHost_eq_nil hnormal)
  have hnamed : joined.scheme ≠ [] := by
    rw [hjoined.scheme]
    simpa using hscheme
  exact hjoined.proper hparts (fun hnil => absurd hnil (Url.authority_ne_nil hjoinedHost))
    fun hnil => absurd hnil hnamed

/-- What was read from a text without query and fragment has neither. -/
theorem Url.isBare_ofText {s : List Char} {u : Url} (hs : Reference.IsPlain s)
    (h : Url.ofText s = .ok u) : u.IsBare := by
  obtain ⟨hquery, hfragment⟩ := Reference.ofText_of_isPlain hs
  have hu := Url.ofText_eq_ok h
  constructor
  · rw [hu.query, hquery]
    rfl
  · rw [hu.fragment, hfragment]
    rfl

theorem Url.IsBare.isPlain_chars {u : Url} (hu : u.IsBare) {s : List Char}
    (h : Url.ofText s = .ok u) : Reference.IsPlain u.chars :=
  (Url.ofText_eq_ok h).isPlain_chars (Reference.proper_ofText s) hu.1 hu.2

/-- From a base without query and fragment a reference without them leads to an address without
them. -/
theorem Url.join_isBare {base joined : Url} {reference s : List Char}
    (hbase : Url.ofText s = .ok base) (hbare : base.IsBare)
    (hreference : Reference.IsPlain reference) (h : base.join reference = .ok joined) :
    joined.IsBare := by
  obtain ⟨r, target, hr, htarget, hjoined⟩ := Url.join_eq_ok h
  refine Url.isBare_ofText ?_ hjoined
  exact Resolve.resolve_isPlain (hbare.isPlain_chars hbase)
    ((Url.isBare_ofText hreference hr).isPlain_chars hr) htarget

end ApiDiscovery.Uri
