import ApiDiscovery.Proofs.Uri.Resolve

/-!
# Segments below a directory

A path that ends in a slash is a directory. Segments that are places of their own go on from it one
by one: joined with the directory they lead to its path with the segments behind it
(`Url.join_segments`), and a query behind that address leaves the path as it is
(`Url.path_of_append_query`).
-/

namespace ApiDiscovery.Uri

open ApiDiscovery.Text

/-! ## Segments -/

/-- The segment is a place of its own: it is neither empty nor a place relative to the path. -/
def IsPlace (segment : List Char) : Prop :=
  segment ≠ [] ∧ segment ≠ ['.'] ∧ segment ≠ ['.', '.']

/-- The texts are segments as they stand in a path. -/
def AreSegments (filled : List (List Char)) : Prop :=
  ∀ segment ∈ filled, IsPlace segment ∧
    ∀ c ∈ segment, Percent.isUnreserved c = true ∨ c = '%'

namespace AreSegments

variable {filled : List (List Char)}

theorem keepsInPath (h : AreSegments filled) :
    ∀ c ∈ List.intercalate ['/'] filled, Url.keepsInPath c = true := by
  intro c hc
  rcases mem_intercalate hc with rfl | ⟨segment, hsegment, hc⟩
  · decide
  · rcases (h segment hsegment).2 c hc with hc | rfl
    · exact Url.keepsInPath_of_isUnreserved hc
    · decide

/-- A mark that is neither the slash nor the percent sign does not stand in the joined segments. -/
theorem not_mem (h : AreSegments filled) {c : Char} (hunreserved : Percent.isUnreserved c = false)
    (hpercent : c ≠ '%') (hslash : c ≠ '/') : c ∉ List.intercalate ['/'] filled := by
  intro hc
  rcases mem_intercalate hc with heq | ⟨segment, hsegment, hc⟩
  · exact hslash heq
  · rcases (h segment hsegment).2 c hc with hc | heq
    · rw [hunreserved] at hc
      cases hc
    · exact hpercent heq

theorem slash_not_mem (h : AreSegments filled) : ∀ segment ∈ filled, '/' ∉ segment := by
  intro segment hsegment hc
  rcases (h segment hsegment).2 _ hc with hc | hc
  · exact absurd hc (by decide)
  · exact absurd hc (by decide)

/-- The pieces of the joined segments are the segments. -/
theorem pieces_joined (h : AreSegments filled) (hne : filled ≠ []) :
    pieces (· == '/') (List.intercalate ['/'] filled) = filled :=
  pieces_intercalate '/' hne h.slash_not_mem

theorem head_ne_slash (h : AreSegments filled) :
    (List.intercalate ['/'] filled).head? ≠ some '/' := by
  intro hhead
  cases filled with
  | nil => cases hhead
  | cons first filled =>
    have hfirst := (h first List.mem_cons_self).1.1
    cases first with
    | nil => exact hfirst rfl
    | cons c first =>
      have hc : c = '/' := by
        cases filled <;> simpa [List.intercalate] using hhead
      exact h.slash_not_mem _ List.mem_cons_self (hc ▸ List.mem_cons_self)

theorem joined_ne_nil (h : AreSegments filled) (hne : filled ≠ []) :
    List.intercalate ['/'] filled ≠ [] := by
  intro hnil
  have hpieces := h.pieces_joined hne
  rw [hnil, pieces] at hpieces
  rw [← hpieces] at h
  exact (h [] List.mem_cons_self).1.1 rfl

/-- Joined segments are a path and nothing else. -/
theorem isPath (h : AreSegments filled) : Reference.IsPath (List.intercalate ['/'] filled) := by
  refine Reference.isPath_iff.2 ⟨?_, ?_, ?_⟩
  · exact fun c hc => Url.endsPath_of_keepsInPath (h.keepsInPath c hc)
  · rintro ⟨rest, hrest⟩
    exact h.head_ne_slash (by rw [← hrest]; rfl)
  · refine Reference.cutScheme_eq_none_iff.2 fun a b hs _ => ?_
    refine absurd ?_ (h.not_mem (c := ':') (by decide) (by decide) (by decide))
    rw [hs]
    exact List.mem_append_right _ List.mem_cons_self

end AreSegments

/-! ## Paths -/

/-- No segment of the path stands for a place relative to it. -/
def IsFixed (path : List Char) : Prop :=
  ∀ segment ∈ pieces (· == '/') path, segment ≠ ['.'] ∧ segment ≠ ['.', '.']

theorem normalize_of_isFixed {path : List Char} (h : IsFixed path) :
    Path.normalize path = path := by
  have hrelative : Path.isRelative (pieces (· == '/') path) = false := by
    rw [Path.isRelative, Bool.or_eq_false_iff]
    constructor
    · exact Bool.eq_false_iff.2 fun hmem => (h _ (List.contains_iff_mem.1 hmem)).1 rfl
    · exact Bool.eq_false_iff.2 fun hmem => (h _ (List.contains_iff_mem.1 hmem)).2 rfl
  unfold Path.normalize
  dsimp only
  rw [if_neg (by rw [hrelative]; exact Bool.false_ne_true)]

namespace Resolve

theorem pathResolve_of_fixed {kept segments : List (List Char)}
    (h : ∀ segment ∈ segments, segment ≠ ['.'] ∧ segment ≠ ['.', '.']) :
    Path.resolve kept segments = kept.reverse ++ segments := by
  induction segments generalizing kept with
  | nil => exact (List.append_nil _).symm
  | cons segment segments ih =>
    obtain ⟨hdot, hdots⟩ := h segment List.mem_cons_self
    rw [Path.resolve, if_neg hdot, if_neg hdots, ih fun s hs => h s (List.mem_cons_of_mem _ hs)]
    simp

/-- Segments go on from a directory one by one. -/
theorem mergedSegments_directory {front : List Char} {filled : List (List Char)}
    (hinner : ∀ segment ∈ (pieces (· == '/') front).tail, segment ≠ [])
    (hfilled : AreSegments filled) (hne : filled ≠ []) :
    mergedSegments (front ++ ['/']) (List.intercalate ['/'] filled) =
      pieces (· == '/') front ++ filled := by
  have habove : pieces (· == '/') (front ++ ['/']) = pieces (· == '/') front ++ [[]] :=
    pieces_append_cons front [] rfl
  have hlast : (pieces (· == '/') front ++ [[]]).getLast? = some [] := by simp
  unfold mergedSegments
  rw [habove, hfilled.pieces_joined hne]
  dsimp only
  rw [if_pos (by rw [hlast]; rfl)]
  cases hfront : pieces (· == '/') front with
  | nil => exact absurd hfront (pieces_ne_nil _ _)
  | cons first inner =>
    rw [hfront, List.tail_cons] at hinner
    -- Empty segments are dropped between the first and the last one only.
    obtain ⟨init, last, rfl⟩ : ∃ init last, filled = init ++ [last] :=
      ⟨filled.dropLast, filled.getLast hne, (List.dropLast_append_getLast hne).symm⟩
    have hkept : (inner ++ [[]] ++ init).filter (fun segment => !segment.isEmpty) =
        inner ++ init := by
      have hinner' : inner.filter (fun segment => !segment.isEmpty) = inner :=
        List.filter_eq_self.2 fun s hs => by simpa using hinner s hs
      have hinit' : init.filter (fun segment => !segment.isEmpty) = init :=
        List.filter_eq_self.2 fun s hs => by
          simpa using (hfilled s (List.mem_append_left _ hs)).1.1
      rw [List.filter_append, List.filter_append, hinner', hinit']
      simp
    have hrest : (first :: inner) ++ [[]] ++ (init ++ [last]) =
        first :: ((inner ++ [[]] ++ init) ++ [last]) := by simp
    rw [hrest]
    dsimp only
    rw [List.dropLast_concat, hkept, List.length_append, List.length_singleton,
      Nat.add_sub_cancel, List.drop_left]
    simp

theorem resolvedPath_directory {front : List Char} {filled : List (List Char)}
    (hfixed : IsFixed front)
    (hinner : ∀ segment ∈ (pieces (· == '/') front).tail, segment ≠ [])
    (hfilled : AreSegments filled) (hne : filled ≠ []) :
    resolvedPath (front ++ ['/']) (List.intercalate ['/'] filled) =
      front ++ '/' :: List.intercalate ['/'] filled := by
  have hall : ∀ segment ∈ pieces (· == '/') front ++ filled,
      segment ≠ ['.'] ∧ segment ≠ ['.', '.'] := by
    intro segment hsegment
    rcases List.mem_append.1 hsegment with h | h
    · exact hfixed segment h
    · exact (hfilled segment h).1.2
  have hends : Path.endsRelative (pieces (· == '/') front ++ filled) = false := by
    unfold Path.endsRelative
    split
    · next segment hlast =>
      obtain ⟨hdot, hdots⟩ := hall segment (List.mem_of_getLast? hlast)
      simp [hdot, hdots]
    · rfl
  unfold resolvedPath
  rw [if_neg hfilled.head_ne_slash, mergedSegments_directory hinner hfilled hne]
  dsimp only
  rw [pathResolve_of_fixed hall, hends, if_neg Bool.false_ne_true, List.append_nil,
    List.reverse_nil, List.nil_append, intercalate_append '/' (pieces_ne_nil _ _) hne,
    intercalate_pieces]
  exact if_neg (by simp)

/-- Neither a directory nor segments without marks have parameters. -/
theorem splitPath_of_not_mem {path : List Char} (scheme : List Char)
    (h : ';' ∉ (path.reverse.takeWhile (· != '/')).reverse) :
    splitPath scheme path = (path, []) := by
  unfold splitPath
  split
  · unfold cutParameters
    dsimp only
    rw [cutFirst_of_none]
    intro c hc
    apply beq_eq_false_iff_ne.2
    rintro rfl
    exact h hc
  · rfl

theorem splitPath_directory (scheme front : List Char) :
    splitPath scheme (front ++ ['/']) = (front ++ ['/'], []) := by
  apply splitPath_of_not_mem scheme
  rw [List.reverse_append, List.reverse_singleton, List.singleton_append,
    List.takeWhile_cons_of_neg (by decide)]
  exact List.not_mem_nil

theorem splitPath_segments (scheme : List Char) {filled : List (List Char)}
    (h : AreSegments filled) :
    splitPath scheme (List.intercalate ['/'] filled) = (List.intercalate ['/'] filled, []) := by
  refine splitPath_of_not_mem scheme fun hmem => ?_
  apply h.not_mem (c := ';') (by decide) (by decide) (by decide)
  exact List.mem_reverse.1 (List.takeWhile_subset _ (List.mem_reverse.1 hmem))

end Resolve

/-! ## Directories -/

/-- The path of the address is a directory below which segments can be named: no segment of it is
empty but the first, and none is relative. Its scheme has a hierarchy that starts at the root, or it
has none and the path is not taken for one. -/
structure Url.IsDirectory (base : Url) : Prop where
  hierarchical : Resolve.isOneOf Resolve.hierarchical base.scheme = true
  rooted : base.scheme ≠ [] → base.path.head? = some '/'
  unnamed : base.scheme = [] → base.authority = [] → (Reference.cutScheme base.path).1 = none
  directory : base.path.getLast? = some '/'
  inner : ∀ segment ∈ (pieces (· == '/') base.path.dropLast).tail, segment ≠ []
  fixed : IsFixed base.path.dropLast

/-- The path with segments behind it. -/
def Url.below (base : Url) (filled : List (List Char)) : List Char :=
  base.path ++ List.intercalate ['/'] filled

namespace Url.IsDirectory

variable {base : Url} {filled : List (List Char)}

theorem path_eq (h : base.IsDirectory) : base.path.dropLast ++ ['/'] = base.path := by
  obtain ⟨front, hfront⟩ := List.getLast?_eq_some_iff.1 h.directory
  rw [hfront, List.dropLast_concat]

/-- The segments of the path with others behind it. -/
theorem pieces_below (h : base.IsDirectory) (hfilled : AreSegments filled) :
    pieces (· == '/') (base.below filled) =
      pieces (· == '/') base.path.dropLast ++ (if filled = [] then [[]] else filled) := by
  rw [below, ← h.path_eq, List.append_assoc, List.singleton_append,
    pieces_append_cons (p := (· == '/')) _ _ rfl, List.dropLast_concat]
  split
  · next hnil =>
    rw [hnil]
    rfl
  · next hne => rw [hfilled.pieces_joined hne]

theorem isFixed_below (h : base.IsDirectory) (hfilled : AreSegments filled) :
    IsFixed (base.below filled) := by
  intro segment hsegment
  rw [h.pieces_below hfilled] at hsegment
  rcases List.mem_append.1 hsegment with hsegment | hsegment
  · exact h.fixed segment hsegment
  · split at hsegment
    · obtain rfl := List.mem_singleton.1 hsegment
      decide
    · exact (hfilled segment hsegment).1.2

/-- No authority starts the path. -/
theorem single_below (h : base.IsDirectory) (hfilled : AreSegments filled) :
    ¬ ['/', '/'] <+: base.below filled := by
  rintro ⟨rest, hrest⟩
  have hpieces := h.pieces_below hfilled
  rw [← hrest] at hpieces
  have hstart : pieces (· == '/') (['/', '/'] ++ rest) = [] :: [] :: pieces (· == '/') rest := rfl
  rw [hstart] at hpieces
  have hinner := h.inner
  cases hfront : pieces (· == '/') base.path.dropLast with
  | nil => exact absurd hfront (pieces_ne_nil _ _)
  | cons first inner =>
    rw [hfront, List.cons_append, List.cons.injEq] at hpieces
    rw [hfront, List.tail_cons] at hinner
    obtain ⟨-, hsecond⟩ := hpieces
    cases inner with
    | cons second inner =>
      rw [List.cons_append, List.cons.injEq] at hsecond
      exact hinner second List.mem_cons_self hsecond.1.symm
    | nil =>
      rw [List.nil_append] at hsecond
      split at hsecond
      · exact pieces_ne_nil _ _ (List.cons.inj hsecond).2
      · rw [← hsecond] at hfilled
        exact (hfilled [] List.mem_cons_self).1.1 rfl

/-- The path is not taken for a scheme. -/
theorem unnamed_below (h : base.IsDirectory) (hrooted : base.authority ≠ [] → IsRooted base.path)
    (hscheme : base.scheme = []) : (Reference.cutScheme (base.below filled)).1 = none := by
  have hpath : base.below filled =
      base.path.dropLast ++ '/' :: List.intercalate ['/'] filled := by
    rw [below, ← h.path_eq, List.append_assoc, List.singleton_append, List.dropLast_concat]
  refine Reference.cutScheme_eq_none_iff.2 fun a b hs hcolon => ?_
  rw [hpath] at hs
  rcases List.append_eq_append_iff.1 hs with ⟨t, ha, ht⟩ | ⟨t, hfront, ht⟩
  · -- The slash behind the directory stands before the colon.
    cases t with
    | nil => exact absurd (List.cons.inj ht).1 (by decide)
    | cons c t =>
      obtain rfl := (List.cons.inj ht).1
      refine Reference.not_isScheme_of_mem (c := '/') ?_ (by decide)
      rw [ha]
      exact List.mem_append_right _ List.mem_cons_self
  · -- The colon stands in the path of the base.
    cases t with
    | nil => exact absurd (List.cons.inj ht).1 (by decide)
    | cons c t =>
      obtain rfl := (List.cons.inj ht).1
      have hbase : base.path = a ++ ':' :: (t ++ ['/']) := by
        rw [← h.path_eq, hfront, List.append_assoc, List.cons_append]
      by_cases hauthority : base.authority = []
      · exact Reference.cutScheme_eq_none_iff.1 (h.unnamed hscheme hauthority) a _ hbase hcolon
      · rcases hrooted hauthority with hnil | hhead
        · rw [hnil] at hbase
          exact absurd hbase.symm (List.append_ne_nil_of_right_ne_nil a (List.cons_ne_nil _ _))
        · rw [hbase] at hhead
          cases a with
          | nil => exact absurd (Option.some.inj hhead) (by decide)
          | cons d a =>
            obtain rfl : d = '/' := Option.some.inj hhead
            exact Reference.not_isScheme_of_mem List.mem_cons_self (by decide)

end Url.IsDirectory

/-! ## Joining -/

/-- A path that needs no escapes and has no relative segments is its own normal form. -/
theorem Url.IsNormalForm.path_eq {u : Url} {r : Reference} (h : u.IsNormalForm r)
    (hkeeps : ∀ c ∈ r.path, keepsInPath c = true) (hfixed : IsFixed r.path) : u.path = r.path := by
  rw [h.path, normalize_of_isFixed hfixed, ite_self, Percent.encode_of_keeps hkeeps]

/-- The text of a place with a hierarchy and of a path, where the path starts at the root if the
place has a scheme or an authority. -/
theorem Resolve.Parts.text_place {scheme authority path : List Char}
    (hscheme : Reference.isScheme scheme = true)
    (hauthority : ∀ c ∈ authority, Reference.endsAuthority c = false)
    (hpath : ∀ c ∈ path, Reference.endsPath c = false) (hsingle : ¬ ['/', '/'] <+: path)
    (hrooted : scheme ≠ [] ∨ authority ≠ [] → path.head? = some '/')
    (hunnamed : scheme = [] → (Reference.cutScheme path).1 = none) :
    ∃ r : Reference, r.Proper ∧
      Parts.text ⟨scheme, authority, path, [], [], []⟩ = r.text ∧ r.scheme.getD [] = scheme ∧
      r.path = path := by
  unfold Resolve.Parts.text
  dsimp only
  rw [show path ++ Reference.after [';'] (given []) = path from List.append_nil path]
  generalize hnamed : (!authority.isEmpty || (!scheme.isEmpty && isOneOf withAuthority scheme &&
    path.take 2 != ['/', '/'])) = named
  have hhead : named = true → path.head? = some '/' := by
    rintro rfl
    apply hrooted
    simp only [Bool.or_eq_true, Bool.and_eq_true, Bool.not_eq_true', List.isEmpty_eq_false_iff]
      at hnamed
    rcases hnamed with hauthority | ⟨⟨hscheme, -⟩, -⟩
    · exact Or.inr hauthority
    · exact Or.inl hscheme
  have hwhole : (if named then
      (if path.isEmpty || path.head? == some '/' then path else '/' :: path) else path) = path := by
    cases named with
    | false => rfl
    | true =>
      rw [if_pos rfl, hhead rfl]
      simp
  rw [hwhole]
  refine ⟨_, ?_, rfl, given_getD scheme, rfl⟩
  exact
    { scheme := fun written heq => by
        cases (Option.ite_none_left_eq_some.1 heq).2
        exact hscheme
      authority := fun written heq => by
        cases (Option.ite_none_right_eq_some.1 heq).2
        exact hauthority
      path := hpath
      query := fun _ heq => by cases heq
      rooted := fun heq => by
        cases named with
        | false => exact absurd rfl heq
        | true => exact Or.inr (hhead rfl)
      single := fun _ => hsingle
      unnamed := fun heq _ => hunnamed (by simpa [given] using heq) }

/-- What segments lead to from a directory, as it is written. -/
theorem Url.resolve_segments {base : Url} {filled : List (List Char)} {target : List Char}
    (hproper : base.reference.Proper) (hsmall : base.scheme.map small = base.scheme)
    (hrooted : base.authority ≠ [] → IsRooted base.path) (hdir : base.IsDirectory)
    (hfilled : AreSegments filled)
    (hkeeps : ∀ c ∈ base.below filled, keepsInPath c = true)
    (h : Resolve.resolve base.chars (List.intercalate ['/'] filled) = .ok target) :
    ∃ r : Reference, r.Proper ∧ target = r.text ∧ r.scheme.getD [] = base.scheme ∧
      r.path = base.below filled := by
  have hscheme : base.reference.scheme.getD [] = base.scheme := Resolve.given_getD base.scheme
  have hpathne : base.path ≠ [] := by
    intro hnil
    have hlast := hdir.directory
    rw [hnil] at hlast
    cases hlast
  have hchars : base.chars ≠ [] := by
    unfold chars Reference.text
    exact List.append_ne_nil_of_left_ne_nil (List.append_ne_nil_of_left_ne_nil
      (List.append_ne_nil_of_right_ne_nil _ hpathne) _) _
  -- Without segments the reference is empty, and the directory itself is written.
  by_cases hne : filled = []
  · subst hne
    have hself : base.below [] = base.path := List.append_nil base.path
    unfold Resolve.resolve at h
    rw [List.intercalate_nil] at h
    split at h
    · next hempty => exact absurd (List.isEmpty_iff.1 hempty) hchars
    · cases h
      exact ⟨base.reference, hproper, rfl, hscheme, hself.symm⟩
  · have htarget := Resolve.resolve_isPath hproper hsmall hdir.hierarchical hchars hfilled.isPath
      (hfilled.joined_ne_nil hne) h
    have hfrom : Resolve.fromBase base (List.intercalate ['/'] filled) =
        ⟨base.scheme, base.authority, base.below filled, [], [], []⟩ := by
      unfold Resolve.fromBase
      rw [Resolve.splitPath_segments base.scheme hfilled, ← hdir.path_eq,
        Resolve.splitPath_directory]
      dsimp only
      rw [if_neg fun hnil => hfilled.joined_ne_nil hne (Prod.mk.inj hnil).1,
        Resolve.resolvedPath_directory hdir.fixed hdir.inner hfilled hne, below, ← hdir.path_eq,
        List.append_assoc, List.singleton_append]
      simp
    rw [hfrom] at htarget
    have hhead : base.scheme ≠ [] ∨ base.authority ≠ [] →
        (base.below filled).head? = some '/' := by
      intro hgiven
      have hbase : base.path.head? = some '/' := by
        rcases hgiven with hscheme | hauthority
        · exact hdir.rooted hscheme
        · exact (hrooted hauthority).resolve_left hpathne
      rw [below, List.head?_append, hbase]
      rfl
    have hisScheme : Reference.isScheme base.scheme = true := by
      by_cases hnil : base.scheme = []
      · rw [hnil]
        rfl
      · exact hproper.scheme base.scheme (if_neg (by simpa using hnil))
    have hmarks : ∀ c ∈ base.authority, Reference.endsAuthority c = false := by
      intro c hc
      have hnil : base.authority.isEmpty = false := by
        rw [List.isEmpty_eq_false_iff]
        exact List.ne_nil_of_mem hc
      exact hproper.authority base.authority (if_neg (by rw [hnil]; exact Bool.false_ne_true)) c hc
    obtain ⟨r, hr, htext, hrscheme, hrpath⟩ := Resolve.Parts.text_place hisScheme hmarks
      (fun c hc => endsPath_of_keepsInPath (hkeeps c hc)) (hdir.single_below hfilled) hhead
      (hdir.unnamed_below hrooted)
    exact ⟨r, hr, htarget.trans htext, hrscheme, hrpath⟩

/-- Segments lead from a directory to its path with the segments behind it. -/
theorem Url.join_segments {base joined : Url} {t : List Char} {filled : List (List Char)}
    (hbase : Url.ofText t = .ok base) (hdir : base.IsDirectory) (hfilled : AreSegments filled)
    (h : base.join (List.intercalate ['/'] filled) = .ok joined) :
    joined.path = base.below filled ∧ joined.reference.Proper := by
  obtain ⟨r, target, hr, htarget, hjoined⟩ := Url.join_eq_ok h
  have hread := Url.ofText_eq_ok hbase
  have hwritten := Reference.proper_ofText t
  have hrooted : base.authority ≠ [] → IsRooted base.path := hread.isRooted
  have hnone : AreSegments [] := fun s hs => absurd hs List.not_mem_nil
  have hself : base.below [] = base.path := List.append_nil base.path
  have hproper : base.reference.Proper := by
    refine hread.proper hwritten (fun _ => ?_) fun hscheme _ => ?_
    · exact hself ▸ hdir.single_below hnone
    · exact hself ▸ hdir.unnamed_below hrooted hscheme
  have hsmall := hread.map_small
  have hkeeps : ∀ c ∈ base.below filled, keepsInPath c = true := by
    intro c hc
    rcases List.mem_append.1 hc with hc | hc
    · exact hread.path_keeps c hc
    · exact hfilled.keepsInPath c hc
  rw [Url.chars_of_isPath hfilled.isPath hr, Percent.encode_of_keeps hfilled.keepsInPath]
    at htarget
  obtain ⟨parts, hparts, rfl, hscheme, hpath⟩ :=
    Url.resolve_segments hproper hsmall hrooted hdir hfilled hkeeps htarget
  have hnormal := Url.ofText_eq_ok hjoined
  rw [Reference.ofText_text hparts] at hnormal
  have hjoinedPath : joined.path = base.below filled := by
    rw [hnormal.path_eq (by rw [hpath]; exact hkeeps)
      (by rw [hpath]; exact hdir.isFixed_below hfilled), hpath]
  refine ⟨hjoinedPath, hnormal.proper hparts (fun _ => ?_) fun hnil _ => ?_⟩
  · rw [hjoinedPath]
    exact hdir.single_below hfilled
  · rw [hjoinedPath]
    apply hdir.unnamed_below hrooted
    rw [hnormal.scheme, hscheme, hsmall] at hnil
    exact hnil

/-- A query behind an address whose path is its own normal form leaves the path as it is. -/
theorem Url.path_of_append_query {joined u : Url} {query : List Char}
    (hproper : joined.reference.Proper) (hkeeps : ∀ c ∈ joined.path, keepsInPath c = true)
    (hfixed : IsFixed joined.path) (hq : '#' ∉ query)
    (h : Url.ofText (joined.chars ++ '?' :: query) = .ok u) : u.path = joined.path := by
  obtain ⟨query', fragment', hread⟩ := Reference.ofText_text_append_query hproper hq
  have hu := Url.ofText_eq_ok h
  rw [Url.chars, hread] at hu
  exact hu.path_eq hkeeps hfixed

end ApiDiscovery.Uri
