import ApiDiscovery.Proofs.Json.Number
import ApiDiscovery.Proofs.Uri.Host
import ApiDiscovery.Proofs.Uri.Reference

/-!
# Addresses read and written

What reading an address does to each part is `Url.IsNormalForm`. The parts of an address that was
read can be told apart when it is written (`IsNormalForm.proper`), and a query put behind the text
of an address without query and fragment is the query of what is read (`ofText_append_query`).
-/

namespace ApiDiscovery.Uri

open ApiDiscovery.Text

/-! ## The parts of an authority -/

namespace Authority

variable {s : List Char} {c : Char}

theorem mem_cutHost (h : c ∈ (cutHost s).1) : c ∈ s := by
  unfold cutHost at h
  split at h
  · next inside rest hcut =>
    obtain ⟨d, hd, hs, -⟩ := cutLast_eq_some hcut
    rw [hs]
    rcases List.mem_append.1 h with h | h
    · exact List.mem_append_left _ h
    · obtain rfl := List.mem_singleton.1 h
      rw [beq_iff_eq.1 hd]
      exact List.mem_append_right _ List.mem_cons_self
  · exact List.takeWhile_subset _ h

/-- The host is in the text behind the last at sign. -/
theorem mem_host (h : c ∈ (ofText s).host) : c ∈ s ∧ c ≠ '@' := by
  have hhost : c ∈ ((cutLast (· == '@') s).getD ([], s)).2 := mem_cutHost h
  cases hcut : cutLast (· == '@') s with
  | none =>
    rw [hcut] at hhost
    exact ⟨hhost, beq_eq_false_iff_ne.1 (cutLast_eq_none hcut c hhost)⟩
  | some parts =>
    obtain ⟨userinfo, rest⟩ := parts
    rw [hcut] at hhost
    obtain ⟨d, -, hs, hfree⟩ := cutLast_eq_some hcut
    rw [hs]
    exact ⟨List.mem_append_right _ (List.mem_cons_of_mem d hhost),
      beq_eq_false_iff_ne.1 (hfree c hhost)⟩

theorem cutHost_ne_nil (h : c ≠ ':') (rest : List Char) : (cutHost (c :: rest)).1 ≠ [] := by
  unfold cutHost
  split
  · simp
  · rw [List.takeWhile_cons_of_pos (by simpa using h)]
    exact List.cons_ne_nil _ _

end Authority

namespace Url

/-! ## What reading does to the parts -/

/-- The address has the parts of the reference in normal form. -/
structure IsNormalForm (u : Url) (r : Reference) : Prop where
  scheme : u.scheme = (r.scheme.getD []).map small
  userinfo : u.userinfo =
    Percent.encode keepsInUserinfo (Authority.ofText (r.authority.getD [])).userinfo
  host : normalHost (Authority.ofText (r.authority.getD [])).host = .ok u.host
  port : normalPort (r.scheme.getD []) (Authority.ofText (r.authority.getD [])).port = .ok u.port
  pathFault : pathFault? (!u.scheme.isEmpty) (!u.authority.isEmpty) r.path = none
  path : u.path = Percent.encode keepsInPath
    (if !u.scheme.isEmpty || !u.authority.isEmpty then Path.normalize r.path else r.path)
  query : u.query = r.query.map (Percent.encode keepsInQuery)
  fragment : u.fragment = r.fragment.map (Percent.encode keepsInFragment)

theorem authority_isEmpty (u : Url) :
    (!u.authority.isEmpty) = (!u.userinfo.isEmpty || !u.host.isEmpty || u.port.isSome) := by
  unfold authority
  cases u.userinfo with
  | cons c userinfo => simp
  | nil =>
    cases u.port with
    | some port => simp
    | none =>
      cases u.host with
      | nil => rfl
      | cons c host =>
        by_cases hcolon : (c :: host).contains ':' = true
        · rw [if_pos hcolon]
          rfl
        · rw [if_neg hcolon]
          rfl

theorem ofReference_eq_ok {r : Reference} {u : Url} (h : ofReference r = .ok u) :
    u.IsNormalForm r := by
  unfold ofReference at h
  dsimp only at h
  split at h
  · cases h
  next host hhost =>
  split at h
  · cases h
  next port hport =>
  split at h
  · cases h
  next hfault =>
  cases h
  have hscheme : ((r.scheme.getD []).map small).isEmpty = (r.scheme.getD []).isEmpty :=
    List.isEmpty_map
  refine ⟨rfl, rfl, hhost, hport, ?_, ?_, rfl, rfl⟩
  · rw [authority_isEmpty, hscheme]
    exact hfault
  · rw [authority_isEmpty, hscheme]

/-- Parts in normal form are all that an address needs. -/
theorem IsNormalForm.ofReference_eq {u : Url} {r : Reference} (h : u.IsNormalForm r) :
    ofReference r = .ok u := by
  have hscheme : (r.scheme.getD []).isEmpty = u.scheme.isEmpty := by
    rw [h.scheme, List.isEmpty_map]
  unfold ofReference
  dsimp only
  rw [h.host]
  dsimp only
  rw [h.port]
  dsimp only
  rw [← h.userinfo, hscheme, ← authority_isEmpty, h.pathFault]
  dsimp only
  rw [← h.scheme, ← h.path, ← h.query, ← h.fragment]

theorem ofText_eq_ok {s : List Char} {u : Url} (h : ofText s = .ok u) :
    u.IsNormalForm (Reference.ofText s) := by
  unfold ofText at h
  split at h
  · cases h
  · split at h
    · cases h
    · exact ofReference_eq_ok h

theorem authority_ne_nil {u : Url} (h : u.host ≠ []) : u.authority ≠ [] := by
  have hgiven := u.authority_isEmpty
  intro hnil
  rw [hnil] at hgiven
  simp [h] at hgiven

theorem ne_nil_of_isAbsolute {u : Url} (h : u.isAbsolute = true) : u.scheme ≠ [] ∧ u.host ≠ [] := by
  rw [isAbsolute, Bool.and_eq_true, Bool.not_eq_true', Bool.not_eq_true',
    List.isEmpty_eq_false_iff, List.isEmpty_eq_false_iff] at h
  exact h

/-- The addresses differ in nothing before the path. -/
def SamePlace (u v : Url) : Prop :=
  u.scheme = v.scheme ∧ u.userinfo = v.userinfo ∧ u.host = v.host ∧ u.port = v.port

theorem SamePlace.symm {u v : Url} (h : u.SamePlace v) : v.SamePlace u :=
  ⟨h.1.symm, h.2.1.symm, h.2.2.1.symm, h.2.2.2.symm⟩

theorem SamePlace.trans {u v w : Url} (h : u.SamePlace v) (h' : v.SamePlace w) : u.SamePlace w :=
  ⟨h.1.trans h'.1, h.2.1.trans h'.2.1, h.2.2.1.trans h'.2.2.1, h.2.2.2.trans h'.2.2.2⟩

/-- The parts before the path depend on the scheme and the authority only. -/
theorem IsNormalForm.samePlace {u v : Url} {r q : Reference} (hu : u.IsNormalForm r)
    (hv : v.IsNormalForm q) (hscheme : r.scheme = q.scheme)
    (hauthority : r.authority = q.authority) : SamePlace u v := by
  refine ⟨?_, ?_, ?_, ?_⟩
  · rw [hu.scheme, hv.scheme, hscheme]
  · rw [hu.userinfo, hv.userinfo, hauthority]
  · have hhost := hu.host
    rw [hauthority, hv.host] at hhost
    exact (Except.ok.inj hhost).symm
  · have hport := hu.port
    rw [hscheme, hauthority, hv.port] at hport
    exact (Except.ok.inj hport).symm

/-! ## What the parts hold -/

theorem keepsInQuery_of_keepsInPath {c : Char} (h : keepsInPath c = true) :
    keepsInQuery c = true := by
  rw [keepsInPath, Bool.and_eq_true] at h
  exact h.1

/-- What never needs an escape is in ASCII. -/
theorem toNat_of_isUnreserved {c : Char} (h : Percent.isUnreserved c = true) : c.toNat < 128 := by
  have hz : ∀ d : Char, c ≤ d → c.toNat ≤ d.toNat := fun d hd => hd
  unfold Percent.isUnreserved at h
  simp only [Bool.or_eq_true, Bool.and_eq_true, decide_eq_true_eq, beq_iff_eq] at h
  rcases h with (((((⟨-, h⟩ | ⟨-, h⟩) | ⟨-, h⟩) | rfl) | rfl) | rfl) | rfl
  · exact lt_of_le_of_lt (hz _ h) (by decide)
  · exact lt_of_le_of_lt (hz _ h) (by decide)
  · exact lt_of_le_of_lt (hz _ h) (by decide)
  all_goals decide

/-- What never needs an escape stands for itself in a path. -/
theorem keepsInPath_of_isUnreserved {c : Char} (h : Percent.isUnreserved c = true) :
    keepsInPath c = true := by
  have hcodes : ∀ n < 128, Percent.isUnreserved (Char.ofNat n) = true →
      keepsInPath (Char.ofNat n) = true := by decide
  have hcode := toNat_of_isUnreserved h
  rw [← Char.ofNat_toNat c] at h ⊢
  exact hcodes c.toNat hcode h

theorem ne_numberSign_of_keepsInQuery {c : Char} (h : keepsInQuery c = true) : c ≠ '#' := by
  rintro rfl
  exact absurd h (by decide)

theorem endsPath_of_keepsInPath {c : Char} (h : keepsInPath c = true) :
    Reference.endsPath c = false := by
  rw [Reference.endsPath, Bool.or_eq_false_iff, beq_eq_false_iff_ne, beq_eq_false_iff_ne]
  refine ⟨?_, ne_numberSign_of_keepsInQuery (keepsInQuery_of_keepsInPath h)⟩
  rintro rfl
  exact absurd h (by decide)

theorem endsAuthority_of_keepsInUserinfo {c : Char} (h : keepsInUserinfo c = true) :
    Reference.endsAuthority c = false := by
  rw [← Bool.not_eq_true, Reference.endsAuthority, Bool.or_eq_true, Bool.or_eq_true, beq_iff_eq,
    beq_iff_eq, beq_iff_eq]
  rintro ((rfl | rfl) | rfl)
  all_goals exact absurd h (by decide)

/-- No mark stands in a port. -/
theorem isMark_of_isNumeric {c : Char} (h : isNumeric c = true) : isMark c = false :=
  isMark_eq_false (by decide) h

/-! ## The authority -/

/-- The host of an address as it stands in the authority. -/
def hostText (u : Url) : List Char :=
  if u.host.contains ':' then '[' :: (u.host ++ [']']) else u.host

/-- The port of an address as it stands in the authority. -/
def portText (u : Url) : List Char :=
  match u.port with
  | some port => ':' :: (toString port).toList
  | none => []

theorem authority_eq (u : Url) :
    u.authority =
      (if u.userinfo.isEmpty then [] else u.userinfo ++ ['@']) ++ (u.hostText ++ u.portText) := by
  rw [authority, List.append_assoc]
  rfl

/-- No mark stands behind the user information. -/
theorem place_forall {u : Url} (hhost : ∀ c ∈ u.host, isMark c = false) :
    ∀ c ∈ u.hostText ++ u.portText, isMark c = false := by
  intro c hc
  rcases List.mem_append.1 hc with hc | hc
  · unfold hostText at hc
    split at hc
    · rcases List.mem_cons.1 hc with rfl | hc
      · decide
      · rcases List.mem_append.1 hc with hc | hc
        · exact hhost c hc
        · obtain rfl := List.mem_singleton.1 hc
          decide
    · exact hhost c hc
  · unfold portText at hc
    split at hc
    · rcases List.mem_cons.1 hc with rfl | hc
      · decide
      · exact isMark_of_isNumeric (isNumeric_toString _ c hc)
    · exact absurd hc List.not_mem_nil

/-- The last at sign ends the user information, for none stands behind it. -/
theorem cutUserinfo_authority {u : Url} (hhost : ∀ c ∈ u.host, isMark c = false) :
    (cutLast (· == '@') u.authority).getD ([], u.authority) =
      (u.userinfo, u.hostText ++ u.portText) := by
  have hplace : ∀ c ∈ u.hostText ++ u.portText, (c == '@') = false := fun c hc =>
    (Bool.or_eq_false_iff.1 (place_forall hhost c hc)).2
  rw [authority_eq]
  split
  · next hempty =>
    rw [List.nil_append, cutLast_of_none hplace, List.isEmpty_iff.1 hempty]
    rfl
  · rw [List.append_assoc, List.singleton_append,
      cutLast_append_cons u.userinfo hplace (beq_self_eq_true '@')]
    rfl

/-- An address with a host has an authority in which there is one. -/
theorem host_authority_ne_nil {u : Url} (hhost : ∀ c ∈ u.host, isMark c = false)
    (hne : u.host ≠ []) : (Authority.ofText u.authority).host ≠ [] := by
  have hstart : ∃ c rest, u.hostText ++ u.portText = c :: rest ∧ c ≠ ':' := by
    unfold hostText
    split
    · exact ⟨'[', _, rfl, by decide⟩
    · next hcolon =>
      cases hu : u.host with
      | nil => exact absurd hu hne
      | cons c host =>
        refine ⟨c, _, rfl, ?_⟩
        rintro rfl
        rw [hu] at hcolon
        exact hcolon (by simp)
  obtain ⟨c, rest, hplace, hc⟩ := hstart
  show (Authority.cutHost ((cutLast (· == '@') u.authority).getD ([], u.authority)).2).1 ≠ []
  rw [cutUserinfo_authority hhost, hplace]
  exact Authority.cutHost_ne_nil hc rest

namespace IsNormalForm

variable {u : Url} {r : Reference}

/-- No character of the host ends an authority or user information. -/
theorem host_forall (h : u.IsNormalForm r) (hr : r.Proper) : ∀ c ∈ u.host, isMark c = false := by
  refine normalHost_forall h.host fun c hc => ?_
  obtain ⟨hmem, hat⟩ := Authority.mem_host hc
  rw [isMark, Bool.or_eq_false_iff]
  refine ⟨?_, beq_eq_false_iff_ne.2 hat⟩
  cases hauthority : r.authority with
  | none =>
    rw [hauthority] at hmem
    exact absurd hmem List.not_mem_nil
  | some authority =>
    rw [hauthority] at hmem
    exact hr.authority authority hauthority c hmem

/-- No character of the authority ends one. -/
theorem authority_forall (h : u.IsNormalForm r) (hr : r.Proper) :
    ∀ c ∈ u.authority, Reference.endsAuthority c = false := by
  have huserinfo : ∀ c ∈ u.userinfo, Reference.endsAuthority c = false := by
    rw [h.userinfo]
    exact Percent.encode_forall (by decide) (by decide)
      fun c _ hkeep => endsAuthority_of_keepsInUserinfo hkeep
  intro c hc
  rw [authority_eq] at hc
  rcases List.mem_append.1 hc with hc | hc
  · split at hc
    · exact absurd hc List.not_mem_nil
    · rcases List.mem_append.1 hc with hc | hc
      · exact huserinfo c hc
      · obtain rfl := List.mem_singleton.1 hc
        decide
  · exact (Bool.or_eq_false_iff.1 (place_forall (h.host_forall hr) c hc)).1

theorem path_keeps (h : u.IsNormalForm r) : ∀ c ∈ u.path, keepsInPath c = true := by
  rw [h.path]
  exact Percent.encode_forall (by decide) (by decide) fun c _ hkeep => hkeep

theorem query_keeps (h : u.IsNormalForm r) {query : List Char} (hquery : u.query = some query) :
    ∀ c ∈ query, keepsInQuery c = true := by
  rw [h.query] at hquery
  obtain ⟨written, -, rfl⟩ := Option.map_eq_some_iff.1 hquery
  exact Percent.encode_forall (by decide) (by decide) fun c _ hkeep => hkeep

end IsNormalForm

/-! ## Small letters -/

/-- A capital letter becomes a small one, and any other character stays. -/
theorem small_cases (c : Char) :
    small c = c ∨ Reference.isLetter c = true ∧ 'a' ≤ small c ∧ small c ≤ 'z' := by
  unfold small
  split
  · next hc =>
    rw [Bool.and_eq_true, decide_eq_true_eq, decide_eq_true_eq] at hc
    refine Or.inr ⟨?_, ?_⟩
    · simp [Reference.isLetter, hc]
    · have hletters : ∀ n < 91, 65 ≤ n →
          'a' ≤ Char.ofNat (n + 32) ∧ Char.ofNat (n + 32) ≤ 'z' := by decide
      have hlow : 65 ≤ c.toNat := hc.1
      have hhigh : c.toNat ≤ 90 := hc.2
      exact hletters c.toNat (by omega) hlow
  · exact Or.inl rfl

theorem small_of_le {c : Char} (h : 'a' ≤ c) : small c = c := by
  unfold small
  rw [if_neg]
  rw [Bool.and_eq_true, decide_eq_true_eq, decide_eq_true_eq, not_and]
  intro _ hz
  have hlow : 97 ≤ c.toNat := h
  have hhigh : c.toNat ≤ 90 := hz
  omega

theorem small_small (c : Char) : small (small c) = small c := by
  rcases small_cases c with h | ⟨-, h, -⟩
  · rw [h, h]
  · exact small_of_le h

theorem map_small_map_small (s : List Char) : (s.map small).map small = s.map small := by
  rw [List.map_map]
  exact List.map_congr_left fun c _ => small_small c

theorem isLetter_small {c : Char} (h : Reference.isLetter c = true) :
    Reference.isLetter (small c) = true := by
  rcases small_cases c with hc | ⟨-, hlow, hhigh⟩
  · rw [hc]
    exact h
  · simp [Reference.isLetter, hlow, hhigh]

theorem isSchemeChar_small {c : Char} (h : Reference.isSchemeChar c = true) :
    Reference.isSchemeChar (small c) = true := by
  rcases small_cases c with hc | ⟨hletter, -⟩
  · rw [hc]
    exact h
  · simp [Reference.isSchemeChar, isLetter_small hletter]

theorem isScheme_small {scheme : List Char} (h : Reference.isScheme scheme = true) :
    Reference.isScheme (scheme.map small) = true := by
  cases scheme with
  | nil => rfl
  | cons c scheme =>
    rw [Reference.isScheme, Bool.and_eq_true, List.all_eq_true] at h
    rw [List.map_cons, Reference.isScheme, Bool.and_eq_true, List.all_eq_true]
    refine ⟨isLetter_small h.1, fun d hd => ?_⟩
    obtain ⟨e, he, rfl⟩ := List.mem_map.1 hd
    exact isSchemeChar_small (h.2 e he)

/-- The scheme of an address is in small letters. -/
theorem IsNormalForm.map_small {u : Url} {r : Reference} (h : u.IsNormalForm r) :
    u.scheme.map small = u.scheme := by
  rw [h.scheme, map_small_map_small]

/-! ## Paths from the root -/

/-- The path is empty or starts at the root. -/
def IsRooted (path : List Char) : Prop := path = [] ∨ path.head? = some '/'

theorem collapse_rooted {kept : List (List Char)} (hkept : kept.getLast? = some [])
    (segments : List (List Char)) : ∃ others, Path.collapse kept segments = [] :: others := by
  induction segments generalizing kept with
  | nil =>
    obtain ⟨others, rfl⟩ := List.getLast?_eq_some_iff.1 hkept
    exact ⟨others.reverse, by simp [Path.collapse]⟩
  | cons segment segments ih =>
    rw [Path.collapse]
    split
    · exact ih hkept
    split
    · split
      · exact ih hkept
      · next hroot =>
        apply ih
        obtain ⟨others, rfl⟩ := List.getLast?_eq_some_iff.1 hkept
        -- A segment is taken away only while there are others than the root.
        cases others with
        | nil => exact absurd rfl hroot
        | cons first others => simp
    · apply ih
      obtain ⟨others, rfl⟩ := List.getLast?_eq_some_iff.1 hkept
      rw [← List.cons_append, List.getLast?_append]
      rfl

theorem isRooted_normalize {path : List Char} (h : IsRooted path) :
    IsRooted (Path.normalize path) := by
  unfold Path.normalize
  dsimp only
  split
  · rcases h with rfl | h
    · exact Or.inl rfl
    · obtain ⟨rest, rfl⟩ := List.head?_eq_some_iff.1 h
      have hsegments : pieces (· == '/') ('/' :: rest) = [] :: pieces (· == '/') rest :=
        if_pos rfl
      obtain ⟨others, hothers⟩ : ∃ others,
          Path.collapse [[]] (pieces (· == '/') rest) = [] :: others := collapse_rooted rfl _
      have hroot : Path.collapse [] ([] :: pieces (· == '/') rest) =
          Path.collapse [[]] (pieces (· == '/') rest) := rfl
      rw [hsegments, hroot, hothers]
      cases others with
      | nil => exact Or.inl rfl
      | cons first others => exact Or.inr rfl
  · exact h

theorem isRooted_encode {path : List Char} (h : IsRooted path) :
    IsRooted (Percent.encode keepsInPath path) := by
  rcases h with rfl | h
  · exact Or.inl rfl
  · obtain ⟨rest, rfl⟩ := List.head?_eq_some_iff.1 h
    exact Or.inr rfl

/-- Behind an authority a path starts at the root. -/
theorem IsNormalForm.isRooted {u : Url} {r : Reference} (h : u.IsNormalForm r)
    (hauthority : u.authority ≠ []) : IsRooted u.path := by
  have hgiven : (!u.authority.isEmpty) = true := by simpa using hauthority
  have hfault := h.pathFault
  rw [hgiven, pathFault?, if_pos rfl] at hfault
  have hpath : IsRooted r.path := by
    by_cases hrooted : (r.path.isEmpty || decide (r.path.head? = some '/')) = true
    · rw [Bool.or_eq_true, List.isEmpty_iff, decide_eq_true_eq] at hrooted
      exact hrooted
    · rw [if_neg hrooted] at hfault
      cases hfault
  rw [h.path, hgiven, Bool.or_true, if_pos rfl]
  exact isRooted_encode (isRooted_normalize hpath)

/-! ## What was read can be written -/

namespace IsNormalForm

variable {u : Url} {r : Reference}

theorem isScheme_scheme (h : u.IsNormalForm r) (hr : r.Proper) :
    Reference.isScheme u.scheme = true := by
  rw [h.scheme]
  cases hscheme : r.scheme with
  | none => rfl
  | some scheme => exact isScheme_small (hr.scheme scheme hscheme)

/-- The parts of an address that was read can be told apart, unless its path could be taken for an
authority or a scheme. -/
theorem proper (h : u.IsNormalForm r) (hr : r.Proper)
    (hsingle : u.authority = [] → ¬ ['/', '/'] <+: u.path)
    (hunnamed : u.scheme = [] → u.authority = [] → (Reference.cutScheme u.path).1 = none) :
    u.reference.Proper where
  scheme := by
    intro scheme hscheme
    cases (Option.ite_none_left_eq_some.1 hscheme).2
    exact h.isScheme_scheme hr
  authority := by
    intro authority hauthority
    cases (Option.ite_none_left_eq_some.1 hauthority).2
    exact h.authority_forall hr
  path := fun c hc => endsPath_of_keepsInPath (h.path_keeps c hc)
  query := fun query hquery hmark =>
    ne_numberSign_of_keepsInQuery (h.query_keeps hquery _ hmark) rfl
  rooted := by
    intro hauthority
    refine h.isRooted fun hnil => hauthority ?_
    simp [reference, hnil]
  single := by
    intro hauthority
    apply hsingle
    simpa [reference] using hauthority
  unnamed := by
    intro hscheme hauthority
    apply hunnamed
    · simpa [reference] using hscheme
    · simpa [reference] using hauthority

/-- Without query and fragment no part starts with the mark of one. -/
theorem isPlain_chars (h : u.IsNormalForm r) (hr : r.Proper) (hquery : u.query = none)
    (hfragment : u.fragment = none) : Reference.IsPlain u.chars := by
  have hscheme : ∀ c ∈ u.scheme, Reference.endsPath c = false := by
    intro c hc
    exact Reference.endsPath_of_isSchemeChar
      (Reference.isSchemeChar_of_mem (h.isScheme_scheme hr) c hc)
  have hauthority : ∀ c ∈ u.authority, Reference.endsPath c = false := by
    intro c hc
    have hmark := h.authority_forall hr c hc
    rw [Reference.endsAuthority, Bool.or_eq_false_iff, Bool.or_eq_false_iff] at hmark
    rw [Reference.endsPath, hmark.1.2, hmark.2]
    rfl
  intro c hc
  simp only [chars, reference, Reference.text, hquery, hfragment, Reference.after,
    List.append_nil] at hc
  rcases List.mem_append.1 hc with hc | hc
  · rcases List.mem_append.1 hc with hc | hc
    · by_cases hempty : u.scheme.isEmpty = true
      · rw [if_pos hempty] at hc
        exact absurd hc List.not_mem_nil
      · rw [if_neg hempty] at hc
        rcases List.mem_append.1 hc with hc | hc
        · exact hscheme c hc
        · obtain rfl := List.mem_singleton.1 hc
          decide
    · by_cases hempty : u.authority.isEmpty = true
      · rw [if_pos hempty] at hc
        exact absurd hc List.not_mem_nil
      · rw [if_neg hempty] at hc
        rcases List.mem_append.1 hc with hc | hc
        · rcases List.mem_cons.1 hc with rfl | hc
          · decide
          · obtain rfl := List.mem_singleton.1 hc
            decide
        · exact hauthority c hc
  · exact endsPath_of_keepsInPath (h.path_keeps c hc)

end IsNormalForm

/-! ## Addresses that are paths -/

/-- Escapes do not make a path anything else. -/
theorem isPath_encode {s : List Char} (h : Reference.IsPath s) :
    Reference.IsPath (Percent.encode keepsInPath s) := by
  obtain ⟨-, hsingle, hunnamed⟩ := Reference.isPath_iff.1 h
  refine Reference.isPath_iff.2 ⟨?_, ?_, ?_⟩
  · refine fun c hc => endsPath_of_keepsInPath ?_
    exact Percent.encode_forall (by decide) (by decide) (fun c _ hkeep => hkeep) c hc
  · rintro ⟨rest, hrest⟩
    obtain ⟨t, rfl, -⟩ := Percent.append_of_encode (by decide) hrest.symm
    exact hsingle ⟨t, rfl⟩
  · refine Reference.cutScheme_eq_none_iff.2 fun a b hs hcolon => ?_
    -- Before the first escape the text starts as the path does, which starts with no scheme.
    by_cases hescape : '%' ∈ a
    · exact Reference.not_isScheme_of_mem hescape (by decide)
    · obtain ⟨t, rfl, ht⟩ := Percent.append_of_encode hescape hs
      obtain ⟨v, rfl, -⟩ := Percent.append_of_encode (a := [':']) (by decide) ht
      exact Reference.cutScheme_eq_none_iff.1 hunnamed a v rfl hcolon

/-- What is read from a path is that path, with escapes. -/
theorem chars_of_isPath {s : List Char} {u : Url} (hs : Reference.IsPath s)
    (h : ofText s = .ok u) : u.chars = Percent.encode keepsInPath s := by
  have hu := ofText_eq_ok h
  rw [hs] at hu
  have hscheme : u.scheme = [] := hu.scheme
  have hauthority : u.authority = [] := by
    have huserinfo : u.userinfo = [] := hu.userinfo
    have hhost : u.host = [] := (Except.ok.inj hu.host).symm
    have hport : u.port = none := (Except.ok.inj hu.port).symm
    simp [authority, huserinfo, hhost, hport]
  have hpath := hu.path
  rw [hscheme, hauthority] at hpath
  have hquery : u.query = none := hu.query
  have hfragment : u.fragment = none := hu.fragment
  simp [chars, reference, Reference.text, Reference.after, hscheme, hauthority, hquery, hfragment,
    hpath]

/-! ## A query behind an address -/

theorem ofReference_query {r : Reference} {v : Url} {query : List Char}
    (h : ofReference { r with query := some query } = .ok v) :
    ∃ u, ofReference r = .ok u ∧
      v = { u with query := some (Percent.encode keepsInQuery query) } := by
  have hv := ofReference_eq_ok h
  have hu : ({ v with query := r.query.map (Percent.encode keepsInQuery) } : Url).IsNormalForm r :=
    ⟨hv.scheme, hv.userinfo, hv.host, hv.port, hv.pathFault, hv.path, rfl, hv.fragment⟩
  have hquery : v.query = some (Percent.encode keepsInQuery query) := hv.query
  refine ⟨_, hu.ofReference_eq, ?_⟩
  rw [← hquery]

theorem firstControl_append {s t : List Char} {position : Nat}
    (h : firstControl position (s ++ t) = none) : firstControl position s = none := by
  induction s generalizing position with
  | nil => rfl
  | cons c s ih =>
    rw [List.cons_append, firstControl] at h
    rw [firstControl]
    split at h
    · cases h
    · next hc =>
      rw [if_neg hc]
      exact ih h

/-- A question mark and a query behind a text without the marks of query and fragment change only
the query of the address that is read. -/
theorem ofText_append_query {s query : List Char} {v : Url} (hs : Reference.IsPlain s)
    (hq : '#' ∉ query) (h : ofText (s ++ '?' :: query) = .ok v) :
    ∃ u, ofText s = .ok u ∧ v = { u with query := some (Percent.encode keepsInQuery query) } := by
  unfold ofText at h
  split at h
  · cases h
  next hlength =>
  split at h
  · cases h
  next hcontrol =>
  rw [Reference.ofText_append_query hs hq] at h
  obtain ⟨u, hu, hv⟩ := ofReference_query h
  refine ⟨u, ?_, hv⟩
  have hshort : ¬ maxLength < s.length := by
    rw [List.length_append] at hlength
    omega
  rw [ofText, if_neg hshort, firstControl_append hcontrol]
  exact hu

/-- What is put behind the query of an address becomes part of the query. -/
theorem ofText_append_behind_query {s w query : List Char} {u v : Url} (hu : ofText s = .ok u)
    (hw : u.query = some w) (hfragment : u.fragment = none)
    (hkeeps : ∀ c ∈ query, keepsInQuery c = true) (h : ofText (u.chars ++ '?' :: query) = .ok v) :
    v.query = some (w ++ '?' :: query) := by
  have hread := ofText_eq_ok hu
  have hwritten := Reference.proper_ofText s
  -- The query that was there is put back behind the address without it, with the new one behind.
  have hbare : ({ u with query := none } : Url).IsNormalForm
      { Reference.ofText s with query := none } :=
    { hread with query := rfl }
  have hplain : Reference.IsPlain ({ u with query := none } : Url).chars :=
    hbare.isPlain_chars { hwritten with query := fun _ heq => by cases heq } rfl hfragment
  have htext : u.chars ++ '?' :: query =
      ({ u with query := none } : Url).chars ++ '?' :: (w ++ '?' :: query) := by
    simp [chars, reference, Reference.text, Reference.after, hw, hfragment, authority]
  have hwkeeps := hread.query_keeps hw
  have hall : ∀ c ∈ w ++ '?' :: query, keepsInQuery c = true := by
    intro c hc
    rcases List.mem_append.1 hc with hc | hc
    · exact hwkeeps c hc
    · rcases List.mem_cons.1 hc with rfl | hc
      · decide
      · exact hkeeps c hc
  rw [htext] at h
  obtain ⟨_, -, rfl⟩ := ofText_append_query hplain
    (fun hmem => ne_numberSign_of_keepsInQuery (hall _ hmem) rfl) h
  exact congrArg some (Percent.encode_of_keeps hall)

end Url
end ApiDiscovery.Uri
