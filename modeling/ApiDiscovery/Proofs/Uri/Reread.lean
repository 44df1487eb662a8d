import ApiDiscovery.Proofs.Text.Integer
import ApiDiscovery.Proofs.Uri.Directory

/-!
# Addresses read a second time

When the query of an address is changed, the address is put together from its parts and they are all
read once more. An absolute address stays the same but for letters of its host and a port that is the
usual one (`Url.IsNormalForm.reread`); a path from the root stays as it is
(`Url.ofReference_path`). This needs a host that was written in ASCII or in brackets, and every
address that was put together as a text has such a host (`Url.IsNormalForm.host_append_query`).
-/

namespace ApiDiscovery.Uri

open ApiDiscovery.Text

/-! ## Hosts -/

namespace Address

variable {host : List Char}

theorem toNat_le_of_isDigit {c : Char} (h : isDigit c = true) : c.toNat ≤ 57 := by
  rw [isDigit, Bool.and_eq_true, decide_eq_true_eq, decide_eq_true_eq] at h
  exact h.2

theorem mem_of_looksNumeric (h : looksNumeric host = true) :
    ∀ c ∈ host, isDigit c = true ∨ c = '.' := by
  rw [looksNumeric, Bool.and_eq_true, List.all_eq_true] at h
  intro c hc
  rw [← intercalate_pieces '.' host] at hc
  rcases mem_intercalate hc with rfl | ⟨part, hpart, hc⟩
  · exact Or.inr rfl
  · have hdigits := h.2 part hpart
    rw [Bool.and_eq_true, List.all_eq_true] at hdigits
    exact Or.inl (hdigits.2 c hc)

theorem looksNumeric_eq_false {c : Char} (hc : c ∈ host) (hdigit : isDigit c = false)
    (hdot : c ≠ '.') : looksNumeric host = false := by
  refine Bool.eq_false_iff.2 fun h => ?_
  rcases mem_of_looksNumeric h c hc with h | h
  · rw [hdigit] at h
    cases h
  · exact hdot h

/-- Groups have colons between them. -/
theorem colon_mem_of_isGroups (h : isGroups host = true) : ':' ∈ host := by
  have hprefix : ∀ c ∈ (cutFirst (· == '%') host).1, c ∈ host := by
    intro c hc
    cases hcut : cutFirst (· == '%') host with
    | mk before behind =>
      rw [hcut] at hc
      cases behind with
      | none =>
        rw [← (cutFirst_eq_none hcut).1]
        exact hc
      | some behind =>
        obtain ⟨d, -, hhost, -⟩ := cutFirst_eq_some hcut
        rw [hhost]
        exact List.mem_append_left _ hc
  unfold isGroups at h
  dsimp only at h
  rw [Bool.and_eq_true] at h
  have hgroups : groupsOf (cutFirst (· == '%') host).1 ≠ none := by
    intro hnone
    rw [hnone] at h
    exact absurd h.2 (by decide)
  refine hprefix _ (by_contra fun hnot => hgroups ?_)
  have hpieces : pieces (· == ':') (cutFirst (· == '%') host).1 =
      [(cutFirst (· == '%') host).1] := by
    refine pieces_of_none fun c hc => beq_eq_false_iff_ne.2 ?_
    rintro rfl
    exact hnot hc
  rw [groupsOf, hpieces]
  rfl

end Address

namespace Url

/-- The host stands in square brackets. -/
def InBrackets (host : List Char) : Prop :=
  host.head? = some '[' ∧ host.getLast? = some ']' ∧ 2 ≤ host.length

theorem isBasic_of_keepsInHost {c : Char} (h : keepsInHost c = true) :
    Punycode.isBasic c = true := by
  rw [keepsInHost, Bool.or_eq_true] at h
  rcases h with h | h
  · exact decide_eq_true (toNat_of_isUnreserved h)
  · have hmarks : ("!$&'()*+,;=\"`\x7b\x7d%|\\".toList.all Punycode.isBasic) = true := by decide
    exact List.all_eq_true.1 hmarks c (List.contains_iff_mem.1 h)

theorem keepsInHost_small {c : Char} (h : keepsInHost c = true) :
    keepsInHost (small c) = true := by
  rcases small_cases c with hc | ⟨-, hlow, hhigh⟩
  · rw [hc]
    exact h
  · simp [keepsInHost, Percent.isUnreserved, hlow, hhigh]

theorem encode_keepsInHost (s : List Char) :
    ∀ c ∈ Percent.encode keepsInHost s, keepsInHost c = true :=
  Percent.encode_forall (by decide) (by decide) fun _ _ hkeep => hkeep

/-- A host in letters of ASCII or in brackets is four numbers, groups or a name with escapes. -/
theorem normalHost_cases {host normal : List Char} (h : normalHost host = .ok normal)
    (hne : normal ≠ []) (hwritten : (∀ c ∈ host, Punycode.isBasic c = true) ∨ InBrackets host) :
    (Address.looksNumeric host = true ∧ Address.isFourNumbers host = true ∧ normal = host) ∨
      Address.isGroups normal = true ∨
      (Address.looksNumeric host = false ∧
        normal = Percent.encode keepsInHost (host.map small)) := by
  unfold normalHost at h
  split at h
  · cases h
    exact absurd rfl hne
  split at h
  · next hnumeric =>
    split at h
    · next hfour =>
      cases h
      exact .inl ⟨hnumeric, hfour, rfl⟩
    · cases h
  next hnumeric =>
  split at h
  · dsimp only at h
    split at h
    · next hgroups =>
      cases h
      exact .inr (.inl hgroups)
    · cases h
  next hbrackets =>
  split at h
  · cases h
    exact .inr (.inr ⟨Bool.eq_false_iff.2 hnumeric, rfl⟩)
  next hascii =>
  rcases hwritten with hbasic | hinside
  · exact absurd (List.all_eq_true.2 hbasic) hascii
  · exact absurd hinside hbrackets

/-- Escapes and small letters make no host four runs of digits. -/
theorem looksNumeric_encode {host : List Char} (h : Address.looksNumeric host = false) :
    Address.looksNumeric (Percent.encode keepsInHost (host.map small)) = false := by
  refine Bool.eq_false_iff.2 fun hnumeric => ?_
  have hdigits := Address.mem_of_looksNumeric hnumeric
  -- There is no escape, so the host consists of the same digits and points.
  have hpercent : '%' ∉ Percent.encode keepsInHost (host.map small) := fun hmem =>
    absurd (hdigits _ hmem) (by decide)
  obtain ⟨t, hsmall, ht⟩ := Percent.append_of_encode hpercent (List.append_nil _).symm
  rw [Percent.encode_eq_nil.1 ht, List.append_nil] at hsmall
  rw [← hsmall] at hnumeric hdigits
  have hsame : host.map small = host := by
    refine (List.map_congr_left fun c hc => ?_).trans (List.map_id host)
    rcases small_cases c with hc' | ⟨-, hlow, -⟩
    · exact hc'
    · rcases hdigits (small c) (List.mem_map_of_mem hc) with hdigit | hdot
      · have hletter : 97 ≤ (small c).toNat := hlow
        have hnine := Address.toNat_le_of_isDigit hdigit
        omega
      · exact absurd (hdot ▸ hlow) (by decide)
  rw [hsame, h] at hnumeric
  cases hnumeric

/-- A name without characters to escape is read with its letters as small ones. -/
theorem normalHost_of_keeps {name : List Char} (hne : name ≠ [])
    (hkeeps : ∀ c ∈ name, keepsInHost c = true) (hnumeric : Address.looksNumeric name = false) :
    normalHost name = .ok (name.map small) := by
  have hbracket : ¬ (name.head? = some '[' ∧ name.getLast? = some ']' ∧ 2 ≤ name.length) := fun h =>
    absurd (hkeeps _ (List.mem_of_head? h.1)) (by decide)
  have hbasic : (name.all fun c => c.toNat < 0x80) = true :=
    List.all_eq_true.2 fun c hc => isBasic_of_keepsInHost (hkeeps c hc)
  rw [normalHost, if_neg (by simpa using hne), if_neg (by simp [hnumeric]), if_neg hbracket,
    if_pos hbasic, Percent.encode_of_keeps]
  intro c hc
  obtain ⟨d, hd, rfl⟩ := List.mem_map.1 hc
  exact keepsInHost_small (hkeeps d hd)

theorem normalHost_of_isGroups {inside : List Char} (h : Address.isGroups inside = true) :
    normalHost ('[' :: (inside ++ [']'])) = .ok inside := by
  have hnumeric : Address.looksNumeric ('[' :: (inside ++ [']'])) = false :=
    Address.looksNumeric_eq_false List.mem_cons_self (by decide) (by decide)
  have hlast : ('[' :: (inside ++ [']'])).getLast? = some ']' := by
    rw [← List.cons_append, List.getLast?_append]
    rfl
  unfold normalHost
  rw [if_neg (by simp), if_neg (by simp [hnumeric]), if_pos ⟨rfl, hlast, by simp⟩]
  simp [h]

theorem hostText_of_mem {u : Url} (h : ':' ∈ u.host) : u.hostText = '[' :: (u.host ++ [']']) :=
  if_pos (List.contains_iff_mem.2 h)

theorem hostText_of_not_mem {u : Url} (h : ':' ∉ u.host) : u.hostText = u.host :=
  if_neg fun hmem => h (List.contains_iff_mem.1 hmem)

theorem small_of_isDigit {c : Char} (h : Address.isDigit c = true ∨ c = '.') : small c = c := by
  rcases h with h | rfl
  · unfold small
    rw [if_neg]
    rw [Bool.and_eq_true, decide_eq_true_eq, decide_eq_true_eq, not_and]
    intro hcapital
    have hnine := Address.toNat_le_of_isDigit h
    have hletter : 65 ≤ c.toNat := hcapital
    omega
  · decide

/-- The host as it is read again: groups as they are, and the letters of a name as small ones. -/
def rereadHost (u : Url) : List Char := if u.host.contains ':' then u.host else u.host.map small

theorem rereadHost_of_mem {u : Url} (h : ':' ∈ u.host) : u.rereadHost = u.host :=
  if_pos (List.contains_iff_mem.2 h)

theorem rereadHost_of_not_mem {u : Url} (h : ':' ∉ u.host) : u.rereadHost = u.host.map small :=
  if_neg fun hmem => h (List.contains_iff_mem.1 hmem)

theorem rereadHost_ne_nil {u : Url} (h : u.host ≠ []) : u.rereadHost ≠ [] := by
  unfold rereadHost
  split
  · exact h
  · simpa using h

/-- A host that was read and is written is read again. Only groups stand in brackets. -/
theorem normalHost_hostText {u : Url} {host : List Char} (h : normalHost host = .ok u.host)
    (hne : u.host ≠ []) (hwritten : (∀ c ∈ host, Punycode.isBasic c = true) ∨ InBrackets host) :
    (':' ∉ u.host → u.host.head? ≠ some '[') ∧ normalHost u.hostText = .ok u.rereadHost := by
  rcases normalHost_cases h hne hwritten with ⟨hnumeric, hfour, hhost⟩ | hgroups | ⟨hnumeric, hhost⟩
  · rw [← hhost] at hnumeric hfour
    have hdigits := Address.mem_of_looksNumeric hnumeric
    have hcolon : ':' ∉ u.host := fun hmem => absurd (hdigits _ hmem) (by decide)
    have hsmall : u.host.map small = u.host :=
      (List.map_congr_left fun c hc => small_of_isDigit (hdigits c hc)).trans (List.map_id _)
    refine ⟨fun _ hhead => absurd (hdigits _ (List.mem_of_head? hhead)) (by decide), ?_⟩
    rw [hostText_of_not_mem hcolon, rereadHost_of_not_mem hcolon, hsmall, normalHost,
      if_neg (by simpa using hne), if_pos hnumeric, if_pos hfour]
  · have hcolon := Address.colon_mem_of_isGroups hgroups
    refine ⟨fun hnot => absurd hcolon hnot, ?_⟩
    rw [hostText_of_mem hcolon, rereadHost_of_mem hcolon]
    exact normalHost_of_isGroups hgroups
  · have hkeeps : ∀ c ∈ u.host, keepsInHost c = true := hhost ▸ encode_keepsInHost _
    have hcolon : ':' ∉ u.host := fun hmem => absurd (hkeeps _ hmem) (by decide)
    refine ⟨fun _ hhead => absurd (hkeeps _ (List.mem_of_head? hhead)) (by decide), ?_⟩
    rw [hostText_of_not_mem hcolon, rereadHost_of_not_mem hcolon]
    exact normalHost_of_keeps hne hkeeps (hhost ▸ looksNumeric_encode hnumeric)

/-! ## Authorities -/

/-- The port of an address without the colon before it. -/
def portDigits (u : Url) : List Char :=
  match u.port with
  | some port => (toString port).toList
  | none => []

theorem portText_cases (u : Url) :
    (u.portText = [] ∧ u.portDigits = []) ∨ u.portText = ':' :: u.portDigits := by
  unfold portText portDigits
  cases u.port with
  | none => exact .inl ⟨rfl, rfl⟩
  | some port => exact .inr rfl

theorem cutHost_written {u : Url} (hstart : ':' ∉ u.host → u.host.head? ≠ some '[') :
    Authority.cutHost (u.hostText ++ u.portText) = (u.hostText, u.portText) := by
  by_cases hcolon : ':' ∈ u.host
  · have hport : ∀ c ∈ u.portText, (c == ']') = false := by
      unfold portText
      intro c hc
      split at hc
      · rcases List.mem_cons.1 hc with rfl | hc
        · decide
        · apply beq_eq_false_iff_ne.2
          rintro rfl
          exact absurd (isNumeric_toString _ _ hc) (by decide)
      · exact absurd hc List.not_mem_nil
    have hcut : cutLast (· == ']') (u.hostText ++ u.portText) =
        some ('[' :: u.host, u.portText) := by
      rw [hostText_of_mem hcolon, List.cons_append, List.append_assoc, List.singleton_append,
        ← List.cons_append]
      exact cutLast_append_cons _ hport (beq_self_eq_true ']')
    unfold Authority.cutHost
    rw [hcut, hostText_of_mem hcolon]
    rfl
  · have hhead : ∀ rest, u.host ++ u.portText ≠ '[' :: rest := by
      intro rest heq
      have hfirst := congrArg List.head? heq
      rw [List.head?_append] at hfirst
      cases hhost : u.host.head? with
      | some c =>
        rw [hhost] at hfirst
        exact hstart hcolon (hhost.trans hfirst)
      | none =>
        rw [hhost] at hfirst
        rcases u.portText_cases with ⟨hport, -⟩ | hport
        · rw [hport] at hfirst
          cases hfirst
        · rw [hport] at hfirst
          cases hfirst
    have hfree : ∀ c ∈ u.host, (c != ':') = true := by
      intro c hc
      rw [bne_iff_ne]
      rintro rfl
      exact hcolon hc
    have hstop : ∀ c, u.portText.head? = some c → (c != ':') = false := by
      intro c hc
      rcases u.portText_cases with ⟨hport, -⟩ | hport
      · rw [hport] at hc
        cases hc
      · rw [hport] at hc
        cases hc
        rfl
    rw [hostText_of_not_mem hcolon]
    unfold Authority.cutHost
    split
    · next heq _ => exact absurd heq (hhead _)
    · rw [takeWhile_append_stop hfree hstop, dropWhile_append_stop hfree hstop]

/-- The parts of a written authority are read back from it. -/
theorem ofText_authority {u : Url} (hhost : ∀ c ∈ u.host, isMark c = false)
    (hstart : ':' ∉ u.host → u.host.head? ≠ some '[') :
    Authority.ofText u.authority = ⟨u.userinfo, u.hostText, u.portDigits⟩ := by
  unfold Authority.ofText
  rw [cutUserinfo_authority hhost]
  dsimp only
  rw [cutHost_written hstart]
  dsimp only
  rcases u.portText_cases with ⟨hport, hdigits⟩ | hport
  · rw [hport, hdigits]
  · rw [hport]
    rfl

/-- The port that was read has few enough digits to be read again. -/
theorem natAbs_of_normalPort {scheme port : List Char} {n : Int}
    (h : normalPort scheme port = .ok (some n)) : n.natAbs < 10 ^ maxDigits := by
  unfold normalPort at h
  split at h
  · cases h
  · split at h
    · next m hm =>
      split at h
      · cases h
      · cases h
        exact natAbs_of_integer? hm
    · cases h

/-- The port of an address is read again, unless it is the usual one for the scheme. -/
theorem normalPort_portDigits {u : Url} {scheme port : List Char}
    (h : normalPort scheme port = .ok u.port) :
    normalPort u.scheme u.portDigits =
      .ok (u.port.filter fun n => usualPort u.scheme ≠ some n) := by
  unfold portDigits
  cases hport : u.port with
  | none => rfl
  | some n =>
    rw [hport] at h
    have hread := integer?_toString (natAbs_of_normalPort h)
    have hne : ¬ (toString n).toList.isEmpty = true := by
      intro hempty
      rw [List.isEmpty_iff.1 hempty] at hread
      exact absurd hread (by simp [integer?, trim, trimStart, trimEnd, digits?])
    dsimp only
    rw [normalPort, if_neg hne, hread]
    by_cases husual : usualPort u.scheme = some n
    · simp [husual, Option.filter]
    · simp [husual, Option.filter]

end Url

/-! ## Paths -/

theorem isFixed_of_isRelative {path : List Char}
    (h : Path.isRelative (pieces (· == '/') path) = false) : IsFixed path := by
  rw [Path.isRelative, Bool.or_eq_false_iff] at h
  intro segment hsegment
  constructor
  · rintro rfl
    rw [List.contains_iff_mem.2 hsegment] at h
    cases h.1
  · rintro rfl
    rw [List.contains_iff_mem.2 hsegment] at h
    cases h.2

/-- A segment that is kept was there before and is no relative one. -/
theorem mem_collapse {segment : List Char} {kept segments : List (List Char)}
    (h : segment ∈ Path.collapse kept segments) :
    segment ∈ kept ∨ segment ∈ segments ∧ segment ≠ ['.'] ∧ segment ≠ ['.', '.'] := by
  induction segments generalizing kept with
  | nil => exact .inl (List.mem_reverse.1 h)
  | cons first segments ih =>
    have hbehind : ∀ {kept' : List (List Char)}, segment ∈ Path.collapse kept' segments →
        segment ∈ kept' ∨
          segment ∈ first :: segments ∧ segment ≠ ['.'] ∧ segment ≠ ['.', '.'] := fun h =>
      (ih h).imp id fun h => ⟨List.mem_cons_of_mem first h.1, h.2⟩
    rw [Path.collapse] at h
    split at h
    · exact hbehind h
    next hdot =>
    split at h
    · split at h
      · exact hbehind h
      · exact (hbehind h).imp List.mem_of_mem_drop id
    next hdots =>
    rcases hbehind h with h | h
    · rcases List.mem_cons.1 h with rfl | h
      · exact .inr ⟨List.mem_cons_self, hdot, hdots⟩
      · exact .inl h
    · exact .inr h

/-- A path in which relative segments were removed has none. -/
theorem isFixed_normalize (path : List Char) : IsFixed (Path.normalize path) := by
  unfold Path.normalize
  dsimp only
  split
  · have hsegments : ∀ segment ∈ Path.collapse [] (pieces (· == '/') path),
        segment ∈ pieces (· == '/') path ∧ segment ≠ ['.'] ∧ segment ≠ ['.', '.'] :=
      fun segment hsegment => (mem_collapse hsegment).resolve_left List.not_mem_nil
    generalize Path.collapse [] (pieces (· == '/') path) = segments at hsegments
    by_cases hne : segments = []
    · subst hne
      intro segment hsegment
      obtain rfl := List.mem_singleton.1 hsegment
      exact ⟨by decide, by decide⟩
    · have hslash : ∀ segment ∈ segments, '/' ∉ segment := fun segment hsegment hmem =>
        absurd (not_of_mem_pieces (hsegments segment hsegment).1 _ hmem) (by decide)
      intro segment hsegment
      rw [pieces_intercalate '/' hne hslash] at hsegment
      exact (hsegments segment hsegment).2
  · next hrelative => exact isFixed_of_isRelative (Bool.eq_false_iff.2 hrelative)

theorem encode_intercalate {keep : Char → Bool} {c : Char} (hc : keep c = true)
    (parts : List (List Char)) :
    Percent.encode keep (List.intercalate [c] parts) =
      List.intercalate [c] (parts.map (Percent.encode keep)) := by
  induction parts with
  | nil => rfl
  | cons part parts ih =>
    cases parts with
    | nil => simp [List.intercalate]
    | cons next parts =>
      rw [List.intercalate_cons_cons, List.map_cons, List.map_cons, List.intercalate_cons_cons,
        ← List.map_cons, ← ih, Percent.encode, List.flatMap_append, List.flatMap_append,
        List.flatMap_singleton, Percent.encodeChar_of_keeps hc]
      rfl

/-- Escapes make no segment a relative one. -/
theorem isFixed_encode {path : List Char} (h : IsFixed path) :
    IsFixed (Percent.encode Url.keepsInPath path) := by
  have hslash : ∀ segment ∈ (pieces (· == '/') path).map (Percent.encode Url.keepsInPath),
      '/' ∉ segment := by
    intro segment hsegment hmem
    obtain ⟨part, hpart, rfl⟩ := List.mem_map.1 hsegment
    have hfree : '/' ∉ part := fun hmem => absurd (not_of_mem_pieces hpart _ hmem) (by decide)
    refine Percent.encode_forall (Q := fun c => c ≠ '/') (by decide) (by decide)
      (fun c hc _ => ?_) _ hmem rfl
    rintro rfl
    exact hfree hc
  intro segment hsegment
  rw [← intercalate_pieces '/' path, encode_intercalate (by decide),
    pieces_intercalate '/' (by simpa using pieces_ne_nil _ path) hslash] at hsegment
  obtain ⟨part, hpart, rfl⟩ := List.mem_map.1 hsegment
  obtain ⟨hdot, hdots⟩ := h part hpart
  constructor
  · intro heq
    obtain ⟨t, rfl, ht⟩ := Percent.append_of_encode (a := ['.']) (by decide) heq
    exact hdot (by rw [Percent.encode_eq_nil.1 ht]; rfl)
  · intro heq
    obtain ⟨t, rfl, ht⟩ := Percent.append_of_encode (a := ['.', '.']) (by decide) heq
    exact hdots (by rw [Percent.encode_eq_nil.1 ht]; rfl)

namespace Url

/-- The path of an address with a scheme is its own normal form. -/
theorem IsNormalForm.normalize_path {u : Url} {r : Reference} (h : u.IsNormalForm r)
    (hscheme : u.scheme ≠ []) :
    Percent.encode keepsInPath (Path.normalize u.path) = u.path := by
  have hgiven : (!u.scheme.isEmpty || !u.authority.isEmpty) = true := by simp [hscheme]
  have hpath := h.path
  rw [if_pos hgiven] at hpath
  have hfixed : IsFixed u.path := hpath ▸ isFixed_encode (isFixed_normalize r.path)
  rw [normalize_of_isFixed hfixed, Percent.encode_of_keeps h.path_keeps]

/-! ## Addresses -/

theorem IsNormalForm.encode_userinfo {u : Url} {r : Reference} (h : u.IsNormalForm r) :
    Percent.encode keepsInUserinfo u.userinfo = u.userinfo := by
  rw [h.userinfo, Percent.encode_encode (by decide) (by decide)]

theorem IsNormalForm.encode_fragment {u : Url} {r : Reference} (h : u.IsNormalForm r) :
    u.fragment.map (Percent.encode keepsInFragment) = u.fragment := by
  rw [h.fragment, Option.map_map]
  refine congrArg (fun f => r.fragment.map f) (funext fun fragment => ?_)
  exact Percent.encode_encode (by decide) (by decide) fragment

/-- The address is another one read once more: the letters of the name of its host are small ones,
and a port that is the usual one for the scheme is left out. -/
structure IsReadingOf (v u : Url) : Prop where
  scheme : v.scheme = u.scheme
  userinfo : v.userinfo = u.userinfo
  host : v.host = u.rereadHost
  port : v.port = u.port.filter fun n => usualPort u.scheme ≠ some n
  path : v.path = u.path
  fragment : v.fragment = u.fragment

/-- The address with another query, as it is read once more. -/
def rereadWith (u : Url) (query : List Char) : Url :=
  { u with
    host := u.rereadHost
    port := u.port.filter fun n => usualPort u.scheme ≠ some n
    query := some (Percent.encode keepsInQuery query) }

theorem scheme_reference (u : Url) : u.reference.scheme.getD [] = u.scheme := by
  unfold reference
  cases u.scheme with
  | nil => rfl
  | cons c scheme => rfl

theorem authority_reference (u : Url) : u.reference.authority.getD [] = u.authority := by
  unfold reference
  cases u.authority with
  | nil => rfl
  | cons c authority => rfl

/-- An absolute address that was read can be read again with another query. -/
theorem IsNormalForm.reread {u : Url} {r : Reference} (h : u.IsNormalForm r) (hr : r.Proper)
    (habsolute : u.isAbsolute = true)
    (hwritten : (∀ c ∈ (Authority.ofText (r.authority.getD [])).host, Punycode.isBasic c = true) ∨
      InBrackets (Authority.ofText (r.authority.getD [])).host) (query : List Char) :
    ∃ v, ofReference { u.reference with query := some query } = .ok v ∧ v.IsReadingOf u ∧
      v.query = some (Percent.encode keepsInQuery query) := by
  obtain ⟨hscheme, hhost⟩ := ne_nil_of_isAbsolute habsolute
  obtain ⟨hstart, hagain⟩ := normalHost_hostText h.host hhost hwritten
  have hauthority := ofText_authority (h.host_forall hr) hstart
  have hrooted := h.isRooted (authority_ne_nil hhost)
  have hfault : pathFault? true true u.path = none := by
    rw [pathFault?, if_pos rfl, if_pos]
    simpa [IsRooted] using hrooted
  have hgiven : (!(u.rereadWith query).scheme.isEmpty) = true := by simp [rereadWith, hscheme]
  have hplace : (!(u.rereadWith query).authority.isEmpty) = true := by
    have hne : (u.rereadWith query).authority ≠ [] := authority_ne_nil (rereadHost_ne_nil hhost)
    simp [hne]
  have hread : (u.rereadWith query).IsNormalForm { u.reference with query := some query } := {
    scheme := by
      rw [scheme_reference]
      exact h.map_small.symm
    userinfo := by
      rw [authority_reference, hauthority]
      exact h.encode_userinfo.symm
    host := by
      rw [authority_reference, hauthority]
      exact hagain
    port := by
      rw [scheme_reference, authority_reference, hauthority]
      exact normalPort_portDigits h.port
    pathFault := by
      rw [hgiven, hplace]
      exact hfault
    path := by
      rw [hgiven, Bool.true_or, if_pos rfl]
      exact (h.normalize_path hscheme).symm
    query := rfl
    fragment := h.encode_fragment.symm }
  exact ⟨u.rereadWith query, hread.ofReference_eq, ⟨rfl, rfl, rfl, rfl, rfl, rfl⟩, rfl⟩

/-! ## Addresses from the root -/

/-- A path that starts with a single slash is an address by itself, with a query or without one. -/
theorem ofReference_path {path : List Char} (hkeeps : ∀ c ∈ path, keepsInPath c = true)
    (hrooted : path.head? = some '/') (hsingle : path.take 2 ≠ ['/', '/'])
    (query : Option (List Char)) :
    ofReference ⟨none, none, path, query, none⟩ =
      .ok ⟨[], [], [], none, path, query.map (Percent.encode keepsInQuery), none⟩ := by
  have hread : (⟨[], [], [], none, path, query.map (Percent.encode keepsInQuery), none⟩ :
      Url).IsNormalForm ⟨none, none, path, query, none⟩ := {
    scheme := rfl
    userinfo := rfl
    host := rfl
    port := rfl
    pathFault := by
      show pathFault? false false path = none
      unfold pathFault?
      rw [if_neg (by decide), if_neg (by decide), if_neg hsingle,
        if_neg (by rw [hrooted]; decide)]
    path := (Percent.encode_of_keeps hkeeps).symm
    query := rfl
    fragment := rfl }
  exact hread.ofReference_eq

/-- The path from the root: in place of all slashes at its start it has one. -/
def rootPath (u : Url) : List Char := '/' :: u.path.dropWhile (· == '/')

theorem take_rootPath (u : Url) : u.rootPath.take 2 ≠ ['/', '/'] := by
  intro heq
  have hhead : (u.path.dropWhile (· == '/')).head? = some '/' := by
    rw [rootPath] at heq
    cases hrest : u.path.dropWhile (· == '/') with
    | nil =>
      rw [hrest] at heq
      cases heq
    | cons c rest =>
      rw [hrest] at heq
      simp only [List.take_succ_cons, List.cons.injEq] at heq
      rw [heq.2.1]
      rfl
  exact absurd (head?_dropWhile_stop hhead) (by decide)

theorem rootPath_keeps {u : Url} (h : ∀ c ∈ u.path, keepsInPath c = true) :
    ∀ c ∈ u.rootPath, keepsInPath c = true :=
  List.forall_mem_cons.2 ⟨by decide, fun c hc => h c (List.dropWhile_subset _ hc)⟩

/-- The target of an address from the root is its path from the root and its query. -/
theorem cutFirst_target {u : Url} (h : ∀ c ∈ u.path, keepsInPath c = true) :
    cutFirst (· == '?') ('/' :: u.target.dropWhile (· == '/')) = (u.rootPath, u.query) := by
  have hmark : ∀ c, (Reference.after ['?'] u.query).head? = some c → (c == '/') = false := by
    intro c hc
    cases hquery : u.query with
    | none =>
      rw [hquery] at hc
      cases hc
    | some query =>
      rw [hquery] at hc
      cases hc
      rfl
  have htarget : '/' :: u.target.dropWhile (· == '/') =
      u.rootPath ++ Reference.after ['?'] u.query := by
    have hpath : (if u.path.isEmpty then ['/'] else u.path).dropWhile (· == '/') =
        u.path.dropWhile (· == '/') := by
      cases u.path with
      | nil => rfl
      | cons c path => rfl
    have hbehind : (Reference.after ['?'] u.query).dropWhile (· == '/') =
        Reference.after ['?'] u.query :=
      dropWhile_append_stop (a := []) (fun _ hc => absurd hc List.not_mem_nil) hmark
    rw [target, List.dropWhile_append, hpath, hbehind, rootPath, List.cons_append]
    split
    · next hempty => rw [List.isEmpty_iff.1 hempty, List.nil_append]
    · rfl
  have hfree : ∀ c ∈ u.rootPath, (c == '?') = false := by
    intro c hc
    apply beq_eq_false_iff_ne.2
    rintro rfl
    exact absurd (rootPath_keeps h _ hc) (by decide)
  rw [htarget]
  cases hquery : u.query with
  | none =>
    rw [Reference.after, List.append_nil]
    exact cutFirst_of_none hfree
  | some query => exact cutFirst_append_cons query hfree (beq_self_eq_true '?')

/-! ## Where an authority comes from -/

end Url

namespace Reference

/-- A property of the marks and of the characters of all parts holds of every character of the
text. -/
theorem text_forall {Q : Char → Prop} {r : Reference} (hcolon : Q ':') (hslash : Q '/')
    (hquestion : Q '?') (hnumber : Q '#') (hscheme : ∀ c ∈ r.scheme.getD [], Q c)
    (hauthority : ∀ c ∈ r.authority.getD [], Q c) (hpath : ∀ c ∈ r.path, Q c)
    (hquery : ∀ query, r.query = some query → ∀ c ∈ query, Q c)
    (hfragment : ∀ fragment, r.fragment = some fragment → ∀ c ∈ fragment, Q c) :
    ∀ c ∈ r.text, Q c := by
  obtain ⟨scheme, authority, path, query, fragment⟩ := r
  unfold text
  simp only [List.forall_mem_append]
  refine ⟨⟨⟨⟨?_, ?_⟩, hpath⟩, ?_⟩, ?_⟩
  · cases scheme with
    | none => exact fun c hc => absurd hc List.not_mem_nil
    | some scheme =>
      exact List.forall_mem_append.2 ⟨hscheme, List.forall_mem_singleton.2 hcolon⟩
  · cases authority with
    | none => exact fun c hc => absurd hc List.not_mem_nil
    | some authority =>
      exact List.forall_mem_cons.2 ⟨hslash, List.forall_mem_cons.2 ⟨hslash, hauthority⟩⟩
  · cases query with
    | none => exact fun c hc => absurd hc List.not_mem_nil
    | some query => exact List.forall_mem_cons.2 ⟨hquestion, hquery query rfl⟩
  · cases fragment with
    | none => exact fun c hc => absurd hc List.not_mem_nil
    | some fragment => exact List.forall_mem_cons.2 ⟨hnumber, hfragment fragment rfl⟩

theorem mem_of_mem_authority {s : List Char} {c : Char}
    (h : c ∈ (ofText s).authority.getD []) : c ∈ s := by
  rw [← text_ofText s, text]
  cases ha : (ofText s).authority with
  | none =>
    rw [ha] at h
    exact absurd h List.not_mem_nil
  | some authority =>
    rw [ha] at h
    have hmem : c ∈ authority := h
    simp [after, hmem]

end Reference

namespace Url

/-- The host of an address is in ASCII, or it has a colon as groups do. -/
theorem isBasic_of_normalHost {host normal : List Char} (h : normalHost host = .ok normal)
    (hcolon : ':' ∉ normal) : ∀ c ∈ normal, Punycode.isBasic c = true := by
  unfold normalHost at h
  split at h
  · cases h
    exact fun c hc => absurd hc List.not_mem_nil
  split at h
  · next hnumeric =>
    split at h
    · cases h
      intro c hc
      rcases Address.mem_of_looksNumeric hnumeric c hc with hdigit | rfl
      · have hnine := Address.toNat_le_of_isDigit hdigit
        exact decide_eq_true (by omega)
      · decide
    · cases h
  split at h
  · dsimp only at h
    split at h
    · next hgroups =>
      cases h
      exact absurd (Address.colon_mem_of_isGroups hgroups) hcolon
    · cases h
  split at h
  · cases h
    exact fun c hc => isBasic_of_keepsInHost (encode_keepsInHost _ c hc)
  · split at h
    · next name hname =>
      cases h
      exact HostLabel.encodeName_forall (by decide) (by decide) (by decide) hname fun _ _ hc => hc
    · cases h

theorem isBasic_of_isGraphic {c : Char} (h : isGraphic c = true) : Punycode.isBasic c = true := by
  rw [isGraphic, Bool.and_eq_true, decide_eq_true_eq, decide_eq_true_eq] at h
  have htilde : c.toNat ≤ 126 := h.2
  exact decide_eq_true (by omega)

theorem isBasic_of_keepsInQuery {c : Char} (h : keepsInQuery c = true) :
    Punycode.isBasic c = true := by
  rw [keepsInQuery, Bool.and_eq_true] at h
  exact isBasic_of_isGraphic h.1

theorem isBasic_of_keepsInPath {c : Char} (h : keepsInPath c = true) :
    Punycode.isBasic c = true := isBasic_of_keepsInQuery (keepsInQuery_of_keepsInPath h)

theorem isBasic_of_isNumeric {c : Char} (h : isNumeric c = true) : Punycode.isBasic c = true := by
  rw [isNumeric, Bool.or_eq_true] at h
  rcases h with h | h
  · exact of_isDigit (P := fun c => Punycode.isBasic c = true) (by decide) h
  · have hmarks : (".e+-".toList.all Punycode.isBasic) = true := by decide
    exact List.all_eq_true.1 hmarks c (List.contains_iff_mem.1 h)

theorem isBasic_of_isSchemeChar {c : Char} (h : Reference.isSchemeChar c = true) :
    Punycode.isBasic c = true := by
  have hz : ∀ d : Char, c ≤ d → d.toNat < 0x80 → Punycode.isBasic c = true := fun d hcd hd =>
    decide_eq_true (lt_of_le_of_lt (show c.toNat ≤ d.toNat from hcd) hd)
  simp only [Reference.isSchemeChar, Reference.isLetter, Bool.or_eq_true, Bool.and_eq_true,
    decide_eq_true_eq, beq_iff_eq] at h
  rcases h with (((((⟨-, h⟩ | ⟨-, h⟩) | ⟨-, h⟩) | rfl) | rfl) | rfl)
  · exact hz _ h (by decide)
  · exact hz _ h (by decide)
  · exact hz _ h (by decide)
  all_goals decide

/-- An address without a colon in its host is written in ASCII. -/
theorem IsNormalForm.isBasic_chars {u : Url} {r : Reference} (h : u.IsNormalForm r)
    (hr : r.Proper) (hcolon : ':' ∉ u.host) : ∀ c ∈ u.chars, Punycode.isBasic c = true := by
  have hauthority : ∀ c ∈ u.authority, Punycode.isBasic c = true := by
    intro c hc
    rw [authority_eq, hostText_of_not_mem hcolon] at hc
    rcases List.mem_append.1 hc with hc | hc
    · split at hc
      · exact absurd hc List.not_mem_nil
      · rcases List.mem_append.1 hc with hc | hc
        · rw [h.userinfo] at hc
          refine Percent.encode_forall (Q := fun c => Punycode.isBasic c = true) (by decide)
            (by decide) (fun c _ hkeep => ?_) c hc
          rw [keepsInUserinfo, Bool.and_eq_true] at hkeep
          exact isBasic_of_keepsInPath hkeep.1
        · obtain rfl := List.mem_singleton.1 hc
          decide
    · rcases List.mem_append.1 hc with hc | hc
      · exact isBasic_of_normalHost h.host hcolon c hc
      · unfold portText at hc
        split at hc
        · rcases List.mem_cons.1 hc with rfl | hc
          · decide
          · exact isBasic_of_isNumeric (isNumeric_toString _ c hc)
        · exact absurd hc List.not_mem_nil
  refine Reference.text_forall (by decide) (by decide) (by decide) (by decide) ?_ ?_ ?_ ?_ ?_
  · rw [scheme_reference]
    exact fun c hc => isBasic_of_isSchemeChar
      (Reference.isSchemeChar_of_mem (h.isScheme_scheme hr) c hc)
  · rw [authority_reference]
    exact hauthority
  · exact fun c hc => isBasic_of_keepsInPath (h.path_keeps c hc)
  · intro query hquery c hc
    exact isBasic_of_keepsInQuery (h.query_keeps hquery c hc)
  · intro fragment hfragment c hc
    obtain ⟨written, -, rfl⟩ := Option.map_eq_some_iff.1 (h.fragment.symm.trans hfragment)
    refine Percent.encode_forall (Q := fun c => Punycode.isBasic c = true) (by decide) (by decide)
      (fun c _ hkeep => ?_) c hc
    rw [keepsInFragment, Bool.and_eq_true] at hkeep
    exact isBasic_of_isGraphic hkeep.1

/-- What is read as the host from an address that was written, with a query behind it, is in ASCII
or in brackets. -/
theorem IsNormalForm.host_append_query {u : Url} {r : Reference} (h : u.IsNormalForm r)
    (hr : r.Proper) {query : List Char} (hq : ∀ c ∈ query, keepsInQuery c = true)
    {host : List Char} (hhost : host = (Authority.ofText
      ((Reference.ofText (u.chars ++ '?' :: query)).authority.getD [])).host) :
    (∀ c ∈ host, Punycode.isBasic c = true) ∨ InBrackets host := by
  subst hhost
  by_cases hcolon : ':' ∈ u.host
  · -- A host in brackets is found where it was written.
    have hauthority : u.authority ≠ [] := authority_ne_nil (List.ne_nil_of_mem hcolon)
    have hproper : u.reference.Proper := h.proper hr (fun hnil => absurd hnil hauthority)
      fun _ hnil => absurd hnil hauthority
    have hmark : '#' ∉ query := fun hmem => ne_numberSign_of_keepsInQuery (hq _ hmem) rfl
    obtain ⟨query', fragment', hread⟩ := Reference.ofText_text_append_query hproper hmark
    right
    rw [chars, hread]
    show InBrackets (Authority.ofText (u.reference.authority.getD [])).host
    rw [authority_reference, ofText_authority (h.host_forall hr) fun hnot => absurd hcolon hnot]
    show InBrackets u.hostText
    rw [hostText_of_mem hcolon]
    refine ⟨rfl, ?_, by simp⟩
    rw [← List.cons_append, List.getLast?_append]
    rfl
  · left
    intro c hc
    have hmem := Reference.mem_of_mem_authority (Authority.mem_host hc).1
    rcases List.mem_append.1 hmem with hmem | hmem
    · exact h.isBasic_chars hr hcolon c hmem
    · rcases List.mem_cons.1 hmem with rfl | hmem
      · decide
      · exact isBasic_of_keepsInQuery (hq c hmem)

end Url
end ApiDiscovery.Uri
