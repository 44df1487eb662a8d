import ApiDiscovery.Proofs.Text.Cutting
import ApiDiscovery.Proofs.Uri.Percent
import ApiDiscovery.Uri.Url

/-!
# Marks in the normal form of a host

The characters that end an authority or the user information in it have no place in a host. Bringing
a host into its normal form adds none of them (`normalHost_forall`): escapes and the digits of
labels in letters of ASCII are free of them, and no other character has one of them as its lower
case. Nor does it leave nothing of a host (`normalHost_eq_nil`).
-/

namespace ApiDiscovery.Uri

open ApiDiscovery.Text

/-! ## Lower case -/

/-- A code point that no run of a mapping leads to is the image of itself only. -/
theorem eq_of_mapCode_eq {runs : List CaseRun} {code image : Nat} (himage : 0 < image)
    (hruns : ∀ run ∈ runs, run.covers (Int.ofNat image - run.delta).toNat = false)
    (h : mapCode runs code = image) : code = image := by
  unfold mapCode at h
  split at h
  · next run hrun =>
    have hcovers : run.covers code = true := by
      simpa using List.find?_some hrun
    -- The run leads from this code to the image, which no run does.
    have hsource : (Int.ofNat image - run.delta).toNat = code := by
      simp only [Int.ofNat_eq_natCast] at h ⊢
      omega
    have hfree := hruns run (List.mem_of_find?_eq_some hrun)
    rw [hsource, hcovers] at hfree
    cases hfree
  · exact h

/-- The character ends an authority or the user information in it. -/
def isMark (c : Char) : Bool := Reference.endsAuthority c || c == '@'

/-- The codes of the marks. -/
def markCodes : List Nat := [0x2f, 0x3f, 0x23, 0x40]

theorem isMark_iff {c : Char} :
    isMark c = true ↔ c.toNat ∈ markCodes := by
  have hcode : ∀ d : Char, c = d ↔ c.toNat = d.toNat := fun d =>
    ⟨fun h => by rw [h], fun h => by rw [← Char.ofNat_toNat c, h, Char.ofNat_toNat]⟩
  simp only [isMark, Reference.endsAuthority, Bool.or_eq_true, beq_iff_eq, hcode, markCodes,
    List.mem_cons, List.not_mem_nil, or_false, or_assoc]
  rfl

/-- A character that passes a test no mark passes is no mark. -/
theorem isMark_eq_false {p : Char → Bool} (hmarks : ∀ n ∈ markCodes, p (Char.ofNat n) = false)
    {c : Char} (h : p c = true) : isMark c = false := by
  rw [← Bool.not_eq_true, isMark_iff]
  intro hmark
  rw [← Char.ofNat_toNat c, hmarks _ hmark] at h
  cases h

theorem toLowerRuns_covers : ∀ image ∈ markCodes, ∀ run ∈ CaseTable.toLowerRuns,
    run.covers (Int.ofNat image - run.delta).toNat = false := by
  decide +kernel

theorem toNat_ofNat_or (n : Nat) : (Char.ofNat n).toNat = n ∨ (Char.ofNat n).toNat = 0 := by
  by_cases h : n.isValidChar
  · rw [Char.ofNat, dif_pos h]
    exact Or.inl rfl
  · rw [Char.ofNat, dif_neg h]
    exact Or.inr rfl

/-- Only a mark has a mark as its lower case. -/
theorem lowerChar_forall {c : Char} (hc : isMark c = false) :
    ∀ d ∈ lowerChar c, isMark d = false := by
  intro d hd
  unfold lowerChar at hd
  split at hd
  · rcases List.mem_cons.1 hd with rfl | hd
    · decide
    · obtain rfl := List.mem_singleton.1 hd
      decide
  · obtain rfl := List.mem_singleton.1 hd
    rw [← Bool.not_eq_true, isMark_iff]
    intro hmark
    -- No run of the table leads to the code of a mark, so the character is the mark itself.
    rcases toNat_ofNat_or (mapCode CaseTable.toLowerRuns c.toNat) with hcode | hcode
    · rw [hcode] at hmark
      have hpos : 0 < mapCode CaseTable.toLowerRuns c.toNat := by
        revert hmark
        generalize mapCode CaseTable.toLowerRuns c.toNat = n
        simp only [markCodes, List.mem_cons, List.not_mem_nil, or_false]
        omega
      have heq := eq_of_mapCode_eq hpos (toLowerRuns_covers _ hmark) rfl
      rw [← heq, ← isMark_iff, hc] at hmark
      cases hmark
    · rw [hcode] at hmark
      exact absurd hmark (by decide)

theorem lowerAfter_forall {s : List Char} (hs : ∀ c ∈ s, isMark c = false)
    (before : List Char) : ∀ c ∈ lowerAfter before s, isMark c = false := by
  induction s generalizing before with
  | nil => exact fun c hc => absurd hc List.not_mem_nil
  | cons d s ih =>
    intro c hc
    rw [lowerAfter] at hc
    rcases List.mem_append.1 hc with hc | hc
    · split at hc
      · split at hc
        · obtain rfl := List.mem_singleton.1 hc
          decide
        · obtain rfl := List.mem_singleton.1 hc
          decide
      · exact lowerChar_forall (hs d List.mem_cons_self) c hc
    · exact ih (fun e he => hs e (List.mem_cons_of_mem d he)) _ c hc

/-! ## Labels in letters of ASCII -/

namespace Punycode

variable {Q : Char → Prop}

theorem digits_forall (hdigit : ∀ n < 36, Q (digit n)) (bias place n : Nat) :
    ∀ c ∈ digits bias place n, Q c := by
  induction place, n using digits.induct bias with
  | case1 place n t h =>
    have hbounds := threshold_bounds place bias
    intro c hc
    rw [digits, if_pos h, List.mem_singleton] at hc
    subst hc
    exact hdigit n (by omega)
  | case2 place n t h ih =>
    have hbounds := threshold_bounds place bias
    have hvalue : t + (n - t) % (36 - t) < 36 := by
      have := Nat.mod_lt (n - t) (show 0 < 36 - t by omega)
      omega
    intro c hc
    rw [digits, if_neg h] at hc
    rcases List.mem_cons.1 hc with rfl | hc
    · exact hdigit _ hvalue
    · exact ih c hc

/-- The property holds of all that has been written. -/
def Progress.Holds (Q : Char → Prop) (p : Progress) : Prop := ∀ c ∈ p.written, Q c

theorem Progress.Holds.pass (hdigit : ∀ n < 36, Q (digit n)) {p : Progress} (hp : p.Holds Q)
    (code basic : Nat) (c : Char) : (Progress.pass code basic p c).Holds Q := by
  unfold Progress.pass
  split
  · exact hp
  split
  · intro d hd
    rcases List.mem_append.1 hd with hd | hd
    · exact hp d hd
    · exact digits_forall hdigit _ _ _ d hd
  · exact hp

theorem Progress.Holds.passAll (hdigit : ∀ n < 36, Q (digit n)) {p : Progress} (hp : p.Holds Q)
    (code basic : Nat) (label : List Char) :
    (label.foldl (Progress.pass code basic) p).Holds Q := by
  induction label generalizing p with
  | nil => exact hp
  | cons c label ih => exact ih (hp.pass hdigit code basic c)

theorem Progress.Holds.place (hdigit : ∀ n < 36, Q (digit n)) {p : Progress} (hp : p.Holds Q)
    (label : List Char) (basic next : Nat) (codes : List Nat) :
    (p.place label basic next codes).Holds Q := by
  induction codes generalizing p next with
  | nil => exact hp
  | cons code codes ih =>
    rw [Progress.place]
    -- The distance is no part of what is written.
    refine ih ?_ _
    have hahead : Progress.Holds Q
        { p with distance := p.distance + (code - next) * (p.placed + 1) } := hp
    exact hahead.passAll hdigit code basic label

/-- A property of the digits, of the hyphen and of the characters of ASCII in a label holds of every
character of the label on the wire. -/
theorem encode_forall (hdigit : ∀ n < 36, Q (digit n)) (hhyphen : Q '-') {label : List Char}
    (h : ∀ c ∈ label, isBasic c = true → Q c) : ∀ c ∈ encode label, Q c := by
  intro c hc
  rcases List.mem_append.1 hc with hc | hc
  · split at hc
    · exact absurd hc List.not_mem_nil
    · rcases List.mem_append.1 hc with hc | hc
      · obtain ⟨hc, hbasic⟩ := List.mem_filter.1 hc
        exact h c hc hbasic
      · obtain rfl := List.mem_singleton.1 hc
        exact hhyphen
  · have hstart : (⟨[], 0, 72, (label.filter isBasic).length⟩ : Progress).Holds Q :=
      fun d hd => absurd hd List.not_mem_nil
    exact hstart.place hdigit _ _ _ _ c hc

end Punycode

/-! ## International names -/

namespace HostLabel

section Characters

variable {Q : Char → Prop}

theorem asciiMark_forall (hdigit : ∀ n < 36, Q (Punycode.digit n)) (hhyphen : Q '-') :
    ∀ c ∈ asciiMark, Q c := by
  have hmark : asciiMark = [Punycode.digit 23, Punycode.digit 13, '-', '-'] := by decide
  rw [hmark]
  simp only [List.forall_mem_cons, List.not_mem_nil, false_imp_iff, implies_true, and_true]
  exact ⟨hdigit 23 (by omega), hdigit 13 (by omega), hhyphen, hhyphen⟩

theorem encode_forall (hdigit : ∀ n < 36, Q (Punycode.digit n)) (hhyphen : Q '-')
    {label wire : List Char} (h : encode label = some wire)
    (hlabel : ∀ c ∈ label, Punycode.isBasic c = true → Q c) : ∀ c ∈ wire, Q c := by
  unfold encode at h
  have hwire := (Option.filter_eq_some_iff.1 h).1
  intro c hc
  split at hwire
  · next hbasic =>
    split at hwire
    · cases hwire
      exact hlabel c hc (List.all_eq_true.1 hbasic c hc)
    · cases hwire
  · split at hwire
    · cases hwire
      rcases List.mem_append.1 hc with hc | hc
      · exact asciiMark_forall hdigit hhyphen c hc
      · exact Punycode.encode_forall hdigit hhyphen hlabel c hc
    · cases hwire

theorem mapM_encode_forall (hdigit : ∀ n < 36, Q (Punycode.digit n)) (hhyphen : Q '-')
    {labels wires : List (List Char)} (h : labels.mapM encode = some wires)
    (hlabels : ∀ label ∈ labels, ∀ c ∈ label, Punycode.isBasic c = true → Q c) :
    ∀ wire ∈ wires, ∀ c ∈ wire, Q c := by
  induction labels generalizing wires with
  | nil =>
    cases h
    exact fun wire hwire => absurd hwire List.not_mem_nil
  | cons label labels ih =>
    rw [List.mapM_cons] at h
    simp only [Option.bind_eq_bind, Option.bind_eq_some_iff, Option.pure_def,
      Option.some.injEq] at h
    obtain ⟨first, hfirst, others, hothers, rfl⟩ := h
    intro wire hwire
    rcases List.mem_cons.1 hwire with rfl | hwire
    · exact encode_forall hdigit hhyphen hfirst (hlabels label List.mem_cons_self)
    · exact ih hothers (fun l hl => hlabels l (List.mem_cons_of_mem label hl)) wire hwire

/-- A property of the digits, of the hyphen, of the point and of the characters of ASCII in a name
holds of every character of the name on the wire. -/
theorem encodeName_forall (hdigit : ∀ n < 36, Q (Punycode.digit n)) (hhyphen : Q '-') (hdot : Q '.')
    {name wire : List Char} (h : encodeName name = some wire)
    (hname : ∀ c ∈ name, Punycode.isBasic c = true → Q c) : ∀ c ∈ wire, Q c := by
  have hpieces : ∀ label ∈ pieces isDot name, ∀ c ∈ label, Punycode.isBasic c = true → Q c :=
    fun label hlabel c hc => hname c (mem_of_mem_pieces hlabel c hc)
  unfold encodeName at h
  simp only [Option.bind_eq_bind] at h
  generalize ((pieces isDot name).getLast? == some []) = rooted at h
  have hlabels : ∀ label ∈ (if rooted then (pieces isDot name).dropLast else pieces isDot name),
      ∀ c ∈ label, Punycode.isBasic c = true → Q c := by
    intro label hlabel
    split at hlabel
    · exact hpieces label (List.dropLast_subset _ hlabel)
    · exact hpieces label hlabel
  generalize (if rooted then (pieces isDot name).dropLast else pieces isDot name) = labels
    at h hlabels
  by_cases hform : (decide (254 < name.length) || labels.isEmpty) = true
  · rw [if_pos hform] at h
    cases h
  · rw [if_neg hform] at h
    obtain ⟨encoded, hencoded, hwire⟩ := Option.bind_eq_some_iff.1 h
    obtain ⟨-, hwire⟩ := Option.ite_none_right_eq_some.1 hwire
    cases hwire
    intro c hc
    rcases List.mem_append.1 hc with hc | hc
    · rcases mem_intercalate hc with rfl | ⟨part, hpart, hc⟩
      · exact hdot
      · exact mapM_encode_forall hdigit hhyphen hencoded hlabels part hpart c hc
    · split at hc
      · obtain rfl := List.mem_singleton.1 hc
        exact hdot
      · exact absurd hc List.not_mem_nil

end Characters

/-- No label is empty on the wire. -/
theorem encode_ne_some_nil (label : List Char) : encode label ≠ some [] := by
  intro h
  unfold encode at h
  have hwire := (Option.filter_eq_some_iff.1 h).1
  split at hwire
  · split at hwire
    · next hfault =>
      cases hwire
      exact absurd hfault (by decide)
    · cases hwire
  · split at hwire
    · simp only [Option.some.injEq, List.append_eq_nil_iff] at hwire
      exact absurd hwire.1 (by decide)
    · cases hwire

/-- No name is empty on the wire. -/
theorem encodeName_ne_some_nil (name : List Char) : encodeName name ≠ some [] := by
  intro h
  unfold encodeName at h
  simp only [Option.bind_eq_bind] at h
  generalize ((pieces isDot name).getLast? == some []) = rooted at h
  generalize (if rooted then (pieces isDot name).dropLast else pieces isDot name) = labels at h
  cases labels with
  | nil => simp at h
  | cons label labels =>
    by_cases hform : (decide (254 < name.length) || (label :: labels).isEmpty) = true
    · rw [if_pos hform] at h
      cases h
    · rw [if_neg hform] at h
      obtain ⟨encoded, hencoded, hwire⟩ := Option.bind_eq_some_iff.1 h
      have hnil := (Option.ite_none_right_eq_some.1 hwire).2
      simp only [Option.some.injEq, List.append_eq_nil_iff] at hnil
      rw [List.mapM_cons] at hencoded
      simp only [Option.bind_eq_bind, Option.bind_eq_some_iff, Option.pure_def,
        Option.some.injEq] at hencoded
      obtain ⟨first, hfirst, others, -, rfl⟩ := hencoded
      -- Only a single label could leave nothing, and none is empty on the wire.
      cases others with
      | nil =>
        obtain rfl : first = [] := by simpa using hnil.1
        exact encode_ne_some_nil _ hfirst
      | cons second others => simp [List.intercalate] at hnil

end HostLabel

/-! ## Hosts -/

namespace Url

theorem isMark_of_keepsInHost {c : Char} (h : keepsInHost c = true) :
    isMark c = false := by
  exact isMark_eq_false (by decide) h

/-- The normal form of a host without marks holds no mark. -/
theorem normalHost_forall {host normal : List Char} (h : normalHost host = .ok normal)
    (hhost : ∀ c ∈ host, isMark c = false) :
    ∀ c ∈ normal, isMark c = false := by
  unfold normalHost at h
  split at h
  · cases h
    exact fun c hc => absurd hc List.not_mem_nil
  split at h
  · split at h
    · cases h
      exact hhost
    · cases h
  split at h
  · dsimp only at h
    split at h
    · cases h
      exact fun c hc => hhost c (List.mem_of_mem_drop (List.dropLast_subset _ hc))
    · cases h
  split at h
  · cases h
    exact Percent.encode_forall (by decide) (by decide)
      fun c _ hkeep => isMark_of_keepsInHost hkeep
  · split at h
    · next name hname =>
      cases h
      exact HostLabel.encodeName_forall (by decide) (by decide) (by decide) hname
        fun c hc _ => lowerAfter_forall hhost [] c hc
    · cases h

/-- Only an empty host has an empty normal form. -/
theorem normalHost_eq_nil {host : List Char} (h : normalHost host = .ok []) : host = [] := by
  unfold normalHost at h
  split at h
  · next hempty => exact List.isEmpty_iff.1 hempty
  split at h
  · split at h
    · exact Except.ok.inj h
    · cases h
  split at h
  · dsimp only at h
    split at h
    · next hgroups =>
      rw [Except.ok.inj h] at hgroups
      exact absurd hgroups (by decide)
    · cases h
  split at h
  · exact List.map_eq_nil_iff.1 (Percent.encode_eq_nil.1 (Except.ok.inj h))
  · split at h
    · next name hname =>
      cases h
      exact absurd hname (HostLabel.encodeName_ne_some_nil _)
    · cases h

end Url
end ApiDiscovery.Uri
