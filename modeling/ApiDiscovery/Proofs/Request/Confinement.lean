import ApiDiscovery.Proofs.Request.Address

/-!
# What values for the path can change

Two drafts that differ only in values for the path have addresses that differ only in the path as
long as the filled in path is nothing but a path; otherwise a value can bring in a query, a fragment
or another host. Exactly when the addresses agree is `Draft.prepare_agreeButPath`.
-/

namespace ApiDiscovery.Request.Draft

open Outcome
open Uri (Url Reference)

/-! ## Two drafts -/

/-- The drafts differ in nothing that reaches the address but the parameters for the path. -/
structure SameButPathValues (d₁ d₂ : Draft) : Prop where
  method : d₁.method = d₂.method
  base : d₁.base = d₂.base
  returnType : d₁.returnType = d₂.returnType
  others : (d₁.parameters.filter fun p => !d₁.isForPath p.1) =
    d₂.parameters.filter fun p => !d₂.isForPath p.1

/-- The addresses agree in all but the path: they are of one place and both ask for what the draft
asks for. -/
structure AgreeButPath (d : Draft) (u v : Url) : Prop where
  place : u.SamePlace v
  first : d.Asks u
  second : d.Asks v

/-- Parameters for the path do not reach the query. -/
theorem queryPairs_filter (d : Draft) (supplied : Ordered String) :
    d.queryPairs (supplied.filter fun p => !d.isForPath p.1) = d.queryPairs supplied := by
  induction supplied with
  | nil => rfl
  | cons p supplied ih =>
    obtain ⟨name, value⟩ := p
    rw [List.filter_cons]
    -- A name for the path is looked up in either list, but gives no pair.
    by_cases hpath : d.isForPath name = true
    · rw [if_neg (by simpa using hpath), ih, queryPairs]
      unfold isForPath at hpath
      split at hpath
      · next declared hget =>
        rw [hget]
        dsimp only
        cases d.queryPairs supplied with
        | error fault => rfl
        | ok others =>
          rw [hpath]
          rfl
      · cases hpath
    · rw [if_pos (by simpa using hpath), queryPairs, queryPairs, ih]

theorem queryPairs_congr {d₁ d₂ : Draft} (h : d₁.method = d₂.method) (supplied : Ordered String) :
    d₁.queryPairs supplied = d₂.queryPairs supplied := by
  induction supplied with
  | nil => rfl
  | cons p supplied ih => rw [queryPairs, queryPairs, h, ih]

theorem SameButPathValues.askedPairs {d₁ d₂ : Draft} (h : SameButPathValues d₁ d₂) :
    d₁.askedPairs = d₂.askedPairs := by
  have hpairs : d₁.queryPairs d₁.parameters = d₂.queryPairs d₂.parameters := by
    rw [← queryPairs_filter d₁, h.others, queryPairs_congr h.method, queryPairs_filter]
  rw [Draft.askedPairs, Draft.askedPairs, wirePairs, wirePairs, hpairs, h.returnType]

/-- The drafts ask for the same. -/
theorem SameButPathValues.asks_iff {d₁ d₂ : Draft} (h : SameButPathValues d₁ d₂) (u : Url) :
    d₁.Asks u ↔ d₂.Asks u := by
  rw [Asks, Asks, h.askedPairs, h.returnType]

/-! ## Agreement -/

/-- The base address is an absolute one of the web. -/
def IsWebBase (base : Url) : Prop :=
  base.isAbsolute = true ∧ (base.scheme = "http".toList ∨ base.scheme = "https".toList)

/-- The filled in path is nothing but a path; and where it leads to the base itself, the base has
neither a query nor a fragment to hand down. -/
def IsConfined (base : Url) (path : List Char) : Prop :=
  Reference.IsPath path ∧ (path = [] ∨ path = [';'] → base.query = none ∧ base.fragment = none)

theorem IsWebBase.hierarchical {base : Url} (h : IsWebBase base) :
    Uri.Resolve.isOneOf Uri.Resolve.hierarchical base.scheme = true := by
  rcases h.2 with hscheme | hscheme
  · rw [hscheme]
    decide
  · rw [hscheme]
    decide

/-- A request asks for what its draft asks for exactly if the joined address has neither a query nor
a fragment, and then it is of the place that address is read as. -/
theorem prepare_asks {d : Draft} {r : Prepared} {path : String} {joined : Url}
    (h : d.prepare = .ok r) (hpath : d.filledPath = .ok path)
    (hjoined : d.base.join path.toList = .ok joined) :
    (d.Asks r.url ↔ joined.IsBare) ∧
      (joined.IsBare → ∃ v, Url.ofText joined.chars = .ok v ∧ r.url.SamePlace v) := by
  obtain ⟨path', joined', others, hpath', hjoined', hasked, hothers, hu⟩ :=
    url_eq_ok (prepare_eq_ok h).2
  obtain rfl := Except.ok.inj (hpath.symm.trans hpath')
  obtain rfl := Except.ok.inj (hjoined.symm.trans hjoined')
  obtain ⟨_, target, -, -, htarget⟩ := Url.join_eq_ok hjoined
  refine ⟨asks_iff_isBare hasked hothers htarget hu, fun hbare => ?_⟩
  obtain ⟨v, hv, hurl⟩ := Url.ofText_append_query (hbare.isPlain_chars htarget)
    (numberSign_not_mem_queryChars _) hu
  rw [hurl]
  exact ⟨v, hv, rfl, rfl, rfl, rfl⟩

section Agreement

variable {d₁ d₂ : Draft} {r₁ r₂ : Prepared} {s : List Char} {path₁ path₂ : String}
  {joined₁ joined₂ : Url}

/-- The addresses of two drafts that differ only in values for the path agree in all but the path
exactly if neither joined address has a query or a fragment and, written and read again, both are of
one place. Filled in paths that are nothing but paths lead to such addresses. -/
theorem prepare_agreeButPath (hsame : SameButPathValues d₁ d₂) (hbase : Url.ofText s = .ok d₁.base)
    (hweb : IsWebBase d₁.base) (h₁ : d₁.prepare = .ok r₁) (h₂ : d₂.prepare = .ok r₂)
    (hpath₁ : d₁.filledPath = .ok path₁) (hpath₂ : d₂.filledPath = .ok path₂)
    (hjoined₁ : d₁.base.join path₁.toList = .ok joined₁)
    (hjoined₂ : d₁.base.join path₂.toList = .ok joined₂) :
    (AgreeButPath d₁ r₁.url r₂.url ↔ joined₁.IsBare ∧ joined₂.IsBare ∧
      ∃ v₁ v₂, Url.ofText joined₁.chars = .ok v₁ ∧ Url.ofText joined₂.chars = .ok v₂ ∧
        v₁.SamePlace v₂) ∧
    (IsConfined d₁.base path₁.toList → IsConfined d₁.base path₂.toList →
      AgreeButPath d₁ r₁.url r₂.url) := by
  obtain ⟨hasks₁, hplace₁⟩ := prepare_asks h₁ hpath₁ hjoined₁
  obtain ⟨hasks₂, hplace₂⟩ := prepare_asks h₂ hpath₂ (hsame.base ▸ hjoined₂)
  rw [← hsame.asks_iff] at hasks₂
  have hexact : AgreeButPath d₁ r₁.url r₂.url ↔ joined₁.IsBare ∧ joined₂.IsBare ∧
      ∃ v₁ v₂, Url.ofText joined₁.chars = .ok v₁ ∧ Url.ofText joined₂.chars = .ok v₂ ∧
        v₁.SamePlace v₂ := by
    constructor
    · rintro ⟨hplace, hfirst, hsecond⟩
      have hbare₁ := hasks₁.1 hfirst
      have hbare₂ := hasks₂.1 hsecond
      obtain ⟨v₁, hv₁, hsame₁⟩ := hplace₁ hbare₁
      obtain ⟨v₂, hv₂, hsame₂⟩ := hplace₂ hbare₂
      exact ⟨hbare₁, hbare₂, v₁, v₂, hv₁, hv₂, hsame₁.symm.trans (hplace.trans hsame₂)⟩
    · rintro ⟨hbare₁, hbare₂, v₁, v₂, hv₁, hv₂, hplace⟩
      obtain ⟨v₁', hv₁', hsame₁⟩ := hplace₁ hbare₁
      obtain ⟨v₂', hv₂', hsame₂⟩ := hplace₂ hbare₂
      obtain rfl := Except.ok.inj (hv₁.symm.trans hv₁')
      obtain rfl := Except.ok.inj (hv₂.symm.trans hv₂')
      exact ⟨hsame₁.trans (hplace.trans hsame₂.symm), hasks₁.2 hbare₁, hasks₂.2 hbare₂⟩
  refine ⟨hexact, fun hconfined₁ hconfined₂ => ?_⟩
  have hscheme := hweb.hierarchical
  -- Both paths lead to addresses with the scheme and the authority of the base.
  obtain ⟨hbare₁, hproper₁⟩ :=
    Url.join_isPath_isBare hbase hscheme hweb.1 hconfined₁.1 hconfined₁.2 hjoined₁
  obtain ⟨hbare₂, hproper₂⟩ :=
    Url.join_isPath_isBare hbase hscheme hweb.1 hconfined₂.1 hconfined₂.2 hjoined₂
  obtain ⟨_, -, hread₁⟩ :=
    Url.join_isPath hbase hscheme hweb.1 hconfined₁.1 hconfined₁.2 hjoined₁
  obtain ⟨_, -, hread₂⟩ :=
    Url.join_isPath hbase hscheme hweb.1 hconfined₂.1 hconfined₂.2 hjoined₂
  obtain ⟨v₁, hv₁, -⟩ := hplace₁ hbare₁
  obtain ⟨v₂, hv₂, -⟩ := hplace₂ hbare₂
  have hplace : joined₁.SamePlace joined₂ := hread₁.samePlace hread₂ rfl rfl
  exact hexact.2 ⟨hbare₁, hbare₂, v₁, v₂, hv₁, hv₂, hplace.reread hproper₁ hproper₂ hv₁ hv₂⟩

end Agreement

/-! ## A service with files -/

/-- A draft for a file, whose path may keep its reserved characters. -/
def sampleFile (path : String) : Draft :=
  sampleDraft "files/{+path}" [samplePathParameter "path"] [("path", path)]

/-- A draft for a page of a book, both of which are single segments. -/
def samplePage (book page : String) : Draft :=
  sampleDraft "/{book}/{page}" [samplePathParameter "book", samplePathParameter "page"]
    [("book", book), ("page", page)]

theorem sameButPathValues_sampleFile (path₁ path₂ : String) :
    SameButPathValues (sampleFile path₁) (sampleFile path₂) :=
  ⟨rfl, rfl, rfl, rfl⟩

theorem sameButPathValues_samplePage (book₁ book₂ page₁ page₂ : String) :
    SameButPathValues (samplePage book₁ page₁) (samplePage book₂ page₂) :=
  ⟨rfl, rfl, rfl, rfl⟩

theorem isWebBase_sampleBase : IsWebBase sampleBase := by
  unfold IsWebBase
  decide

/-- Two files whose paths are nothing but paths have addresses that agree in all but the path. -/
theorem prepare_agreeButPath_sampleFile :
    ∃ r₁ r₂, (sampleFile "a/b").prepare = .ok r₁ ∧ (sampleFile "c%d").prepare = .ok r₂ ∧
      AgreeButPath (sampleFile "a/b") r₁.url r₂.url := by
  have hprepare₁ : ((sampleFile "a/b").prepare).toOption.isSome = true := by decide +kernel
  have hprepare₂ : ((sampleFile "c%d").prepare).toOption.isSome = true := by decide +kernel
  obtain ⟨r₁, hr₁⟩ := exists_ok_of_isSome hprepare₁
  obtain ⟨r₂, hr₂⟩ := exists_ok_of_isSome hprepare₂
  have hpath₁ : (sampleFile "a/b").filledPath = .ok "files/a/b" :=
    eq_ok_of_toOption (by decide +kernel)
  have hpath₂ : (sampleFile "c%d").filledPath = .ok "files/c%25d" :=
    eq_ok_of_toOption (by decide +kernel)
  have hjoined₁ : (sampleBase.join "files/a/b".toList).toOption.isSome = true := by decide +kernel
  have hjoined₂ : (sampleBase.join "files/c%25d".toList).toOption.isSome = true := by
    decide +kernel
  obtain ⟨joined₁, hjoined₁⟩ := exists_ok_of_isSome hjoined₁
  obtain ⟨joined₂, hjoined₂⟩ := exists_ok_of_isSome hjoined₂
  have hagree := (prepare_agreeButPath (sameButPathValues_sampleFile "a/b" "c%d") sampleBase_read
    isWebBase_sampleBase hr₁ hr₂ hpath₁ hpath₂ hjoined₁ hjoined₂).2
  refine ⟨r₁, r₂, hr₁, hr₂, hagree ⟨?_, ?_⟩ ⟨?_, ?_⟩⟩
  · unfold Reference.IsPath
    decide
  · decide
  · unfold Reference.IsPath
    decide
  · decide

/-- A value for the path can bring in a query of its own, which then comes before the encoding of
the response, and a value that is empty can make the next one the host. -/
theorem exists_not_agreeButPath :
    (∃ r₁ r₂, SameButPathValues (sampleFile "a") (sampleFile "a?alt=atom&x") ∧
      IsWebBase (sampleFile "a").base ∧ (sampleFile "a").prepare = .ok r₁ ∧
      (sampleFile "a?alt=atom&x").prepare = .ok r₂ ∧
      r₁.url.query = some "alt=json".toList ∧
      r₂.url.query = some "alt=atom&x?alt=json".toList ∧
      Uri.Query.parse "alt=json" = [("alt", "json")] ∧
      Uri.Query.parse "alt=atom&x?alt=json" = [("alt", "atom"), ("x?alt", "json")]) ∧
    (∃ r₁ r₂, SameButPathValues (samplePage "a" "b") (samplePage "" "evil.example") ∧
      (samplePage "a" "b").prepare = .ok r₁ ∧ (samplePage "" "evil.example").prepare = .ok r₂ ∧
      r₁.url.host = "api.example.com".toList ∧ r₂.url.host = "evil.example".toList) := by
  constructor
  · have h₁ : ((sampleFile "a").prepare).toOption.map (·.url.query) =
        some (some "alt=json".toList) := by decide +kernel
    have h₂ : ((sampleFile "a?alt=atom&x").prepare).toOption.map (·.url.query) =
        some (some "alt=atom&x?alt=json".toList) := by decide +kernel
    obtain ⟨r₁, hr₁, hquery₁⟩ := exists_ok_of_map h₁
    obtain ⟨r₂, hr₂, hquery₂⟩ := exists_ok_of_map h₂
    exact ⟨r₁, r₂, sameButPathValues_sampleFile _ _, isWebBase_sampleBase, hr₁, hr₂, hquery₁,
      hquery₂, by decide +kernel, by decide +kernel⟩
  · have h₁ : ((samplePage "a" "b").prepare).toOption.map (·.url.host) =
        some "api.example.com".toList := by decide +kernel
    have h₂ : ((samplePage "" "evil.example").prepare).toOption.map (·.url.host) =
        some "evil.example".toList := by decide +kernel
    obtain ⟨r₁, hr₁, hhost₁⟩ := exists_ok_of_map h₁
    obtain ⟨r₂, hr₂, hhost₂⟩ := exists_ok_of_map h₂
    exact ⟨r₁, r₂, sameButPathValues_samplePage _ _ _ _, hr₁, hr₂, hhost₁, hhost₂⟩

end ApiDiscovery.Request.Draft
