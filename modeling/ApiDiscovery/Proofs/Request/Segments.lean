import ApiDiscovery.Proofs.Request.Address
import ApiDiscovery.Proofs.Uri.Directory
import ApiDiscovery.Proofs.Uri.Template
import Mathlib.Data.List.Forall2

/-!
# Segments of the path of a request

Where the base is a directory and the path of a method is a list of whole segments, each value for
the path stays in the one segment it was supplied for, whatever characters it has, as long as it is
a place of its own (`Draft.prepare_segments`). So the values can be read off the address.
-/

namespace ApiDiscovery.Request.Draft

open ApiDiscovery.Text Outcome
open Uri (Url Reference Segment Template IsPlace AreSegments)

/-! ## Filling in segments -/

/-- The path of the method is this list of whole segments. -/
structure HasSegments (d : Draft) (parts : List Segment) : Prop where
  path : d.method.path = .str (String.ofList (List.intercalate ['/'] (parts.map Segment.source)))
  whole : ∀ part ∈ parts, part.IsWhole

/-- The values for the segments are places of their own: none is empty, `.` or `..`. -/
def ValuesArePlaces (d : Draft) (parts : List Segment) : Prop :=
  ∀ name value, .simple name ∈ parts → d.pathValues.lookup (String.ofList name) = some value →
    IsPlace value.toList

theorem isPlace_of_decode {segment : List Char} (h : IsPlace (Uri.Percent.decode segment)) :
    IsPlace segment := by
  -- Relative places are written without escapes, so they decode to themselves.
  have hself : ∀ text : List Char, (∀ c ∈ text, Uri.Percent.isUnreserved c = true) →
      Uri.Percent.decode text = text := by
    intro text htext
    have hdecode : Uri.Percent.decode (Uri.Percent.encode Uri.Percent.isUnreserved text) = text :=
      Uri.Percent.decode_encode (by decide) text
    rwa [Uri.Percent.encode_of_keeps htext] at hdecode
  refine ⟨?_, ?_, ?_⟩
  · rintro rfl
    exact h.1 (hself [] fun c hc => absurd hc List.not_mem_nil)
  · rintro rfl
    refine h.2.1 (hself _ fun c hc => ?_)
    obtain rfl := List.mem_singleton.1 hc
    rfl
  · rintro rfl
    refine h.2.2 (hself _ fun c hc => ?_)
    simp only [List.mem_cons, List.not_mem_nil, or_false, or_self] at hc
    subst hc
    rfl

theorem isPlace_of_meaning {d : Draft} {parts : List Segment} {part : Segment} {text : List Char}
    (hvalues : d.ValuesArePlaces parts) (hmem : part ∈ parts) (hpart : part.IsWhole)
    (h : part.meaning? d.pathValues = some text) : IsPlace text := by
  cases part with
  | literal literal =>
    cases h
    exact ⟨hpart.1, hpart.2.1, hpart.2.2.1⟩
  | simple name =>
    obtain ⟨value, hvalue, rfl⟩ := Option.map_eq_some_iff.1 h
    exact hvalues name value hmem hvalue
  | reserved name => cases hpart

/-- The segment of the address reads as what the segment of the template stands for. -/
def ReadsAs (d : Draft) (part : Segment) (segment : List Char) : Prop :=
  part.meaning? d.pathValues = some (Uri.Percent.decode segment)

theorem areSegments_of_expanded {d : Draft} {parts : List Segment} {filled : List (List Char)}
    (hparts : ∀ part ∈ parts, part.IsWhole ∧
      ∀ text, part.meaning? d.pathValues = some text → IsPlace text)
    (h : List.Forall₂ (fun part segment =>
      Template.expandSegment d.pathValues part = .ok segment) parts filled) :
    AreSegments filled ∧ List.Forall₂ d.ReadsAs parts filled := by
  induction h with
  | nil => exact ⟨fun segment hsegment => absurd hsegment List.not_mem_nil, List.Forall₂.nil⟩
  | cons hfirst _ ih =>
    obtain ⟨hwhole, hplace⟩ := hparts _ List.mem_cons_self
    obtain ⟨hmeaning, hchars⟩ := Template.expandSegment_whole hwhole hfirst
    obtain ⟨hsegments, hreads⟩ := ih fun part hpart => hparts part (List.mem_cons_of_mem _ hpart)
    refine ⟨fun segment hsegment => ?_, List.Forall₂.cons hmeaning hreads⟩
    rcases List.mem_cons.1 hsegment with rfl | hsegment
    · exact ⟨isPlace_of_decode (hplace _ hmeaning), hchars⟩
    · exact hsegments segment hsegment

/-- The path is filled in segment by segment. -/
theorem filledPath_segments {d : Draft} {parts : List Segment} {path : String}
    (hparts : d.HasSegments parts) (hvalues : d.ValuesArePlaces parts)
    (h : d.filledPath = .ok path) :
    ∃ filled, path.toList = List.intercalate ['/'] filled ∧ AreSegments filled ∧
      List.Forall₂ d.ReadsAs parts filled := by
  simp only [filledPath, ofDiscovery, bind_eq_ok, mapError_eq_ok] at h
  obtain ⟨template, htemplate, hpath⟩ := h
  have hread : template = Template.ofText
      (String.ofList (List.intercalate ['/'] (parts.map Segment.source))) := by
    rw [Discovery.Method.template, hparts.path] at htemplate
    exact (Except.ok.inj htemplate).symm
  rw [hread, Template.expand, Template.ofText, String.toList_ofList, map_eq_ok] at hpath
  obtain ⟨text, htext, rfl⟩ := hpath
  obtain ⟨filled, rfl, hfilled⟩ := Template.expandSegments_joined hparts.whole htext
  exact ⟨filled, String.toList_ofList, areSegments_of_expanded (fun part hpart =>
    ⟨hparts.whole part hpart, fun _ => isPlace_of_meaning hvalues hpart (hparts.whole part hpart)⟩)
    hfilled⟩

/-! ## The path of the address -/

theorem prepare_path {d : Draft} {r : Prepared} {s : List Char} {parts : List Segment}
    (hbase : Url.ofText s = .ok d.base) (hdir : d.base.IsDirectory) (hparts : d.HasSegments parts)
    (hvalues : d.ValuesArePlaces parts) (h : d.prepare = .ok r) :
    ∃ filled, r.url.path = d.base.below filled ∧ AreSegments filled ∧
      List.Forall₂ d.ReadsAs parts filled := by
  obtain ⟨path, joined, others, hpath, hjoined, -, -, hu⟩ := url_eq_ok (prepare_eq_ok h).2
  obtain ⟨filled, htext, hfilled, hreads⟩ := filledPath_segments hparts hvalues hpath
  rw [htext] at hjoined
  obtain ⟨hjoinedPath, hproper⟩ := Url.join_segments hbase hdir hfilled hjoined
  obtain ⟨_, target, -, -, htarget⟩ := Url.join_eq_ok hjoined
  refine ⟨filled, ?_, hfilled, hreads⟩
  -- The path is read once more with the query behind it, and it is already in its normal form.
  have hfixed : Uri.IsFixed joined.path := by
    rw [hjoinedPath]
    exact hdir.isFixed_below hfilled
  rw [← hjoinedPath]
  exact Url.path_of_append_query hproper (Url.ofText_eq_ok htarget).path_keeps hfixed
    (numberSign_not_mem_queryChars _) hu

theorem meaning_eq_of_forall₂ {d d' : Draft} {parts : List Segment} {filled : List (List Char)}
    (h : List.Forall₂ d.ReadsAs parts filled) (h' : List.Forall₂ d'.ReadsAs parts filled) :
    ∀ part ∈ parts, part.meaning? d'.pathValues = part.meaning? d.pathValues := by
  induction h with
  | nil => exact fun part hpart => absurd hpart List.not_mem_nil
  | cons hfirst _ ih =>
    cases h' with
    | cons hfirst' hrest' =>
      intro part hpart
      rcases List.mem_cons.1 hpart with rfl | hpart
      · exact Eq.trans hfirst' (Eq.symm hfirst)
      · exact ih hrest' part hpart

/-- The path of the address is the path of the base followed by as many segments as the template
has, and each of them decodes to the literal or to the value it was filled in from. So drafts whose
addresses have the same path have the same values for it. -/
theorem prepare_segments {d : Draft} {r : Prepared} {s : List Char} {parts : List Segment}
    (hbase : Url.ofText s = .ok d.base) (hdir : d.base.IsDirectory) (hparts : d.HasSegments parts)
    (hvalues : d.ValuesArePlaces parts) (h : d.prepare = .ok r) :
    (∃ filled, r.url.path = d.base.path ++ List.intercalate ['/'] filled ∧
      (∀ segment ∈ filled, segment ≠ [] ∧ '/' ∉ segment) ∧
      List.Forall₂ (fun part segment =>
        part.meaning? d.pathValues = some (Uri.Percent.decode segment)) parts filled) ∧
    ∀ (d' : Draft) (r' : Prepared), d'.method.path = d.method.path → d'.base = d.base →
      d'.ValuesArePlaces parts → d'.prepare = .ok r' → r'.url.path = r.url.path →
      ∀ part ∈ parts, part.meaning? d'.pathValues = part.meaning? d.pathValues := by
  obtain ⟨filled, hpath, hfilled, hreads⟩ := prepare_path hbase hdir hparts hvalues h
  refine ⟨⟨filled, hpath, fun segment hsegment => ?_, hreads⟩, ?_⟩
  · exact ⟨(hfilled segment hsegment).1.1, hfilled.slash_not_mem segment hsegment⟩
  · intro d' r' hmethod hbase' hvalues' h' hsame
    obtain ⟨filled', hpath', hfilled', hreads'⟩ := prepare_path (d := d') (hbase' ▸ hbase)
      (hbase' ▸ hdir) ⟨hmethod.trans hparts.path, hparts.whole⟩ hvalues' h'
    rw [hpath', hpath, hbase', Url.below, Url.below, List.append_cancel_left_eq] at hsame
    have hcount : filled'.length = filled.length :=
      hreads'.length_eq.symm.trans hreads.length_eq
    -- The joined segments can be cut apart again, unless there are none of them.
    obtain rfl : filled' = filled := by
      by_cases hne : filled = []
      · rw [hne] at hcount ⊢
        exact List.length_eq_zero_iff.1 hcount
      · have hne' : filled' ≠ [] := by
          intro hnil
          rw [hnil] at hcount
          exact hne (List.length_eq_zero_iff.1 hcount.symm)
        rw [← hfilled'.pieces_joined hne', hsame, hfilled.pieces_joined hne]
    exact meaning_eq_of_forall₂ hreads hreads'

/-! ## A service with items -/

/-- A draft for an item of the service at a base address. -/
def sampleItem (base : Url) (id : String) : Draft :=
  { sampleDraft "items/{id}" [samplePathParameter "id"] [("id", id)] with base := base }

/-- The segments of the path of an item. -/
def sampleParts : List Segment := [.literal "items".toList, .simple "id".toList]

theorem isDirectory_sampleBase : sampleBase.IsDirectory where
  hierarchical := by decide
  rooted := fun _ => rfl
  unnamed := fun h => absurd h (by decide)
  directory := by decide
  inner := by decide
  fixed := by
    unfold Uri.IsFixed
    decide

theorem hasSegments_sampleItem (base : Url) (id : String) :
    (sampleItem base id).HasSegments sampleParts where
  path := rfl
  whole := by
    intro part hpart
    simp only [sampleParts, List.mem_cons, List.not_mem_nil, or_false] at hpart
    rcases hpart with rfl | rfl
    · exact ⟨by decide, by decide, by decide, List.all_eq_true.1 (by decide)⟩
    · exact ⟨by decide, List.all_eq_true.1 (by decide), by decide⟩

/-- A value with a slash, a space and dots is one segment. -/
theorem prepare_segments_sampleItem :
    ∃ r filled, (sampleItem sampleBase "../a b").prepare = .ok r ∧
      r.url.path = "/v1/".toList ++ List.intercalate ['/'] filled ∧
      List.Forall₂ (fun part segment =>
        part.meaning? (sampleItem sampleBase "../a b").pathValues =
          some (Uri.Percent.decode segment)) sampleParts filled := by
  have hprepare : ((sampleItem sampleBase "../a b").prepare).toOption.isSome = true := by
    decide +kernel
  obtain ⟨r, hr⟩ := exists_ok_of_isSome hprepare
  have hvalues : (sampleItem sampleBase "../a b").ValuesArePlaces sampleParts := by
    intro name value hname hvalue
    simp only [sampleParts, List.mem_cons, List.not_mem_nil, or_false, reduceCtorEq, false_or,
      Segment.simple.injEq] at hname
    subst hname
    have hlookup : (sampleItem sampleBase "../a b").pathValues.lookup (String.ofList "id".toList) =
        some "../a b" := by decide
    rw [hlookup] at hvalue
    cases hvalue
    unfold IsPlace
    decide
  obtain ⟨⟨filled, hpath, -, hreads⟩, -⟩ := prepare_segments sampleBase_read
    isDirectory_sampleBase (hasSegments_sampleItem _ _) hvalues hr
  exact ⟨r, filled, hr, hpath, hreads⟩

/-- The address of the item at this base has this path. -/
def LeadsTo (base id path : String) : Prop :=
  ∃ u r, Url.ofText base.toList = .ok u ∧ (sampleItem u id).HasSegments sampleParts ∧
    u.path.getLast? = some '/' ∧ (sampleItem u id).prepare = .ok r ∧ r.url.path = path.toList

theorem leadsTo_of_toOption {base id path : String} {u : Url}
    (hread : (Url.ofText base.toList).toOption = some u) (hlast : u.path.getLast? = some '/')
    (hpath : ((sampleItem u id).prepare).toOption.map (·.url.path) = some path.toList) :
    LeadsTo base id path := by
  obtain ⟨r, hr, hpath⟩ := exists_ok_of_map hpath
  exact ⟨u, r, eq_ok_of_toOption hread, hasSegments_sampleItem u id, hlast, hr, hpath⟩

/-- A value that stands for a place relative to the path takes segments away; a base with an empty
segment loses it, and a base with a scheme that has no hierarchy is not followed at all. -/
theorem exists_path_without_segments :
    LeadsTo "https://api.example.com/v1/" ".." "/v1/" ∧
    LeadsTo "https://api.example.com/a//b/" "x" "/a/b/items/x" ∧
    LeadsTo "custom://api.example.com/v1/" "x" "items/x" := by
  refine ⟨?_, ?_, ?_⟩
  · refine leadsTo_of_toOption (u := sampleBase) ?_ ?_ ?_ <;> decide +kernel
  · refine leadsTo_of_toOption (u := { sampleBase with path := "/a//b/".toList }) ?_ ?_ ?_ <;>
      decide +kernel
  · refine leadsTo_of_toOption (u := { sampleBase with scheme := "custom".toList }) ?_ ?_ ?_ <;>
      decide +kernel

end ApiDiscovery.Request.Draft
