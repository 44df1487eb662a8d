import ApiDiscovery.Proofs.Schema.Order
import ApiDiscovery.Proofs.Source.Method
import ApiDiscovery.Source.Writer

/-!
# Signatures

A generated method has one argument for each declared parameter exactly if the method lists none of
them twice (`signature_counts`). Its arguments without a default come before those with one, and
among either kind the listed parameters come first, as they are listed, and then the others, as they
are declared (`signature_inOrder`).
-/

namespace ApiDiscovery.Source.Method

open Outcome
open Schema (Argument)
open Schema.Argument (declaredIn listedIn IsInOrder isInOrder_ofMethod count_candidates
  idxOf_candidates_of_listed idxOf_candidates_iff filter_append_of_pairwise)

variable {body : Json} {method : Json.Members} {arguments : List Argument}

/-! ## Generated methods -/

/-- A generated method has the arguments that are read, in the same order, but for the names that
they have in its signature. -/
theorem sameParameter_of_ofDeclared (h : Argument.ofMethod body method = .ok arguments)
    {path discoveryName name : String} {m : Method}
    (hm : ofDeclared body path discoveryName (.obj method) name = .ok m) :
    List.Forall₂ SameParameter m.arguments arguments := by
  obtain ⟨members, found, hmembers, hfound, hsame, -⟩ := ofDeclared_eq_ok hm
  cases hmembers
  obtain rfl : arguments = found := Except.ok.inj (h.symm.trans hfound)
  exact hsame

/-- The text of an argument without a default. -/
def neededText (a : Argument) : String := a.argument ++ ": " ++ a.annotation ++ ","

/-- The text of an argument with a default. -/
def optionalText (a : Argument) : String := a.argument ++ ": " ++ a.annotation ++ " | None = None,"

theorem argumentText_needed {a : Argument} (h : a.required = true) :
    argumentText a = neededText a := by
  rw [argumentText, if_pos h, String.append_empty, neededText]

theorem argumentText_optional {a : Argument} (h : a.required = false) :
    argumentText a = optionalText a := by
  rw [argumentText, h, if_neg Bool.false_ne_true, optionalText, String.append_assoc]
  rfl

/-! ## How often a parameter comes -/

theorem nodup_keys_declaredIn (h : (Json.obj method).hasDistinctKeys = true) :
    (Json.keys (declaredIn method)).Nodup := by
  rw [declaredIn]
  cases hdeclared : Json.objectAt method "parameters" with
  | error fault => exact List.nodup_nil
  | ok declared =>
    exact ((Json.hasDistinctKeys_obj declared).1 (Json.hasDistinctKeys_objectAt h hdeclared)).1

/-- Every declared parameter has an argument, and nothing else has: one for each time that the
method lists it, and one if it does not list it. So there is one argument for each declared
parameter, in what is read and in the generated method, exactly if none is listed twice. -/
theorem signature_counts (hdistinct : (Json.obj method).hasDistinctKeys = true)
    (h : Argument.ofMethod body method = .ok arguments) :
    (∀ name, (arguments.map Argument.name).count name =
        if name ∈ Json.keys (declaredIn method) then max 1 ((listedIn method).count name) else 0) ∧
      ((arguments.map Argument.name).Perm (Json.keys (declaredIn method)) ↔
        ∀ name ∈ Json.keys (declaredIn method), (listedIn method).count name ≤ 1) ∧
      ∀ path discoveryName name m,
        ofDeclared body path discoveryName (.obj method) name = .ok m →
          m.arguments.map Argument.name = arguments.map Argument.name := by
  have hnodup := nodup_keys_declaredIn hdistinct
  have hcount : ∀ name, (arguments.map Argument.name).count name =
      if name ∈ Json.keys (declaredIn method) then max 1 ((listedIn method).count name)
      else 0 := by
    intro name
    rw [(isInOrder_ofMethod h).perm.count_eq]
    exact count_candidates hnodup name
  refine ⟨hcount, ?_, ?_⟩
  · rw [List.perm_iff_count]
    constructor
    · intro hperm name hname
      have hone := hperm name
      rw [hcount, if_pos hname, List.count_eq_one_of_mem hnodup hname] at hone
      omega
    · intro honce name
      rw [hcount]
      split
      · next hname =>
        have hle := honce name hname
        rw [List.count_eq_one_of_mem hnodup hname]
        omega
      · next hname => exact (List.count_eq_zero.2 hname).symm
  · intro path discoveryName name m hm
    exact map_eq_map_of_forall₂ (sameParameter_of_ofDeclared h hm) fun _ _ hsame => hsame.name

/-- A method that lists two of its three parameters and a name that is none of them. -/
def sampleListed : Json.Members :=
  [("parameters", .obj [("hl", .obj []), ("scope", .obj [("required", .bool true)]),
      ("userId", .obj [("required", .bool true)])]),
   ("parameterOrder", .arr [.str "userId", .str "at", .str "scope"])]

theorem signature_counts_sampleListed :
    (Json.obj sampleListed).hasDistinctKeys = true ∧
      ∃ arguments, Argument.ofMethod (.obj []) sampleListed = .ok arguments ∧
        listedIn sampleListed = ["userId", "at", "scope"] ∧
        (arguments.map Argument.name).Perm ["hl", "scope", "userId"] := by
  have hdistinct : (Json.obj sampleListed).hasDistinctKeys = true := by decide
  obtain ⟨arguments, harguments⟩ := exists_ok_of_isSome
    (show (Argument.ofMethod (.obj []) sampleListed).toOption.isSome = true by decide)
  have honce : ∀ name ∈ Json.keys (declaredIn sampleListed),
      (listedIn sampleListed).count name ≤ 1 := by decide
  obtain ⟨-, hperm, -⟩ := signature_counts hdistinct harguments
  exact ⟨hdistinct, arguments, harguments, by decide, hperm.2 honce⟩

/-- A method that lists its only parameter twice. -/
def sampleTwice : Json.Members :=
  [("path", .str "a"), ("parameters", .obj [("a", .obj [])]),
   ("parameterOrder", .arr [.str "a", .str "a"])]

/-- A parameter that is listed twice has two arguments, and the second one is what is sent. -/
theorem exists_parameter_twice :
    ∃ m, ofDeclared (.obj []) "r" "get" (.obj sampleTwice) "get" = .ok m ∧
      m.arguments.map argumentText = ["a: Any | None = None,", "a_2: Any | None = None,"] ∧
      m.arguments.map parameterText = ["    'a': a,", "    'a': a_2,"] ∧
      ¬(m.arguments.map Argument.name).Perm (Json.keys (declaredIn sampleTwice)) := by
  obtain ⟨m, hm, htexts⟩ := exists_ok_of_map
    (show (ofDeclared (.obj []) "r" "get" (.obj sampleTwice) "get").toOption.map (fun m =>
        (m.arguments.map argumentText, m.arguments.map parameterText,
          m.arguments.map Argument.name)) =
      some (["a: Any | None = None,", "a_2: Any | None = None,"], ["    'a': a,", "    'a': a_2,"],
        ["a", "a"]) by decide +kernel)
  simp only [Prod.mk.injEq] at htexts
  obtain ⟨hsignature, hparameters, hnames⟩ := htexts
  refine ⟨m, hm, hsignature, hparameters, fun hperm => ?_⟩
  rw [hnames] at hperm
  exact absurd hperm.length_eq (by decide)

/-! ## Which argument comes first -/

/-- A required argument comes before one that is not. Of two arguments that are alike in this, one
that the method lists comes before one that it does not; two that are listed come as they are listed
first, and two that are not as they are declared. In the text of a generated method the arguments
without a default come before those with one. -/
theorem signature_inOrder (h : Argument.ofMethod body method = .ok arguments) :
    arguments.Pairwise (fun a b => b.required = true → a.required = true) ∧
      (∀ a ∈ arguments, ∀ b ∈ arguments, a.required = b.required →
        let place := fun name => (arguments.map Argument.name).idxOf name
        (a.name ∈ listedIn method → b.name ∉ listedIn method → place a.name < place b.name) ∧
        (a.name ∈ listedIn method → b.name ∈ listedIn method →
          (place a.name < place b.name ↔
            (listedIn method).idxOf a.name < (listedIn method).idxOf b.name)) ∧
        (a.name ∉ listedIn method → b.name ∉ listedIn method →
          (place a.name < place b.name ↔
            (Json.keys (declaredIn method)).idxOf a.name <
              (Json.keys (declaredIn method)).idxOf b.name))) ∧
      ∀ path discoveryName name m,
        ofDeclared body path discoveryName (.obj method) name = .ok m →
          m.arguments.map argumentText =
            (m.arguments.filter fun a => a.required).map neededText ++
              (m.arguments.filter fun a => !a.required).map optionalText := by
  have horder := isInOrder_ofMethod h
  refine ⟨horder.pairwise, ?_, ?_⟩
  · intro a ha b hb hkind
    dsimp only
    rw [horder.idxOf_lt_iff ha hb hkind]
    obtain ⟨hlisted, hunlisted⟩ :=
      idxOf_candidates_iff (listedIn method) (horder.mem_keys ha) (horder.mem_keys hb)
    exact ⟨idxOf_candidates_of_listed (horder.mem_keys ha), hlisted, hunlisted⟩
  · intro path discoveryName name m hm
    -- The generated method has other names for its arguments, but the same kinds in the same order.
    have hkinds : m.arguments.map Argument.required = arguments.map Argument.required :=
      map_eq_map_of_forall₂ (sameParameter_of_ofDeclared h hm) fun _ _ hsame => hsame.required
    have hpairwise : m.arguments.Pairwise fun a b => b.required = true → a.required = true := by
      rw [← List.pairwise_map (f := Argument.required) (R := fun c d => d = true → c = true),
        hkinds, List.pairwise_map]
      exact horder.pairwise
    calc m.arguments.map argumentText
      _ = ((m.arguments.filter fun a => a.required) ++
            m.arguments.filter fun a => !a.required).map argumentText := by
          rw [filter_append_of_pairwise hpairwise]
      _ = (m.arguments.filter fun a => a.required).map neededText ++
            (m.arguments.filter fun a => !a.required).map optionalText := by
          rw [List.map_append]
          congr 1
          · refine List.map_congr_left fun a ha => argumentText_needed ?_
            exact (List.mem_filter.1 ha).2
          · refine List.map_congr_left fun a ha => argumentText_optional ?_
            simpa using (List.mem_filter.1 ha).2

/-- A method that lists one of its parameters twice, and two parameters not at all. -/
def sampleMixed : Json.Members :=
  [("parameters", .obj [("a", .obj []), ("b", .obj [("required", .bool true)]), ("c", .obj []),
      ("d", .obj [("required", .int 1)])]),
   ("parameterOrder", .arr [.str "c", .str "x", .str "b", .str "c"])]

theorem signature_inOrder_sampleMixed :
    ∃ arguments, Argument.ofMethod (.obj []) sampleMixed = .ok arguments ∧
      arguments.map Argument.name = ["b", "d", "c", "c", "a"] ∧
      arguments.Pairwise fun a b => b.required = true → a.required = true := by
  obtain ⟨arguments, harguments, hnames⟩ := exists_ok_of_map
    (show (Argument.ofMethod (.obj []) sampleMixed).toOption.map (List.map Argument.name) =
      some ["b", "d", "c", "c", "a"] by decide)
  exact ⟨arguments, harguments, hnames, (signature_inOrder harguments).1⟩

end ApiDiscovery.Source.Method
