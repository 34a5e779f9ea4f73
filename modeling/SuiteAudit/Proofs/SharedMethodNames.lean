import SuiteAudit.Proofs.CommentedFacts

/-!
# Methods of one name

Narrowing knows the class of a method by the method's name alone, and of the methods of one name the
last one gives its class (`lookup_ownersOf_of_last`). So an import of a class keeps a method of it
exactly if the last method of that name is in an imported class, if the name itself is imported, or
if nothing at all would be left (`methods_of_imported_class`).
-/

namespace SuiteAudit.SourceFacts

open Syntax

/-! ### The last method of a name -/

/-- **A method of that name**, in a class that has one. -/
structure IsMethod (name : Text) (l : Located) : Prop where
  kind_eq : l.node.kind = "method_definition"
  name_eq : functionName? l = some name
  owner_ne : ownerClass l ≠ ""

/-- **The last method of that name** among some places. -/
def IsLastMethod (places : List Located) (name : Text) (m : Located) : Prop :=
  ∃ before after, places = before ++ m :: after ∧ IsMethod name m ∧
    ∀ later ∈ after, ¬ IsMethod name later

theorem isEmpty_eq_false_iff {s : Text} : s.isEmpty = false ↔ s ≠ "" := by
  obtain ⟨points⟩ := s
  rw [Text.isEmpty, List.isEmpty_eq_false_iff, ne_eq, ne_eq]
  exact not_congr (Text.mk.injEq points []).to_iff.symm

section

variable {name : Text} {places : List Located}

/-- Where there is a method of a name, there is a last one. -/
theorem exists_isLastMethod (h : ∃ l ∈ places, IsMethod name l) :
    ∃ m, IsLastMethod places name m := by
  induction places with
  | nil =>
    obtain ⟨l, hl, -⟩ := h
    cases hl
  | cons p rest ih =>
    by_cases more : ∃ l ∈ rest, IsMethod name l
    · obtain ⟨m, before, after, rfl, hMethod, last⟩ := ih more
      exact ⟨m, p :: before, after, rfl, hMethod, last⟩
    · obtain ⟨l, hl, hMethod⟩ := h
      rcases List.mem_cons.mp hl with rfl | hl
      · exact ⟨l, [], rest, rfl, hMethod, fun later hLater h => more ⟨later, hLater, h⟩⟩
      · exact absurd ⟨l, hl, hMethod⟩ more

/-- The owners in a list of places come after those in the places behind. -/
theorem ownersOf_append (before after : List Located) :
    ownersOf (before ++ after) = ownersOf after ++ ownersOf before := by
  simp only [ownersOf_eq, List.filterMap_append, List.filter_append, List.reverse_append]

/-- **The owners are the methods**, each with its class. -/
theorem mem_ownersOf_iff {owner : Text} :
    (name, owner) ∈ ownersOf places ↔ ∃ l ∈ places, IsMethod name l ∧ ownerClass l = owner := by
  have owned_iff (l : Located) : owned? l = some (name, owner) ↔
      l.node.kind = "method_definition" ∧ functionName? l = some name ∧ ownerClass l = owner := by
    unfold owned?
    split
    · next hKind => simp [beq_iff_eq.mp hKind]
    · next hKind => exact iff_of_false nofun fun h => hKind (beq_iff_eq.mpr h.1)
  rw [ownersOf_eq, List.mem_reverse, List.mem_filter, List.mem_filterMap]
  constructor
  · rintro ⟨⟨l, hl, hOwned⟩, named⟩
    obtain ⟨hKind, hName, rfl⟩ := (owned_iff l).mp hOwned
    exact ⟨l, hl, ⟨hKind, hName, isEmpty_eq_false_iff.mp (by simpa using named)⟩, rfl⟩
  · rintro ⟨l, hl, ⟨hKind, hName, named⟩, rfl⟩
    exact ⟨⟨l, hl, (owned_iff l).mpr ⟨hKind, hName, rfl⟩⟩,
      by simpa using isEmpty_eq_false_iff.mpr named⟩

theorem lookup_ownersOf_eq_none (h : ∀ l ∈ places, ¬ IsMethod name l) :
    (ownersOf places).lookup name = none := by
  rw [List.lookup_eq_none_iff]
  rintro ⟨other, owner⟩ hOwner
  rw [bne_iff_ne]
  rintro rfl
  obtain ⟨l, hl, hMethod, -⟩ := mem_ownersOf_iff.mp hOwner
  exact h l hl hMethod

/-- **The last method of a name gives the class** by which all of that name are known. -/
theorem lookup_ownersOf_of_last {m : Located} (h : IsLastMethod places name m) :
    (ownersOf places).lookup name = some (ownerClass m) := by
  obtain ⟨before, after, rfl, hMethod, last⟩ := h
  have own : ownersOf [m] = [(name, ownerClass m)] := by
    have named : (ownerClass m).isEmpty = false := isEmpty_eq_false_iff.mpr hMethod.owner_ne
    simp [ownersOf_eq, owned?, hMethod.kind_eq, hMethod.name_eq, named]
  rw [← List.singleton_append, ownersOf_append, ownersOf_append, List.lookup_append,
    List.lookup_append, lookup_ownersOf_eq_none last, own]
  simp

end

/-! ### What an import keeps -/

/-- **An import is of a function**: it names the function, or the class of the last method of that
name. A function that is no method counts as one of a class without a name. -/
def IsWanted (imported : List Text) (places : List Located) (name : Text) : Prop :=
  name ∈ imported ∨ (∃ m, IsLastMethod places name m ∧ ownerClass m ∈ imported) ∨
    (∀ l ∈ places, ¬ IsMethod name l) ∧ ("" : Text) ∈ imported

section

variable {imported : List Text} {places : List Located} {name : Text}

theorem isWanted_of_last {m : Located} (h : IsLastMethod places name m) :
    IsWanted imported places name ↔ name ∈ imported ∨ ownerClass m ∈ imported := by
  refine or_congr_right ⟨?_, fun hOwner => .inl ⟨m, h, hOwner⟩⟩
  rintro (⟨other, hOther, hOwner⟩ | ⟨no_method, -⟩)
  · have same : some (ownerClass other) = some (ownerClass m) :=
      (lookup_ownersOf_of_last hOther).symm.trans (lookup_ownersOf_of_last h)
    rwa [Option.some.inj same] at hOwner
  · obtain ⟨before, after, rfl, hMethod, -⟩ := h
    exact absurd hMethod (no_method m (by simp))

theorem isImported_iff :
    isImported imported (ownersOf places) name = true ↔ IsWanted imported places name := by
  rw [isImported, Bool.or_eq_true, List.contains_iff_mem, List.contains_iff_mem]
  by_cases h : ∃ l ∈ places, IsMethod name l
  · obtain ⟨m, hLast⟩ := exists_isLastMethod h
    rw [isWanted_of_last hLast, lookup_ownersOf_of_last hLast, Option.getD_some]
  · have no_method : ∀ l ∈ places, ¬ IsMethod name l := fun l hl hMethod => h ⟨l, hl, hMethod⟩
    rw [lookup_ownersOf_eq_none no_method, Option.getD_none]
    refine or_congr_right ⟨fun hEmpty => .inr ⟨no_method, hEmpty⟩, ?_⟩
    rintro (⟨m, ⟨before, after, rfl, hMethod, -⟩, -⟩ | ⟨-, hEmpty⟩)
    · exact absurd hMethod (no_method m (by simp))
    · exact hEmpty

/-- **Narrowing keeps a function** of the file if it is wanted, or if none is. -/
theorem keeps_iff {names : List Text} (some_import : imported ≠ [])
    (no_star : ("*" : Text) ∉ imported) (hName : name ∈ names) :
    keeps names imported (ownersOf places) name = true ↔
      IsWanted imported places name ∨ ∀ other ∈ names, ¬ IsWanted imported places other := by
  have narrowed : ¬ (imported.isEmpty || imported.contains "*") = true := by
    rw [Bool.or_eq_true, List.isEmpty_iff, List.contains_iff_mem]
    exact not_or.mpr ⟨some_import, no_star⟩
  rw [keeps, if_neg narrowed]
  cases hKept : names.filter (isImported imported (ownersOf places)) with
  | nil =>
    refine iff_of_true rfl (.inr fun other hOther => ?_)
    rw [← isImported_iff]
    exact List.filter_eq_nil_iff.mp hKept other hOther
  | cons kept rest =>
    have wanted : ∃ other ∈ names, IsWanted imported places other := by
      have hMem : kept ∈ names.filter (isImported imported (ownersOf places)) := by
        rw [hKept]
        exact List.mem_cons_self
      obtain ⟨hNames, hImported⟩ := List.mem_filter.mp hMem
      exact ⟨kept, hNames, isImported_iff.mp hImported⟩
    show (kept :: rest).contains name = true ↔ _
    rw [List.contains_iff_mem, ← hKept, List.mem_filter, isImported_iff]
    refine ⟨fun h => .inl h.2, fun h => ⟨hName, h.resolve_right fun none_wanted => ?_⟩⟩
    obtain ⟨other, hOther, hWanted⟩ := wanted
    exact none_wanted other hOther hWanted

end

/-- What narrowing leaves of the facts about one function: all of them or none. -/
theorem only_keeping (f : SourceFacts) (keep : Text → Bool) (name : Text) :
    (f.keeping keep).only [name] = if keep name then f.only [name] else f.only [] := by
  have one {β : Type} (function : β → Text) (xs : List β) :
      (xs.filter fun b => keep (function b)).filter (fun b => [name].contains (function b)) =
        if keep name then xs.filter (fun b => [name].contains (function b))
        else xs.filter fun b => ([] : List Text).contains (function b) := by
    rw [List.filter_filter]
    split
    · next hKeep =>
      refine List.filter_congr fun b _ => ?_
      by_cases h : function b = name <;> simp [h, hKeep]
    · next hDrop =>
      refine List.filter_congr fun b _ => ?_
      by_cases h : function b = name <;> simp [h, hDrop]
  simp only [only, keeping, one]
  split <;> rfl

/-- **What an import of a class keeps of its methods.** The facts about a method are all kept or all
left out. They are kept exactly if the method is imported by its own name, if the last method of the
file that has its name is in an imported class, or if the file has no function that is wanted. So
the methods of an imported class are kept unless another class further down has one of the same
name. -/
theorem methods_of_imported_class {parse : Parser} {source : Option Content} {text : String}
    {imported : List Text} {path : Text} {kept : SourceFacts}
    (hText : source.bind Content.string? = some text)
    (hKept : read parse source imported path = .ok kept) (no_star : ("*" : Text) ∉ imported)
    {l : Located} {name : Text}
    (hl : l ∈ (parse ((Grammar.ofPath? path).getD .default) text).root.places [])
    (hMethod : IsMethod name l) (hImported : ownerClass l ∈ imported) :
    let tree := parse ((Grammar.ofPath? path).getD .default) text
    let places := tree.root.places []
    ∃ facts m, ofTree tree = .ok facts ∧ IsLastMethod places name m ∧
      (∃ s ∈ facts.functions, signature? l = some s ∧ s.name = name) ∧
      let wanted := name ∈ imported ∨ ownerClass m ∈ imported ∨
        ∀ f ∈ facts.functions, ¬ IsWanted imported places f.name
      (wanted → kept.only [name] = facts.only [name]) ∧
        (¬ wanted → kept.only [name] = facts.only []) := by
  intro tree places
  rw [read, hText] at hKept
  obtain ⟨facts, hFacts, rfl⟩ := map_eq_ok.mp hKept
  obtain ⟨m, hLast⟩ := exists_isLastMethod ⟨l, hl, hMethod⟩
  have functions_eq : facts.functions = places.filterMap signature? := by
    have whole := hFacts
    rw [ofTree_eq] at whole
    obtain ⟨comparisons, -, rfl⟩ := map_eq_ok.mp whole
    rfl
  obtain ⟨s, hSignature, hName⟩ : ∃ s, signature? l = some s ∧ s.name = name := by
    have isFunction : l.node.isFunction = true := by
      simp [Node.isFunction, Node.isOneOf, Node.functionKinds, hMethod.kind_eq]
    rw [signature?, isFunction, hMethod.name_eq]
    exact ⟨_, rfl, rfl⟩
  have mem : s ∈ facts.functions := by
    rw [functions_eq]
    exact List.mem_filterMap.mpr ⟨l, hl, hSignature⟩
  have some_import : imported ≠ [] := List.ne_nil_of_mem hImported
  have in_names : name ∈ facts.functions.map (·.name) := List.mem_map.mpr ⟨s, mem, hName⟩
  have keeps_name : keeps _ imported (ownersOf places) name = true ↔ _ :=
    keeps_iff some_import no_star in_names
  rw [isWanted_of_last hLast, List.forall_mem_map, or_assoc] at keeps_name
  refine ⟨facts, m, hFacts, hLast, ⟨s, mem, hSignature, hName⟩, fun wanted => ?_,
    fun unwanted => ?_⟩
  · rw [narrow_eq, only_keeping, if_pos (keeps_name.mpr wanted)]
  · rw [narrow_eq, only_keeping, if_neg (mt keeps_name.mp unwanted)]

/-- Two classes: `A` with methods `load` and `save`, of which `save` throws, and below it `B` with a
method `save`. -/
def twoSaves : Tree :=
  let node (kind field text : String) (children : List Node) : Node :=
    .mk { kind, field, text } children
  let method (name : String) (statements : List Node) : Node :=
    node "method_definition" "" "" [node "property_identifier" "name" name [],
      node "formal_parameters" "parameters" "()" [], node "statement_block" "body" "" statements]
  let cls (name : String) (methods : List Node) : Node :=
    node "class_declaration" "" "" [node "type_identifier" "name" name [],
      node "class_body" "body" "" methods]
  let throw := node "throw_statement" "" "throw e;" [node "identifier" "" "e" []]
  { root := node "program" "" ""
      [cls "A" [method "load" [], method "save" [throw]], cls "B" [method "save" []]] }

/-- Of two classes with a method of one name the first is imported: nothing is kept of its own. -/
theorem methods_of_imported_class_two_saves :
    ∃ facts kept, ofTree twoSaves = .ok facts ∧
      read (fun _ _ => twoSaves) (some (.text "")) ["A"] = .ok kept ∧
      facts.throws.map (·.function) = ["save"] ∧ kept.only ["save"] = facts.only [] := by
  let places := twoSaves.root.places []
  have hText : (some (Content.text "")).bind Content.string? = some "" :=
    Text.string?_ofString ""
  have read_ok : (read (fun _ _ => twoSaves) (some (.text "")) ["A"]).isOk = true := by
    decide +kernel
  have named : (ofTree twoSaves).toOption.map (fun f => (f.functions.map (·.name),
      f.throws.map (·.function))) =
        some ((["load", "save", "save"] : List Text), (["save"] : List Text)) := by
    decide +kernel
  have owner : (ownersOf places).lookup ("save" : Text) = some ("B" : Text) := by decide +kernel
  have load_wanted : IsWanted ["A"] places "load" := isImported_iff.mp (by decide +kernel)
  have first : (places.any fun l => l.node.kind == "method_definition" &&
      functionName? l == some "save" && ownerClass l == "A") = true := by
    decide +kernel
  obtain ⟨l, hl, hPlace⟩ := List.any_eq_true.mp first
  simp only [Bool.and_eq_true, beq_iff_eq] at hPlace
  obtain ⟨⟨hKind, hName⟩, hOwner⟩ := hPlace
  have hMethod : IsMethod "save" l := ⟨hKind, hName, by rw [hOwner]; decide⟩
  cases hRead : read (fun _ _ => twoSaves) (some (.text "")) ["A"] with
  | error e =>
    rw [hRead] at read_ok
    cases read_ok
  | ok kept =>
    obtain ⟨facts, m, hFacts, hLast, -, -, dropped⟩ :=
      methods_of_imported_class hText hRead (by decide) hl hMethod
        (by rw [hOwner]; exact List.mem_cons_self)
    have hFacts : ofTree twoSaves = .ok facts := hFacts
    rw [hFacts] at named
    obtain ⟨names_eq, throws_eq⟩ := Prod.mk.inj (Option.some.inj named)
    have last_owner : ownerClass m = "B" :=
      Option.some.inj ((lookup_ownersOf_of_last hLast).symm.trans owner)
    refine ⟨facts, kept, hFacts, rfl, throws_eq, dropped ?_⟩
    rintro (hSave | hB | none_wanted)
    · exact absurd hSave (by decide)
    · rw [last_owner] at hB
      exact absurd hB (by decide)
    · obtain ⟨f, hf, hLoad⟩ : ∃ f ∈ facts.functions, f.name = "load" := by
        rw [← List.mem_map, names_eq]
        exact List.mem_cons_self
      exact none_wanted f hf (hLoad ▸ load_wanted)

end SuiteAudit.SourceFacts
