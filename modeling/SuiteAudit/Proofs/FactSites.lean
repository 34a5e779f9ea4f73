import SuiteAudit.Proofs.CommentedFacts

/-!
# Where facts stand

The walk of a source file stops at every place of its tree once (`mem_places_iff`), and the facts of
the file stand at some of these places: the failures, the comparisons with numbers and the ways out
are those of their sites, one each and in order, and each belongs to the function that surrounds its
site (`facts_of_syntax`). There are no facts at all where a numeral that is looked at is too large
for a double.
-/

namespace SuiteAudit

/-! ### Places of a tree -/

namespace Syntax

namespace Located

/-- **A place below another**: it is reached from that one by going down from node to child. -/
inductive Below (top : Located) : Located → Prop where
  | self : Below top top
  | child {l : Located} {m : Node} (h : Below top l) (hm : m ∈ l.node.children) :
      Below top ⟨m, l.node :: l.above⟩

theorem Below.trans {top l m : Located} (hl : top.Below l) (hm : l.Below m) : top.Below m := by
  induction hm with
  | self => exact hl
  | child _ hm ih => exact ih.child hm

end Located

theorem placesAll_eq_flatMap (above ns : List Node) :
    placesAll above ns = ns.flatMap (Node.places above) := by
  induction ns with
  | nil => rfl
  | cons n ns ih => rw [placesAll, ih, List.flatMap_cons]

/-- **Places are in document order**: a place comes before those below it, and these are, child by
child, those of its children. -/
theorem Located.places_eq (l : Located) :
    l.places = l :: l.node.children.flatMap fun m => Located.places ⟨m, l.node :: l.above⟩ := by
  rw [Located.places, Node.places_eq_cons, placesAll_eq_flatMap]
  rfl

/-- The places of a tree are its root and those of its children. -/
theorem Located.mem_places_cons {top l : Located} :
    l ∈ top.places ↔
      l = top ∨ ∃ m ∈ top.node.children, l ∈ Located.places ⟨m, top.node :: top.above⟩ := by
  rw [Located.places_eq, List.mem_cons, List.mem_flatMap]

/-- A place of a tree is below its root. -/
theorem Located.below_of_mem_places {l : Located} :
    ∀ {top : Located}, l ∈ top.places → top.Below l
  | top, hl => by
    rcases mem_places_cons.mp hl with rfl | ⟨m, hm, hl⟩
    · exact .self
    · have := Node.size_lt_of_mem hm
      exact (Below.child .self hm).trans (below_of_mem_places hl)
termination_by top => top.node.size

/-- The places of a part of a tree are places of the tree. -/
theorem Located.mem_places_trans {l k : Located} (hk : k ∈ l.places) :
    ∀ {top : Located}, l ∈ top.places → k ∈ top.places
  | top, hl => by
    rcases mem_places_cons.mp hl with rfl | ⟨m, hm, hl⟩
    · exact hk
    · have := Node.size_lt_of_mem hm
      exact mem_places_cons.mpr (.inr ⟨m, hm, mem_places_trans hk hl⟩)
termination_by top => top.node.size

/-- **The places of a tree** are those below its root. -/
theorem Located.mem_places_iff {top l : Located} : l ∈ top.places ↔ top.Below l := by
  refine ⟨below_of_mem_places, fun h => ?_⟩
  induction h with
  | self => exact mem_places_cons.mpr (.inl rfl)
  | @child l m _ hm ih =>
    have next : (⟨m, l.node :: l.above⟩ : Located) ∈ l.places :=
      mem_places_cons.mpr (.inr ⟨m, hm, mem_places_cons.mpr (.inl rfl)⟩)
    exact mem_places_trans next ih

end Syntax

namespace SourceFacts

open Syntax

/-! ### Functions around a place -/

/-- **The nearest function with a name** around a place: on the way up to it every function is
without one. -/
def NamedAround (l f : Located) (name : Text) : Prop :=
  f.node.isFunction = true ∧ functionName? f = some name ∧ ∃ inner outer,
    l.ancestors = inner ++ f :: outer ∧
      ∀ g ∈ inner, g.node.isFunction = true → functionName? g = none

/-- **The nearest function** of any kind around a place. -/
def FunctionAround (l f : Located) : Prop :=
  f.node.isFunction = true ∧ ∃ inner outer,
    l.ancestors = inner ++ f :: outer ∧ ∀ g ∈ inner, g.node.isFunction = false

theorem namedAround_of_nearestNamed? {l : Located} {e : Enclosing} (h : nearestNamed? l = some e) :
    ∃ f, NamedAround l f e.name := by
  rw [nearestNamed?, List.findSome?_eq_some_iff] at h
  obtain ⟨inner, f, outer, hAncestors, hf, passed⟩ := h
  split at hf
  · next isFunction =>
    obtain ⟨name, hName, rfl⟩ := Option.map_eq_some_iff.mp hf
    refine ⟨f, isFunction, hName, inner, outer, hAncestors, fun g hg hFunction => ?_⟩
    have nothing := passed g hg
    rwa [if_pos hFunction, Option.map_eq_none_iff] at nothing
  · cases hf

theorem functionAround_of_nearest? {l : Located} {e : Enclosing} (h : nearest? l = some e) :
    ∃ f, FunctionAround l f ∧ functionName? f = some e.name := by
  obtain ⟨f, hFind, h⟩ := Option.bind_eq_some_iff.mp h
  obtain ⟨name, hName, h⟩ := Option.bind_eq_some_iff.mp h
  obtain rfl := Option.some.inj h
  obtain ⟨isFunction, inner, outer, hAncestors, passed⟩ := List.find?_eq_some_iff_append.mp hFind
  exact ⟨f, ⟨isFunction, inner, outer, hAncestors, fun g hg => by simpa using passed g hg⟩, hName⟩

/-- Whether some function with a name is around a place. -/
def isInNamed (l : Located) : Bool :=
  l.ancestors.any fun f => f.node.isFunction && (functionName? f).isSome

theorem isSome_nearestNamed? (l : Located) : (nearestNamed? l).isSome = isInNamed l := by
  rw [nearestNamed?, List.isSome_findSome?, isInNamed]
  congr 1
  funext f
  cases f.node.isFunction with
  | true => rw [if_pos rfl, Option.isSome_map, Bool.true_and]
  | false => rfl

/-! ### Sites -/

section

variable {ε α β : Type} {f : α → Except ε (Option β)} {xs : List α}

/-- **What readings of a list give** stands beside the members that give something, one by one. -/
theorem forall₂_filter_gather {p : α → Bool} {R : α → β → Prop}
    (reads : ∀ a found, f a = .ok found → found.isSome = p a)
    (gives : ∀ a b, f a = .ok (some b) → R a b) {ys : List β} (h : gather f xs = .ok ys) :
    List.Forall₂ R (xs.filter p) ys := by
  induction xs generalizing ys with
  | nil =>
    obtain rfl : [] = ys := Except.ok.inj h
    exact .nil
  | cons a xs ih =>
    rw [gather_cons] at h
    cases ha : f a with
    | error e =>
      rw [ha] at h
      cases h
    | ok found =>
      rw [ha] at h
      obtain ⟨rest, hRest, rfl⟩ := map_eq_ok.mp h
      have here := reads a found ha
      cases found with
      | none =>
        rw [List.filter_cons_of_neg (by simp [← here])]
        exact ih hRest
      | some b =>
        rw [List.filter_cons_of_pos here.symm]
        exact .cons (gives a b ha) (ih hRest)

variable (ε) in
/-- Readings that always succeed give what a partial function gives. -/
theorem gather_ok (g : α → Option β) (xs : List α) :
    gather (fun a => (.ok (g a) : Except ε (Option β))) xs = .ok (xs.filterMap g) := by
  induction xs with
  | nil => rfl
  | cons a xs ih =>
    rw [gather_cons, ih, List.filterMap_cons]
    cases g a <;> rfl

theorem forall₂_filter_filterMap {g : α → Option β} {p : α → Bool} {R : α → β → Prop}
    (reads : ∀ a, (g a).isSome = p a) (gives : ∀ a b, g a = some b → R a b) (xs : List α) :
    List.Forall₂ R (xs.filter p) (xs.filterMap g) := by
  refine forall₂_filter_gather (fun a found h => ?_) (fun a b h => gives a b (Except.ok.inj h))
    (gather_ok Empty g xs)
  rw [← Except.ok.inj h]
  exact reads a

end

/-- Whether a node calls one of some functions. -/
def callsOneOf (n : Node) (callees : List Text) : Bool :=
  n.calleePath?.any fun path => callees.contains (Text.join "." path)

/-- Whether a call fails: one that asserts something, or one that rejects with a new error. -/
def isFailingCall (n : Node) : Bool :=
  callsOneOf n assertingCalls && !n.arguments.isEmpty ||
    callsOneOf n rejectingCalls && n.arguments.head?.any (·.kind == "new_expression")

/-- **The sites of failures**: the throws and the failing calls in functions with a name. -/
def isFailure (l : Located) : Bool :=
  isInNamed l &&
    (l.node.kind == "throw_statement" || l.node.kind == "call_expression" && isFailingCall l.node)

/-- **A failure at its site**, of the nearest function with a name. -/
structure FailsAt (l : Located) (t : ThrowSite) : Prop where
  line_eq : t.line = l.node.line
  around : ∃ f, NamedAround l f t.function

theorem isSome_callFailure? (l : Located) (e : Enclosing) :
    (callFailure? l e).isSome = isFailingCall l.node := by
  unfold callFailure? isFailingCall callsOneOf
  cases l.node.calleePath? with
  | none => rfl
  | some path =>
    cases l.node.arguments with
    | nil => simp
    | cons first rest =>
      simp only [Option.bind_eq_bind, Option.bind_some, List.head?_cons, Option.any_some,
        List.isEmpty_cons, Bool.not_false, Bool.and_true]
      cases assertingCalls.contains (Text.join "." path) with
      | true => rfl
      | false =>
        cases rejectingCalls.contains (Text.join "." path) && first.kind == "new_expression" <;> rfl

theorem isSome_throw? (l : Located) : (throw? l).isSome = isFailure l := by
  unfold throw? isFailure
  cases hThrow : l.node.kind == "throw_statement" with
  | true =>
    rw [if_pos rfl, Option.isSome_map, isSome_nearestNamed?, Bool.true_or, Bool.and_true]
  | false =>
    rw [if_neg Bool.false_ne_true, Bool.false_or]
    cases l.node.kind == "call_expression" with
    | false => rw [if_neg Bool.false_ne_true, Bool.false_and, Bool.and_false]; rfl
    | true =>
      rw [if_pos rfl, Bool.true_and, ← isSome_nearestNamed?]
      cases nearestNamed? l with
      | none => rfl
      | some e => exact isSome_callFailure? l e

theorem failsAt_of_throw? {l : Located} {t : ThrowSite} (h : throw? l = some t) : FailsAt l t := by
  have at_place : ∃ e, nearestNamed? l = some e ∧ t.line = l.node.line ∧ t.function = e.name := by
    unfold throw? at h
    split at h
    · obtain ⟨e, he, rfl⟩ := Option.map_eq_some_iff.mp h
      exact ⟨e, he, rfl, rfl⟩
    · split at h
      · obtain ⟨e, he, h⟩ := Option.bind_eq_some_iff.mp h
        refine ⟨e, he, ?_⟩
        obtain ⟨path, -, h⟩ := Option.bind_eq_some_iff.mp h
        obtain ⟨first, -, h⟩ := Option.bind_eq_some_iff.mp h
        split at h
        · obtain rfl := Option.some.inj h
          exact ⟨rfl, rfl⟩
        · split at h
          · obtain rfl := Option.some.inj h
            exact ⟨rfl, rfl⟩
          · cases h
      · cases h
  obtain ⟨e, he, line_eq, function_eq⟩ := at_place
  refine ⟨line_eq, ?_⟩
  rw [function_eq]
  exact namedAround_of_nearestNamed? he

/-! ### Comparisons -/

/-- Whether a node stands for a number, by itself or as a constant. -/
def standsForNumber (constants : List (Text × Float)) (n : Node) : Bool :=
  match numeric constants n with
  | .ok (some _) => true
  | _ => false

/-- Whether a node compares two sides by size. -/
def isOrderComparison (n : Node) : Bool :=
  n.kind == "binary_expression" && ["<", "<=", ">", ">="].contains n.operator

/-- **The sites of comparisons**: the comparisons by size in functions with a name of which a side
is a number. -/
def isBoundary (constants : List (Text × Float)) (l : Located) : Bool :=
  isInNamed l && isOrderComparison l.node &&
    ["right", "left"].any fun side => (l.node.child? side).any (standsForNumber constants)

/-- **The sides of a comparison that are looked at**: the right one, and the left one if the right
one is no number. -/
def IsLookedAt (constants : List (Text × Float)) (n side : Node) : Prop :=
  n.child? "right" = some side ∨ n.child? "left" = some side ∧
    ∀ other, n.child? "right" = some other → numeric constants other = .ok none

/-- **A comparison at its site**, of the nearest function with a name: with the number on its right,
or, if there is none, with that on its left. -/
structure ComparesAt (constants : List (Text × Float)) (l : Located) (c : BoundaryComparison) :
    Prop where
  line_eq : c.line = l.node.line
  operator_eq : c.operator = l.node.operator
  around : ∃ f, NamedAround l f c.function
  number : ∃ side, IsLookedAt constants l.node side ∧ c.operand = side.compact ∧
    numeric constants side = .ok (some c.value)

section

variable {constants : List (Text × Float)}

theorem firstNumeric_cons (n : Node) (rest : List Node) :
    firstNumeric constants (n :: rest) = (numeric constants n).bind fun
      | some x => .ok (some (n, x))
      | none => firstNumeric constants rest := by
  rw [firstNumeric]
  rfl

/-- The sides before the first number are looked at, and this one. -/
theorem isLookedAt_of_append {n side : Node} {before after : List Node}
    (h : (n.child? "right").toList ++ (n.child? "left").toList = before ++ side :: after)
    (passed : ∀ other ∈ before, numeric constants other = .ok none) :
    IsLookedAt constants n side := by
  have sole {left : Option Node} {before after : List Node}
      (h : left.toList = before ++ side :: after) : left = some side := by
    have mem : side ∈ left.toList := by
      rw [h]
      exact List.mem_append_right _ List.mem_cons_self
    exact Option.mem_toList.mp mem
  cases hRight : n.child? "right" with
  | none =>
    rw [hRight, Option.toList_none, List.nil_append] at h
    exact .inr ⟨sole h, fun other hOther => absurd (hRight.symm.trans hOther) nofun⟩
  | some right =>
    rw [hRight, Option.toList_some, List.singleton_append] at h
    cases before with
    | nil => exact .inl (by rw [hRight, (List.cons.inj h).1])
    | cons first before =>
      obtain ⟨rfl, left_eq⟩ := List.cons.inj h
      refine .inr ⟨sole left_eq, fun other hOther => ?_⟩
      obtain rfl : right = other := Option.some.inj (hRight.symm.trans hOther)
      exact passed right List.mem_cons_self

variable (constants) in
/-- **What the search for a number comes to**: the first side that is one, or a side before it that
has no value. -/
theorem firstNumeric_cases (ns : List Node) :
    (firstNumeric constants ns = .ok none ∧ ∀ n ∈ ns, numeric constants n = .ok none) ∨
    ∃ before side after, ns = before ++ side :: after ∧
      (∀ n ∈ before, numeric constants n = .ok none) ∧
      ((∃ value, numeric constants side = .ok (some value) ∧
          firstNumeric constants ns = .ok (some (side, value))) ∨
        numeric constants side = .error {} ∧ firstNumeric constants ns = .error {}) := by
  induction ns with
  | nil => exact .inl ⟨rfl, nofun⟩
  | cons n rest ih =>
    rw [firstNumeric_cons]
    cases hn : numeric constants n with
    | error e => exact .inr ⟨[], n, rest, rfl, nofun, .inr ⟨hn, rfl⟩⟩
    | ok found =>
      cases found with
      | some value => exact .inr ⟨[], n, rest, rfl, nofun, .inl ⟨value, hn, rfl⟩⟩
      | none =>
        rcases ih with ⟨hNone, passed⟩ | ⟨before, side, after, rfl, passed, found⟩
        · exact .inl ⟨hNone, List.forall_mem_cons.mpr ⟨hn, passed⟩⟩
        · exact .inr ⟨n :: before, side, after, rfl, List.forall_mem_cons.mpr ⟨hn, passed⟩, found⟩

variable (constants) in
/-- **What a comparison comes to** in a function with a name: nothing if no side is a number, and
else the first side that is looked at and is more than no number settles it. It is one, or it has no
value, and then there is no answer. -/
theorem comparison?_cases {l : Located} (hOrder : isOrderComparison l.node = true) {e : Enclosing}
    (he : nearestNamed? l = some e) :
    (comparison? constants l = .ok none ∧ ∀ side,
      l.node.child? "right" = some side ∨ l.node.child? "left" = some side →
        numeric constants side = .ok none) ∨
    ∃ side, IsLookedAt constants l.node side ∧
      ((∃ value, numeric constants side = .ok (some value) ∧
          comparison? constants l =
            .ok (some { function := e.name, operator := l.node.operator, operand := side.compact
                        value, line := l.node.line })) ∨
        numeric constants side = .error {} ∧ comparison? constants l = .error {}) := by
  have compared : comparison? constants l =
      (firstNumeric constants ((l.node.child? "right").toList ++
        (l.node.child? "left").toList)).map fun found => found.map fun number =>
          { function := e.name, operator := l.node.operator, operand := number.1.compact
            value := number.2, line := l.node.line } := by
    rw [isOrderComparison] at hOrder
    rw [comparison?]
    dsimp only
    rw [if_pos hOrder, he]
    dsimp only
    cases firstNumeric constants
      ((l.node.child? "right").toList ++ (l.node.child? "left").toList) <;> rfl
  rcases firstNumeric_cases constants
    ((l.node.child? "right").toList ++ (l.node.child? "left").toList) with
    ⟨hNone, passed⟩ | ⟨before, side, after, hSides, passed, found⟩
  · refine .inl ⟨by rw [compared, hNone]; rfl, fun side hSide => passed side ?_⟩
    rw [List.mem_append, Option.mem_toList, Option.mem_toList]
    exact hSide
  · refine .inr ⟨side, isLookedAt_of_append hSides passed, ?_⟩
    rcases found with ⟨value, hValue, hFound⟩ | ⟨hBeyond, hFound⟩
    · exact .inl ⟨value, hValue, by rw [compared, hFound]; rfl⟩
    · exact .inr ⟨hBeyond, by rw [compared, hFound]; rfl⟩

/-- Where no comparison by size stands in a function with a name, there is none to report. -/
theorem comparison?_of_not {l : Located}
    (h : (isInNamed l && isOrderComparison l.node) = false) :
    comparison? constants l = .ok none := by
  rw [comparison?]
  dsimp only
  split
  · next hOrder =>
    have not_named : isInNamed l = false := by
      rw [isOrderComparison, hOrder, Bool.and_true] at h
      exact h
    rw [← isSome_nearestNamed?, Option.isSome_eq_false_iff, Option.isNone_iff_eq_none] at not_named
    rw [not_named]
  · rfl

/-- What is looked at is a side. -/
theorem IsLookedAt.side {n side : Node} (h : IsLookedAt constants n side) :
    n.child? "right" = some side ∨ n.child? "left" = some side :=
  h.imp_right And.left

/-- Of two sides that are looked at one is no number. -/
theorem IsLookedAt.eq_of_ne {n side other : Node} (h : IsLookedAt constants n side)
    (h' : IsLookedAt constants n other) (hSide : numeric constants side ≠ .ok none)
    (hOther : numeric constants other ≠ .ok none) : side = other := by
  rcases h with hRight | ⟨hLeft, passed⟩
  · rcases h' with hRight' | ⟨-, passed'⟩
    · exact Option.some.inj (hRight.symm.trans hRight')
    · exact absurd (passed' side hRight) hSide
  · rcases h' with hRight' | ⟨hLeft', -⟩
    · exact absurd (passed other hRight') hOther
    · exact Option.some.inj (hLeft.symm.trans hLeft')

theorem standsForNumber_iff {n : Node} :
    standsForNumber constants n = true ↔ ∃ x, numeric constants n = .ok (some x) := by
  unfold standsForNumber
  split
  · next x hx => exact iff_of_true rfl ⟨x, hx⟩
  · next other => exact iff_of_false Bool.false_ne_true fun ⟨x, hx⟩ => other x hx

theorem isBoundary_iff {l : Located} :
    isBoundary constants l = true ↔ (isInNamed l && isOrderComparison l.node) = true ∧
      ∃ side, (l.node.child? "right" = some side ∨ l.node.child? "left" = some side) ∧
        ∃ x, numeric constants side = .ok (some x) := by
  rw [isBoundary, Bool.and_eq_true, List.any_cons, List.any_cons, List.any_nil, Bool.or_false,
    Bool.or_eq_true, Option.any_eq_true, Option.any_eq_true]
  simp only [standsForNumber_iff, or_and_right, exists_or]

theorem exists_nearestNamed? {l : Located}
    (h : (isInNamed l && isOrderComparison l.node) = true) :
    isOrderComparison l.node = true ∧ ∃ e, nearestNamed? l = some e := by
  rw [Bool.and_eq_true, ← isSome_nearestNamed?, Option.isSome_iff_exists] at h
  exact h.symm

/-- **Just the sites of comparisons** give one, where there is an answer. -/
theorem isSome_of_comparison? {l : Located} {found : Option BoundaryComparison}
    (h : comparison? constants l = .ok found) : found.isSome = isBoundary constants l := by
  rw [Bool.eq_iff_iff, isBoundary_iff]
  by_cases eligible : (isInNamed l && isOrderComparison l.node) = true
  · obtain ⟨hOrder, e, he⟩ := exists_nearestNamed? eligible
    rcases comparison?_cases constants hOrder he with
      ⟨hNone, passed⟩ | ⟨side, hSide, ⟨value, hValue, hSome⟩ | ⟨-, hError⟩⟩
    · obtain rfl : none = found := Except.ok.inj (hNone.symm.trans h)
      refine iff_of_false Bool.false_ne_true ?_
      rintro ⟨-, side, hSide, x, hx⟩
      exact absurd ((passed side hSide).symm.trans hx) nofun
    · obtain rfl := Except.ok.inj (hSome.symm.trans h)
      exact iff_of_true rfl ⟨eligible, side, hSide.side, value, hValue⟩
    · exact absurd (hError.symm.trans h) nofun
  · rw [comparison?_of_not (Bool.eq_false_iff.mpr eligible)] at h
    obtain rfl := Except.ok.inj h
    exact iff_of_false Bool.false_ne_true fun site => eligible site.1

theorem comparesAt_of_comparison? {l : Located} {c : BoundaryComparison}
    (h : comparison? constants l = .ok (some c)) : ComparesAt constants l c := by
  have site := isBoundary_iff.mp (isSome_of_comparison? h).symm
  obtain ⟨hOrder, e, he⟩ := exists_nearestNamed? site.1
  rcases comparison?_cases constants hOrder he with
    ⟨hNone, -⟩ | ⟨side, hSide, ⟨value, hValue, hSome⟩ | ⟨-, hError⟩⟩
  · exact absurd (hNone.symm.trans h) nofun
  · obtain rfl := Option.some.inj (Except.ok.inj (hSome.symm.trans h))
    exact ⟨rfl, rfl, namedAround_of_nearestNamed? he, side, hSide, rfl, hValue⟩
  · exact absurd (hError.symm.trans h) nofun

variable (constants) in
theorem numeric_eq_error_iff {n : Node} :
    numeric constants n = .error {} ↔ n.numberValue = .error {} := by
  rw [numeric]
  cases n.numberValue with
  | error e => exact iff_of_true rfl rfl
  | ok found =>
    refine iff_of_false (fun h => ?_) (fun h => ?_)
    · cases found <;> cases h
    · cases h

/-- **A comparison has no answer** exactly if a side that is looked at has no value. -/
theorem comparison?_eq_error_iff {l : Located} :
    comparison? constants l = .error {} ↔ isInNamed l = true ∧ isOrderComparison l.node = true ∧
      ∃ side, IsLookedAt constants l.node side ∧ side.numberValue = .error {} := by
  rw [← and_assoc, ← Bool.and_eq_true]
  by_cases eligible : (isInNamed l && isOrderComparison l.node) = true
  · obtain ⟨hOrder, e, he⟩ := exists_nearestNamed? eligible
    simp only [eligible, true_and, ← numeric_eq_error_iff constants]
    rcases comparison?_cases constants hOrder he with
      ⟨hNone, passed⟩ | ⟨side, hSide, ⟨value, hValue, hSome⟩ | ⟨hBeyond, hError⟩⟩
    · rw [hNone]
      refine iff_of_false nofun ?_
      rintro ⟨side, hSide, hBeyond⟩
      exact absurd ((passed side hSide.side).symm.trans hBeyond) nofun
    · rw [hSome]
      refine iff_of_false nofun ?_
      rintro ⟨other, hOther, hBeyond⟩
      obtain rfl : side = other :=
        hSide.eq_of_ne hOther (by rw [hValue]; exact nofun) (by rw [hBeyond]; exact nofun)
      exact absurd (hValue.symm.trans hBeyond) nofun
    · exact iff_of_true hError ⟨side, hSide, hBeyond⟩
  · rw [comparison?_of_not (Bool.eq_false_iff.mpr eligible)]
    exact iff_of_false nofun fun h => eligible h.1

end

/-! ### Ways out -/

/-- Whether a node has a body that is no block of statements. -/
def hasExpressionBody (n : Node) : Bool :=
  n.body?.any (·.kind != "statement_block")

/-- **The sites of ways out**: the returns of which the nearest function has a name, and the
functions with a name that consist of an expression. -/
def isExit (l : Located) : Bool :=
  l.node.kind == "return_statement" &&
      (l.ancestors.find? (·.node.isFunction)).any (fun f => (functionName? f).isSome) ||
    l.node.isFunction && (functionName? l).isSome && hasExpressionBody l.node

/-- **A way out at its site**: a return of the nearest function, or the body of a function. -/
inductive ExitsAt (l : Located) (r : ReturnPath) : Prop where
  | statement {f : Located} (kind_eq : l.node.kind = "return_statement")
      (around : FunctionAround l f) (name_eq : functionName? f = some r.function)
      (line_eq : r.line = l.node.line)
  | body {body : Node} (isFunction : l.node.isFunction = true)
      (name_eq : functionName? l = some r.function) (body_eq : l.node.body? = some body)
      (expression : body.kind ≠ "statement_block") (line_eq : r.line = body.line)

theorem isSome_return? (l : Located) : (return? l).isSome = isExit l := by
  unfold return? isExit hasExpressionBody
  cases hKind : l.node.kind == "return_statement" with
  | true =>
    have no_function : l.node.isFunction = false := by
      simp [Node.isFunction, Node.isOneOf, Node.functionKinds, beq_iff_eq.mp hKind]
    rw [if_pos rfl, Option.isSome_map, no_function, nearest?]
    cases l.ancestors.find? (·.node.isFunction) with
    | none => rfl
    | some f => cases hName : functionName? f <;> simp [hName]
  | false =>
    rw [if_neg Bool.false_ne_true, Bool.false_and, Bool.false_or]
    cases l.node.isFunction with
    | false => rfl
    | true =>
      cases functionName? l with
      | none => rfl
      | some name =>
        cases l.node.body? with
        | none => rfl
        | some body =>
          simp only [if_true, Option.bind_eq_bind, Option.bind_some, Option.filter_some,
            Option.isSome_some, Option.any_some, Bool.and_true]
          cases body.kind != "statement_block" <;> rfl

theorem exitsAt_of_return? {l : Located} {r : ReturnPath} (h : return? l = some r) :
    ExitsAt l r := by
  unfold return? at h
  split at h
  · next hKind =>
    obtain ⟨e, he, rfl⟩ := Option.map_eq_some_iff.mp h
    obtain ⟨f, around, hName⟩ := functionAround_of_nearest? he
    exact .statement (beq_iff_eq.mp hKind) around hName rfl
  · split at h
    · next isFunction =>
      obtain ⟨name, hName, h⟩ := Option.bind_eq_some_iff.mp h
      obtain ⟨body, hBody, h⟩ := Option.bind_eq_some_iff.mp h
      obtain rfl := Option.some.inj h
      obtain ⟨hBody, expression⟩ := Option.filter_eq_some_iff.mp hBody
      exact .body isFunction hName hBody (by simpa using expression) rfl
    · cases h

/-! ### The facts of a tree -/

section

variable {ε α β : Type} {f : α → Except ε (Option β)} {xs : List α}

theorem gather_eq_error_iff [Subsingleton ε] {e : ε} :
    gather f xs = .error e ↔ ∃ x ∈ xs, f x = .error e := by
  rw [gather, map_eq_error, mapM_eq_error_iff]

end

/-- The declarators of the constants of a file. -/
def constantDeclarators (root : Node) : List Node :=
  (constantDeclarations root).flatMap (·.namedChildren)

/-- **A constant of a file is too large**: its numeral has no value. -/
def HasConstantBeyond (root : Node) : Prop :=
  ∃ d ∈ constantDeclarators root, d.kind = "variable_declarator" ∧
    ∃ value, d.child? "value" = some value ∧ value.numberValue = .error {}

/-- **A comparison of a file is with a number that is too large**: a side of it that is looked at
has no value. -/
def HasComparisonBeyond (constants : List (Text × Float)) (root : Node) : Prop :=
  ∃ l ∈ root.places [], isInNamed l = true ∧ isOrderComparison l.node = true ∧
    ∃ side, IsLookedAt constants l.node side ∧ side.numberValue = .error {}

theorem constant?_eq_error_iff {d : Node} :
    constant? d = .error {} ↔ d.kind = "variable_declarator" ∧
      ∃ value, d.child? "value" = some value ∧ value.numberValue = .error {} := by
  unfold constant?
  by_cases hKind : d.kind = "variable_declarator"
  · cases hValue : d.child? "value" with
    | none => simp [hKind, pure, Except.pure, bind, Except.bind]
    | some value =>
      cases hNumber : value.numberValue <;>
        simp [hKind, hNumber, pure, Except.pure, bind, Except.bind]
  · simp [hKind, pure, Except.pure]

theorem constantsOf_eq_error_iff {root : Node} :
    constantsOf root = .error {} ↔ HasConstantBeyond root := by
  rw [constantsOf_eq, map_eq_error, gather_eq_error_iff]
  simp only [constant?_eq_error_iff]
  rfl

/-- **A tree has no facts** exactly if a number that is looked at is too large. -/
theorem ofTree_eq_tooLarge_iff {tree : Tree} :
    ofTree tree = .error {} ↔ HasConstantBeyond tree.root ∨
      ∃ constants, constantsOf tree.root = .ok constants ∧
        HasComparisonBeyond constants tree.root := by
  rw [ofTree_eq, map_eq_error, comparisonsOf, ← constantsOf_eq_error_iff]
  cases hConstants : constantsOf tree.root with
  | error e => exact iff_of_true rfl (.inl rfl)
  | ok constants =>
    show gather (comparison? constants) (tree.root.places []) = .error {} ↔ _
    rw [gather_eq_error_iff]
    simp only [comparison?_eq_error_iff]
    refine ⟨fun h => .inr ⟨constants, rfl, h⟩, ?_⟩
    rintro (h | ⟨_, hOk, h⟩)
    · cases h
    · rwa [← Except.ok.inj hOk] at h

/-- **The facts of a source file stand at their sites.** The walk of a tree goes through the places
below its root, a place before those of its children and these in their order. If a number that is
looked at is too large for a double, there are no facts. Otherwise failures, comparisons and ways
out are those of their sites, one for each and in their order, each of the function around its site:
of the nearest one with a name, but a return of the nearest one at all. -/
theorem facts_of_syntax (tree : Tree) :
    (∀ l, l ∈ tree.root.places [] ↔ Located.Below { node := tree.root } l) ∧
      (∀ l : Located,
        l.places = l :: l.node.children.flatMap fun m => Located.places ⟨m, l.node :: l.above⟩) ∧
      (ofTree tree = .error {} ↔ HasConstantBeyond tree.root ∨
        ∃ constants, constantsOf tree.root = .ok constants ∧
          HasComparisonBeyond constants tree.root) ∧
      ∀ facts, ofTree tree = .ok facts → ∃ constants, constantsOf tree.root = .ok constants ∧
        List.Forall₂ FailsAt ((tree.root.places []).filter isFailure) facts.throws ∧
        List.Forall₂ (ComparesAt constants) ((tree.root.places []).filter (isBoundary constants))
          facts.comparisons ∧
        List.Forall₂ ExitsAt ((tree.root.places []).filter isExit) facts.returns := by
  refine ⟨fun l => @Located.mem_places_iff { node := tree.root } l, Located.places_eq,
    ofTree_eq_tooLarge_iff, fun facts hFacts => ?_⟩
  rw [ofTree_eq] at hFacts
  obtain ⟨comparisons, hComparisons, rfl⟩ := map_eq_ok.mp hFacts
  obtain ⟨constants, hConstants, hGather⟩ := bind_eq_ok.mp hComparisons
  refine ⟨constants, hConstants, ?_, ?_, ?_⟩
  · exact forall₂_filter_filterMap isSome_throw? (fun _ _ => failsAt_of_throw?) _
  · exact forall₂_filter_gather (fun _ _ => isSome_of_comparison?)
      (fun _ _ => comparesAt_of_comparison?) hGather
  · exact forall₂_filter_filterMap isSome_return? (fun _ _ => exitsAt_of_return?) _

end SourceFacts

end SuiteAudit
