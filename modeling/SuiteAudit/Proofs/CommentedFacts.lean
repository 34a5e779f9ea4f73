import SuiteAudit.Proofs.Comments
import SuiteAudit.Proofs.Numerals

/-!
# Comments in a source file

What a source file says does not change with its comments, with one exception: where the first named
child is taken, a comment may stand in its place. So a failure or a way out that opens with a
comment loses its error or its keys, and a declaration that does loses its constants. What is
certain all the same is `comments_inert`.
-/

namespace SuiteAudit

open Syntax

/-! ### Facts apart from where they stand -/

/-- A function apart from its line. -/
def FunctionSignature.unplaced (f : FunctionSignature) : FunctionSignature :=
  { f with line := 0 }

/-- A failure apart from its line and the condition that it quotes. -/
def ThrowSite.unplaced (t : ThrowSite) : ThrowSite :=
  { t with condition := "", line := 0 }

/-- A comparison apart from its line. -/
def BoundaryComparison.unplaced (b : BoundaryComparison) : BoundaryComparison :=
  { b with line := 0 }

/-- A way out apart from its line and the condition that it quotes. -/
def ReturnPath.unplaced (r : ReturnPath) : ReturnPath :=
  { r with condition := "", line := 0 }

/-- A change apart from its line. -/
def SideEffect.unplaced (e : SideEffect) : SideEffect :=
  { e with line := 0 }

namespace SourceFacts

/-! ### Functions -/

section

variable (o : Option Node)

@[simp] theorem filter_kind_bare (kind : String) :
    (o.map Node.bare).filter (·.kind == kind) = (o.filter (·.kind == kind)).map Node.bare := by
  cases o with
  | none => rfl
  | some n => by_cases h : n.kind = kind <;> simp [Option.filter, h]

@[simp] theorem map_text_bare :
    (o.map Node.bare).map (Text.ofString ·.text) = o.map (Text.ofString ·.text) := by
  rw [Option.map_map]
  congr 1
  exact funext fun n => congrArg _ n.text_bare

end

section

variable (n : Node)

@[simp] theorem declaredName?_bare : declaredName? n.bare = declaredName? n := by
  rw [declaredName?, Node.child?_bare n (by decide), map_text_bare, declaredName?]

@[simp] theorem keyName?_bare : keyName? n.bare = keyName? n := by
  rw [keyName?, Node.child?_bare n (by decide), Node.child?_bare n (by decide), keyName?]
  cases n.child? "key" <;> cases n.child? "property" <;> simp

@[simp] theorem nameFromParent?_bare : nameFromParent? n.bare = nameFromParent? n := by
  have variable_eq : (((n.child? "name").map Node.bare).filter (·.kind == "identifier")).map
      (Text.ofString ·.text) =
        ((n.child? "name").filter (·.kind == "identifier")).map (Text.ofString ·.text) := by
    rw [filter_kind_bare, map_text_bare]
  have member_eq : (((n.child? "left").map Node.bare).filter (·.kind == "member_expression")).map
      (Text.ofString <| ·.childText "property") =
        ((n.child? "left").filter (·.kind == "member_expression")).map
          (Text.ofString <| ·.childText "property") := by
    rw [filter_kind_bare, Option.map_map]
    congr 1
    exact funext fun m => congrArg Text.ofString (m.childText_bare (by decide))
  simp only [nameFromParent?, Node.kind_bare, Node.isOneOf_bare, keyName?_bare,
    @Node.child?_bare n "name" (by decide),
    @Node.child?_bare n "left" (by decide), variable_eq, member_eq]

end

section

variable (l : Located)

@[simp] theorem functionName?_bare : functionName? l.bare = functionName? l := by
  rw [functionName?, Located.node_bare, Node.isOneOf_bare, declaredName?_bare, Located.parent?_bare,
    Option.bind_map, functionName?]
  congr 2
  exact funext nameFromParent?_bare

@[simp] theorem ownerClass_bare : ownerClass l.bare = ownerClass l := by
  rw [ownerClass, Located.above_bare, List.find?_map, ownerClass]
  simp only [Function.comp_def, Node.isOneOf_bare]
  cases l.above.find? (·.isOneOf ["class_declaration", "class", "abstract_class_declaration"]) with
  | none => rfl
  | some owner => exact congrArg Text.ofString (owner.childText_bare (by decide))

@[simp] theorem isExported_bare : isExported l.bare = isExported l := by
  rw [isExported, l.aboveUntil_bare fun n => n.isOneOf_bare _, List.any_map, isExported]
  congr 1
  exact funext fun n => by rw [Function.comp_apply, Node.kind_bare]

/-- A function around a place of the tree without comments. -/
def Enclosing.bare (e : Enclosing) : Enclosing :=
  { e with function := e.function.bare }

@[simp] theorem nearest?_bare : nearest? l.bare = (nearest? l).map Enclosing.bare := by
  simp only [nearest?, Located.ancestors_bare, List.find?_map, Function.comp_def,
    Located.node_bare, Node.isFunction_bare]
  cases l.ancestors.find? (·.node.isFunction) with
  | none => rfl
  | some function => cases h : functionName? function <;> simp [h, Enclosing.bare]

@[simp] theorem nearestNamed?_bare :
    nearestNamed? l.bare = (nearestNamed? l).map Enclosing.bare := by
  rw [nearestNamed?, Located.ancestors_bare, List.findSome?_map, nearestNamed?, List.map_findSome?]
  congr 1
  funext function
  rw [Function.comp_apply, Function.comp_apply, Located.node_bare, Node.isFunction_bare]
  split
  · cases h : functionName? function <;> simp [h, Enclosing.bare]
  · rfl

end

/-! ### Parameters -/

@[simp] theorem typeText_bare (n : Node) : typeText n.bare = typeText n := by
  rw [typeText, Node.text_bare, typeText]

@[simp] theorem typedParam_bare (n : Node) : typedParam n.bare = typedParam n := by
  have type_eq :
      ((n.child? "type").map Node.bare).map typeText = (n.child? "type").map typeText := by
    rw [Option.map_map]
    congr 1
    exact funext typeText_bare
  simp only [typedParam, @Node.child?_bare n "type" (by decide),
    @Node.child?_bare n "pattern" (by decide),
    @Node.child?_bare n "value" (by decide), type_eq, map_text_bare, Node.compact_bare,
    Node.kind_bare, Option.isSome_map]

@[simp] theorem param?_bare (n : Node) : param? n.bare = param? n := by
  simp [param?]

theorem param?_comment {n : Node} (h : n.kind = "comment") : param? n = none := by
  simp [param?, Node.isOneOf, h]

@[simp] theorem paramsOf_bare (n : Node) : paramsOf n.bare = paramsOf n := by
  rw [paramsOf, Node.child?_bare n (by decide), Node.child?_bare n (by decide), paramsOf]
  cases n.child? "parameters" with
  | none => cases n.child? "parameter" <;> simp
  | some params =>
    exact params.filterMap_namedChildren_bare param?_bare fun _ h => param?_comment h

theorem signature?_bare (l : Located) :
    (signature? l.bare).map FunctionSignature.unplaced =
      (signature? l).map FunctionSignature.unplaced := by
  simp only [signature?, Located.node_bare, Node.isFunction_bare, functionName?_bare, paramsOf_bare,
    isExported_bare, Node.isAsync_bare]
  split
  · rfl
  · cases functionName? l <;> rfl

/-! ### Failures -/

@[simp] theorem stringOf_bare (o : Option Node) : stringOf (o.map Node.bare) = stringOf o := by
  rw [stringOf, Option.bind_map, stringOf]
  congr 2
  exact funext Node.stringValue?_bare

@[simp] theorem describeError_bare (n : Node) : describeError n.bare = describeError n := by
  have own_eq : stringOf (some n.bare) = stringOf (some n) := stringOf_bare (some n)
  simp only [describeError, Node.kind_bare, Node.text_bare, Node.arguments_bare, List.head?_map,
    stringOf_bare, own_eq, @Node.childCompact_bare n "constructor" (by decide),
    @Node.childCompact_bare n "function" (by decide)]

theorem describeError_comment {n : Node} (h : n.kind = "comment") :
    describeError n = (("", "") : Text × Text) := by
  simp only [describeError, stringOf, Option.bind_some, Node.stringValue?, h]
  rfl

/-- **A failure whose error would be taken from a comment**: one stands first in it. -/
def ThrowsComment (n : Node) : Prop :=
  n.kind = "throw_statement" ∧ ∃ c, n.namedChildren.head? = some c ∧ c.kind = "comment"

section

variable (l : Located) (e : Enclosing)

theorem failureAt_bare (error : Option Node) :
    (failureAt l.bare e.bare (error.map Node.bare)).unplaced = (failureAt l e error).unplaced := by
  have error_eq : (error.map Node.bare).map describeError = error.map describeError := by
    rw [Option.map_map]
    congr 1
    exact funext describeError_bare
  rw [failureAt, error_eq, failureAt]
  rfl

theorem callFailure?_bare :
    (callFailure? l.bare e.bare).map ThrowSite.unplaced =
      (callFailure? l e).map ThrowSite.unplaced := by
  unfold callFailure?
  dsimp only
  rw [Located.node_bare, Node.calleePath?_bare, Node.arguments_bare, List.head?_map,
    List.getElem?_map, stringOf_bare]
  cases l.node.calleePath? with
  | none => rfl
  | some path =>
    cases l.node.arguments.head? with
    | none => rfl
    | some first =>
      simp only [Option.map_some, Option.bind_eq_bind, Option.bind_some, Node.kind_bare]
      split
      · rfl
      · split
        · exact congrArg some (failureAt_bare l e (some first))
        · rfl

end

theorem head?_namedChildren_of_heard {n : Node}
    (heard : ∀ c, n.namedChildren.head? = some c → c.kind ≠ "comment") :
    n.bare.namedChildren.head? = n.namedChildren.head?.map Node.bare :=
  Node.head?_namedChildren_bare fun c hc =>
    Bool.eq_false_iff.mpr fun hComment => heard c hc (Node.kind_of_isComment hComment)

/-- **The failure at a place** is the same in the tree without comments where its error is not taken
from a comment. -/
theorem throw?_bare {l : Located} (heard : ¬ ThrowsComment l.node) :
    (throw? l.bare).map ThrowSite.unplaced = (throw? l).map ThrowSite.unplaced := by
  rw [throw?, Located.node_bare, Node.kind_bare, nearestNamed?_bare, throw?]
  split
  · next hKind =>
    have first_eq := head?_namedChildren_of_heard fun c hc hComment =>
      heard ⟨beq_iff_eq.mp hKind, c, hc, hComment⟩
    rw [first_eq]
    cases nearestNamed? l with
    | none => rfl
    | some e => exact congrArg some (failureAt_bare l e _)
  · split
    · cases nearestNamed? l with
      | none => rfl
      | some e => exact callFailure?_bare l e
    · rfl

/-- Where it is, the failure says nothing, and is one of the same function. -/
theorem throw?_of_throwsComment {l : Located} (h : ThrowsComment l.node) {t : ThrowSite}
    (ht : throw? l = some t) : t.errorType = "" ∧ t.message = "" := by
  obtain ⟨hKind, c, hc, hComment⟩ := h
  rw [throw?, hKind, hc] at ht
  obtain ⟨e, -, rfl⟩ := Option.map_eq_some_iff.mp ht
  unfold failureAt
  rw [Option.map_some, describeError_comment hComment]
  exact ⟨rfl, rfl⟩

theorem map_function_throw?_bare (l : Located) :
    (throw? l.bare).map (·.function) = (throw? l).map (·.function) := by
  by_cases heard : ThrowsComment l.node
  · rw [throw?, throw?, Located.node_bare, Node.kind_bare, heard.1, nearestNamed?_bare]
    cases nearestNamed? l <;> rfl
  · have same := congrArg (Option.map (·.function)) (throw?_bare heard)
    rwa [Option.map_map, Option.map_map] at same

/-! ### Ways out -/

theorem unwrapped_comment {n : Node} (h : n.kind = "comment") : unwrapped n = n := by
  obtain ⟨label, children⟩ := n
  have other : ¬ (label.kind == "parenthesized_expression") = true := by
    rw [show label.kind = "comment" from h]
    decide
  rw [unwrapped, if_neg other]

mutual

/-- Parentheses enclose the same in the tree without comments, or a comment. -/
theorem unwrapped_bare : ∀ n : Node, (unwrapped n).kind = "comment" ∨
    unwrapped n.bare = (unwrapped n).bare
  | .mk label children => by
    have inside := unwrappedFirst_bareAll children
    rw [Node.bare, unwrapped, unwrapped]
    by_cases h : (label.kind == "parenthesized_expression") = true
    · rw [if_pos h, if_pos (show (label.bare.kind == "parenthesized_expression") = true from h)]
      rcases inside with ⟨m, hm, hComment⟩ | hSame
      · rw [hm]
        exact .inl hComment
      · rw [hSame]
        cases unwrappedFirst children with
        | none => exact .inr rfl
        | some m => exact .inr rfl
    · rw [if_neg h, if_neg (show ¬ (label.bare.kind == "parenthesized_expression") = true from h)]
      exact .inr rfl

theorem unwrappedFirst_bareAll : ∀ ns : List Node,
    (∃ m, unwrappedFirst ns = some m ∧ m.kind = "comment") ∨
      unwrappedFirst (Node.bareAll ns) = (unwrappedFirst ns).map Node.bare
  | [] => .inr rfl
  | n :: ns => by
    rw [Node.bareAll, unwrappedFirst]
    cases hComment : n.bare.isComment with
    | true =>
      rw [if_pos (Node.named_of_isComment hComment)]
      have hKind := Node.kind_of_isComment hComment
      exact .inl ⟨_, rfl, by rw [unwrapped_comment hKind, hKind]⟩
    | false =>
      rw [if_neg Bool.false_ne_true, unwrappedFirst, Node.named_bare]
      split
      · rcases unwrapped_bare n with hKind | hSame
        · exact .inl ⟨_, rfl, hKind⟩
        · rw [hSame]
          exact .inr rfl
      · exact unwrappedFirst_bareAll ns

end

theorem propertyName?_bare (n : Node) : propertyName? n.bare = propertyName? n := by
  rw [propertyName?, Node.kind_bare, Node.isOneOf_bare, Node.text_bare,
    Node.child?_bare n (by split <;> decide), Option.bind_map, propertyName?]
  congr 3
  funext key
  have string_eq : stringOf (some key.bare) = stringOf (some key) := stringOf_bare (some key)
  rw [Function.comp_apply, Node.kind_bare, Node.text_bare, string_eq]

theorem propertyName?_comment {n : Node} (h : n.kind = "comment") : propertyName? n = none := by
  simp [propertyName?, Node.isOneOf, h]

/-- **The properties of a returned value** are the same in the tree without comments where
parentheses do not open with one. -/
theorem objectKeys_bare {n : Node} (heard : (unwrapped n).kind ≠ "comment") :
    objectKeys n.bare = objectKeys n := by
  have value_eq := (unwrapped_bare n).resolve_left heard
  rw [objectKeys, value_eq, objectKeys, Node.kind_bare]
  split
  · exact (unwrapped n).filterMap_namedChildren_bare propertyName?_bare
      fun _ h => propertyName?_comment h
  · rfl

theorem objectKeys_of_comment {n : Node} (h : (unwrapped n).kind = "comment") :
    objectKeys n = [] := by
  rw [objectKeys, h]
  rfl

/-- The node that a way out returns. -/
def returned? (n : Node) : Option Node :=
  if n.kind == "return_statement" then n.namedChildren.head?
  else if n.isFunction then n.body?
  else none

/-- **A way out whose keys would be taken from a comment**: one stands first in it, or in its
parentheses. -/
def ReturnsComment (n : Node) : Prop :=
  ∃ value, returned? n = some value ∧ (unwrapped value).kind = "comment"

/-- **The way out at a place** is the same in the tree without comments where its keys are not taken
from a comment. -/
theorem return?_bare {l : Located} (heard : ¬ ReturnsComment l.node) :
    (return? l.bare).map ReturnPath.unplaced = (return? l).map ReturnPath.unplaced := by
  have heard_value : ∀ value, returned? l.node = some value → (unwrapped value).kind ≠ "comment" :=
    fun value hValue hComment => heard ⟨value, hValue, hComment⟩
  rw [return?, Located.node_bare, Node.kind_bare, nearest?_bare, return?]
  rw [returned?] at heard_value
  split
  · next hKind =>
    rw [if_pos hKind] at heard_value
    have keys_eq : l.node.bare.namedChildren.head?.map objectKeys =
        l.node.namedChildren.head?.map objectKeys := by
      rw [head?_namedChildren_of_heard fun c hc hComment =>
        heard_value c hc (by rw [unwrapped_comment hComment, hComment])]
      cases hFirst : l.node.namedChildren.head? with
      | none => rfl
      | some value => exact congrArg some (objectKeys_bare (heard_value value hFirst))
    rw [keys_eq]
    cases nearest? l <;> rfl
  · next hKind =>
    rw [if_neg hKind] at heard_value
    rw [Node.isFunction_bare, functionName?_bare, Node.body?_bare]
    split
    · next hFunction =>
      rw [if_pos hFunction] at heard_value
      cases functionName? l with
      | none => rfl
      | some name =>
        cases hBody : l.node.body? with
        | none => rfl
        | some body =>
          have keys_eq := objectKeys_bare (heard_value body hBody)
          simp only [Option.map_some, Option.bind_eq_bind, Option.bind_some, Option.filter,
            Node.kind_bare]
          split
          · rw [Option.bind_some, keys_eq]
            rfl
          · rfl
    · rfl

theorem return?_of_returnsComment {l : Located} (h : ReturnsComment l.node) {r : ReturnPath}
    (hr : return? l = some r) : r.keys = [] := by
  obtain ⟨value, hValue, hComment⟩ := h
  have no_keys := objectKeys_of_comment hComment
  rw [returned?] at hValue
  rw [return?] at hr
  split at hValue
  · next hKind =>
    rw [if_pos hKind, hValue] at hr
    obtain ⟨e, -, rfl⟩ := Option.map_eq_some_iff.mp hr
    exact no_keys
  · next hKind =>
    rw [if_neg hKind] at hr
    split at hValue
    · next hFunction =>
      rw [if_pos hFunction, hValue] at hr
      simp only [Option.bind_eq_bind, Option.bind_eq_some_iff] at hr
      obtain ⟨name, -, body, hBody, hr⟩ := hr
      obtain rfl : value = body := Option.some.inj (Option.filter_eq_some_iff.mp hBody).1
      obtain rfl := Option.some.inj hr
      exact no_keys
    · cases hValue

theorem map_function_return?_bare (l : Located) :
    (return? l.bare).map (·.function) = (return? l).map (·.function) := by
  rw [return?, Located.node_bare, Node.kind_bare, nearest?_bare, Node.isFunction_bare,
    functionName?_bare, Node.body?_bare, return?]
  split
  · cases nearest? l <;> rfl
  · split
    · cases functionName? l with
      | none => rfl
      | some name =>
        cases l.node.body? with
        | none => rfl
        | some body =>
          simp only [Option.map_some, Option.bind_eq_bind, Option.bind_some, Option.filter,
            Node.kind_bare]
          split <;> rfl
    · rfl

/-! ### Changes -/

@[simp] theorem localNames_bare (n : Node) : localNames n.bare = localNames n := by
  rw [localNames, Node.body?_bare, localNames]
  cases n.body? with
  | none => rfl
  | some body =>
    rw [Option.map_some]
    dsimp only
    rw [List.filterMap_filter, List.filterMap_filter]
    apply Node.filterMap_nodes_bare
    · intro m
      rw [Node.kind_bare, Node.child?_bare m (by decide), filter_kind_bare, map_text_bare]
    · intro m hm
      simp [hm]

mutual

@[simp] theorem rootOf_bare : ∀ n : Node, rootOf n.bare = rootOf n
  | .mk label children => by
    have access_eq := (Node.mk label children).isAccess_bare
    have kind_eq := (Node.mk label children).isOneOf_bare ["identifier", "this"]
    rw [Node.bare] at access_eq kind_eq ⊢
    rw [rootOf, rootOf, access_eq, kind_eq, rootOfObject_bareAll children]
    rfl

theorem rootOfObject_bareAll : ∀ ns : List Node,
    rootOfObject (Node.bareAll ns) = rootOfObject ns
  | [] => rfl
  | n :: ns => by
    rw [Node.bareAll, rootOfObject]
    cases hComment : n.bare.isComment with
    | true =>
      rw [if_pos rfl, rootOfObject_bareAll ns, Node.field_of_isComment hComment]
      rfl
    | false =>
      rw [if_neg Bool.false_ne_true, rootOfObject, Node.field_bare, rootOf_bare n,
        rootOfObject_bareAll ns]

end

theorem assignedAccess?_bare (n : Node) :
    assignedAccess? n.bare = (assignedAccess? n).map Node.bare := by
  have access_eq (o : Option Node) :
      (o.map Node.bare).filter Node.isAccess = (o.filter Node.isAccess).map Node.bare := by
    cases o with
    | none => rfl
    | some m => cases h : m.isAccess <;> simp [Option.filter, h]
  rw [assignedAccess?, Node.isOneOf_bare, Node.kind_bare, Node.child?_bare n (by decide),
    Node.child?_bare n (by decide), assignedAccess?, ← access_eq]
  congr 1
  split
  · rfl
  · split <;> rfl

theorem isOutside_bare (e : Enclosing) (root : Text) :
    isOutside e.bare root = isOutside e root := by
  rw [isOutside, Enclosing.bare, localNames_bare, isOutside]

/-- **The change at a place** is the same in the tree without comments. -/
theorem sideEffect?_bare (l : Located) :
    (sideEffect? l.bare).map SideEffect.unplaced = (sideEffect? l).map SideEffect.unplaced := by
  have changes_eq (e : Enclosing) (path : List Text) :
      callChanges e.bare path = callChanges e path := by
    rw [callChanges, isOutside_bare, callChanges]
  unfold sideEffect?
  rw [Located.node_bare, Node.kind_bare, Node.calleePath?_bare, nearestNamed?_bare,
    assignedAccess?_bare]
  split
  · cases l.node.calleePath? with
    | none => rfl
    | some path =>
      cases nearestNamed? l with
      | none => rfl
      | some e =>
        simp only [Option.map_some, Option.bind_eq_bind, Option.bind_some, changes_eq]
        split <;> rfl
  · cases assignedAccess? l.node with
    | none => rfl
    | some target =>
      cases nearestNamed? l with
      | none => rfl
      | some e =>
        simp only [Option.map_some, Option.bind_eq_bind, Option.bind_some, rootOf_bare,
          isOutside_bare, Node.compact_bare]
        split <;> rfl

/-! ### Numbers -/

section

variable {ε α β γ : Type}

/-- What readings of a list give, those that give nothing left out. -/
def gather (f : α → Except ε (Option β)) (xs : List α) : Except ε (List β) :=
  (xs.mapM f).map (·.filterMap id)

variable (f : α → Except ε (Option β)) (xs : List α)

theorem gather_cons (x : α) :
    gather f (x :: xs) = (f x).bind fun found => (gather f xs).map (found.toList ++ ·) := by
  rw [gather, gather, List.mapM_cons]
  cases f x with
  | error e => rfl
  | ok found =>
    cases xs.mapM f with
    | error e => rfl
    | ok rest => cases found <;> rfl

theorem gather_map (h : γ → α) (ys : List γ) :
    gather f (ys.map h) = gather (fun y => f (h y)) ys := by
  rw [gather, gather, List.mapM_map]
  rfl

variable {f xs}

theorem gather_congr {g : α → Except ε (Option β)} (h : ∀ x ∈ xs, f x = g x) :
    gather f xs = gather g xs := by
  induction xs with
  | nil => rfl
  | cons x xs ih =>
    rw [gather_cons, gather_cons, h x List.mem_cons_self,
      ih fun y hy => h y (List.mem_cons_of_mem x hy)]

/-- What gives nothing may be left out. -/
theorem gather_filter {keep : α → Bool} (quiet : ∀ x, keep x = false → f x = .ok none) :
    gather f (xs.filter keep) = gather f xs := by
  induction xs with
  | nil => rfl
  | cons x xs ih =>
    rw [List.filter_cons, gather_cons f xs]
    cases h : keep x with
    | true => rw [if_pos rfl, gather_cons, ih]
    | false =>
      rw [if_neg Bool.false_ne_true, ih, quiet x h]
      cases gather f xs <;> rfl

theorem map_gather (g : β → γ) :
    (gather f xs).map (List.map g) = gather (fun x => (f x).map (Option.map g)) xs := by
  induction xs with
  | nil => rfl
  | cons x xs ih =>
    rw [gather_cons, gather_cons, ← ih]
    cases f x with
    | error e => rfl
    | ok found =>
      cases gather f xs with
      | error e => rfl
      | ok rest => cases found <;> rfl

end

theorem numeric_bare (constants : List (Text × Float)) (n : Node) :
    numeric constants n.bare = numeric constants n := by
  rw [numeric, Node.numberValue_bare, Node.kind_bare, Node.text_bare, numeric]

theorem firstNumeric_bare (constants : List (Text × Float)) (ns : List Node) :
    firstNumeric constants (ns.map Node.bare) =
      (firstNumeric constants ns).map (Option.map fun (n, x) => (n.bare, x)) := by
  induction ns with
  | nil => rfl
  | cons n ns ih =>
    rw [List.map_cons, firstNumeric, numeric_bare, ih, firstNumeric]
    cases numeric constants n with
    | error e => rfl
    | ok found => cases found <;> rfl

/-- **The comparison at a place** is the same in the tree without comments. -/
theorem comparison?_bare (constants : List (Text × Float)) (l : Located) :
    (comparison? constants l.bare).map (Option.map BoundaryComparison.unplaced) =
      (comparison? constants l).map (Option.map BoundaryComparison.unplaced) := by
  have sides_eq : (l.node.bare.child? "right").toList ++ (l.node.bare.child? "left").toList =
      ((l.node.child? "right").toList ++ (l.node.child? "left").toList).map Node.bare := by
    rw [Node.child?_bare _ (by decide), Node.child?_bare _ (by decide), List.map_append]
    cases l.node.child? "right" <;> cases l.node.child? "left" <;> rfl
  unfold comparison?
  dsimp only
  rw [Located.node_bare, Node.kind_bare, Node.operator_bare, nearestNamed?_bare, sides_eq,
    firstNumeric_bare]
  split
  · cases nearestNamed? l with
    | none => rfl
    | some e =>
      cases firstNumeric constants
          ((l.node.child? "right").toList ++ (l.node.child? "left").toList) with
      | error e => rfl
      | ok found =>
        cases found with
        | none => rfl
        | some side =>
          have operand_eq := side.1.compact_bare
          simp only [Except.map, bind, Except.bind, pure, Except.pure, Option.map_some, operand_eq]
          rfl
  · rfl

theorem constant?_bare (n : Node) : constant? n.bare = constant? n := by
  have value_eq : ((n.child? "value").map Node.bare).map Node.numberValue =
      (n.child? "value").map Node.numberValue := by
    rw [Option.map_map]
    congr 1
    exact funext Node.numberValue_bare
  rw [constant?, Node.kind_bare, Node.child?_bare n (by decide), Node.child?_bare n (by decide),
    value_eq, filter_kind_bare, map_text_bare, constant?]

theorem constant?_comment {n : Node} (h : n.kind = "comment") : constant? n = .ok none := by
  rw [constant?, h]
  rfl

/-- **A declaration whose kind of variable would be taken from a comment**: one stands first in
it. -/
def DeclaresComment (n : Node) : Prop :=
  n.kind = "lexical_declaration" ∧ ∃ c, n.children.head? = some c ∧ c.kind = "comment"

theorem declarationOf_bare (n : Node) : declarationOf n.bare = (declarationOf n).bare := by
  rw [declarationOf, Node.kind_bare, Node.child?_bare n (by decide), declarationOf]
  split
  · cases n.child? "declaration" <;> rfl
  · rfl

theorem declaresConstants_bare {n : Node} (heard : ¬ DeclaresComment n) :
    declaresConstants n.bare = declaresConstants n := by
  rw [declaresConstants, Node.kind_bare, Node.children_bare, declaresConstants]
  cases hKind : n.kind == "lexical_declaration" with
  | false => rfl
  | true =>
    cases hChildren : n.children with
    | nil => rfl
    | cons c cs =>
      have kept : ¬ c.bare.isComment = true := fun hComment =>
        heard ⟨beq_iff_eq.mp hKind, c, by rw [hChildren, List.head?_cons],
          Node.kind_of_isComment hComment⟩
      rw [Node.bareAll, if_neg kept]
      simp

theorem declaresConstants_comment {n : Node} (h : n.kind = "comment") :
    declaresConstants (declarationOf n) = false := by
  have own : declarationOf n = n := by
    rw [declarationOf, h]
    rfl
  rw [own, declaresConstants, h]
  rfl

/-- The declarations of constants in a file. -/
def constantDeclarations (root : Node) : List Node :=
  (root.namedChildren.map declarationOf).filter declaresConstants

theorem constantsOf_eq (root : Node) :
    constantsOf root =
      (gather constant? ((constantDeclarations root).flatMap (·.namedChildren))).map
        List.reverse := by
  unfold constantsOf gather constantDeclarations
  dsimp only
  cases ((((root.namedChildren.map declarationOf).filter declaresConstants).flatMap
    (·.namedChildren)).mapM constant?) <;> rfl

theorem mem_nodes_declarationOf {root statement : Node} (h : statement ∈ root.namedChildren) :
    declarationOf statement ∈ root.nodes := by
  have child : statement ∈ root.children := List.mem_of_mem_filter h
  apply Node.mem_nodes_of_mem_children _ child
  rw [declarationOf]
  split
  · cases hDeclaration : statement.child? "declaration" with
    | none => exact statement.mem_nodes_self
    | some declaration => exact Node.mem_nodes_of_child? hDeclaration
  · exact statement.mem_nodes_self

theorem constantDeclarations_bare {root : Node} (heard : ∀ n ∈ root.nodes, ¬ DeclaresComment n) :
    constantDeclarations root.bare = (constantDeclarations root).map Node.bare := by
  have own : ∀ statements : List Node,
      (∀ statement ∈ statements, ¬ DeclaresComment (declarationOf statement)) →
        (((statements.map Node.bare).filter (!·.isComment)).map declarationOf).filter
            declaresConstants =
          ((statements.map declarationOf).filter declaresConstants).map Node.bare := by
    intro statements h
    induction statements with
    | nil => rfl
    | cons statement rest ih =>
      have rest_eq := ih fun other hOther => h other (List.mem_cons_of_mem _ hOther)
      rw [List.map_cons, List.map_cons, List.filter_cons, List.filter_cons]
      cases hComment : statement.bare.isComment with
      | true =>
        rw [declaresConstants_comment (Node.kind_of_isComment hComment)]
        exact rest_eq
      | false =>
        have same := declaresConstants_bare (h statement List.mem_cons_self)
        simp only [Bool.not_false, if_true, List.map_cons, List.filter_cons, declarationOf_bare,
          same]
        split
        · rw [List.map_cons, rest_eq]
        · exact rest_eq
  rw [constantDeclarations, Node.namedChildren_bare, constantDeclarations]
  exact own _ fun statement h => heard _ (mem_nodes_declarationOf h)

/-- **The constants of a file** are the same in the tree without comments where no declaration opens
with one. -/
theorem constantsOf_bare {root : Node} (heard : ∀ n ∈ root.nodes, ¬ DeclaresComment n) :
    constantsOf root.bare = constantsOf root := by
  have declarators_eq : ((constantDeclarations root).map Node.bare).flatMap (·.namedChildren) =
      (((constantDeclarations root).flatMap (·.namedChildren)).map Node.bare).filter
        (!·.isComment) := by
    rw [List.flatMap_map, List.map_flatMap, List.filter_flatMap]
    exact List.flatMap_congr fun n _ => n.namedChildren_bare
  have quiet (n : Node) (h : (!n.bare.isComment) = false) : constant? n = .ok none :=
    constant?_comment (Node.kind_of_isComment (by simpa using h))
  rw [constantsOf_eq, constantsOf_eq, constantDeclarations_bare heard, declarators_eq,
    List.filter_map, gather_map]
  congr 1
  calc
    gather (fun n => constant? n.bare)
        (((constantDeclarations root).flatMap (·.namedChildren)).filter
          ((!·.isComment) ∘ Node.bare))
        = gather constant? (((constantDeclarations root).flatMap (·.namedChildren)).filter
            ((!·.isComment) ∘ Node.bare)) := gather_congr fun n _ => constant?_bare n
    _ = gather constant? ((constantDeclarations root).flatMap (·.namedChildren)) :=
        gather_filter quiet

/-- The comparisons of a tree. -/
def comparisonsOf (root : Node) : Except NumberTooLarge (List BoundaryComparison) := do
  let constants ← constantsOf root
  gather (comparison? constants) (root.places [])

theorem comparison?_comment {constants : List (Text × Float)} {l : Located}
    (h : l.node.kind = "comment") : comparison? constants l = .ok none := by
  rw [comparison?, h]
  rfl

/-- **The comparisons of a tree** are the same without comments where no declaration opens with
one. -/
theorem comparisonsOf_bare {root : Node} (heard : ∀ n ∈ root.nodes, ¬ DeclaresComment n) :
    (comparisonsOf root.bare).map (List.map BoundaryComparison.unplaced) =
      (comparisonsOf root).map (List.map BoundaryComparison.unplaced) := by
  rw [comparisonsOf, constantsOf_bare heard, comparisonsOf]
  cases constantsOf root with
  | error e => rfl
  | ok constants =>
    have places_eq := places_bare [] root
    rw [List.map_nil] at places_eq
    show (gather (comparison? constants) (root.bare.places [])).map _ =
      (gather (comparison? constants) (root.places [])).map _
    rw [map_gather, map_gather, places_eq, Node.places_eq_cons, ← List.map_cons, gather_map]
    have quiet (l : Located) (h : (!l.node.bare.isComment) = false) :
        (comparison? constants l).map (Option.map BoundaryComparison.unplaced) = .ok none := by
      rw [comparison?_comment (Node.kind_of_isComment (by simpa using h))]
      rfl
    rw [gather_congr fun l _ => comparison?_bare constants l, gather_cons, gather_cons,
      gather_filter quiet]

/-! ### Owners -/

/-- A method with the class that owns it. -/
def owned? (l : Located) : Option (Text × Text) :=
  if l.node.kind == "method_definition" then
    (functionName? l).map fun name => (name, ownerClass l)
  else none

theorem ownersOf_eq (places : List Located) :
    ownersOf places = ((places.filterMap owned?).filter (!·.2.isEmpty)).reverse := by
  unfold ownersOf owned?
  dsimp only
  rw [List.filterMap_filter]

theorem owned?_bare (l : Located) : owned? l.bare = owned? l := by
  rw [owned?, Located.node_bare, Node.kind_bare, functionName?_bare, ownerClass_bare, owned?]

/-! ### Narrowing -/

/-- The functions about which facts are kept, where a file has functions of these names. -/
def keeps (names imported : List Text) (owners : List (Text × Text)) : Text → Bool :=
  if imported.isEmpty || imported.contains "*" then fun _ => true
  else
    match names.filter (isImported imported owners) with
    | [] => fun _ => true
    | kept => (kept.contains ·)

/-- The facts about the functions that are kept. -/
def keeping (f : SourceFacts) (keep : Text → Bool) : SourceFacts :=
  { f with
    functions := f.functions.filter (keep ·.name)
    throws := f.throws.filter (keep ·.function)
    comparisons := f.comparisons.filter (keep ·.function)
    returns := f.returns.filter (keep ·.function)
    sideEffects := f.sideEffects.filter (keep ·.function) }

theorem narrow_eq (f : SourceFacts) (imported : List Text) (owners : List (Text × Text)) :
    f.narrow imported owners = f.keeping (keeps (f.functions.map (·.name)) imported owners) := by
  have all : f = f.keeping fun _ => true := by simp [keeping]
  unfold narrow keeps
  split
  · exact all
  · cases (f.functions.map (·.name)).filter (isImported imported owners) with
    | nil => exact all
    | cons name rest => rfl

/-! ### Comments that were put in -/

section

variable {n m : Node} (h : Commented n m)

include h

/-- The first named node stays first, or a comment comes first now. -/
theorem head?_namedChildren_of_commented {c : Node} (hc : n.namedChildren.head? = some c) :
    ∃ d, m.namedChildren.head? = some d ∧ (d.kind = "comment" ∨ Commented c d) :=
  h.children.head?_filter (fun same => same.named_eq)
    (fun comment => Node.named_of_isComment (Node.isComment_bare comment)) hc

theorem throwsComment_of_commented (hThrows : ThrowsComment n) : ThrowsComment m := by
  obtain ⟨hKind, c, hc, hComment⟩ := hThrows
  obtain ⟨d, hd, hFirst⟩ := head?_namedChildren_of_commented h hc
  refine ⟨h.kind_eq.trans hKind, d, hd, ?_⟩
  rcases hFirst with hFirst | same
  · exact hFirst
  · rw [same.kind_eq, hComment]

theorem declaresComment_of_commented (hDeclares : DeclaresComment n) : DeclaresComment m := by
  obtain ⟨hKind, c, hc, hComment⟩ := hDeclares
  have every (ns : List Node) : ns.filter (fun _ => true) = ns := by simp
  rw [← every n.children] at hc
  obtain ⟨d, hd, hFirst⟩ := h.children.head?_filter (fun _ => rfl) (fun _ => rfl) hc
  rw [every] at hd
  refine ⟨h.kind_eq.trans hKind, d, hd, ?_⟩
  rcases hFirst with hFirst | same
  · exact hFirst
  · rw [same.kind_eq, hComment]

end

mutual

/-- Parentheses that enclose a comment still enclose one. -/
theorem unwrapped_of_commented {n m : Node} : Commented n m → (unwrapped n).kind = "comment" →
    (unwrapped m).kind = "comment"
  | @Commented.node label other children others same below, h => by
    have kind_eq : other.kind = label.kind := (congrArg Label.kind same).symm
    rw [unwrapped] at h ⊢
    rw [kind_eq]
    by_cases hParen : (label.kind == "parenthesized_expression") = true
    · rw [if_pos hParen] at h ⊢
      cases hFirst : unwrappedFirst children with
      | none =>
        rw [hFirst] at h
        have other_kind : label.kind = "comment" := h
        rw [other_kind] at hParen
        exact absurd hParen (by decide)
      | some v =>
        rw [hFirst] at h
        obtain ⟨w, hw, hComment⟩ := unwrappedFirst_of_commented below hFirst h
        rw [hw]
        exact hComment
    · rw [if_neg hParen] at h ⊢
      exact kind_eq.trans h

theorem unwrappedFirst_of_commented {ns ms : List Node} {v : Node} : CommentedAll ns ms →
    unwrappedFirst ns = some v → v.kind = "comment" →
      ∃ w, unwrappedFirst ms = some w ∧ w.kind = "comment"
  | .nil, hv, _ => by cases hv
  | .keep (c := c) here rest, hv, hComment => by
    rw [unwrappedFirst] at hv ⊢
    rw [here.named_eq]
    cases hNamed : c.named with
    | true =>
      rw [hNamed, if_pos rfl] at hv
      obtain rfl : unwrapped c = v := Option.some.inj hv
      exact ⟨_, rfl, unwrapped_of_commented here hComment⟩
    | false =>
      rw [hNamed, if_neg Bool.false_ne_true] at hv
      exact unwrappedFirst_of_commented rest hv hComment
  | .insert comment rest, _, _ => by
    have hKind := Node.kind_of_leaf comment
    rw [unwrappedFirst, if_pos (Node.named_of_isComment (Node.isComment_bare comment))]
    exact ⟨_, rfl, by rw [unwrapped_comment hKind, hKind]⟩

end

theorem returnsComment_of_commented {n m : Node} (h : Commented n m) (hReturns : ReturnsComment n) :
    ReturnsComment m := by
  obtain ⟨value, hValue, hComment⟩ := hReturns
  -- What is returned is returned still, unless a comment is returned in its place.
  suffices h_value : ∃ w, returned? m = some w ∧ (w.kind = "comment" ∨ Commented value w) by
    obtain ⟨w, hw, hKind | same⟩ := h_value
    · exact ⟨w, hw, by rw [unwrapped_comment hKind, hKind]⟩
    · exact ⟨w, hw, unwrapped_of_commented same hComment⟩
  have function_eq : m.isFunction = n.isFunction := by
    rw [← m.isFunction_bare, ← h.bare_eq, n.isFunction_bare]
  rw [returned?] at hValue ⊢
  rw [h.kind_eq, function_eq]
  split at hValue
  · next hKind =>
    rw [if_pos hKind]
    exact head?_namedChildren_of_commented h hValue
  · next hKind =>
    rw [if_neg hKind]
    split at hValue
    · next hFunction =>
      rw [if_pos hFunction]
      obtain ⟨w, hw, same⟩ := h.children.find?_field (by decide) hValue
      exact ⟨w, hw, .inr same⟩
    · cases hValue

/-! ### Facts of a tree -/

/-- The facts of a tree, given its comparisons. -/
def factsWith (tree : Tree) (comparisons : List BoundaryComparison) : SourceFacts where
  available := true
  functions := (tree.root.places []).filterMap signature?
  throws := (tree.root.places []).filterMap throw?
  comparisons := comparisons
  returns := (tree.root.places []).filterMap return?
  sideEffects := (tree.root.places []).filterMap sideEffect?
  recovered := tree.recovered

/-- The functions of a tree about which facts are kept. -/
def keepsIn (root : Node) (imported : List Text) : Text → Bool :=
  keeps (((root.places []).filterMap signature?).map (·.name)) imported (ownersOf (root.places []))

theorem ofTree_eq (tree : Tree) : ofTree tree = (comparisonsOf tree.root).map (factsWith tree) := by
  rw [ofTree, comparisonsOf]
  cases constantsOf tree.root with
  | error e => rfl
  | ok constants =>
    show _ = (gather (comparison? constants) (tree.root.places [])).map (factsWith tree)
    rw [gather]
    simp only [bind, Except.bind]
    cases (tree.root.places []).mapM (comparison? constants) <;> rfl

/-- **What is read of a source file**: the facts of its tree, about the functions that are kept. -/
theorem read_eq {parse : Parser} {source : Content} {text : String}
    (hText : source.string? = some text) (imported : List Text) (path : Text) {tree : Tree}
    (hTree : parse ((Grammar.ofPath? path).getD .default) text = tree) :
    read parse (some source) imported path =
      (comparisonsOf tree.root).map fun comparisons =>
        (factsWith tree comparisons).keeping (keepsIn tree.root imported) := by
  rw [read, Option.bind_some, hText]
  dsimp only
  rw [hTree, ofTree_eq]
  cases comparisonsOf tree.root with
  | error e => rfl
  | ok comparisons => exact congrArg Except.ok (narrow_eq _ _ _)

section

variable {n m : Node} (h : Commented n m)

include h

theorem functions_of_commented :
    ((m.places []).filterMap signature?).map FunctionSignature.unplaced =
      ((n.places []).filterMap signature?).map FunctionSignature.unplaced := by
  apply h.map_filterMap_places_of_bare _ signature?_bare
  intro l hKind
  simp [signature?, Node.isFunction, Node.isOneOf, Node.functionKinds, hKind]

theorem owners_of_commented : ownersOf (m.places []) = ownersOf (n.places []) := by
  have owned_eq := h.map_filterMap_places_of_bare (g := id)
    (fun l hKind => by rw [owned?, hKind]; rfl) fun l => congrArg _ (owned?_bare l)
  rw [List.map_id, List.map_id] at owned_eq
  rw [ownersOf_eq, owned_eq, ownersOf_eq]

theorem keepsIn_of_commented (imported : List Text) : keepsIn m imported = keepsIn n imported := by
  have names_eq (functions : List FunctionSignature) :
      functions.map (·.name) = (functions.map FunctionSignature.unplaced).map (·.name) := by
    rw [List.map_map]
    rfl
  rw [keepsIn, names_eq, functions_of_commented h, ← names_eq, owners_of_commented h, keepsIn]

theorem sideEffects_of_commented :
    ((m.places []).filterMap sideEffect?).map SideEffect.unplaced =
      ((n.places []).filterMap sideEffect?).map SideEffect.unplaced := by
  apply h.map_filterMap_places_of_bare _ sideEffect?_bare
  intro l hKind
  simp [sideEffect?, assignedAccess?, Node.isOneOf, hKind]

theorem comparisons_of_commented (heard : ∀ k ∈ m.nodes, ¬ DeclaresComment k) :
    (comparisonsOf m).map (List.map BoundaryComparison.unplaced) =
      (comparisonsOf n).map (List.map BoundaryComparison.unplaced) := by
  rw [← comparisonsOf_bare heard,
    ← comparisonsOf_bare (h.forall_not declaresComment_of_commented heard), h.bare_eq]

end

theorem throw?_comment (l : Located) (h : l.node.kind = "comment") : throw? l = none := by
  simp [throw?, h]

theorem return?_comment (l : Located) (h : l.node.kind = "comment") : return? l = none := by
  simp [return?, Node.isFunction, Node.isOneOf, Node.functionKinds, h]

section

variable {l k : Located} (hNode : Commented l.node k.node) (hBare : l.bare = k.bare)

include hNode hBare

theorem throw?_of_commented (heard : ¬ ThrowsComment k.node) :
    (throw? k).map ThrowSite.unplaced = (throw? l).map ThrowSite.unplaced := by
  rw [← throw?_bare heard, ← hBare, throw?_bare fun h => heard (throwsComment_of_commented hNode h)]

theorem return?_of_commented (heard : ¬ ReturnsComment k.node) :
    (return? k).map ReturnPath.unplaced = (return? l).map ReturnPath.unplaced := by
  rw [← return?_bare heard, ← hBare,
    return?_bare fun h => heard (returnsComment_of_commented hNode h)]

/-- A failure is one of the same function, with the same error if no comment stands in its place. -/
theorem throw?_alike : Option.Rel
    (fun t other : ThrowSite => t.function = other.function ∧
      (t.errorType = other.errorType ∧ t.message = other.message ∨
        t.errorType = "" ∧ t.message = "")) (throw? k) (throw? l) := by
  by_cases heard : ThrowsComment k.node
  · have same : (throw? k).map (·.function) = (throw? l).map (·.function) := by
      rw [← map_function_throw?_bare k, ← hBare, map_function_throw?_bare]
    exact rel_of_map_eq (fun t other ht _ hSame => ⟨hSame, .inr (throw?_of_throwsComment heard ht)⟩)
      same
  · refine rel_of_map_eq (fun t other _ _ hSame => ⟨?_, .inl ⟨?_, ?_⟩⟩)
      (throw?_of_commented hNode hBare heard)
    · exact congrArg (·.function) hSame
    · exact congrArg (·.errorType) hSame
    · exact congrArg (·.message) hSame

theorem return?_alike : Option.Rel
    (fun r other : ReturnPath => r.function = other.function ∧
      (r.keys = other.keys ∨ r.keys = [])) (return? k) (return? l) := by
  by_cases heard : ReturnsComment k.node
  · have same : (return? k).map (·.function) = (return? l).map (·.function) := by
      rw [← map_function_return?_bare k, ← hBare, map_function_return?_bare]
    exact rel_of_map_eq
      (fun r other hr _ hSame => ⟨hSame, .inr (return?_of_returnsComment heard hr)⟩) same
  · refine rel_of_map_eq (fun r other _ _ hSame => ⟨?_, .inl ?_⟩)
      (return?_of_commented hNode hBare heard)
    · exact congrArg (·.function) hSame
    · exact congrArg (·.keys) hSame

end

/-- Facts about functions that are kept stay as they are, apart from their places. -/
theorem map_filter_keep {β : Type} (keep : Text → Bool) {name : β → Text} {g : β → β}
    (name_eq : ∀ b, name (g b) = name b) (xs : List β) :
    (xs.filter fun b => keep (name b)).map g = (xs.map g).filter fun b => keep (name b) := by
  rw [List.filter_map]
  congr 1
  exact List.filter_congr fun b _ => by rw [Function.comp_apply, name_eq]

end SourceFacts

open SourceFacts

/-- **Comments do not change the facts of a source file**, but for what is taken from a first child
that may be a comment. Whatever comments are put into a tree, the same functions are there and the
same changes, and as many failures and ways out of the same functions in the same order; what one of
them says can only be lost. Failures keep their errors where none opens with a comment, and ways out
their keys where no returned value does. Comparisons stay, and can be read or not alike, where no
declaration opens with one. -/
theorem comments_inert {parse : Parser} {source other : Content} {text commented : String}
    (hText : source.string? = some text) (hOther : other.string? = some commented)
    (imported : List Text) (path : Text) {tree after : Tree}
    (hTree : parse ((Grammar.ofPath? path).getD .default) text = tree)
    (hAfter : parse ((Grammar.ofPath? path).getD .default) commented = after)
    (h : Commented tree.root after.root) :
    ((∀ n ∈ after.root.nodes, ¬ DeclaresComment n) →
        (read parse (some other) imported path).map
            (fun facts => facts.comparisons.map BoundaryComparison.unplaced) =
          (read parse (some source) imported path).map
            fun facts => facts.comparisons.map BoundaryComparison.unplaced) ∧
      ∀ facts others, read parse (some source) imported path = .ok facts →
        read parse (some other) imported path = .ok others →
          others.functions.map FunctionSignature.unplaced =
              facts.functions.map FunctionSignature.unplaced ∧
            others.sideEffects.map SideEffect.unplaced =
              facts.sideEffects.map SideEffect.unplaced ∧
            List.Forall₂ (fun t before : ThrowSite => t.function = before.function ∧
              (t.errorType = before.errorType ∧ t.message = before.message ∨
                t.errorType = "" ∧ t.message = "")) others.throws facts.throws ∧
            List.Forall₂ (fun r before : ReturnPath => r.function = before.function ∧
              (r.keys = before.keys ∨ r.keys = [])) others.returns facts.returns ∧
            ((∀ n ∈ after.root.nodes, ¬ ThrowsComment n) →
              others.throws.map ThrowSite.unplaced = facts.throws.map ThrowSite.unplaced) ∧
            ((∀ n ∈ after.root.nodes, ¬ ReturnsComment n) →
              others.returns.map ReturnPath.unplaced = facts.returns.map ReturnPath.unplaced) := by
  rw [read_eq hText imported path hTree, read_eq hOther imported path hAfter,
    keepsIn_of_commented h imported]
  generalize keepsIn tree.root imported = keep
  refine ⟨fun heard => ?_, ?_⟩
  · have comparisons_eq := comparisons_of_commented h heard
    have kept (t : Tree) : ((comparisonsOf t.root).map fun comparisons =>
        (factsWith t comparisons).keeping keep).map
          (fun facts => facts.comparisons.map BoundaryComparison.unplaced) =
        ((comparisonsOf t.root).map (List.map BoundaryComparison.unplaced)).map
          (List.filter fun b => keep b.function) := by
      cases comparisonsOf t.root with
      | error e => rfl
      | ok comparisons =>
        have names_kept : ∀ b : BoundaryComparison, b.unplaced.function = b.function := fun _ => rfl
        exact congrArg Except.ok (map_filter_keep keep names_kept comparisons)
    rw [kept, kept, comparisons_eq]
  · intro facts others hFacts hOthers
    obtain ⟨comparisons, -, rfl⟩ := map_eq_ok.mp hFacts
    obtain ⟨comparisonsAfter, -, rfl⟩ := map_eq_ok.mp hOthers
    have every : ∀ k ∈ after.root.nodes, True := fun _ _ => trivial
    refine ⟨?_, ?_, ?_, ?_, fun heard => ?_, fun heard => ?_⟩
    · have names_kept : ∀ f : FunctionSignature, f.unplaced.name = f.name := fun _ => rfl
      refine (map_filter_keep keep names_kept _).trans ?_
      exact (congrArg _ (functions_of_commented h)).trans (map_filter_keep keep names_kept _).symm
    · have names_kept : ∀ e : SideEffect, e.unplaced.function = e.function := fun _ => rfl
      refine (map_filter_keep keep names_kept _).trans ?_
      exact (congrArg _ (sideEffects_of_commented h)).trans (map_filter_keep keep names_kept _).symm
    · have alike := Commented.forall₂_filterMap
        ⟨throw?_comment, fun hNode hBare _ => throw?_alike hNode hBare⟩ h every
      exact List.rel_filter (fun t before same => iff_of_eq (congrArg (keep · = true) same.1)) alike
    · have alike := Commented.forall₂_filterMap
        ⟨return?_comment, fun hNode hBare _ => return?_alike hNode hBare⟩ h every
      exact List.rel_filter (fun r before same => iff_of_eq (congrArg (keep · = true) same.1)) alike
    · have names_kept : ∀ t : ThrowSite, t.unplaced.function = t.function := fun _ => rfl
      have throws_eq := h.map_filterMap_places throw?_comment throw?_of_commented heard
      refine (map_filter_keep keep names_kept _).trans ?_
      exact (congrArg _ throws_eq).trans (map_filter_keep keep names_kept _).symm
    · have names_kept : ∀ r : ReturnPath, r.unplaced.function = r.function := fun _ => rfl
      have returns_eq := h.map_filterMap_places return?_comment return?_of_commented heard
      refine (map_filter_keep keep names_kept _).trans ?_
      exact (congrArg _ returns_eq).trans (map_filter_keep keep names_kept _).symm

/-- The tree of a function that throws, with some nodes in front of what it throws. -/
def throwingTree (front : List Node) : Tree :=
  let node (kind field text : String) (children : List Node) : Node :=
    .mk { kind, field, text } children
  let error := node "new_expression" "" "new RangeError('x')"
    [node "identifier" "constructor" "RangeError" [],
      node "arguments" "arguments" "('x')" [node "string" "" "'x'" []]]
  let thrown := node "throw_statement" "" "" (front ++ [error])
  { root := node "program" "" ""
      [node "function_declaration" "" ""
        [node "identifier" "name" "f" [], node "formal_parameters" "parameters" "()" [],
          node "statement_block" "body" "" [thrown]]] }

/-- A comment. -/
def lateComment : Node :=
  .mk { kind := "comment", text := "/* late */" } []

/-- A parser that sees a comment in a file of one text and none in others. -/
def throwingParser : Parser := fun _ text =>
  throwingTree (if text == "late" then [lateComment] else [])

theorem commented_throwingTree :
    Commented (throwingTree []).root (throwingTree [lateComment]).root :=
  .node rfl <| .keep (.node rfl <| .keep (.refl _) <| .keep (.refl _) <|
    .keep (.node rfl <| .keep (.node rfl <| .insert rfl (.refl _)) .nil) .nil) .nil

/-- A comment in front of what is thrown: the failure is still there, but says nothing any more. -/
theorem comments_inert_throw :
    ∃ facts others, read throwingParser (some (.text "")) [] "" = .ok facts ∧
      read throwingParser (some (.text "late")) [] "" = .ok others ∧
      facts.throws.map (·.errorType) = ["RangeError"] ∧ others.throws.map (·.errorType) = [""] ∧
      others.throws.length = facts.throws.length ∧
      others.functions.map FunctionSignature.unplaced =
        facts.functions.map FunctionSignature.unplaced := by
  have types : (read throwingParser (some (.text "")) [] "").toOption.map
        (fun f => f.throws.map (·.errorType)) = some (["RangeError"] : List Text) ∧
      (read throwingParser (some (.text "late")) [] "").toOption.map
        (fun f => f.throws.map (·.errorType)) = some ([""] : List Text) := by
    decide +kernel
  cases hFacts : read throwingParser (some (.text "")) [] "" with
  | error e =>
    rw [hFacts] at types
    cases types.1
  | ok facts =>
    cases hOthers : read throwingParser (some (.text "late")) [] "" with
    | error e =>
      rw [hOthers] at types
      cases types.2
    | ok others =>
      rw [hFacts, hOthers] at types
      obtain ⟨functions_eq, -, throws_alike, -⟩ :=
        (@comments_inert throwingParser (.text "") (.text "late") "" "late" (by decide +kernel)
          (by decide +kernel) [] "" _ _ rfl rfl commented_throwingTree).2 facts others hFacts
          hOthers
      exact ⟨facts, others, rfl, rfl, Option.some.inj types.1, Option.some.inj types.2,
        throws_alike.length_eq, functions_eq⟩

end SuiteAudit
