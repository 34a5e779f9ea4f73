import Mathlib.Data.List.Forall2
import SuiteAudit.Suite.Chain

/-!
# Chains that quote something else

Reading a chain goes by the names of its links and by the strings that follow `should`. What else is
passed to a link is only quoted, as a subject or as an argument. So chains whose links have the same
words, and quote texts that are related in some way, make assertions that are related in this way
and are the same otherwise (`alike_ofLinks`).
-/

namespace SuiteAudit

open Syntax

/-! ### What is alike -/

/-- **Assertions that quote related texts** and are the same otherwise. -/
structure Assertion.Alike (R : Text → Text → Prop) (a b : Assertion) : Prop where
  subject : R a.subject b.subject
  args : List.Forall₂ R a.args b.args
  rest : b = { a with subject := b.subject, args := b.args }

/-- Assertions that quote the same texts are the same. -/
theorem Assertion.Alike.eq {a b : Assertion} (h : a.Alike Eq b) : b = a := by
  have args_eq : a.args = b.args := by
    rw [← List.forall₂_eq_eq_eq]
    exact h.args
  rw [h.rest, ← args_eq, ← h.subject]

namespace Reading

/-- The string that an argument list begins with. -/
def chainer? (args : Node) : Option Text :=
  args.operands.head?.bind Node.stringValue?

/-- **Argument lists of related texts** that begin with the same string, if with any. -/
def ArgsAlike (R : Text → Text → Prop) (x y : Node) : Prop :=
  List.Forall₂ R (texts x) (texts y) ∧ chainer? y = chainer? x

/-- **Links that quote related texts** and have the same words. -/
structure LinkAlike (R : Text → Text → Prop) (a b : Link) : Prop where
  name_eq : b.name = a.name
  args : Option.Rel (ArgsAlike R) a.args b.args

/-- Links that are alike, one by one. -/
abbrev LinksAlike (R : Text → Text → Prop) : List Link → List Link → Prop :=
  List.Forall₂ (LinkAlike R)

/-- Readings whose assertions are alike, one by one. -/
def Alike (R : Text → Text → Prop) (x y : Reading) : Prop :=
  List.Forall₂ (Assertion.Alike R) x.assertions y.assertions

/-! ### Lists that are alike -/

section

variable {α β : Type} {S : α → β → Prop} {xs : List α} {ys : List β}

theorem forall₂_tail (h : List.Forall₂ S xs ys) : List.Forall₂ S xs.tail ys.tail := by
  cases h with
  | nil => exact .nil
  | cons _ rest => exact rest

/-- Lists that are alike end alike. -/
theorem forall₂_concat_cases (h : List.Forall₂ S xs ys) : xs = [] ∧ ys = [] ∨
    ∃ init last init' last', xs = init ++ [last] ∧ ys = init' ++ [last'] ∧
      List.Forall₂ S init init' ∧ S last last' := by
  rw [← List.forall₂_reverse_iff] at h
  cases hx : xs.reverse with
  | nil =>
    rw [hx, List.forall₂_nil_left_iff] at h
    exact .inl ⟨List.reverse_eq_nil_iff.mp hx, List.reverse_eq_nil_iff.mp h⟩
  | cons last init =>
    rw [hx, List.forall₂_cons_left_iff] at h
    obtain ⟨last', init', hLast, hInit, hy⟩ := h
    exact .inr ⟨init.reverse, last, init'.reverse, last', List.reverse_eq_cons_iff.mp hx,
      List.reverse_eq_cons_iff.mp hy, List.forall₂_reverse_iff.mpr hInit, hLast⟩

theorem isEmpty_of_forall₂ (h : List.Forall₂ S xs ys) : ys.isEmpty = xs.isEmpty := by
  cases h <;> rfl

end

section

variable {R : Text → Text → Prop} {links others : List Link} {x y : Node}

theorem rel_headD {xs ys : List Text} (hR : ∀ t, R t t) (h : List.Forall₂ R xs ys) :
    R (xs.headD "") (ys.headD "") := by
  cases h with
  | nil => exact hR _
  | cons here _ => exact here

/-- A single assertion is alike another one of the same words. -/
theorem alike_singleton {matcher : Text} {style : AssertionStyle} {subject subject' : Text}
    {args args' : List Text} {negated : Bool} {modifiers : List Text}
    {roles roles' : List ((Nat × Nat) × ArgsRole)} (hSubject : R subject subject')
    (hArgs : List.Forall₂ R args args') :
    Alike R { assertions := [{ matcher, style, subject, args, negated, modifiers }], roles }
      { assertions := [{ matcher, style, subject := subject', args := args', negated, modifiers }]
        roles := roles' } :=
  .cons ⟨hSubject, hArgs, rfl⟩ .nil

/-! ### Words of links that are alike -/

theorem names_of_alike (h : LinksAlike R links others) :
    others.map (·.name) = links.map (·.name) := by
  induction h with
  | nil => rfl
  | cons here _ ih => rw [List.map_cons, List.map_cons, here.name_eq, ih]

theorem LinkAlike.textsOf {a b : Link} (h : LinkAlike R a b) :
    List.Forall₂ R (textsOf a.args) (textsOf b.args) := by
  obtain ⟨name, args⟩ := a
  obtain ⟨name', args'⟩ := b
  cases h.args with
  | none => exact .nil
  | some quoted => exact quoted.1

theorem negates_of_alike (h : LinksAlike R links others) : negates others = negates links := by
  have by_names (links : List Link) : negates links =
      (((links.map (·.name)).filter fun (name : Text) => name == "not").length % 2 == 1) := by
    rw [negates, List.filter_map, List.length_map]
    rfl
  rw [by_names, by_names, names_of_alike h]

theorem modifiersOf_of_alike (h : LinksAlike R links others) :
    modifiersOf others = modifiersOf links := by
  rw [modifiersOf, modifiersOf, names_of_alike h]

theorem nameBefore_of_alike (h : LinksAlike R links others) :
    nameBefore others = nameBefore links := by
  rw [nameBefore, nameBefore, names_of_alike h]

/-! ### Kinds of chain -/

theorem alike_ofTail {style : AssertionStyle} {subject subject' : Text} {modifiers : List Text}
    (hSubject : R subject subject') (h : LinksAlike R links others) :
    Alike R (ofTail style subject modifiers links) (ofTail style subject' modifiers others) := by
  rcases forall₂_concat_cases h with ⟨rfl, rfl⟩ | ⟨before, last, before', last', rfl, rfl, hBefore,
    hLast⟩
  · exact .nil
  · have args_isNone : last'.args.isNone = last.args.isNone := by
      obtain ⟨name, args⟩ := last
      obtain ⟨name', args'⟩ := last'
      cases hLast.args <;> rfl
    rw [ofTail, ofTail, List.getLast?_concat, List.getLast?_concat]
    dsimp only
    rw [hLast.name_eq, args_isNone]
    split
    · exact .nil
    · rw [List.dropLast_concat, List.dropLast_concat, negates_of_alike hBefore,
        modifiersOf_of_alike hBefore]
      exact alike_singleton hSubject hLast.textsOf

variable (hR : ∀ t, R t t)

include hR

theorem alike_ofExpected {modifiers : List Text} (hArgs : ArgsAlike R x y)
    (h : LinksAlike R links others) :
    Alike R (ofExpected x modifiers links) (ofExpected y modifiers others) := by
  rw [ofExpected, ofExpected, isEmpty_of_forall₂ h]
  split
  · exact .nil
  · exact alike_ofTail (rel_headD hR hArgs.1) h

theorem alike_ofExpect (h : LinksAlike R links others) :
    Alike R (ofExpect links) (ofExpect others) := by
  cases h with
  | nil => exact .nil
  | @cons a b links others ha h =>
    obtain ⟨name, args⟩ := a
    obtain ⟨name', args'⟩ := b
    cases ha.args with
    | some hArgs => exact alike_ofExpected hR hArgs h
    | none =>
      -- What is not called itself may be asked for `soft` or `poll`, and that is called.
      cases h with
      | nil => exact .nil
      | @cons a b links others ha h =>
        obtain ⟨name, args⟩ := a
        obtain ⟨name', args'⟩ := b
        cases ha.args with
        | none => exact .nil
        | some hArgs =>
          have name_eq : name' = name := ha.name_eq
          unfold ofExpect
          dsimp only
          rw [name_eq]
          split
          · exact alike_ofExpected hR hArgs h
          · exact .nil

theorem alike_ofAssertCall {matcher : Text} (hArgs : ArgsAlike R x y) :
    Alike R (ofAssertCall matcher x) (ofAssertCall matcher y) :=
  alike_singleton (rel_headD hR hArgs.1) (forall₂_tail hArgs.1)

theorem alike_ofAssert (h : LinksAlike R links others) :
    Alike R (ofAssert links) (ofAssert others) := by
  cases h with
  | nil => exact .nil
  | @cons a b links others ha h =>
    obtain ⟨_, _⟩ := a
    obtain ⟨_, _⟩ := b
    cases h with
    | nil =>
      cases ha.args with
      | none => exact .nil
      | some hArgs => exact alike_ofAssertCall hR hArgs
    | @cons c d links others hc h =>
      obtain ⟨name, _⟩ := c
      obtain ⟨name', _⟩ := d
      obtain rfl : name' = name := hc.name_eq
      cases h with
      | nil =>
        -- Both patterns look at the first link, which need not be called here.
        cases ha.args <;> cases hc.args with
        | none => exact .nil
        | some hArgs => exact alike_ofAssertCall hR hArgs
      | cons _ _ => cases ha.args <;> cases hc.args <;> exact .nil

theorem alike_ofShouldCall (h : LinksAlike R links others) (hArgs : ArgsAlike R x y) :
    Alike R (ofShouldCall links x) (ofShouldCall others y) := by
  have chainer_eq : y.operands.head?.bind Node.stringValue? =
      x.operands.head?.bind Node.stringValue? := hArgs.2
  rw [ofShouldCall, ofShouldCall, chainer_eq]
  cases x.operands.head?.bind Node.stringValue? with
  | none => exact .nil
  | some chainer =>
    rw [nameBefore_of_alike h]
    exact alike_singleton (hR _) (forall₂_tail hArgs.1)

theorem alike_ofShouldFrom {soFar soFar' : Reading} {before before' : List Link}
    (hSoFar : Alike R soFar soFar') (hBefore : LinksAlike R before before')
    (h : LinksAlike R links others) :
    Alike R (ofShouldFrom soFar before links) (ofShouldFrom soFar' before' others) := by
  induction h generalizing soFar soFar' before before' with
  | nil => exact hSoFar
  | @cons a b links others ha h ih =>
    have next : LinksAlike R (before ++ [a]) (before' ++ [b]) :=
      List.rel_append hBefore (.cons ha .nil)
    obtain ⟨name, args⟩ := a
    obtain ⟨name', args'⟩ := b
    obtain rfl : name' = name := ha.name_eq
    rw [ofShouldFrom, ofShouldFrom]
    cases ha.args with
    | none =>
      dsimp only
      split
      · rw [nameBefore_of_alike hBefore]
        exact alike_ofTail (hR _) h
      · exact ih hSoFar next
    | some hArgs =>
      dsimp only
      split
      · exact ih (List.rel_append hSoFar (alike_ofShouldCall hR hBefore hArgs)) next
      · exact ih hSoFar next

theorem alike_ofShould (h : LinksAlike R links others) :
    Alike R (ofShould links) (ofShould others) := by
  cases h with
  | nil => exact .nil
  | cons here rest => exact alike_ofShouldFrom hR .nil (.cons here .nil) rest

omit hR in
/-- The first call by one of the names. -/
theorem rel_calledAs {names : List Text} (h : LinksAlike R links others) :
    Option.Rel (fun x y => y.1 = x.1 ∧ ArgsAlike R x.2 y.2) (calledAs names links)
      (calledAs names others) := by
  rw [calledAs, calledAs]
  induction h with
  | nil => exact .none
  | @cons a b links others ha h ih =>
    obtain ⟨name, args⟩ := a
    obtain ⟨name', args'⟩ := b
    obtain rfl : name' = name := ha.name_eq
    rw [List.findSome?_cons, List.findSome?_cons]
    cases ha.args with
    | none => exact ih
    | some hArgs =>
      dsimp only [Option.bind_some]
      cases names.contains name' with
      | true => exact .some ⟨rfl, hArgs⟩
      | false => exact ih

theorem alike_ofCypress (h : LinksAlike R links others) :
    Alike R (ofCypress links) (ofCypress others) := by
  have implicit {x y : Text × Node} (h : y.1 = x.1 ∧ ArgsAlike R x.2 y.2)
      {roles roles' : List ((Nat × Nat) × ArgsRole)} :
      Alike R { assertions := [implicitAssertion x.1 x.2], roles }
        { assertions := [implicitAssertion y.1 y.2], roles := roles' } := by
    rw [implicitAssertion, implicitAssertion, h.1]
    exact alike_singleton (hR _) h.2.1
  have contains : Option.Rel _ (calledAs ["contains"] links) (calledAs ["contains"] others) :=
    rel_calledAs h
  have found : Option.Rel _ (calledAs ["get", "find"] links) (calledAs ["get", "find"] others) :=
    rel_calledAs h
  unfold ofCypress
  generalize calledAs ["contains"] links = x, calledAs ["contains"] others = y at contains
  generalize calledAs ["get", "find"] links = x', calledAs ["get", "find"] others = y' at found
  cases contains with
  | some same => exact implicit same
  | none =>
    cases found with
    | some same => exact implicit same
    | none => exact .nil

theorem alike_ofCustom (h : LinksAlike R links others) :
    Alike R (ofCustom links) (ofCustom others) := by
  cases h with
  | nil => exact .nil
  | @cons a b links others ha h =>
    obtain ⟨name, _⟩ := a
    obtain ⟨name', _⟩ := b
    obtain rfl : name' = name := ha.name_eq
    cases h with
    | cons _ _ => cases ha.args <;> exact .nil
    | nil =>
      cases ha.args with
      | none => exact .nil
      | some hArgs =>
        rw [ofCustom, ofCustom]
        split
        · exact alike_singleton (rel_headD hR hArgs.1) hArgs.1
        · exact .nil

/-! ### Chains -/

omit hR in
theorem alike_withoutModule (h : LinksAlike R links others) :
    LinksAlike R (withoutModule links) (withoutModule others) := by
  cases h with
  | nil => exact .nil
  | @cons a b links others ha h =>
    cases h with
    | nil => exact .cons ha .nil
    | @cons c d links others hc h =>
      rw [withoutModule, withoutModule, ha.name_eq, hc.name_eq]
      split
      · exact .cons hc h
      · exact .cons ha (.cons hc h)

theorem alike_ofOther {root : Text} (h : LinksAlike R links others) :
    Alike R (ofOther root links) (ofOther root others) := by
  have should := alike_ofShould hR h
  unfold ofOther
  dsimp only
  rw [isEmpty_of_forall₂ should]
  split
  · exact should
  · split
    · exact alike_ofCypress hR h
    · exact alike_ofCustom hR h

/-- **Chains that are alike assert alike.** -/
theorem alike_ofLinks (h : LinksAlike R links others) :
    Alike R (ofLinks links) (ofLinks others) := by
  have inner := alike_withoutModule h
  unfold ofLinks
  generalize withoutModule links = links at inner
  generalize withoutModule others = others at inner
  cases inner with
  | nil => exact .nil
  | @cons a b links others ha h =>
    have same : LinksAlike R (a :: links) (b :: others) := .cons ha h
    -- A module in front of `assert` is told by the name of the second link.
    have second_eq : (others.head?.map Link.name).getD "" =
        (links.head?.map Link.name).getD "" := by
      cases h with
      | nil => rfl
      | cons here _ => exact here.name_eq
    dsimp only
    rw [ha.name_eq, ← h.length_eq, second_eq]
    split
    · exact alike_ofExpect hR same
    · split
      · exact alike_ofAssert hR same
      · split
        · exact alike_ofAssert hR h
        · exact alike_ofOther hR same

end

/-- **Chains that quote the same texts** assert the same. -/
theorem assertions_ofLinks_eq {links others : List Link} (h : LinksAlike Eq links others) :
    (ofLinks others).assertions = (ofLinks links).assertions := by
  have same := (alike_ofLinks (fun _ => rfl) h).imp fun _ _ ha => ha.eq.symm
  rw [List.forall₂_eq_eq_eq] at same
  exact same.symm

end Reading

end SuiteAudit
