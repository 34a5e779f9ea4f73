import SuiteAudit.Config.Basic
import SuiteAudit.Proofs.CanonicalText

/-!
# Records are known by their texts

The text of a record names its fields in order, with a comma between two of them and none inside, so
it tells the number in each field (`value_eq_of_recordText_eq`). All of it is plain
(`isPlain_recordText`).
-/

namespace SuiteAudit

/-! ### Texts of a class -/

namespace Text

variable {p : Char → Bool}

theorem all_append (s t : Text) : (s ++ t).all p = (s.all p && t.all p) :=
  List.all_append

theorem all_ofString (s : String) : (ofString s).all p = s.toList.all p := by
  rw [all, ofString, List.all_map]
  rfl

/-- Joined texts are of a class with their separator. -/
theorem all_join {separator : Text} (hSeparator : separator.all p = true) {parts : List Text}
    (h : ∀ part ∈ parts, part.all p = true) : (join separator parts).all p = true := by
  cases parts with
  | nil => rfl
  | cons s rest =>
    obtain ⟨hFirst, hRest⟩ := List.forall_mem_cons.mp h
    show (s.points ++ rest.flatMap fun part => separator.points ++ part.points).all _ = true
    rw [List.all_append, Bool.and_eq_true, List.all_flatMap]
    refine ⟨hFirst, List.all_eq_true.mpr fun part hPart => ?_⟩
    rw [List.all_append, Bool.and_eq_true]
    exact ⟨hSeparator, hRest part hPart⟩

end Text

/-! ### The characters of a field -/

/-- Whether a character may stand in a field: a plain one, but not the mark between two fields. -/
def isFieldChar (c : Char) : Bool :=
  isPlainChar c && c != ','

theorem isFieldChar_of_isNumeral {c : Char} (h : Decimal.IsNumeral c) : isFieldChar c = true := by
  rcases h with digit | mark
  · have range : 48 ≤ c.toNat ∧ c.toNat ≤ 57 := by
      simp only [Char.isDigit, Bool.and_eq_true, decide_eq_true_eq] at digit
      exact ⟨digit.1, digit.2⟩
    simp only [isFieldChar, isPlainChar, Bool.and_eq_true, decide_eq_true_eq, bne_iff_ne]
    exact ⟨⟨⟨⟨by omega, by omega⟩, Decimal.ne_of_isDigit digit rfl⟩,
      Decimal.ne_of_isDigit digit rfl⟩, Decimal.ne_of_isDigit digit rfl⟩
  · simp only [List.mem_cons, List.not_mem_nil, or_false] at mark
    rcases mark with rfl | rfl | rfl | rfl <;> rfl

theorem all_floatText (x : Float) : (Decimal.floatText x).toList.all isFieldChar = true := by
  cases h : Decimal.Binary64.ofFloat? x with
  | some b =>
    exact List.all_eq_true.mpr fun c hc =>
      isFieldChar_of_isNumeral (Decimal.isNumeral_floatText h c hc)
  | none =>
    rcases Decimal.floatText_of_none h with ⟨word, -⟩ | ⟨word, -⟩ | ⟨word, -⟩ <;> rw [word] <;> rfl

namespace NumberField

variable {σ : Type} {f : NumberField σ} {s t : σ}

/-- No field has the mark between two fields in its text. -/
theorem all_text (hName : f.name.all isFieldChar = true) (s : σ) :
    (f.text s).all isFieldChar = true := by
  have between (number : String) (hNumber : number.toList.all isFieldChar = true) :
      (f.name ++ "=" ++ Text.ofString number).all isFieldChar = true := by
    rw [Text.all_append, Text.all_append, hName, Text.all_ofString, Text.all_ofString, hNumber]
    rfl
  cases f with
  | whole name get set =>
    apply between
    exact List.all_eq_true.mpr fun c hc =>
      isFieldChar_of_isNumeral (Decimal.isNumeral_toString _ c hc)
  | decimal name get set => exact between _ (all_floatText _)

/-- **A field is known by its text.** -/
theorem value_eq_of_text_eq (h : f.text s = f.text t) : f.value s = f.value t := by
  have number {front : Text} {a b : String}
      (h : front ++ Text.ofString a = front ++ Text.ofString b) : a = b :=
    Text.ofString_injective
      (congrArg Text.mk (List.append_cancel_left (congrArg Text.points h)))
  cases f with
  | whole name get set =>
    have same := number h
    rw [value, value, Decimal.toList_toString_injective (congrArg String.toList same)]
  | decimal name get set =>
    have same := number h
    rw [value, value, Decimal.floatText_injective same]

end NumberField

/-! ### The text of a record -/

/-- What is written after a field, up to the end of the fields. -/
def furtherFields (parts : List Text) : List CodePoint :=
  parts.flatMap fun part => (", " : Text).points ++ part.points

theorem head?_furtherFields (parts : List Text) :
    ∀ p ∈ (furtherFields parts).head?, CodePoint.isIn isFieldChar p = false := by
  cases parts with
  | nil => simp [furtherFields]
  | cons s rest =>
    intro p hp
    obtain rfl : CodePoint.char ',' = p := Option.some.inj hp
    rfl

/-- **Fields end at the mark between them.** -/
theorem further_inj : ∀ {xs ys : List Text}, xs.length = ys.length →
    (∀ x ∈ xs, x.all isFieldChar = true) → (∀ y ∈ ys, y.all isFieldChar = true) →
    furtherFields xs = furtherFields ys → xs = ys
  | [], [], _, _, _, _ => rfl
  | x :: xs, y :: ys, hLength, hx, hy, h => by
    rw [List.forall_mem_cons] at hx hy
    have inner : x.points ++ furtherFields xs = y.points ++ furtherFields ys := by
      have marked : (", " : Text).points ++ (x.points ++ furtherFields xs) =
          (", " : Text).points ++ (y.points ++ furtherFields ys) := by
        simpa [furtherFields] using h
      exact List.append_cancel_left marked
    obtain ⟨points, rest⟩ := append_inj_of_forall (List.all_eq_true.mp hx.1)
      (List.all_eq_true.mp hy.1) (head?_furtherFields xs) (head?_furtherFields ys) inner
    obtain rfl : x = y := congrArg Text.mk points
    rw [further_inj (Nat.succ.inj hLength) hx.2 hy.2 rest]

theorem join_inj {xs ys : List Text} (hLength : xs.length = ys.length)
    (hx : ∀ x ∈ xs, x.all isFieldChar = true) (hy : ∀ y ∈ ys, y.all isFieldChar = true)
    (h : Text.join ", " xs = Text.join ", " ys) : xs = ys := by
  match xs, ys, hLength with
  | [], [], _ => rfl
  | x :: xs, y :: ys, hLength =>
    apply further_inj hLength hx hy
    have points := congrArg (fun t => (", " : Text).points ++ t.points) h
    exact points

section

variable {σ : Type} {title : Text} {fields : List (NumberField σ)} {s t : σ}

/-- **A record is known by its text**, number by number. -/
theorem value_eq_of_recordText_eq (names : ∀ f ∈ fields, f.name.all isFieldChar = true)
    (h : recordText title fields s = recordText title fields t) :
    ∀ f ∈ fields, f.value s = f.value t := by
  have texts (s : σ) : ∀ part ∈ fields.map (·.text s), part.all isFieldChar = true := by
    intro part hPart
    obtain ⟨f, hf, rfl⟩ := List.mem_map.mp hPart
    exact NumberField.all_text (names f hf) s
  have joined :
      Text.join ", " (fields.map (·.text s)) = Text.join ", " (fields.map (·.text t)) := by
    have points := congrArg Text.points h
    exact congrArg Text.mk (List.append_cancel_left (List.append_cancel_right points))
  have same := join_inj (by rw [List.length_map, List.length_map]) (texts s) (texts t) joined
  intro f hf
  exact NumberField.value_eq_of_text_eq (List.map_inj_left.mp same f hf)

/-- **The text of a record is plain.** -/
theorem isPlain_recordText (hTitle : title.isPlain = true)
    (names : ∀ f ∈ fields, f.name.all isFieldChar = true) (s : σ) :
    (recordText title fields s).isPlain = true := by
  have fields_plain : ∀ part ∈ fields.map (·.text s), part.all isPlainChar = true := by
    intro part hPart
    obtain ⟨f, hf, rfl⟩ := List.mem_map.mp hPart
    refine List.all_eq_true.mpr fun p hp => ?_
    have := List.all_eq_true.mp (NumberField.all_text (names f hf) s) p hp
    cases p with
    | char c => exact (Bool.and_eq_true _ _ ▸ this : _ ∧ _).1
    | surrogate _ => cases this
  rw [Text.isPlain, recordText, Text.all_append, Text.all_append, Text.all_append,
    Text.all_join rfl fields_plain, show title.all isPlainChar = true from hTitle]
  rfl

end

/-! ### The records of a configuration -/

theorem all_name_penalties : ∀ f ∈ PenaltyPolicy.fields, f.name.all isFieldChar = true := by
  decide

theorem all_name_smells : ∀ f ∈ SmellLimits.fields, f.name.all isFieldChar = true := by
  decide

/-- **A penalty policy is known by its text.** -/
theorem penalties_eq_of_recordText_eq {p q : PenaltyPolicy}
    (h : recordText PenaltyPolicy.title PenaltyPolicy.fields p =
      recordText PenaltyPolicy.title PenaltyPolicy.fields q) : p = q := by
  have values := value_eq_of_recordText_eq all_name_penalties h
  cases p
  cases q
  simpa [PenaltyPolicy.fields, NumberField.value] using values

/-- **Smell limits are known by their text.** -/
theorem smells_eq_of_recordText_eq {s t : SmellLimits}
    (h : recordText SmellLimits.title SmellLimits.fields s =
      recordText SmellLimits.title SmellLimits.fields t) : s = t := by
  have values := value_eq_of_recordText_eq all_name_smells h
  cases s
  cases t
  simpa [SmellLimits.fields, NumberField.value] using values

end SuiteAudit
