import SuiteAudit.Json.Printer
import SuiteAudit.Proofs.NumberTexts
import SuiteAudit.Proofs.Omission

/-!
# What a canonical text tells

Plain values are made of switches, whole numbers and objects, with plain strings and each key once.
Each has a text that ends by itself (`delimited_of_plain`), so the text tells the value up to the
order of the fields. Fields are sorted before they are written, so the order makes no difference:
`text_eq_iff`.
-/

namespace SuiteAudit

/-! ### Plain texts -/

/-- Elements of a class end where one of another class comes. -/
theorem append_inj_of_forall {β : Type} {p : β → Bool} {xs ys s t : List β}
    (hx : ∀ c ∈ xs, p c = true) (hy : ∀ c ∈ ys, p c = true)
    (hs : ∀ c ∈ s.head?, p c = false) (ht : ∀ c ∈ t.head?, p c = false)
    (h : xs ++ s = ys ++ t) : xs = ys ∧ s = t := by
  have front {us rest : List β} (hu : ∀ c ∈ us, p c = true)
      (hRest : ∀ c ∈ rest.head?, p c = false) : (us ++ rest).takeWhile p = us := by
    rw [List.takeWhile_append_of_pos hu]
    cases rest <;> simp_all
  have same : xs = ys := by rw [← front hx hs, h, front hy ht]
  exact ⟨same, List.append_cancel_left (same ▸ h)⟩

/-- Whether a character stands for itself between quotes. -/
def isPlainChar (c : Char) : Bool :=
  0x20 ≤ c.toNat && c.toNat < 0x7F && c != '"' && c != '\\'

/-- Whether all of a text is characters of a class. -/
def Text.all (p : Char → Bool) (t : Text) : Bool :=
  t.points.all (CodePoint.isIn p)

/-- **Whether all of a text stands for itself** between quotes. -/
def Text.isPlain (t : Text) : Bool :=
  t.all isPlainChar

theorem Text.exists_chars {t : Text} (h : t.isPlain = true) :
    ∃ cs : List Char, t.points = cs.map .char ∧ ∀ c ∈ cs, isPlainChar c = true := by
  obtain ⟨points⟩ := t
  induction points with
  | nil => exact ⟨[], rfl, by simp⟩
  | cons p rest ih =>
    rw [isPlain, all, List.all_cons, Bool.and_eq_true] at h
    obtain ⟨cs, hPoints, plain⟩ := ih h.2
    cases p with
    | surrogate s => cases h.1
    | char c =>
      refine ⟨c :: cs, ?_, List.forall_mem_cons.mpr ⟨h.1, plain⟩⟩
      rw [List.map_cons, ← hPoints]

namespace Json

theorem escapeChar_of_plain {c : Char} (h : isPlainChar c = true) : escapeChar c = [c] := by
  have range : 0x20 ≤ c.toNat ∧ c.toNat < 0x7F ∧ c ≠ '"' ∧ c ≠ '\\' := by
    simpa [isPlainChar, and_assoc] using h
  have ne_of_low {d : Char} (hd : d.toNat < 0x20) : (c == d) = false := by
    rw [beq_eq_false_iff_ne]
    rintro rfl
    omega
  rw [escapeChar, ne_of_low (d := '\n') (by decide), ne_of_low (d := '\r') (by decide),
    ne_of_low (d := '\t') (by decide), ne_of_low (d := '\x08') (by decide),
    ne_of_low (d := '\x0c') (by decide)]
  simp [range]

/-- A plain string is written as it is, between quotes. -/
theorem toList_stringText {s : Text} {cs : List Char} (hPoints : s.points = cs.map .char)
    (plain : ∀ c ∈ cs, isPlainChar c = true) :
    (stringText s).toList = '"' :: cs ++ ['"'] := by
  rw [stringText, String.toList_ofList, hPoints]
  congr 2
  rw [List.flatMap_map]
  clear hPoints
  induction cs with
  | nil => rfl
  | cons c cs ih =>
    obtain ⟨hFirst, hRest⟩ := List.forall_mem_cons.mp plain
    rw [List.flatMap_cons, ih hRest]
    show escapeChar c ++ cs = c :: cs
    rw [escapeChar_of_plain hFirst]
    rfl

/-- **A plain string ends at its quote.** -/
theorem stringText_append_inj {s t : Text} (hs : s.isPlain = true) (ht : t.isPlain = true)
    {u v : List Char} (h : (stringText s).toList ++ u = (stringText t).toList ++ v) :
    s = t ∧ u = v := by
  obtain ⟨cs, hPoints, plain⟩ := Text.exists_chars hs
  obtain ⟨ds, hOthers, plain_too⟩ := Text.exists_chars ht
  rw [toList_stringText hPoints plain, toList_stringText hOthers plain_too] at h
  have inside : cs ++ '"' :: u = ds ++ '"' :: v := by simpa using h
  have no_quote {es : List Char} (hes : ∀ c ∈ es, isPlainChar c = true) :
      ∀ c ∈ es, (c != '"') = true := by
    intro c hc
    have := hes c hc
    simp only [isPlainChar, Bool.and_eq_true] at this
    exact this.1.2
  obtain ⟨chars, rest⟩ := append_inj_of_forall (p := (· != '"')) (no_quote plain)
    (no_quote plain_too) (by simp) (by simp) inside
  constructor
  · obtain ⟨points⟩ := s
    obtain ⟨others⟩ := t
    dsimp only at hPoints hOthers
    rw [hPoints, hOthers, chars]
  · exact (List.cons.inj rest).2

/-! ### Plain values -/

/-- **A plain value**: a switch, a whole number, a plain string, or an object of such, with every
key once. -/
inductive Plain : Json → Prop where
  | bool (b : Bool) : Plain (.bool b)
  | int (n : Int) : Plain (.int n)
  | string {s : Text} (h : s.isPlain = true) : Plain (.string s)
  | object {fields : List (Text × Json)} (keys : ∀ e ∈ fields, e.1.isPlain = true)
      (distinct : (fields.map (·.1)).Nodup) (values : ∀ e ∈ fields, Plain e.2) :
      Plain (.object fields)

/-- **Values that are equal as mappings**, whatever the order of their fields. -/
inductive Alike : Json → Json → Prop where
  | refl (a : Json) : Alike a a
  | object {fields others : List (Text × Json)}
      (keys : ∀ key, key ∈ fields.map (·.1) ↔ key ∈ others.map (·.1))
      (values : ∀ key a b, (key, a) ∈ fields → (key, b) ∈ others → Alike a b) :
      Alike (.object fields) (.object others)

/-! ### The text of an object -/

/-- The fields in the order in which they are written. -/
def ordered (fields : List (Text × Json)) : List (Text × Json) :=
  fields.mergeSort fun a b => Text.le a.1 b.1

/-- The text of a field. -/
def fieldText (e : Text × Json) : String :=
  stringText e.1 ++ ": " ++ e.2.text

/-- What is written after a field, up to the end of its object. -/
def closing : List (Text × Json) → List Char
  | [] => ['\x7d']
  | e :: rest => ',' :: ' ' :: (fieldText e).toList ++ closing rest

/-- What is written after the opening of an object, up to its end. -/
def inside : List (Text × Json) → List Char
  | [] => ['\x7d']
  | e :: rest => (fieldText e).toList ++ closing rest

theorem fieldTexts_eq (fields : List (Text × Json)) :
    fieldTexts fields = fields.map fun e => (e.1, fieldText e) := by
  induction fields with
  | nil => rfl
  | cons e rest ih => rw [fieldTexts, ih]; rfl

theorem intercalate_eq_inside (fields : List (Text × Json)) :
    (String.intercalate ", " (fields.map fieldText)).toList ++ ['\x7d'] = inside fields := by
  rw [String.toList_intercalate, List.map_map]
  cases fields with
  | nil => rfl
  | cons e rest =>
    rw [inside]
    induction rest generalizing e with
    | nil =>
      rw [List.map_singleton, List.intercalate_singleton]
      rfl
    | cons f rest ih =>
      rw [List.map_cons, List.map_cons, List.intercalate_cons_cons, List.append_assoc,
        ← List.map_cons, ih, closing, List.append_assoc]
      rfl

/-- **An object is written field by field, in the order of its keys.** -/
theorem toList_text_object (fields : List (Text × Json)) :
    (text (.object fields)).toList = '\x7b' :: inside (ordered fields) := by
  have written : (fieldTexts fields).mergeSort (fun a b => Text.le a.1 b.1) =
      (ordered fields).map fun e => (e.1, fieldText e) := by
    rw [fieldTexts_eq, ordered, List.map_mergeSort]
    exact fun _ _ _ _ => rfl
  rw [text, written, List.map_map, String.toList_append, String.toList_append,
    ← intercalate_eq_inside]
  rfl

/-! ### Texts that end by themselves -/

/-- What may come after a value. -/
def Ends (s : List Char) : Prop :=
  ∀ c ∈ s.head?, c = ',' ∨ c = '\x7d'

theorem ends_closing (fields : List (Text × Json)) (s : List Char) :
    Ends (closing fields ++ s) := by
  cases fields <;> simp [Ends, closing]

/-- The kind of value whose text begins with a character. -/
def kindOf (c : Char) : Nat :=
  if c = '"' then 0 else if c = '\x7b' then 1 else if c = 't' ∨ c = 'f' then 2 else 3

/-- The kind of a plain value. -/
def kind : Json → Nat
  | string _ => 0
  | object _ => 1
  | bool _ => 2
  | _ => 3

/-- **The first character of a text tells the kind of the value.** -/
theorem kindOf_head {a : Json} (h : Plain a) :
    ∃ c rest, a.text.toList = c :: rest ∧ kindOf c = a.kind := by
  cases h with
  | bool b => cases b <;> exact ⟨_, _, rfl, rfl⟩
  | int n =>
    have digit {c : Char} (hc : c.isDigit = true) : kindOf c = 3 := by
      rw [kindOf, if_neg (Decimal.ne_of_isDigit hc rfl), if_neg (Decimal.ne_of_isDigit hc rfl),
        if_neg]
      exact not_or.mpr ⟨Decimal.ne_of_isDigit hc rfl, Decimal.ne_of_isDigit hc rfl⟩
    obtain ⟨d, rest, hDigits, hd⟩ := Decimal.exists_toDigits_eq_cons n.natAbs
    rw [text, Decimal.toList_toString_int, hDigits]
    split
    · exact ⟨_, _, rfl, rfl⟩
    · exact ⟨_, _, rfl, digit hd⟩
  | @string s hs =>
    obtain ⟨cs, hPoints, plain⟩ := Text.exists_chars hs
    exact ⟨_, _, toList_stringText hPoints plain, rfl⟩
  | @object fields keys distinct values => exact ⟨_, _, toList_text_object fields, rfl⟩

theorem kind_eq {a b : Json} (ha : Plain a) (hb : Plain b) {s t : List Char}
    (h : a.text.toList ++ s = b.text.toList ++ t) : a.kind = b.kind := by
  obtain ⟨c, rest, hText, hc⟩ := kindOf_head ha
  obtain ⟨d, others, hOther, hd⟩ := kindOf_head hb
  rw [hText, hOther] at h
  rw [← hc, ← hd, (List.cons.inj h).1]

/-- A value whose text ends by itself: what else begins with it is the text of a value like it. -/
def Delimited (a : Json) : Prop :=
  ∀ {b : Json}, Plain b → ∀ {s t : List Char}, Ends s → Ends t →
    a.text.toList ++ s = b.text.toList ++ t → Alike a b ∧ s = t

section

variable {fields others : List (Text × Json)} {s t : List Char}

/-- Two fields of one key, with values that are equal as mappings. -/
def FieldAlike (e f : Text × Json) : Prop :=
  e.1 = f.1 ∧ Alike e.2 f.2

theorem fieldText_append_inj {e f : Text × Json} (he : e.1.isPlain = true) (hf : f.1.isPlain = true)
    (delimited : Delimited e.2) (plain : Plain f.2) (hs : Ends s) (ht : Ends t)
    (h : (fieldText e).toList ++ s = (fieldText f).toList ++ t) : FieldAlike e f ∧ s = t := by
  simp only [fieldText, String.toList_append, List.append_assoc] at h
  obtain ⟨key, value⟩ := stringText_append_inj he hf h
  obtain ⟨alike, rest⟩ := delimited plain hs ht (List.append_cancel_left value)
  exact ⟨⟨key, alike⟩, rest⟩

/-- The rest of an object ends at its bracket. -/
theorem closing_append_inj (keys : ∀ e ∈ fields, e.1.isPlain = true)
    (delimited : ∀ e ∈ fields, Delimited e.2) (keys_too : ∀ e ∈ others, e.1.isPlain = true)
    (values : ∀ e ∈ others, Plain e.2) (h : closing fields ++ s = closing others ++ t) :
    List.Forall₂ FieldAlike fields others ∧ s = t := by
  induction fields generalizing others with
  | nil =>
    cases others with
    | nil => exact ⟨.nil, (List.cons.inj h).2⟩
    | cons f others => simp [closing] at h
  | cons e fields ih =>
    cases others with
    | nil => simp [closing] at h
    | cons f others =>
      rw [List.forall_mem_cons] at keys delimited keys_too values
      simp only [closing, List.cons_append, List.append_assoc, List.cons.injEq, true_and] at h
      obtain ⟨first, rest⟩ := fieldText_append_inj keys.1 keys_too.1 delimited.1 values.1
        (ends_closing fields s) (ends_closing others t) h
      obtain ⟨more, last⟩ := ih keys.2 delimited.2 keys_too.2 values.2 rest
      exact ⟨.cons first more, last⟩

/-- **An object ends at its bracket.** -/
theorem inside_append_inj (keys : ∀ e ∈ fields, e.1.isPlain = true)
    (delimited : ∀ e ∈ fields, Delimited e.2) (keys_too : ∀ e ∈ others, e.1.isPlain = true)
    (values : ∀ e ∈ others, Plain e.2) (h : inside fields ++ s = inside others ++ t) :
    List.Forall₂ FieldAlike fields others ∧ s = t := by
  have no_bracket (e : Text × Json) (rest : List (Text × Json)) (he : e.1.isPlain = true)
      {u v : List Char} : '\x7d' :: u ≠ inside (e :: rest) ++ v := by
    obtain ⟨cs, hPoints, plain⟩ := Text.exists_chars he
    simp [inside, fieldText, String.toList_append, toList_stringText hPoints plain]
  cases fields with
  | nil =>
    cases others with
    | nil => exact ⟨.nil, (List.cons.inj h).2⟩
    | cons f others => exact absurd h (no_bracket f others (keys_too f List.mem_cons_self))
  | cons e fields =>
    cases others with
    | nil => exact absurd h.symm (no_bracket e fields (keys e List.mem_cons_self))
    | cons f others =>
      rw [List.forall_mem_cons] at keys delimited keys_too values
      simp only [inside, List.append_assoc] at h
      obtain ⟨first, rest⟩ := fieldText_append_inj keys.1 keys_too.1 delimited.1 values.1
        (ends_closing fields s) (ends_closing others t) h
      obtain ⟨more, last⟩ := closing_append_inj keys.2 delimited.2 keys_too.2 values.2 rest
      exact ⟨.cons first more, last⟩

theorem exists_mem_of_forall₂ (h : List.Forall₂ FieldAlike fields others) {e : Text × Json}
    (he : e ∈ fields) : ∃ f ∈ others, FieldAlike e f := by
  induction h with
  | nil => cases he
  | @cons first f _ _ alike _ ih =>
    rcases List.mem_cons.mp he with rfl | he
    · exact ⟨f, List.mem_cons_self, alike⟩
    · obtain ⟨g, hg, alike⟩ := ih he
      exact ⟨g, List.mem_cons_of_mem _ hg, alike⟩

theorem ordered_perm (fields : List (Text × Json)) : (ordered fields).Perm fields :=
  List.mergeSort_perm _ _

/-- Fields that are equal in some order are equal as mappings. -/
theorem alike_of_forall₂ {es fs : List (Text × Json)} (hes : es.Perm fields) (hfs : fs.Perm others)
    (distinct : (others.map (·.1)).Nodup) (h : List.Forall₂ FieldAlike es fs) :
    Alike (.object fields) (.object others) := by
  have same_keys : es.map (·.1) = fs.map (·.1) := by
    rw [← List.forall₂_eq_eq_eq, List.forall₂_map_left_iff, List.forall₂_map_right_iff]
    exact h.imp fun _ _ alike => alike.1
  constructor
  · intro key
    rw [← (hes.map (·.1)).mem_iff, same_keys, (hfs.map (·.1)).mem_iff]
  · intro key a b ha hb
    obtain ⟨⟨k, c⟩, hc, hKey, alike⟩ := exists_mem_of_forall₂ h (hes.mem_iff.mpr ha)
    -- The field across is the only one of its key.
    have same : (k, c) = (key, b) :=
      List.inj_on_of_nodup_map distinct (hfs.mem_iff.mp hc) hb hKey.symm
    obtain ⟨-, rfl⟩ := Prod.mk.inj same
    exact alike

end

theorem delimited_bool (b : Bool) : Delimited (.bool b) := by
  intro c hc s t _ _ h
  have kinds := kind_eq (.bool b) hc h
  cases hc with
  | bool d =>
    cases b <;> cases d
    · exact ⟨.refl _, List.append_cancel_left h⟩
    · simp [text] at h
    · simp [text] at h
    · exact ⟨.refl _, List.append_cancel_left h⟩
  | int => cases kinds
  | string => cases kinds
  | object => cases kinds

/-- A whole number ends where a mark comes that no number has. -/
theorem delimited_int (n : Int) : Delimited (.int n) := by
  intro c hc s t hs ht h
  have kinds := kind_eq (.int n) hc h
  cases hc with
  | int m =>
    have inner (k : Int) : ∀ c ∈ (toString k).toList, (c != ',' && c != '\x7d') = true := by
      intro c hc
      rcases Decimal.isNumeral_toString k c hc with digit | mark
      · simp [Decimal.ne_of_isDigit digit]
      · simp only [List.mem_cons, List.not_mem_nil, or_false] at mark
        rcases mark with rfl | rfl | rfl | rfl <;> rfl
    have outer {u : List Char} (hu : Ends u) :
        ∀ c ∈ u.head?, (c != ',' && c != '\x7d') = false := by
      intro c hc
      rcases hu c hc with rfl | rfl <;> rfl
    obtain ⟨same, rest⟩ := append_inj_of_forall (inner n) (inner m) (outer hs) (outer ht) h
    rw [Decimal.toList_toString_injective same]
    exact ⟨.refl _, rest⟩
  | bool => cases kinds
  | string => cases kinds
  | object => cases kinds

theorem delimited_string {s : Text} (hs : s.isPlain = true) : Delimited (.string s) := by
  intro c hc u v _ _ h
  have kinds := kind_eq (.string hs) hc h
  cases hc with
  | string ht =>
    obtain ⟨rfl, rest⟩ := stringText_append_inj hs ht h
    exact ⟨.refl _, rest⟩
  | bool => cases kinds
  | int => cases kinds
  | object => cases kinds

theorem delimited_object {fields : List (Text × Json)} (plain : Plain (.object fields))
    (keys : ∀ e ∈ fields, e.1.isPlain = true) (delimited : ∀ e ∈ fields, Delimited e.2) :
    Delimited (.object fields) := by
  intro c hc s t _ _ h
  have kinds := kind_eq plain hc h
  cases hc with
  | @object others keys_too distinct_too values_too =>
    rw [toList_text_object, toList_text_object] at h
    have mine {e : Text × Json} (he : e ∈ ordered fields) : e ∈ fields :=
      (ordered_perm fields).mem_iff.mp he
    have theirs {e : Text × Json} (he : e ∈ ordered others) : e ∈ others :=
      (ordered_perm others).mem_iff.mp he
    obtain ⟨pairs, rest⟩ := inside_append_inj (fun e he => keys e (mine he))
      (fun e he => delimited e (mine he)) (fun e he => keys_too e (theirs he))
      (fun e he => values_too e (theirs he)) (List.cons.inj h).2
    exact ⟨alike_of_forall₂ (ordered_perm fields) (ordered_perm others) distinct_too pairs, rest⟩
  | bool => cases kinds
  | int => cases kinds
  | string => cases kinds

/-- **A plain value is known by what begins with its text.** -/
theorem delimited_of_plain {a : Json} (ha : Plain a) : Delimited a := by
  induction ha with
  | bool b => exact delimited_bool b
  | int n => exact delimited_int n
  | string hs => exact delimited_string hs
  | object keys distinct values ih =>
    exact delimited_object (.object keys distinct values) keys fun e he => ih e he

section

variable {fields others : List (Text × Json)}

theorem nodup_fieldTexts (distinct : (fields.map (·.1)).Nodup) :
    ((fieldTexts fields).map (·.1)).Nodup := by
  rw [fieldTexts_eq]
  simpa [Function.comp_def] using distinct

/-- Fields of the same keys that are written in the same way are written in some order. -/
theorem fieldTexts_perm (keys : ∀ key, key ∈ fields.map (·.1) ↔ key ∈ others.map (·.1))
    (distinct : (fields.map (·.1)).Nodup) (distinct_too : (others.map (·.1)).Nodup)
    (text_eq : ∀ {key v w}, (key, v) ∈ fields → (key, w) ∈ others →
      fieldText (key, v) = fieldText (key, w)) :
    (fieldTexts fields).Perm (fieldTexts others) := by
  rw [List.perm_ext_iff_of_nodup (nodup_fieldTexts distinct).of_map
    (nodup_fieldTexts distinct_too).of_map, fieldTexts_eq, fieldTexts_eq]
  rintro ⟨key, written⟩
  simp only [List.mem_map, Prod.mk.injEq, Prod.exists]
  constructor
  · rintro ⟨k, v, hv, rfl, rfl⟩
    obtain ⟨⟨_, w⟩, hw, rfl⟩ := List.mem_map.mp ((keys k).mp (List.mem_map_of_mem hv))
    exact ⟨_, w, hw, rfl, (text_eq hv hw).symm⟩
  · rintro ⟨k, w, hw, rfl, rfl⟩
    obtain ⟨⟨_, v⟩, hv, rfl⟩ := List.mem_map.mp ((keys k).mpr (List.mem_map_of_mem hw))
    exact ⟨_, v, hv, rfl, text_eq hv hw⟩

/-- **Sorting forgets the order** where no key comes twice. -/
theorem mergeSort_eq_of_perm {xs ys : List (Text × String)} (perm : xs.Perm ys)
    (distinct : (xs.map (·.1)).Nodup) :
    (xs.mergeSort fun a b => Text.le a.1 b.1) = ys.mergeSort fun a b => Text.le a.1 b.1 := by
  have pairwise (written : List (Text × String)) :
      (written.mergeSort fun a b => Text.le a.1 b.1).Pairwise fun a b =>
        Text.le a.1 b.1 = true :=
    List.pairwise_mergeSort (fun a b c => Text.le_trans a.1 b.1 c.1)
      (fun a b => Text.le_total a.1 b.1) written
  apply List.Perm.eq_of_pairwise _ (pairwise _) (pairwise _)
  · exact (List.mergeSort_perm _ _).trans (perm.trans (List.mergeSort_perm _ _).symm)
  · intro x y hx hy le ge
    exact List.inj_on_of_nodup_map distinct (List.mem_mergeSort.mp hx)
      (perm.mem_iff.mpr (List.mem_mergeSort.mp hy)) (Text.le_antisymm le ge)

end

/-- Values that are equal as mappings have the same text. -/
theorem text_eq_of_alike {a b : Json} (ha : Plain a) (hb : Plain b) (h : Alike a b) :
    a.text = b.text := by
  induction h with
  | refl a => rfl
  | @object fields others keys values ih =>
    cases ha with
    | object keys_plain distinct plain =>
    cases hb with
    | object keys_too distinct_too plain_too =>
    have text_eq {key : Text} {v w : Json} (hv : (key, v) ∈ fields) (hw : (key, w) ∈ others) :
        fieldText (key, v) = fieldText (key, w) := by
      rw [fieldText, fieldText, ih key v w hv hw (plain _ hv) (plain_too _ hw)]
    have perm := fieldTexts_perm keys distinct distinct_too text_eq
    rw [text, text, mergeSort_eq_of_perm perm (nodup_fieldTexts distinct)]

/-- **Plain values have the same text** if and only if they are equal as mappings. -/
theorem text_eq_iff {a b : Json} (ha : Plain a) (hb : Plain b) : a.text = b.text ↔ Alike a b := by
  constructor
  · intro h
    have ends : Ends [] := by simp [Ends]
    exact (delimited_of_plain ha hb ends ends (by rw [h])).1
  · exact text_eq_of_alike ha hb

/-! ### Equality as mappings -/

theorem Alike.eq_of_int {m n : Int} (h : Alike (.int m) (.int n)) : m = n := by
  cases h
  rfl

theorem Alike.eq_of_bool {a b : Bool} (h : Alike (.bool a) (.bool b)) : a = b := by
  cases h
  rfl

theorem Alike.eq_of_string {s t : Text} (h : Alike (.string s) (.string t)) : s = t := by
  cases h
  rfl

section

variable {fields others : List (Text × Json)}

theorem Alike.mem_keys_iff (h : Alike (.object fields) (.object others)) (key : Text) :
    key ∈ fields.map (·.1) ↔ key ∈ others.map (·.1) := by
  cases h with
  | refl => exact Iff.rfl
  | object keys values => exact keys key

/-- Fields of one key have values that are equal as mappings. -/
theorem Alike.values (h : Alike (.object fields) (.object others))
    (distinct : (fields.map (·.1)).Nodup) {key : Text} {a b : Json} (ha : (key, a) ∈ fields)
    (hb : (key, b) ∈ others) : Alike a b := by
  cases h with
  | refl =>
    obtain ⟨-, rfl⟩ := Prod.mk.inj (List.inj_on_of_nodup_map distinct ha hb rfl)
    exact .refl a
  | object keys values => exact values key a b ha hb

/-- **Objects of the same keys in the same order** are equal as mappings if and only if they are,
field by field. -/
theorem alike_iff_forall₂ (same_keys : fields.map (·.1) = others.map (·.1))
    (distinct : (fields.map (·.1)).Nodup) :
    Alike (.object fields) (.object others) ↔ List.Forall₂ FieldAlike fields others := by
  constructor
  · intro h
    have values {k : Text} {a b : Json} (ha : (k, a) ∈ fields) (hb : (k, b) ∈ others) :
        Alike a b :=
      h.values distinct ha hb
    clear h distinct
    induction fields generalizing others with
    | nil =>
      obtain rfl := List.map_eq_nil_iff.mp same_keys.symm
      exact .nil
    | cons e fields ih =>
      cases others with
      | nil => cases same_keys
      | cons f others =>
        obtain ⟨key, rest⟩ := List.cons.inj same_keys
        obtain ⟨k, a⟩ := e
        obtain ⟨l, b⟩ := f
        obtain rfl : k = l := key
        refine .cons ⟨rfl, values List.mem_cons_self List.mem_cons_self⟩ (ih rest ?_)
        exact fun ha hb => values (List.mem_cons_of_mem _ ha) (List.mem_cons_of_mem _ hb)
  · exact alike_of_forall₂ (.refl _) (.refl _) (same_keys ▸ distinct)

end

section

variable {κ β : Type} [BEq κ] [LawfulBEq κ] {xs ys : List (κ × β)}

/-- An entry of distinct keys is what is found under its key. -/
theorem lookup_eq_some_iff_mem (distinct : (xs.map (·.1)).Nodup) {k : κ} {v : β} :
    xs.lookup k = some v ↔ (k, v) ∈ xs := by
  have mem_of_lookup {w : β} (h : xs.lookup k = some w) : (k, w) ∈ xs := by
    obtain ⟨before, after, rfl, -⟩ := List.lookup_eq_some_iff.mp h
    simp
  refine ⟨mem_of_lookup, fun hMem => ?_⟩
  cases hFound : xs.lookup k with
  | none => simpa using List.lookup_eq_none_iff.mp hFound _ hMem
  | some w =>
    obtain ⟨-, rfl⟩ :=
      Prod.mk.inj (List.inj_on_of_nodup_map distinct (mem_of_lookup hFound) hMem rfl)
    rfl

/-- **Tables written as objects**: where keys and values are known by what is written for them, the
objects are equal as mappings if and only if the same is found under every key. -/
theorem alike_table_iff {name : κ → Text} {value : β → Json} (name_inj : Function.Injective name)
    (value_inj : ∀ v w, Alike (value v) (value w) → v = w) (distinct : (xs.map (·.1)).Nodup)
    (distinct_too : (ys.map (·.1)).Nodup) :
    Alike (.object (xs.map fun e => (name e.1, value e.2)))
        (.object (ys.map fun e => (name e.1, value e.2))) ↔
      ∀ k, xs.lookup k = ys.lookup k := by
  have named {zs : List (κ × β)} {k : κ} :
      name k ∈ (zs.map fun e => (name e.1, value e.2)).map (·.1) ↔ ∃ v, (k, v) ∈ zs := by
    simp [name_inj.eq_iff]
  have written {zs : List (κ × β)} {k : κ} {v : β} (h : (k, v) ∈ zs) :
      (name k, value v) ∈ zs.map fun e => (name e.1, value e.2) :=
    List.mem_map.mpr ⟨(k, v), h, rfl⟩
  constructor
  · intro h k
    have names_distinct : ((xs.map fun e => (name e.1, value e.2)).map (·.1)).Nodup := by
      have := distinct.map name_inj
      simpa [Function.comp_def] using this
    have same {v w : β} (hv : (k, v) ∈ xs) (hw : (k, w) ∈ ys) : v = w :=
      value_inj v w (h.values names_distinct (written hv) (written hw))
    apply Option.ext
    intro v
    rw [lookup_eq_some_iff_mem distinct, lookup_eq_some_iff_mem distinct_too]
    constructor
    · intro hv
      obtain ⟨w, hw⟩ := named.mp ((h.mem_keys_iff (name k)).mp (named.mpr ⟨v, hv⟩))
      rwa [same hv hw]
    · intro hw
      obtain ⟨u, hu⟩ := named.mp ((h.mem_keys_iff (name k)).mpr (named.mpr ⟨v, hw⟩))
      rwa [← same hu hw]
  · intro h
    have same_entries (e : κ × β) : e ∈ xs ↔ e ∈ ys := by
      rw [← lookup_eq_some_iff_mem distinct, ← lookup_eq_some_iff_mem distinct_too, h]
    constructor
    · intro key
      simp only [List.map_map, List.mem_map, Function.comp_apply, same_entries]
    · intro key a b ha hb
      obtain ⟨e, he, hWritten⟩ := List.mem_map.mp ha
      obtain ⟨f, hf, hOther⟩ := List.mem_map.mp hb
      obtain ⟨hName, rfl⟩ := Prod.mk.inj hWritten
      obtain ⟨hOtherName, rfl⟩ := Prod.mk.inj hOther
      obtain rfl : e = f := List.inj_on_of_nodup_map distinct he ((same_entries f).mpr hf)
        (name_inj (hName.trans hOtherName.symm))
      exact .refl _

end

end Json

end SuiteAudit
