import Mathlib.Data.List.Basic
import SuiteAudit.Content

/-!
# What the bytes of a file tell

The bytes of a text tell all texts apart, halves of surrogate pairs included (`bytes_injective`),
and for a string they are its UTF-8 (`bytes_ofString`). So the bytes of a content tell how it reads,
with one exception: a zero byte may stand in a text, and makes bytes unreadable
(`string?_eq_of_toBytes_eq`).
-/

namespace SuiteAudit

/-! ### Code points -/

theorem CodePoint.code_lt (p : CodePoint) : p.code < 0x110000 := by
  cases p with
  | char c =>
    have valid : c.toNat < 0xD800 ∨ (0xDFFF < c.toNat ∧ c.toNat < 0x110000) := c.valid
    show c.toNat < 0x110000
    omega
  | surrogate s =>
    have half := isSurrogate_iff.mp s.isSurrogate
    show s.code < 0x110000
    omega

/-- **No code point's bytes begin those of another**, so bytes are read back in one way. -/
theorem CodePoint.bytes_append_inj {p q : CodePoint} {xs ys : List UInt8}
    (h : p.bytes ++ xs = q.bytes ++ ys) : p = q ∧ xs = ys := by
  have hp := p.code_lt
  have hq := q.code_lt
  unfold CodePoint.bytes at h
  dsimp only at h
  suffices same : p.code = q.code ∧ xs = ys from ⟨code_injective same.1, same.2⟩
  split_ifs at h <;>
    simp only [List.cons_append, List.nil_append, List.cons.injEq, ← UInt8.toNat_inj,
      UInt8.toNat_ofNat', Nat.toUInt8] at h
  -- As many bytes on both sides give the number back; else the first bytes lie in other ranges.
  all_goals first
    | exact ⟨by omega, h.2⟩
    | exact ⟨by omega, h.2.2⟩
    | exact ⟨by omega, h.2.2.2⟩
    | exact ⟨by omega, h.2.2.2.2⟩
    | (exfalso; omega)

theorem CodePoint.bytes_ne_nil (p : CodePoint) : p.bytes ≠ [] := by
  unfold CodePoint.bytes
  dsimp only
  split_ifs <;> exact List.cons_ne_nil _ _

/-! ### Texts -/

theorem Text.points_eq_of_flatMap_bytes : ∀ {ps qs : List CodePoint},
    ps.flatMap CodePoint.bytes = qs.flatMap CodePoint.bytes → ps = qs
  | [], [], _ => rfl
  | [], q :: qs, h => by
    rw [List.flatMap_nil, List.flatMap_cons] at h
    exact absurd (List.append_eq_nil_iff.mp h.symm).1 q.bytes_ne_nil
  | p :: ps, [], h => by
    rw [List.flatMap_nil, List.flatMap_cons] at h
    exact absurd (List.append_eq_nil_iff.mp h).1 p.bytes_ne_nil
  | p :: ps, q :: qs, h => by
    rw [List.flatMap_cons, List.flatMap_cons] at h
    obtain ⟨rfl, hRest⟩ := CodePoint.bytes_append_inj h
    rw [points_eq_of_flatMap_bytes hRest]

/-- **The bytes of a text tell all texts apart.** -/
theorem Text.bytes_injective {s t : Text} (h : s.bytes = t.bytes) : s = t := by
  cases s
  cases t
  rw [Text.mk.injEq]
  exact Text.points_eq_of_flatMap_bytes h

/-- The bytes of a character are its UTF-8. -/
theorem CodePoint.bytes_char (c : Char) :
    (CodePoint.char c).bytes = String.utf8EncodeChar c := by
  have small := (CodePoint.char c).code_lt
  have value : (CodePoint.char c).code = c.val.toNat := rfl
  unfold CodePoint.bytes String.utf8EncodeChar
  dsimp only
  rw [value] at small ⊢
  split_ifs
  all_goals first
    | (exfalso; omega)
    | rfl
    | (simp only [List.cons.injEq, and_true, ← UInt8.toNat_inj, UInt8.toNat_ofNat', Nat.toUInt8]
       omega)

/-- **The bytes of a string are its UTF-8.** -/
theorem Text.bytes_ofString (s : String) : (Text.ofString s).bytes.toByteArray = s.toByteArray := by
  rw [← String.utf8Encode_toList, List.utf8Encode, Text.bytes, Text.ofString, List.flatMap_map]
  exact congrArg List.toByteArray (List.flatMap_congr fun c _ => CodePoint.bytes_char c)

/-! ### Contents -/

theorem toList_loop (data : ByteArray) (i : Nat) (read : List UInt8) :
    ByteArray.toList.loop data i read = read.reverse ++ data.data.toList.drop i := by
  fun_induction ByteArray.toList.loop data i read with
  | case1 i read h ih =>
    rw [ih, List.reverse_cons, List.append_assoc, List.singleton_append]
    have inside : i < data.data.toList.length := h
    rw [List.drop_eq_getElem_cons inside]
    congr 2
    show data.data[i]! = _
    rw [getElem!_pos data.data i h, Array.getElem_toList]
  | case2 i read h =>
    have outside : data.data.toList.length ≤ i := Nat.le_of_not_lt h
    rw [List.drop_eq_nil_of_le outside, List.append_nil]

theorem toList_eq (data : ByteArray) : data.toList = data.data.toList := by
  rw [ByteArray.toList, toList_loop, List.reverse_nil, List.nil_append, List.drop_zero]

theorem toList_injective {data others : ByteArray} (h : data.toList = others.toList) :
    data = others := by
  rw [toList_eq, toList_eq] at h
  exact ByteArray.ext (Array.toList_inj.mp h)

/-- Bytes that are UTF-8 are those of the string that they spell. -/
theorem fromUTF8?_eq_some_iff {data : ByteArray} {s : String} :
    String.fromUTF8? data = some s ↔ data = s.toByteArray := by
  unfold String.fromUTF8?
  constructor
  · intro h
    split at h
    · obtain rfl := Option.some.inj h
      rfl
    · cases h
  · rintro rfl
    rw [dif_pos s.isValidUTF8]
    rfl

/-- A text that can be read is the text of its string. -/
theorem Text.eq_ofString_of_string? {t : Text} {s : String} (h : t.string? = some s) :
    t = Text.ofString s := by
  have points (ps : List CodePoint) (cs : List Char) (h : ps.mapM CodePoint.char? = some cs) :
      ps = cs.map .char := by
    induction ps generalizing cs with
    | nil =>
      obtain rfl : [] = cs := by simpa using h
      rfl
    | cons p ps ih =>
      cases p with
      | surrogate s => simp [CodePoint.char?] at h
      | char c =>
        simp only [List.mapM_cons, CodePoint.char?, Option.bind_eq_bind, Option.bind_some,
          Option.pure_def, Option.bind_eq_some_iff, Option.some.injEq] at h
        obtain ⟨rest, hRest, rfl⟩ := h
        rw [ih rest hRest, List.map_cons]
  obtain ⟨cs, hPoints, rfl⟩ := Option.map_eq_some_iff.mp h
  cases t
  rw [Text.ofString, String.toList_ofList, Text.mk.injEq]
  exact points _ cs hPoints

/-- **A text and bytes that are the same bytes read alike.** -/
theorem Text.string?_eq_fromUTF8? {t : Text} {data : ByteArray} (h : t.bytes = data.toList) :
    t.string? = String.fromUTF8? data := by
  have data_eq : data = t.bytes.toByteArray := by
    apply ByteArray.ext
    rw [h, toList_eq, ← Array.toList_inj, List.toList_data_toByteArray]
  apply Option.ext
  intro s
  rw [fromUTF8?_eq_some_iff, data_eq, ← Text.bytes_ofString]
  constructor
  · intro hRead
    rw [Text.eq_ofString_of_string? hRead]
  · intro hBytes
    rw [Text.bytes_injective (List.toByteArray_inj.mp hBytes), Text.string?_ofString]

namespace Content

/-- Whether a content is a text. -/
def isText : Content → Bool
  | text _ => true
  | bytes _ => false

/-- **The bytes of a content tell how it reads**, except that a zero byte may stand in a text
only. -/
theorem string?_eq_of_toBytes_eq {x y : Content} (h : x.toBytes = y.toBytes)
    (kind : 0 ∈ x.toBytes → x.isText = y.isText) : x.string? = y.string? := by
  cases x with
  | text t =>
    cases y with
    | text u => rw [Text.bytes_injective (s := t) (t := u) h]
    | bytes data =>
      have no_zero : 0 ∉ data.toList := fun zero => by simpa [isText] using kind (h ▸ zero)
      rw [string?, string?, if_neg (by simpa using no_zero), Text.string?_eq_fromUTF8? h]
  | bytes data =>
    cases y with
    | text u =>
      have no_zero : 0 ∉ data.toList := fun zero => by simpa [isText] using kind zero
      rw [string?, string?, if_neg (by simpa using no_zero), Text.string?_eq_fromUTF8? h.symm]
    | bytes others => rw [toList_injective h]

end Content

end SuiteAudit
