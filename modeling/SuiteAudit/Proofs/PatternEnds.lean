import Mathlib.Data.List.Infix
import SuiteAudit.Text.Pattern

/-!
# Where patterns end

What the combinators of patterns match, in terms of the text that is left: a sequence goes on where
its first pattern ends (`ends_all_cons`), a text ends after itself (`ends_text`), a run leaves what
its class does not accept (`rest_run`), and a search tries the ends of a text in turn
(`map_search`). Where it matters only whether a pattern matches, and not which match is preferred,
the ends are told by membership: `mem_ends_all_cons` and the lemmas after it.
-/

namespace SuiteAudit.Text

/-! ### Places -/

namespace Cursor

theorem rest_skip (at_ : Cursor) (n : Nat) : (at_.skip n).rest = at_.rest.drop n := by
  cases n <;> rfl

theorem index_skip (at_ : Cursor) (n : Nat) : (at_.skip n).index = at_.index + n := by
  cases n <;> rfl

theorem kept_skip (at_ : Cursor) (n : Nat) : (at_.skip n).kept = at_.kept := by
  cases n <;> rfl

theorem skip_skip (at_ : Cursor) (m n : Nat) : (at_.skip m).skip n = at_.skip (m + n) := by
  cases n with
  | zero => rfl
  | succ n =>
    have next : at_.skip (m + (n + 1)) = { at_ with
        last := at_.rest[m + n]?, index := at_.index + (m + (n + 1))
        rest := at_.rest.drop (m + (n + 1)) } := rfl
    cases m with
    | zero => rw [next, Nat.zero_add, Nat.zero_add]; rfl
    | succ m =>
      rw [next]
      simp [skip, List.getElem?_drop, List.drop_drop, Nat.add_assoc]

/-- The character before a place is the last one of the text that was read. -/
theorem last_skip {at_ : Cursor} {s : List CodePoint} (h : s <+: at_.rest) (hs : s ≠ []) :
    (at_.skip s.length).last = s.getLast? := by
  obtain ⟨rest, hRest⟩ := h
  obtain ⟨n, hn⟩ := Nat.exists_eq_add_one_of_ne_zero (mt List.length_eq_zero_iff.mp hs)
  rw [hn, List.getLast?_eq_getElem?, hn]
  show at_.rest[n]? = s[n]?
  rw [← hRest, List.getElem?_append_left (by omega)]

end Cursor

/-! ### Combinators -/

namespace Pattern

/-- A sequence ends where its first pattern ends and the others do from there. -/
theorem ends_all_cons (p : Pattern) (ps : List Pattern) (at_ : Cursor) :
    (all (p :: ps)).ends at_ = (p.ends at_).flatMap (all ps).ends := by
  cases ps with
  | nil => exact (List.flatMap_singleton' _).symm
  | cons q ps => rfl

theorem ends_first (ps : List Pattern) (at_ : Cursor) :
    (first ps).ends at_ = ps.flatMap (·.ends at_) := by
  induction ps with
  | nil => cases h : at_.rest <;> simp [first, ends, Cursor.step?, h]
  | cons p ps ih =>
    cases ps with
    | nil => simp [first]
    | cons q ps => exact congrArg (p.ends at_ ++ ·) ih

/-- **A text ends after itself**, where it stands. -/
theorem ends_text (s : Text) (at_ : Cursor) :
    (text s).ends at_ = if s.points <+: at_.rest then [at_.skip s.points.length] else [] := by
  unfold text
  induction s.points generalizing at_ with
  | nil => simp [all, ends, Cursor.skip]
  | cons c cs ih =>
    rw [List.map_cons, ends_all_cons]
    cases hRest : at_.rest with
    | nil => simp [char, ends, Cursor.step?, hRest]
    | cons d rest =>
      by_cases h : d = c
      · subst h
        have one : (char d).ends at_ = [at_.skip 1] := by
          simp [char, ends, Cursor.step?, Cursor.skip, hRest]
        rw [one, List.flatMap_singleton, ih, Cursor.rest_skip, hRest, Cursor.skip_skip]
        simp [List.cons_prefix_cons, Nat.add_comm]
      · simp [char, ends, Cursor.step?, hRest, h, List.cons_prefix_cons, Ne.symm h]

theorem ends_texts (ss : List Text) (at_ : Cursor) :
    (texts ss).ends at_ =
      (ss.filter (·.points <+: at_.rest)).map (at_.skip ·.points.length) := by
  rw [texts, ends_first, List.flatMap_map]
  induction ss with
  | nil => rfl
  | cons s ss ih =>
    rw [List.flatMap_cons, ih, ends_text, List.filter_cons]
    by_cases h : s.points <+: at_.rest <;> simp [h]

/-- A run leaves what its class does not accept. -/
theorem rest_run (accepts : CodePoint → Bool) (at_ : Cursor) :
    (at_.skip (runLength accepts 0 at_.rest)).rest = at_.rest.dropWhile accepts := by
  rw [Cursor.rest_skip, runLength_eq, Nat.zero_add]
  induction at_.rest with
  | nil => rfl
  | cons c rest ih => by_cases h : accepts c <;> simp [h, ih]

/-- A pattern matches at the start of a text if a match can end somewhere. -/
theorem matchesStart_iff {p : Pattern} {s : Text} :
    p.matchesStart s = true ↔ ∃ e, e ∈ p.ends (Cursor.ofChars s.points) := by
  rw [matchesStart, matchStart, matchAt?, Option.isSome_map, List.isSome_head?]
  exact ⟨List.exists_mem_of_ne_nil _, fun ⟨_, he⟩ => List.ne_nil_of_mem he⟩

theorem mem_ends_all_cons {p : Pattern} {ps : List Pattern} {at_ e : Cursor} :
    e ∈ (all (p :: ps)).ends at_ ↔ ∃ m ∈ p.ends at_, e ∈ (all ps).ends m := by
  rw [ends_all_cons, List.mem_flatMap]

theorem mem_ends_oneOf {accepts : CodePoint → Bool} {at_ e : Cursor} :
    e ∈ (oneOf accepts).ends at_ ↔
      ∃ c rest, at_.rest = c :: rest ∧ accepts c = true ∧ e = at_.skip 1 := by
  rw [ends, Cursor.step?]
  cases hRest : at_.rest with
  | nil => simp
  | cons c rest =>
    have next : ({ at_ with last := some c, index := at_.index + 1, rest } : Cursor) =
        at_.skip 1 := by
      rw [Cursor.skip, hRest]
      rfl
    by_cases h : accepts c = true
    · simp only [if_pos h, Option.toList_some, List.mem_singleton, next]
      exact ⟨fun he => ⟨c, rest, rfl, h, he⟩, fun ⟨_, _, _, _, he⟩ => he⟩
    · simp only [if_neg h, Option.toList_none, List.not_mem_nil, false_iff]
      rintro ⟨c', rest', same, h', -⟩
      obtain ⟨rfl, -⟩ := List.cons.inj same
      exact h h'

theorem mem_ends_stop {at_ e : Cursor} :
    e ∈ stop.ends at_ ↔ (at_.rest = [] ∨ at_.rest = [.char '\n']) ∧ e = at_ := by
  rw [ends]
  split
  · next last =>
    rw [Bool.or_eq_true, List.isEmpty_iff, beq_iff_eq] at last
    rw [List.mem_singleton]
    exact ⟨fun he => ⟨last, he⟩, fun he => he.2⟩
  · next more =>
    rw [Bool.or_eq_true, List.isEmpty_iff, beq_iff_eq] at more
    exact iff_of_false List.not_mem_nil fun he => more he.1

theorem mem_ends_first {ps : List Pattern} {at_ e : Cursor} :
    e ∈ (first ps).ends at_ ↔ ∃ p ∈ ps, e ∈ p.ends at_ := by
  rw [ends_first, List.mem_flatMap]

/-- A pattern that asks for the start of a text loses nothing by that. -/
theorem matchesStart_start_iff {p : Pattern} {ps : List Pattern} {s : Text} :
    (all (start :: p :: ps)).matchesStart s = true ↔
      ∃ e, e ∈ (all (p :: ps)).ends (Cursor.ofChars s.points) := by
  rw [matchesStart_iff]
  simp only [mem_ends_all_cons (p := start), ends, Cursor.ofChars, beq_self_eq_true, ↓reduceIte,
    List.mem_singleton, exists_eq_left]

/-- Where a pattern may be repeated, it may be left out. -/
theorem mem_ends_many_self (p : Pattern) (at_ : Cursor) : at_ ∈ (many p).ends at_ := by
  rw [ends]
  cases at_.rest <;> simp [endsMany]

theorem mem_ends_opt {p : Pattern} {at_ e : Cursor} :
    e ∈ (opt p).ends at_ ↔ e ∈ p.ends at_ ∨ e = at_ := by
  rw [opt, ends, List.mem_append, ends, List.mem_singleton]

/-- **A search goes through the ends of a text**, the longest first, if what a match gives there
depends on what is left alone. -/
theorem map_search {β : Type} {p : Pattern} {give : Match → β} {given : List CodePoint → Option β}
    (h : ∀ last index rest,
      (p.matchAt? { last, index, rest, kept := [] }).map give = given rest) (s : Text) :
    (p.search s).map give = s.points.tails.findSome? given := by
  suffices from_ : ∀ last index, (p.searchFrom last index s.points).map give =
      s.points.tails.findSome? given from from_ none 0
  induction s.points with
  | nil =>
    intro last index
    rw [searchFrom, h]
    cases hGiven : given [] <;> simp [hGiven]
  | cons c rest ih =>
    intro last index
    rw [List.tails_cons, List.findSome?_cons, ← h last index, searchFrom]
    cases p.matchAt? { last, index, rest := c :: rest, kept := [] } with
    | some m => rfl
    | none => exact ih _ _

end Pattern

end SuiteAudit.Text
