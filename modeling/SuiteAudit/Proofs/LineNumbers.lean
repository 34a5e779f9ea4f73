import SuiteAudit.Proofs.Numerals
import SuiteAudit.Proofs.Silences
import SuiteAudit.Proofs.Subtrees
import SuiteAudit.Proofs.Utf8
import SuiteAudit.Audit.Analysis
import SuiteAudit.Syntax.Listing

/-!
# Rows and lines

Lines are numbered twice: the rows of a tree count line feeds, and the lines of a suite end at every
line break. `Chars.holds_iff` says which line holds a character: its number is that of the line ends
before. So a line has the number of its row where each break before it has a line feed, and each
*stray* break puts the lines one further ahead of the rows (`rows_lag_strays`).
-/

namespace SuiteAudit

open Syntax

/-! ### The line of a character -/

namespace Chars

/-- The lines of a text as `linesFrom` has them, each with the break that ends it. -/
def brokenLinesFrom (line : List CodePoint) :
    List CodePoint → List (List CodePoint × List CodePoint)
  | [] => if line.isEmpty then [] else [(line.reverse, [])]
  | .char '\r' :: .char '\n' :: rest =>
    (line.reverse, [.char '\r', .char '\n']) :: brokenLinesFrom [] rest
  | c :: rest =>
    if isLineBreak c then (line.reverse, [c]) :: brokenLinesFrom [] rest
    else brokenLinesFrom (c :: line) rest

/-- **The lines of a text, each with the break that ends it.** -/
def brokenLines (s : List CodePoint) : List (List CodePoint × List CodePoint) :=
  brokenLinesFrom [] s

theorem map_fst_brokenLinesFrom (line s : List CodePoint) :
    (brokenLinesFrom line s).map (·.1) = linesFrom line s := by
  fun_induction brokenLinesFrom line s with
  | case1 line h => rw [linesFrom, if_pos h]; rfl
  | case2 line h => rw [linesFrom, if_neg h]; rfl
  | case3 line rest ih => rw [linesFrom, List.map_cons, ih]
  | case4 line c rest hNot h ih =>
    rw [linesFrom, if_pos h, List.map_cons, ih]
    exact hNot
  | case5 line c rest hNot h ih =>
    rw [linesFrom, if_neg h, ih]
    exact hNot

/-- A text is its lines with their breaks. -/
theorem flatMap_brokenLinesFrom (line s : List CodePoint) :
    (brokenLinesFrom line s).flatMap (fun l => l.1 ++ l.2) = line.reverse ++ s := by
  fun_induction brokenLinesFrom line s with
  | case1 line h => simp [List.isEmpty_iff.mp h]
  | case2 line h => simp
  | case3 line rest ih => simp [ih]
  | case4 line c rest hNot h ih => simp [ih]
  | case5 line c rest hNot h ih => simp [ih]

/-- How many characters lines have, their breaks included. -/
def lengthOf (lines : List (List CodePoint × List CodePoint)) : Nat :=
  (lines.flatMap fun l => l.1 ++ l.2).length

/-- **Line `k` holds the character at `p`**: that line, its break included, ends after it, and the
lines before do not. -/
def Holds (lines : List (List CodePoint × List CodePoint)) (k p : Nat) : Prop :=
  lengthOf (lines.take k) ≤ p ∧ p < lengthOf (lines.take (k + 1))

/-- Whether a character ends a line, with `rest` behind it; a carriage return does not if a line
feed follows, for that one does. -/
def endsLine (c : CodePoint) (rest : List CodePoint) : Bool :=
  isLineBreak c && !(c == .char '\r' && rest.head? == some (.char '\n'))

/-- **A stray break**: the end of a line without a line feed. -/
def isStray (c : CodePoint) (rest : List CodePoint) : Bool :=
  endsLine c rest && c != .char '\n'

/-- How many of the first characters are accepted, each with what is behind it. -/
def countTo (accepts : CodePoint → List CodePoint → Bool) : (p : Nat) → List CodePoint → Nat
  | 0, _ => 0
  | _, [] => 0
  | p + 1, c :: rest => (accepts c rest).toNat + countTo accepts p rest

theorem Holds.lt_length {lines : List (List CodePoint × List CodePoint)} {k p : Nat}
    (h : Holds lines k p) : k < lines.length := by
  by_contra hNot
  have past := Nat.le_of_not_lt hNot
  have bounds := h
  rw [Holds, List.take_of_length_le past, List.take_of_length_le (Nat.le_succ_of_le past)] at bounds
  exact absurd bounds.2 (Nat.not_lt.mpr bounds.1)

section

variable {l : List CodePoint × List CodePoint} {rest : List (List CodePoint × List CodePoint)}
  {k p : Nat}

theorem lengthOf_cons : lengthOf (l :: rest) = l.1.length + l.2.length + lengthOf rest := by
  rw [lengthOf, List.flatMap_cons, List.length_append, List.length_append, lengthOf]

theorem holds_cons_of_lt (h : p < l.1.length + l.2.length) : Holds (l :: rest) k p ↔ k = 0 := by
  cases k with
  | zero =>
    rw [Holds, List.take_zero, List.take_succ_cons, lengthOf_cons]
    exact iff_of_true ⟨Nat.zero_le p, Nat.lt_add_right _ h⟩ rfl
  | succ k =>
    rw [Holds, List.take_succ_cons, lengthOf_cons]
    exact iff_of_false (fun held => by omega) (Nat.succ_ne_zero k)

theorem holds_cons_add {q n : Nat} (h : p = l.1.length + l.2.length + q)
    (hRest : ∀ j, Holds rest j q ↔ j = n) : Holds (l :: rest) k p ↔ k = n + 1 := by
  cases k with
  | zero =>
    have first : lengthOf (List.take (0 + 1) (l :: rest)) = l.1.length + l.2.length := by
      simp [lengthOf]
    refine iff_of_false (fun held => ?_) (Nat.succ_ne_zero n).symm
    rw [Holds, first] at held
    omega
  | succ k =>
    have held_iff : Holds (l :: rest) (k + 1) p ↔ Holds rest k q := by
      rw [Holds, Holds, List.take_succ_cons, List.take_succ_cons, lengthOf_cons, lengthOf_cons]
      omega
    rw [held_iff, hRest, Nat.add_right_cancel_iff]

end

theorem endsLine_feed (rest : List CodePoint) : endsLine (.char '\n') rest = true := rfl

theorem endsLine_of_isLineBreak {c : CodePoint} {rest : List CodePoint} (h : isLineBreak c = true)
    (hNot : ∀ others, c = .char '\r' → rest = .char '\n' :: others → False) :
    endsLine c rest = true := by
  rw [endsLine, h, Bool.true_and, Bool.not_eq_true', Bool.and_eq_false_imp, beq_iff_eq]
  intro hc
  rw [beq_eq_false_iff_ne]
  intro hHead
  obtain ⟨others, hRest⟩ := List.head?_eq_some_iff.mp hHead
  exact hNot others hc hRest

/-- The characters read of the first line belong to it. -/
theorem holds_brokenLinesFrom_of_lt {line s : List CodePoint} {k p : Nat} (h : p < line.length) :
    Holds (brokenLinesFrom line s) k p ↔ k = 0 := by
  fun_induction brokenLinesFrom line s with
  | case1 line hEmpty =>
    rw [List.isEmpty_iff.mp hEmpty] at h
    cases h
  | case2 line hEmpty => exact holds_cons_of_lt (by simpa using h)
  | case3 line rest ih => exact holds_cons_of_lt (by simp; omega)
  | case4 line c rest hNot hBreak ih => exact holds_cons_of_lt (by simp; omega)
  | case5 line c rest hNot hBreak ih => exact ih (Nat.lt_succ_of_lt h)

/-- **A character is held by the line whose number is that of the line ends before it.** -/
theorem holds_brokenLinesFrom_iff {line s : List CodePoint} {k q : Nat} (h : q < s.length) :
    Holds (brokenLinesFrom line s) k (line.length + q) ↔ k = countTo endsLine q s := by
  fun_induction brokenLinesFrom line s generalizing k q with
  | case1 => cases h
  | case2 => cases h
  | case3 line rest ih =>
    -- The two characters of the break are still on the line that it ends.
    match q with
    | 0 => exact holds_cons_of_lt (by simp)
    | 1 => exact holds_cons_of_lt (by simp)
    | q + 2 =>
      have later (j : Nat) : Holds (brokenLinesFrom [] rest) j q ↔ j = countTo endsLine q rest := by
        rw [← ih (Nat.lt_of_add_lt_add_right h), List.length_nil, Nat.zero_add]
      have counted : countTo endsLine (q + 2) (.char '\r' :: .char '\n' :: rest) =
          countTo endsLine q rest + 1 := by
        rw [countTo, countTo, endsLine_feed, Bool.toNat_true, Nat.add_comm 1]
        exact Nat.zero_add _
      rw [counted, holds_cons_add (by simp; omega) later]
  | case4 line c rest hNot hBreak ih =>
    cases q with
    | zero => exact holds_cons_of_lt (by simp)
    | succ q =>
      have later (j : Nat) : Holds (brokenLinesFrom [] rest) j q ↔ j = countTo endsLine q rest := by
        rw [← ih (Nat.lt_of_succ_lt_succ h), List.length_nil, Nat.zero_add]
      rw [countTo, endsLine_of_isLineBreak hBreak hNot, Bool.toNat_true, Nat.add_comm 1,
        holds_cons_add (by simp; omega) later]
  | case5 line c rest hNot hBreak ih =>
    have goes_on : endsLine c rest = false := by simp [endsLine, hBreak]
    cases q with
    | zero => exact holds_brokenLinesFrom_of_lt (Nat.lt_succ_self line.length)
    | succ q =>
      rw [countTo, goes_on, Bool.toNat_false, Nat.zero_add, ← ih (Nat.lt_of_succ_lt_succ h),
        List.length_cons, Nat.add_right_comm, Nat.add_assoc]

/-- **Line ends are line feeds and stray breaks.** -/
theorem countTo_endsLine (p : Nat) (s : List CodePoint) :
    countTo endsLine p s = (s.take p).count (.char '\n') + countTo isStray p s := by
  induction s generalizing p with
  | nil => cases p <;> rfl
  | cons c rest ih =>
    cases p with
    | zero => rfl
    | succ p =>
      rw [countTo, countTo, ih, List.take_succ_cons, List.count_cons, isStray]
      by_cases hc : c = .char '\n'
      · subst hc
        rw [endsLine_feed, bne_self_eq_false, Bool.and_false, beq_self_eq_true, if_pos rfl,
          Bool.toNat_true, Bool.toNat_false]
        omega
      · rw [bne_iff_ne.mpr hc, Bool.and_true, beq_false_of_ne hc, if_neg Bool.false_ne_true]
        omega

/-- **The line that holds a character** has the number of the line feeds and stray breaks before. -/
theorem holds_iff {s : List CodePoint} {k p : Nat} (h : p < s.length) :
    Holds (brokenLines s) k p ↔
      k = (s.take p).count (.char '\n') + countTo isStray p s := by
  have from_start : Holds (brokenLinesFrom [] s) k ([].length + p) ↔ k = countTo endsLine p s :=
    holds_brokenLinesFrom_iff h
  rwa [List.length_nil, Nat.zero_add, countTo_endsLine] at from_start

end Chars

/-! ### The rows of a tree -/

/-- **The rows of a tree count line feeds**: a node starts in the row of the line feeds among the
bytes before it. -/
def RowsCountFeeds (text : String) (root : Node) : Prop :=
  ∀ n ∈ root.nodes, n.label.start.row = (text.toUTF8.toList.take n.label.first).count 10

/-- Of all code points only the line feed has its byte. -/
theorem CodePoint.count_feed_bytes (p : CodePoint) :
    p.bytes.count 10 = if p = .char '\n' then 1 else 0 := by
  by_cases hFeed : p = .char '\n'
  · subst hFeed
    rfl
  -- The bytes of all longer forms are at least 128.
  · have code_ne : p.code ≠ 10 := fun h => hFeed (code_injective h)
    have code_lt := p.code_lt
    rw [if_neg hFeed, List.count_eq_zero, CodePoint.bytes]
    split_ifs <;> simp only [List.mem_cons, List.not_mem_nil, or_false, ← UInt8.toNat_inj,
      UInt8.toNat_ofNat', Nat.toUInt8] <;> simp <;> omega

theorem Text.count_feed_bytes (t : Text) : t.bytes.count 10 = t.points.count (.char '\n') := by
  obtain ⟨points⟩ := t
  rw [Text.bytes]
  induction points with
  | nil => rfl
  | cons p points ih =>
    rw [List.flatMap_cons, List.count_append, ih, CodePoint.count_feed_bytes, List.count_cons,
      Nat.add_comm]
    simp only [beq_iff_eq]

theorem toList_toUTF8 (text : String) : text.toUTF8.toList = (Text.ofString text).bytes := by
  show text.toByteArray.toList = _
  rw [← Text.bytes_ofString, toList_eq, List.toList_data_toByteArray]

/-- **The row of a node counts the line feeds before its first character.** -/
theorem RowsCountFeeds.row_eq {text : String} {root n : Node} (h : RowsCountFeeds text root)
    (hn : n ∈ root.nodes) {before after : List CodePoint}
    (hPoints : (Text.ofString text).points = before ++ after)
    (hFirst : (Text.mk before).bytes.length = n.label.first) :
    n.label.start.row = before.count (.char '\n') := by
  have bytes_eq : (Text.ofString text).bytes = (Text.mk before).bytes ++ (Text.mk after).bytes := by
    rw [Text.bytes, hPoints, List.flatMap_append]
    rfl
  rw [h n hn, toList_toUTF8, bytes_eq, ← hFirst, List.take_left, Text.count_feed_bytes]

/-! ### Trees from listings -/

theorem row_pointsFrom {bytes : List UInt8} {k : Nat} (h : k ≤ bytes.length) (p : Point) :
    ((pointsFrom p bytes)[k]?.getD {}).row = p.row + (bytes.take k).count 10 := by
  induction bytes generalizing k p with
  | nil =>
    obtain rfl := Nat.le_zero.mp h
    rfl
  | cons byte bytes ih =>
    cases k with
    | zero => rfl
    | succ k =>
      rw [pointsFrom, List.getElem?_cons_succ, ih (Nat.le_of_succ_le_succ h), Point.next,
        List.take_succ_cons, List.count_cons]
      split
      · simp
        omega
      · simp

theorem exists_of_mem_nodes_treesOf {f : FileBytes} {listing : List Entry} {n : Node}
    (h : n ∈ (treesOf f listing).flatMap Node.nodes) : ∃ e ∈ listing, n.label = e.label f := by
  induction listing with
  | nil => cases h
  | cons e listing ih =>
    have later (h : n ∈ (treesOf f listing).flatMap Node.nodes) :
        ∃ e' ∈ e :: listing, n.label = e'.label f := by
      obtain ⟨e', he', hLabel⟩ := ih h
      exact ⟨e', List.mem_cons_of_mem e he', hLabel⟩
    obtain ⟨m, hm, hn⟩ := List.mem_flatMap.mp h
    rw [treesOf, List.foldr_cons, Entry.place, List.mem_cons] at hm
    rcases hm with rfl | hm
    · rw [Node.nodes_eq_cons, List.mem_cons] at hn
      rcases hn with rfl | hn
      · exact ⟨e, List.mem_cons_self, rfl⟩
      · obtain ⟨c, hc, hn⟩ := List.mem_flatMap.mp hn
        exact later (List.mem_flatMap.mpr ⟨c, List.mem_of_mem_take hc, hn⟩)
    · exact later (List.mem_flatMap.mpr ⟨m, List.mem_of_mem_drop hm, hn⟩)

/-- **The nodes of a listed tree are those of its listing.** -/
theorem exists_of_mem_nodes_ofListing? {f : FileBytes} {listing : List Entry} {root n : Node}
    (h : Node.ofListing? f listing = some root) (hn : n ∈ root.nodes) :
    ∃ e ∈ listing, n.label = e.label f := by
  have trees_eq : treesOf f listing = [root] := by
    unfold Node.ofListing? at h
    split at h
    · next hTrees => rw [hTrees, Option.some.inj h]
    · cases h
  refine exists_of_mem_nodes_treesOf ?_
  rwa [trees_eq, List.flatMap_singleton]

/-- **The rows of a listing count line feeds**, where its nodes begin inside the file. -/
theorem rowsCountFeeds_of_ofListing? {text : String} {listing : List Entry} {root : Node}
    (h : Node.ofListing? (FileBytes.ofText text) listing = some root)
    (inside : ∀ e ∈ listing, e.first ≤ text.toUTF8.toList.length) : RowsCountFeeds text root := by
  intro n hn
  obtain ⟨e, he, hLabel⟩ := exists_of_mem_nodes_ofListing? h hn
  rw [hLabel]
  show (FileBytes.pointAt _ e.first).row = _
  rw [FileBytes.pointAt, FileBytes.ofText, Array.getD_eq_getD_getElem?, List.getElem?_toArray,
    row_pointsFrom (inside e he), Nat.zero_add]
  rfl

/-! ### Suites -/

theorem Chars.lines_eq (s : List CodePoint) : Chars.lines s = (Chars.brokenLines s).map (·.1) :=
  (Chars.map_fst_brokenLinesFrom [] s).symm

theorem Node.line_span (n : Node) : n.span.line = n.label.start.row + 1 := rfl

/-- **Rows lag behind lines by the stray breaks.** Let a node of a file that was read begin at the
character `c`. One line of the file holds `c`, and the suite has it under the same number. That
number is the one of the node's row and the number of stray breaks before it, so the two are the
same where there is none. A directive on that line silences a line as far below the row, so the node
itself where there is no stray break before it. -/
theorem rows_lag_strays {parse : Parser} {path : Text} {content : Content}
    {framework : Option Framework} {s : Suite}
    (h : Suite.read parse path content framework = .ok s) :
    ∃ grammar text, Grammar.ofPath? path = some grammar ∧ content.string? = some text ∧
      (RowsCountFeeds text (parse grammar text).root →
        ∀ n ∈ (parse grammar text).root.nodes, ∀ before c after,
          (Text.ofString text).points = before ++ c :: after →
          (Text.mk before).bytes.length = n.label.first →
          ∃ k line stop, (Chars.brokenLines (before ++ c :: after))[k]? = some (line, stop) ∧
            (∀ j, Chars.Holds (Chars.brokenLines (before ++ c :: after)) j before.length ↔ j = k) ∧
            s.lines[k]? = some ⟨line⟩ ∧
            (k + 1 : Int) =
              n.span.line + Chars.countTo Chars.isStray before.length (before ++ c :: after) ∧
            ∀ named rule, Says registry.contains s.lines (k + 1) .ignore named →
              IsAbout named rule →
              (Silence.ofLines registry.contains s.lines).isIgnored (n.span.line +
                Chars.countTo Chars.isStray before.length (before ++ c :: after)) rule = true) := by
  obtain ⟨grammar, text, outlined, hGrammar, hText, -, hs⟩ := exists_ofOutline_of_read h
  refine ⟨grammar, text, hGrammar, hText, fun hRows n hn before c after hPoints hFirst => ?_⟩
  have inside : before.length < (before ++ c :: after).length := by simp
  have row_eq := hRows.row_eq hn hPoints hFirst
  have held (j : Nat) := Chars.holds_iff (k := j) inside
  rw [List.take_left, ← row_eq] at held
  generalize Chars.countTo Chars.isStray before.length (before ++ c :: after) = strays at held ⊢
  have lines_eq : s.lines = (Chars.brokenLines (before ++ c :: after)).map fun l => ⟨l.1⟩ := by
    rw [hs]
    dsimp only
    rw [Text.lines, hPoints, Chars.lines_eq, List.map_map]
    rfl
  have k_lt := ((held _).mpr rfl).lt_length
  have line_eq : (n.label.start.row + strays + 1 : Int) = n.span.line + strays := by
    rw [Node.line_span, Int.add_right_comm]
  refine ⟨n.label.start.row + strays, _, _, List.getElem?_eq_getElem k_lt, held, ?_, ?_, ?_⟩
  · rw [lines_eq, List.getElem?_map, List.getElem?_eq_getElem k_lt]
    rfl
  · rw [← line_eq, Int.natCast_add]
  · intro named rule hSays hAbout
    have in_lines : n.label.start.row + strays + 1 ≤ s.lines.length := by
      rwa [lines_eq, List.length_map]
    rw [← line_eq]
    exact isIgnored_of_says in_lines hSays hAbout

/-- A name in the row below a comment of three bytes. -/
def nameBelowComment : List Entry :=
  [{ kind := "program", first := 0, last := 5, childCount := 2 },
    { kind := "comment", first := 0, last := 3 },
    { kind := "expression_statement", first := 4, last := 5, childCount := 1 },
    { kind := "identifier", first := 4, last := 5 }]

/-- A parser that finds a comment and a name below it. -/
def nameParser : Parser := fun _ text =>
  { root := (Node.ofListing? (FileBytes.ofText text) nameBelowComment).getD default }

/-- A form feed ends a line and no row, so the name below the comment starts in the second row and
on the third line. -/
theorem rows_lag_strays_form_feed :
    ∃ s, Suite.read nameParser "name.test.ts" (.text "//\x0c\nf") none = .ok s ∧
      ∃ n ∈ (nameParser .typescript "//\x0c\nf").root.nodes, n.label.first = 4 ∧
        n.span.line = 2 ∧ s.lines[2]? = some ("f" : Text) := by
  have read : (Suite.read nameParser "name.test.ts" (.text "//\x0c\nf") none).isOk = true := by
    decide +kernel
  have found : ((nameParser .typescript "//\x0c\nf").root.nodes.any fun n =>
      n.label.first == 4 && n.span.line == 2) = true := by decide +kernel
  obtain ⟨n, hn, hPlace⟩ := List.any_eq_true.mp found
  rw [Bool.and_eq_true, beq_iff_eq, beq_iff_eq] at hPlace
  have listed :
      (Node.ofListing? (FileBytes.ofText "//\x0c\nf") nameBelowComment).isSome = true := by
    decide +kernel
  obtain ⟨root, hRoot⟩ := Option.isSome_iff_exists.mp listed
  have root_eq (grammar : Grammar) : (nameParser grammar "//\x0c\nf").root = root := by
    rw [nameParser, hRoot, Option.getD_some]
  cases hRead : Suite.read nameParser "name.test.ts" (.text "//\x0c\nf") none with
  | error e => simp [hRead, Except.isOk, Except.toBool] at read
  | ok s =>
    obtain ⟨grammar, text, -, hText, key⟩ := rows_lag_strays hRead
    obtain rfl : "//\x0c\nf" = text :=
      Option.some.inj ((Text.string?_ofString "//\x0c\nf").symm.trans hText)
    have inside : ∀ e ∈ nameBelowComment, e.first ≤ "//\x0c\nf".toUTF8.toList.length := by
      rw [toList_eq]
      decide
    rw [root_eq] at key hn
    let before : List CodePoint := [.char '/', .char '/', .char '\x0c', .char '\n']
    have first_eq : (Text.mk before).bytes.length = n.label.first := by
      rw [hPlace.1]
      decide
    have counts := rowsCountFeeds_of_ofListing? hRoot inside
    obtain ⟨k, line, stop, hLine, -, hLines, hNumber, -⟩ :=
      key counts n hn before (.char 'f') [] (by decide) first_eq
    have strays_eq : Chars.countTo Chars.isStray before.length (before ++ [.char 'f']) = 1 := by
      decide
    rw [hPlace.2, strays_eq] at hNumber
    obtain rfl : k = 2 := by omega
    have line_eq : some (line, stop) = some ([.char 'f'], []) := hLine.symm.trans (by decide)
    obtain ⟨rfl, rfl⟩ := Prod.mk.inj (Option.some.inj line_eq)
    refine ⟨s, rfl, n, ?_, hPlace.1, hPlace.2, hLines⟩
    rw [root_eq]
    exact hn

end SuiteAudit
