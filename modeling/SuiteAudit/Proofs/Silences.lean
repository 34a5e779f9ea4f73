import Mathlib.Data.List.Basic
import SuiteAudit.Directive

/-!
# Silence line by line

Directives are read with a list of open channels and a growing list of ranges. `Silenced` said what
they mean without either: it looks at the lines one by one. The invariant is `Heard`: before a line,
the open channels are those that some earlier line opened and none in between closed, and together
with the ranges they have told, for every earlier line, which channels are silent on it. One line
keeps it (`Heard.next`), so a whole file does (`heard_readLines`), and
`silence_line_by_line` reads the answer off.
-/

namespace SuiteAudit

/-! ### What lines say -/

/-- **What a line says**: `kind` is what its first directive does, and `named` are the registered
rules that this directive names. Lines count from one. -/
def Says (known : Text → Bool) (lines : List Text) (n : Nat) (kind : DirectiveKind)
    (named : List Text) : Prop :=
  ∃ line m word, (line, n) ∈ lines.zipIdx 1 ∧ Directive.pattern.search line = some m ∧
    m.groups = [word] ∧ Directive.words.lookup word = some kind ∧
      named = Directive.namedRules known (Directive.tailFrom m.last line)

/-- Whether a directive that names these rules is about a rule: it names it, or names none. -/
def IsAbout (named : List Text) (rule : Text) : Prop :=
  named = [] ∨ rule ∈ named

/-- **Whether the lines silence a rule on line `n`**: some line does so in the whole file, or the
line itself does, or the line before for the next one. Or a line up to this one disables the rule by
its name, and no line strictly between enables it, be it by its name or with all rules. Or a line up
to this one disables all rules, and no line strictly between enables all rules. -/
def Silenced (known : Text → Bool) (lines : List Text) (n : Nat) (rule : Text) : Prop :=
  (∃ k named, Says known lines k .disableFile named ∧ IsAbout named rule) ∨
    (∃ named, Says known lines n .ignore named ∧ IsAbout named rule) ∨
    (∃ named, Says known lines (n - 1) .ignoreNextLine named ∧ IsAbout named rule) ∨
    (∃ s ≤ n, (∃ named, Says known lines s .disable named ∧ rule ∈ named) ∧
      ∀ e, s < e → e < n → ¬ ∃ named, Says known lines e .enable named ∧ IsAbout named rule) ∨
    ∃ s ≤ n, Says known lines s .disable [] ∧
      ∀ e, s < e → e < n → ¬ Says known lines e .enable []

/-! ### Channels opened and closed -/

section

variable (said : Nat → Option Directive)

/-- The line opens the channel. -/
def Opens (n : Nat) (c : Channel) : Prop :=
  ∃ d, said n = some d ∧ d.kind = .disable ∧ c ∈ d.channels

/-- The line closes the channel. -/
def Closes (n : Nat) (c : Channel) : Prop :=
  ∃ d, said n = some d ∧ d.kind = .enable ∧ SilenceReader.closes d.channels c = true

/-- **The channel is open when the line begins.** -/
def OpenBefore (n : Nat) (c : Channel) : Prop :=
  ∃ s < n, Opens said s c ∧ ∀ e, s < e → e < n → ¬ Closes said e c

/-- **The channel is silent on the line**: it is open when the line begins, or is opened there. -/
def SilentOn (n : Nat) (c : Channel) : Prop :=
  OpenBefore said n c ∨ Opens said n c

/-- The line silences the channel on line `k`. -/
def Marks (n k : Nat) (c : Channel) : Prop :=
  ∃ d, said n = some d ∧ c ∈ d.channels ∧
    (d.kind = .ignore ∧ k = n ∨ d.kind = .ignoreNextLine ∧ k = n + 1)

/-- The line silences the channel in the whole file. -/
def MarksFile (n : Nat) (c : Channel) : Prop :=
  ∃ d, said n = some d ∧ c ∈ d.channels ∧ d.kind = .disableFile

end

section

variable {said : Nat → Option Directive} {m n : Nat} {c : Channel}

theorem openBefore_succ :
    OpenBefore said (n + 1) c ↔ OpenBefore said n c ∧ ¬ Closes said n c ∨ Opens said n c := by
  constructor
  · rintro ⟨s, hs, hOpens, hKept⟩
    rcases Nat.lt_or_eq_of_le (Nat.le_of_lt_succ hs) with hs | rfl
    · exact .inl ⟨⟨s, hs, hOpens, fun e h1 h2 => hKept e h1 (Nat.lt_succ_of_lt h2)⟩,
        hKept n hs (Nat.lt_succ_self n)⟩
    · exact .inr hOpens
  · rintro (⟨⟨s, hs, hOpens, hKept⟩, hNot⟩ | hOpens)
    · refine ⟨s, Nat.lt_succ_of_lt hs, hOpens, fun e h1 h2 => ?_⟩
      rcases Nat.lt_or_eq_of_le (Nat.le_of_lt_succ h2) with h2 | rfl
      · exact hKept e h1 h2
      · exact hNot
    · exact ⟨n, Nat.lt_succ_self n, hOpens, fun e h1 h2 => by omega⟩

theorem silentOn_iff :
    SilentOn said n c ↔
      ∃ s ≤ n, Opens said s c ∧ ∀ e, s < e → e < n → ¬ Closes said e c := by
  constructor
  · rintro (⟨s, hs, h⟩ | hOpens)
    · exact ⟨s, Nat.le_of_lt hs, h⟩
    · exact ⟨n, Nat.le_refl n, hOpens, fun e h1 h2 => by omega⟩
  · rintro ⟨s, hs, hOpens, hKept⟩
    rcases Nat.lt_or_eq_of_le hs with hs | rfl
    · exact .inl ⟨s, hs, hOpens, hKept⟩
    · exact .inr hOpens

end

/-! ### The reader -/

namespace SilenceReader

/-- **What a reader tells of a line**: the channel is open since that line or longer, or a range of
it holds the line. -/
def Tells (r : SilenceReader) (n : Nat) (c : Channel) : Prop :=
  (∃ s ≤ n, (c, s) ∈ r.opened) ∨
    ∃ g ∈ r.silence.ranges, g.channel = c ∧ g.first ≤ n ∧ n ≤ g.last

/-- The lines that a directive marks are added. -/
theorem mem_lines_read_iff {r : SilenceReader} {number k : Nat} {d : Directive} {c : Channel} :
    (k, c) ∈ (r.read number d).silence.lines ↔ (k, c) ∈ r.silence.lines ∨ c ∈ d.channels ∧
      (d.kind = .ignore ∧ k = number ∨ d.kind = .ignoreNextLine ∧ k = number + 1) := by
  obtain ⟨kind, channels⟩ := d
  cases kind <;> simp [read, @and_comm (c ∈ channels), @eq_comm _ k]

theorem mem_file_read_iff {r : SilenceReader} {number : Nat} {d : Directive} {c : Channel} :
    c ∈ (r.read number d).silence.file ↔
      c ∈ r.silence.file ∨ c ∈ d.channels ∧ d.kind = .disableFile := by
  obtain ⟨kind, channels⟩ := d
  cases kind <;> simp [read]

/-- Only a `disable` and an `enable` look at what is open. -/
theorem read_of_ne {r : SilenceReader} {number : Nat} {d : Directive} (hDisable : d.kind ≠ .disable)
    (hEnable : d.kind ≠ .enable) :
    (r.read number d).opened = r.opened ∧
      (r.read number d).silence.ranges = r.silence.ranges := by
  obtain ⟨kind, channels⟩ := d
  cases kind with
  | disable => exact (hDisable rfl).elim
  | enable => exact (hEnable rfl).elim
  | ignore => exact ⟨rfl, rfl⟩
  | ignoreNextLine => exact ⟨rfl, rfl⟩
  | disableFile => exact ⟨rfl, rfl⟩

theorem closes_eq_true_iff {channels : List Channel} {c : Channel} :
    closes channels c = true ↔ .all ∈ channels ∨ c ∈ channels := by
  rw [closes, Bool.or_eq_true, List.contains_iff_mem, List.contains_iff_mem]

/-- Channels stay open, and one that was not is open from here on. -/
theorem mem_openAt_iff {number : Nat} {opened : List (Channel × Nat)} {c c' : Channel} {s : Nat} :
    (c, s) ∈ openAt number opened c' ↔
      (c, s) ∈ opened ∨ s = number ∧ c = c' ∧ ∀ t, (c, t) ∉ opened := by
  unfold openAt
  split
  · next hAny =>
    obtain ⟨⟨_, t⟩, hMem, hEq⟩ := List.any_eq_true.mp hAny
    obtain rfl := eq_of_beq hEq
    refine ⟨.inl, fun h => h.elim id ?_⟩
    rintro ⟨-, rfl, hNot⟩
    exact (hNot t hMem).elim
  · next hAny =>
    have fresh (t : Nat) : (c', t) ∉ opened := fun h =>
      hAny (List.any_eq_true.mpr ⟨_, h, beq_self_eq_true c'⟩)
    rw [List.mem_append, List.mem_singleton, Prod.mk.injEq]
    refine or_congr_right ⟨?_, fun ⟨hs, hc, _⟩ => ⟨hc, hs⟩⟩
    rintro ⟨rfl, rfl⟩
    exact ⟨rfl, rfl, fresh⟩

theorem mem_openAll_iff {number : Nat} {channels : List Channel} {opened : List (Channel × Nat)}
    {c : Channel} {s : Nat} :
    (c, s) ∈ channels.foldl (openAt number) opened ↔
      (c, s) ∈ opened ∨ s = number ∧ c ∈ channels ∧ ∀ t, (c, t) ∉ opened := by
  induction channels generalizing opened with
  | nil => simp
  | cons c' channels ih =>
    rw [List.foldl_cons, ih]
    simp only [mem_openAt_iff, List.mem_cons]
    grind

/-- Which channels are open since some line, where all are since lines before `number`. -/
theorem exists_mem_openAll_iff {number n : Nat} {channels : List Channel}
    {opened : List (Channel × Nat)} {c : Channel} (hLt : ∀ s, (c, s) ∈ opened → s < number)
    (hn : n ≤ number) :
    (∃ s ≤ n, (c, s) ∈ channels.foldl (openAt number) opened) ↔
      (∃ s ≤ n, (c, s) ∈ opened) ∨ n = number ∧ c ∈ channels := by
  simp only [mem_openAll_iff]
  constructor
  · rintro ⟨s, hs, h | ⟨rfl, hc, -⟩⟩
    · exact .inl ⟨s, hs, h⟩
    · exact .inr ⟨Nat.le_antisymm hn hs, hc⟩
  · rintro (⟨s, hs, h⟩ | ⟨rfl, hc⟩)
    · exact ⟨s, hs, .inl h⟩
    -- A channel that is open already keeps its earlier line.
    · by_cases hOld : ∃ t, (c, t) ∈ opened
      · obtain ⟨t, ht⟩ := hOld
        exact ⟨t, Nat.le_of_lt (hLt t ht), .inl ht⟩
      · exact ⟨n, Nat.le_refl n, .inr ⟨rfl, hc, not_exists.mp hOld⟩⟩

theorem mem_rangesTo_iff {last : Nat} {opened : List (Channel × Nat)} {g : SilentRange} :
    g ∈ rangesTo last opened ↔
      (g.channel, g.first) ∈ opened ∧ g.last = max last g.first := by
  rw [rangesTo, List.mem_map]
  constructor
  · rintro ⟨⟨c, s⟩, h, rfl⟩
    exact ⟨h, rfl⟩
  · rintro ⟨h, hLast⟩
    refine ⟨_, h, ?_⟩
    obtain ⟨first, last, channel⟩ := g
    dsimp only at hLast ⊢
    rw [hLast]

/-- A line up to `last` is in the ranges of channels that were open by then. -/
theorem exists_mem_rangesTo_iff {last n : Nat} {opened : List (Channel × Nat)} {c : Channel}
    (hn : n ≤ last) :
    (∃ g ∈ rangesTo last opened, g.channel = c ∧ g.first ≤ n ∧ n ≤ g.last) ↔
      ∃ s ≤ n, (c, s) ∈ opened := by
  constructor
  · rintro ⟨g, hg, rfl, hFirst, -⟩
    exact ⟨g.first, hFirst, (mem_rangesTo_iff.mp hg).1⟩
  · rintro ⟨s, hs, h⟩
    exact ⟨⟨s, max last s, c⟩, mem_rangesTo_iff.mpr ⟨h, rfl⟩, rfl, hs,
      Nat.le_trans hn (Nat.le_max_left last s)⟩

end SilenceReader

/-! ### What one line does to a reader -/

/-- **The reader `r'` comes from `r` by line `m`.** -/
structure Follows (said : Nat → Option Directive) (m : Nat) (r r' : SilenceReader) : Prop where
  opened_iff : ∀ c, (∃ s, (c, s) ∈ r'.opened) ↔
    (∃ s, (c, s) ∈ r.opened) ∧ ¬ Closes said m c ∨ Opens said m c
  /-- What was told of the lines before stays told, and line `m` is added. -/
  tells_iff : ∀ c, ∀ n ≤ m, r'.Tells n c ↔ r.Tells n c ∨ n = m ∧ Opens said m c
  opened_le : ∀ c s, (c, s) ∈ r'.opened → s ≤ m
  last_le : ∀ g ∈ r'.silence.ranges, g.last ≤ m
  lines_iff : ∀ k c, (k, c) ∈ r'.silence.lines ↔ (k, c) ∈ r.silence.lines ∨ Marks said m k c
  file_iff : ∀ c, c ∈ r'.silence.file ↔ c ∈ r.silence.file ∨ MarksFile said m c

/-- **What a reader knows when line `m` begins.** -/
structure Heard (said : Nat → Option Directive) (m : Nat) (r : SilenceReader) : Prop where
  opened_iff : ∀ c, (∃ s, (c, s) ∈ r.opened) ↔ OpenBefore said m c
  /-- The lines before are told right. -/
  tells_iff : ∀ c, ∀ n < m, r.Tells n c ↔ SilentOn said n c
  opened_lt : ∀ c s, (c, s) ∈ r.opened → s < m
  last_lt : ∀ g ∈ r.silence.ranges, g.last < m
  lines_iff : ∀ k c, (k, c) ∈ r.silence.lines ↔ ∃ n < m, Marks said n k c
  file_iff : ∀ c, c ∈ r.silence.file ↔ ∃ n < m, MarksFile said n c

section

variable {said : Nat → Option Directive} {m k : Nat} {c : Channel} {d : Directive}

theorem opens_iff (h : said m = some d) : Opens said m c ↔ d.kind = .disable ∧ c ∈ d.channels := by
  simp [Opens, h]

theorem closes_iff (h : said m = some d) :
    Closes said m c ↔ d.kind = .enable ∧ SilenceReader.closes d.channels c = true := by
  simp [Closes, h]

theorem marks_iff (h : said m = some d) :
    Marks said m k c ↔ c ∈ d.channels ∧
      (d.kind = .ignore ∧ k = m ∨ d.kind = .ignoreNextLine ∧ k = m + 1) := by
  simp [Marks, h]

theorem marksFile_iff (h : said m = some d) :
    MarksFile said m c ↔ c ∈ d.channels ∧ d.kind = .disableFile := by
  simp [MarksFile, h]

end

section

variable {said : Nat → Option Directive} {m : Nat} {r r' : SilenceReader} {d : Directive}

/-- **When line `m` begins, it is told silent what is open.** -/
theorem Heard.tells_here (h : Heard said m r) (c : Channel) :
    r.Tells m c ↔ OpenBefore said m c := by
  rw [← h.opened_iff]
  constructor
  · rintro (⟨s, -, hs⟩ | ⟨g, hg, -, -, hLast⟩)
    · exact ⟨s, hs⟩
    · exact absurd (h.last_lt g hg) (Nat.not_lt.mpr hLast)
  · rintro ⟨s, hs⟩
    exact .inl ⟨s, Nat.le_of_lt (h.opened_lt c s hs), hs⟩

/-- **One line keeps the invariant.** -/
theorem Heard.next (h : Heard said m r) (step : Follows said m r r') : Heard said (m + 1) r' where
  opened_iff c := by rw [step.opened_iff, h.opened_iff, openBefore_succ]
  tells_iff c n hn := by
    rw [step.tells_iff c n (Nat.le_of_lt_succ hn)]
    rcases Nat.lt_or_eq_of_le (Nat.le_of_lt_succ hn) with hn | rfl
    · rw [h.tells_iff c n hn, or_iff_left fun both => Nat.ne_of_lt hn both.1]
    · rw [h.tells_here, SilentOn, eq_self_iff_true, true_and]
  opened_lt c s hs := Nat.lt_succ_of_le (step.opened_le c s hs)
  last_lt g hg := Nat.lt_succ_of_le (step.last_le g hg)
  lines_iff k c := by rw [step.lines_iff, h.lines_iff, Nat.exists_lt_succ_right]
  file_iff c := by rw [step.file_iff, h.file_iff, Nat.exists_lt_succ_right]

/-- A line that neither opens nor closes a channel leaves open channels and ranges alone. -/
theorem Heard.follows_of_same (h : Heard said m r) (hOpens : ∀ c, ¬ Opens said m c)
    (hCloses : ∀ c, ¬ Closes said m c) (hOpened : r'.opened = r.opened)
    (hRanges : r'.silence.ranges = r.silence.ranges)
    (hLines : ∀ k c, (k, c) ∈ r'.silence.lines ↔ (k, c) ∈ r.silence.lines ∨ Marks said m k c)
    (hFile : ∀ c, c ∈ r'.silence.file ↔ c ∈ r.silence.file ∨ MarksFile said m c) :
    Follows said m r r' where
  opened_iff c := by rw [hOpened, or_iff_left (hOpens c), and_iff_left (hCloses c)]
  tells_iff c n _ := by
    rw [or_iff_left fun both => hOpens c both.2, SilenceReader.Tells, hOpened, hRanges]
    rfl
  opened_le c s hs := Nat.le_of_lt (h.opened_lt c s (hOpened ▸ hs))
  last_le g hg := Nat.le_of_lt (h.last_lt g (hRanges ▸ hg))
  lines_iff := hLines
  file_iff := hFile

theorem Heard.follows_disable (h : Heard said m r) (hd : said m = some d)
    (hKind : d.kind = .disable) : Follows said m r (r.read m d) where
  opened_iff c := by
    rw [closes_iff hd, opens_iff hd, SilenceReader.read, hKind]
    simp only [SilenceReader.mem_openAll_iff]
    grind
  tells_iff c n hn := by
    rw [opens_iff hd, SilenceReader.read, hKind, eq_self_iff_true, true_and, SilenceReader.Tells,
      SilenceReader.exists_mem_openAll_iff (h.opened_lt c) hn, or_right_comm]
    rfl
  opened_le c s hs := by
    rw [SilenceReader.read, hKind] at hs
    rcases SilenceReader.mem_openAll_iff.mp hs with hs | ⟨rfl, -⟩
    · exact Nat.le_of_lt (h.opened_lt c s hs)
    · exact Nat.le_refl s
  last_le g hg := by
    rw [SilenceReader.read, hKind] at hg
    exact Nat.le_of_lt (h.last_lt g hg)
  lines_iff k c := by rw [marks_iff hd, SilenceReader.mem_lines_read_iff]
  file_iff c := by rw [marksFile_iff hd, SilenceReader.mem_file_read_iff]

theorem Heard.follows_enable (h : Heard said m r) (hd : said m = some d)
    (hKind : d.kind = .enable) : Follows said m r (r.read m d) where
  opened_iff c := by
    rw [closes_iff hd, opens_iff hd, SilenceReader.read, hKind]
    simp
  tells_iff c n hn := by
    -- A channel that is closed here is no longer open but has a range to this line, so the same is
    -- told of it up to here.
    rw [opens_iff hd, SilenceReader.read, hKind]
    simp only [SilenceReader.Tells, List.mem_append, or_and_right, exists_or,
      SilenceReader.exists_mem_rangesTo_iff hn, List.partition_eq_filter_filter, List.mem_filter]
    grind
  opened_le c s hs := by
    rw [SilenceReader.read, hKind] at hs
    simp only [List.partition_eq_filter_filter] at hs
    exact Nat.le_of_lt (h.opened_lt c s (List.mem_of_mem_filter hs))
  last_le g hg := by
    rw [SilenceReader.read, hKind] at hg
    simp only [List.partition_eq_filter_filter, List.mem_append] at hg
    rcases hg with hg | hg
    · exact Nat.le_of_lt (h.last_lt g hg)
    · obtain ⟨hMem, hLast⟩ := SilenceReader.mem_rangesTo_iff.mp hg
      have first_lt := h.opened_lt _ _ (List.mem_of_mem_filter hMem)
      rw [hLast]
      exact Nat.max_le.mpr ⟨Nat.le_refl m, Nat.le_of_lt first_lt⟩
  lines_iff k c := by rw [marks_iff hd, SilenceReader.mem_lines_read_iff]
  file_iff c := by rw [marksFile_iff hd, SilenceReader.mem_file_read_iff]

theorem Heard.follows_of_ne (h : Heard said m r) (hd : said m = some d)
    (hDisable : d.kind ≠ .disable) (hEnable : d.kind ≠ .enable) :
    Follows said m r (r.read m d) := by
  obtain ⟨hOpened, hRanges⟩ := SilenceReader.read_of_ne hDisable hEnable
  apply h.follows_of_same _ _ hOpened hRanges
  · intro k c
    rw [marks_iff hd, SilenceReader.mem_lines_read_iff]
  · intro c
    rw [marksFile_iff hd, SilenceReader.mem_file_read_iff]
  · exact fun c hc => hDisable ((opens_iff hd).mp hc).1
  · exact fun c hc => hEnable ((closes_iff hd).mp hc).1

/-- **A directive is read as what it says.** -/
theorem Heard.follows_read (h : Heard said m r) (hd : said m = some d) :
    Follows said m r (r.read m d) := by
  by_cases hDisable : d.kind = .disable
  · exact h.follows_disable hd hDisable
  · by_cases hEnable : d.kind = .enable
    · exact h.follows_enable hd hEnable
    · exact h.follows_of_ne hd hDisable hEnable

theorem Heard.follows_none (h : Heard said m r) (hd : said m = none) : Follows said m r r := by
  apply h.follows_of_same <;> simp [Opens, Closes, Marks, MarksFile, hd]

/-- Before the first line nothing is known. -/
theorem heard_start (h : said 0 = none) : Heard said 1 {} where
  opened_iff c := by simp [OpenBefore, Opens, h]
  tells_iff c n hn := by
    obtain rfl := Nat.lt_one_iff.mp hn
    simp [SilentOn, OpenBefore, Opens, SilenceReader.Tells, h]
  opened_lt c s hs := by cases hs
  last_lt g hg := by cases hg
  lines_iff k c := by simp [Marks, h]
  file_iff c := by simp [MarksFile, h]

/-- **All lines keep the invariant.** -/
theorem heard_readLines {known : Text → Bool} {lines : List Text}
    (hSaid : ∀ i line, lines[i]? = some line → said (m + i) = Directive.ofLine? known line)
    (h : Heard said m r) :
    Heard said (m + lines.length) (SilenceReader.readLines known r m lines) := by
  induction lines generalizing m r with
  | nil => exact h
  | cons line lines ih =>
    have here : said m = Directive.ofLine? known line := hSaid 0 line rfl
    have later (i : Nat) (l : Text) (hl : lines[i]? = some l) :
        said (m + 1 + i) = Directive.ofLine? known l := by
      rw [Nat.add_right_comm]
      exact hSaid (i + 1) l hl
    rw [List.length_cons, Nat.add_comm lines.length, ← Nat.add_assoc, SilenceReader.readLines]
    cases hd : Directive.ofLine? known line with
    | none => exact ih later (h.next (h.follows_none (here.trans hd)))
    | some d => exact ih later (h.next (h.follows_read (here.trans hd)))

end

/-! ### The directives of lines -/

namespace Directive

/-- The directive of line `n`. -/
def atLine? (known : Text → Bool) (lines : List Text) : (n : Nat) → Option Directive
  | 0 => none
  | n + 1 => lines[n]?.bind (ofLine? known)

/-- The channels that a directive is about which names these rules. -/
def channelsAbout (named : List Text) : List Channel :=
  match named with
  | [] => [.all]
  | ids => ids.map .rule

theorem all_mem_channelsAbout {named : List Text} : .all ∈ channelsAbout named ↔ named = [] := by
  cases named <;> simp [channelsAbout]

theorem rule_mem_channelsAbout {named : List Text} {rule : Text} :
    .rule rule ∈ channelsAbout named ↔ rule ∈ named := by
  cases named <;> simp [channelsAbout]

theorem ofLine?_eq_some_iff {known : Text → Bool} {line : Text} {d : Directive} :
    ofLine? known line = some d ↔
      ∃ m word kind, pattern.search line = some m ∧ m.groups = [word] ∧
        words.lookup word = some kind ∧
          d = { kind, channels := channelsAbout (namedRules known (tailFrom m.last line)) } := by
  unfold ofLine?
  split
  · next first last word hSearch =>
    rw [Option.map_eq_some_iff]
    constructor
    · rintro ⟨kind, hKind, rfl⟩
      exact ⟨_, word, kind, hSearch, rfl, hKind, rfl⟩
    · rintro ⟨m, word', kind, hSearch', hGroups, hKind, rfl⟩
      obtain rfl := Option.some.inj (hSearch.symm.trans hSearch')
      obtain rfl := List.singleton_inj.mp hGroups
      exact ⟨kind, hKind, rfl⟩
  · next hNot =>
    constructor
    · intro h
      cases h
    · rintro ⟨⟨first, last, groups⟩, word, kind, hSearch, hGroups, -⟩
      obtain rfl : groups = [word] := hGroups
      exact (hNot first last word hSearch).elim

end Directive

section

variable {known : Text → Bool} {lines : List Text} {n : Nat} {kind : DirectiveKind}

theorem atLine?_eq_some_iff {d : Directive} :
    Directive.atLine? known lines n = some d ↔
      ∃ line, (line, n) ∈ lines.zipIdx 1 ∧ Directive.ofLine? known line = some d := by
  cases n with
  | zero => simp [Directive.atLine?, List.mem_zipIdx_iff_le_and_getElem?_sub]
  | succ n =>
    rw [Directive.atLine?, Option.bind_eq_some_iff]
    simp [List.mem_zipIdx_iff_le_and_getElem?_sub]

theorem lt_of_atLine?_eq_some {d : Directive} (h : Directive.atLine? known lines n = some d) :
    n < 1 + lines.length := by
  obtain ⟨line, hLine, -⟩ := atLine?_eq_some_iff.mp h
  obtain ⟨hLe, hGet⟩ := List.mem_zipIdx_iff_le_and_getElem?_sub.mp hLine
  obtain ⟨hLt, -⟩ := List.getElem?_eq_some_iff.mp hGet
  omega

/-- A directive with something to say of its named rules, and one with that to say of its
channels. -/
theorem exists_says_iff {P : List Text → Prop} {Q : List Channel → Prop}
    (h : ∀ named, P named ↔ Q (Directive.channelsAbout named)) :
    (∃ named, Says known lines n kind named ∧ P named) ↔
      ∃ d, Directive.atLine? known lines n = some d ∧ d.kind = kind ∧ Q d.channels := by
  constructor
  · rintro ⟨named, ⟨line, m, word, hLine, hSearch, hGroups, hKind, rfl⟩, hP⟩
    exact ⟨_, atLine?_eq_some_iff.mpr ⟨line, hLine,
      Directive.ofLine?_eq_some_iff.mpr ⟨m, word, kind, hSearch, hGroups, hKind, rfl⟩⟩, rfl,
      (h _).mp hP⟩
  · rintro ⟨d, hd, rfl, hQ⟩
    obtain ⟨line, hLine, hd⟩ := atLine?_eq_some_iff.mp hd
    obtain ⟨m, word, kind, hSearch, hGroups, hKind, rfl⟩ := Directive.ofLine?_eq_some_iff.mp hd
    exact ⟨_, ⟨line, m, word, hLine, hSearch, hGroups, hKind, rfl⟩, (h _).mpr hQ⟩

end

/-! ### The lines are told right -/

section

variable {known : Text → Bool} {lines : List Text}

/-- What is known at the end of a file. -/
theorem heard_ofLines (known : Text → Bool) (lines : List Text) :
    Heard (Directive.atLine? known lines) (1 + lines.length)
      (SilenceReader.readLines known {} 1 lines) := by
  refine heard_readLines (fun i line hLine => ?_) (heard_start rfl)
  rw [Nat.add_comm, Directive.atLine?, hLine]
  rfl

theorem covers_eq_true_iff {c : Channel} {rule : Text} :
    c.covers rule = true ↔ c = .all ∨ c = .rule rule := by
  cases c <;> simp [Channel.covers]

/-- A rule is covered by its own channel and by that of all rules. -/
theorem exists_covers_iff {P : Channel → Prop} {rule : Text} :
    (∃ c, P c ∧ c.covers rule = true) ↔ P (.rule rule) ∨ P .all := by
  simp only [covers_eq_true_iff]
  constructor
  · rintro ⟨c, hc, rfl | rfl⟩
    · exact .inr hc
    · exact .inl hc
  · rintro (h | h)
    · exact ⟨_, h, .inr rfl⟩
    · exact ⟨_, h, .inl rfl⟩

/-- The ranges of a file tell what is silent on its lines. -/
theorem exists_mem_ranges_iff {n : Nat} {c : Channel} (hn : n ≤ lines.length) :
    (∃ g ∈ (Silence.ofLines known lines).ranges, g.channel = c ∧ g.first ≤ n ∧ n ≤ g.last) ↔
      SilentOn (Directive.atLine? known lines) n c := by
  have hHeard := heard_ofLines known lines
  rw [← hHeard.tells_iff c n (by omega), SilenceReader.Tells,
    ← SilenceReader.exists_mem_rangesTo_iff hn, Silence.ofLines]
  simp only [List.mem_append, or_and_right, exists_or]
  exact or_comm

theorem mem_lines_iff {k : Nat} {c : Channel} :
    (k, c) ∈ (Silence.ofLines known lines).lines ↔
      ∃ n, Marks (Directive.atLine? known lines) n k c := by
  refine ((heard_ofLines known lines).lines_iff k c).trans (exists_congr fun n => ?_)
  exact and_iff_right_of_imp fun ⟨d, hd, _⟩ => lt_of_atLine?_eq_some hd

theorem mem_file_iff {c : Channel} :
    c ∈ (Silence.ofLines known lines).file ↔
      ∃ n, MarksFile (Directive.atLine? known lines) n c := by
  refine ((heard_ofLines known lines).file_iff c).trans (exists_congr fun n => ?_)
  exact and_iff_right_of_imp fun ⟨d, hd, _⟩ => lt_of_atLine?_eq_some hd

/-- **What is silent on a line**: channels of the file, of the line, and those that are open. -/
theorem isIgnored_iff {n : Nat} {rule : Text} (hn : n ≤ lines.length) :
    (Silence.ofLines known lines).isIgnored n rule = true ↔
      (∃ c, (∃ k, MarksFile (Directive.atLine? known lines) k c) ∧ c.covers rule = true) ∨
        (∃ c, (∃ k, Marks (Directive.atLine? known lines) k n c) ∧ c.covers rule = true) ∨
          ∃ c, SilentOn (Directive.atLine? known lines) n c ∧ c.covers rule = true := by
  simp only [← mem_file_iff, ← mem_lines_iff, ← exists_mem_ranges_iff hn, Silence.isIgnored,
    covered, Bool.or_eq_true, List.any_eq_true, Bool.and_eq_true, beq_iff_eq, decide_eq_true_eq,
    Int.ofNat_inj, Int.ofNat_le, or_assoc]
  refine or_congr Iff.rfl (or_congr ?_ ?_)
  · constructor
    · rintro ⟨⟨k, c⟩, h, rfl, hCovers⟩
      exact ⟨c, h, hCovers⟩
    · rintro ⟨c, h, hCovers⟩
      exact ⟨(n, c), h, rfl, hCovers⟩
  · constructor
    · rintro ⟨g, h, hBounds, hCovers⟩
      exact ⟨g.channel, ⟨g, h, rfl, hBounds⟩, hCovers⟩
    · rintro ⟨_, ⟨g, h, rfl, hBounds⟩, hCovers⟩
      exact ⟨g, h, hBounds, hCovers⟩

section

variable {n : Nat} {kind : DirectiveKind} {rule : Text}

theorem exists_isAbout_iff :
    (∃ named, Says known lines n kind named ∧ IsAbout named rule) ↔
      ∃ d, Directive.atLine? known lines n = some d ∧ d.kind = kind ∧
        (.all ∈ d.channels ∨ .rule rule ∈ d.channels) :=
  exists_says_iff (Q := fun channels => .all ∈ channels ∨ .rule rule ∈ channels) fun _ =>
    (or_congr Directive.all_mem_channelsAbout Directive.rule_mem_channelsAbout).symm

theorem says_nil_iff :
    Says known lines n kind [] ↔
      ∃ d, Directive.atLine? known lines n = some d ∧ d.kind = kind ∧ .all ∈ d.channels := by
  rw [← exists_eq_right (p := fun named => Says known lines n kind named)]
  exact exists_says_iff fun _ => Directive.all_mem_channelsAbout.symm

theorem opens_rule_iff :
    Opens (Directive.atLine? known lines) n (.rule rule) ↔
      ∃ named, Says known lines n .disable named ∧ rule ∈ named :=
  (exists_says_iff fun _ => Directive.rule_mem_channelsAbout.symm).symm

theorem opens_all_iff :
    Opens (Directive.atLine? known lines) n .all ↔ Says known lines n .disable [] :=
  says_nil_iff.symm

theorem closes_rule_iff :
    Closes (Directive.atLine? known lines) n (.rule rule) ↔
      ∃ named, Says known lines n .enable named ∧ IsAbout named rule := by
  simp only [exists_isAbout_iff, Closes, SilenceReader.closes_eq_true_iff]

theorem closes_all_iff :
    Closes (Directive.atLine? known lines) n .all ↔ Says known lines n .enable [] := by
  simp only [says_nil_iff, Closes, SilenceReader.closes_eq_true_iff, or_self]

theorem exists_marksFile_iff :
    (∃ c, (∃ k, MarksFile (Directive.atLine? known lines) k c) ∧ c.covers rule = true) ↔
      ∃ k named, Says known lines k .disableFile named ∧ IsAbout named rule := by
  simp only [exists_covers_iff, exists_isAbout_iff, MarksFile, and_or_left, exists_or,
    @and_comm _ (_ = DirectiveKind.disableFile)]
  exact or_comm

/-- A line is marked by itself or by the line before. -/
theorem exists_marks_iff {c : Channel} :
    (∃ k, Marks (Directive.atLine? known lines) k n c) ↔
      (∃ d, Directive.atLine? known lines n = some d ∧ d.kind = .ignore ∧ c ∈ d.channels) ∨
        ∃ d, Directive.atLine? known lines (n - 1) = some d ∧ d.kind = .ignoreNextLine ∧
          c ∈ d.channels := by
  constructor
  · rintro ⟨k, d, hd, hc, ⟨hKind, rfl⟩ | ⟨hKind, rfl⟩⟩
    · exact .inl ⟨d, hd, hKind, hc⟩
    · exact .inr ⟨d, hd, hKind, hc⟩
  · rintro (⟨d, hd, hKind, hc⟩ | ⟨d, hd, hKind, hc⟩)
    · exact ⟨n, d, hd, hc, .inl ⟨hKind, rfl⟩⟩
    · refine ⟨n - 1, d, hd, hc, .inr ⟨hKind, ?_⟩⟩
      cases n with
      | zero => cases hd
      | succ n => rfl

theorem exists_marks_covers_iff :
    (∃ c, (∃ k, Marks (Directive.atLine? known lines) k n c) ∧ c.covers rule = true) ↔
      (∃ named, Says known lines n .ignore named ∧ IsAbout named rule) ∨
        ∃ named, Says known lines (n - 1) .ignoreNextLine named ∧ IsAbout named rule := by
  simp only [exists_covers_iff, exists_marks_iff, exists_isAbout_iff, and_or_left, exists_or]
  rw [or_or_or_comm]
  exact or_congr or_comm or_comm

/-- An `ignore` silences its own line. -/
theorem isIgnored_of_says {named : List Text} (hn : n ≤ lines.length)
    (h : Says known lines n .ignore named) (hRule : IsAbout named rule) :
    (Silence.ofLines known lines).isIgnored n rule = true :=
  (isIgnored_iff hn).mpr (.inr (.inl (exists_marks_covers_iff.mpr (.inl ⟨named, h, hRule⟩))))

end

end

/-- **Directives mean what the lines say, one by one.** Of the lines of a file, exactly those are
silent on a rule that `Silenced` names; and the issues that are kept are those on other lines, in
their order. -/
theorem silence_line_by_line (known : Text → Bool) (lines : List Text) :
    (∀ n ≤ lines.length, ∀ rule, (Silence.ofLines known lines).isIgnored n rule = true ↔
      Silenced known lines n rule) ∧
      ∀ issues, (Silence.ofLines known lines).filter issues =
        issues.filter fun i => !(Silence.ofLines known lines).isIgnored i.span.line i.rule := by
  refine ⟨fun n hn rule => ?_, fun _ => rfl⟩
  rw [isIgnored_iff hn, exists_marksFile_iff, exists_marks_covers_iff, exists_covers_iff,
    silentOn_iff, silentOn_iff, or_assoc]
  simp only [opens_rule_iff, closes_rule_iff, opens_all_iff, closes_all_iff]
  rfl

/-- A rule that is disabled by its name is silent until all rules are enabled. -/
theorem silence_line_by_line_enabled :
    Silenced (· == "weak-assertion") ["// testgrade-disable weak-assertion", "expect(a)",
        "// testgrade-enable", "expect(b)"] 2 "weak-assertion" ∧
      ¬ Silenced (· == "weak-assertion") ["// testgrade-disable weak-assertion", "expect(a)",
        "// testgrade-enable", "expect(b)"] 4 "weak-assertion" :=
  ⟨((silence_line_by_line _ _).1 2 (by decide) _).mp (by decide +kernel), fun h =>
    absurd (((silence_line_by_line _ _).1 4 (by decide) _).mpr h) (by decide +kernel)⟩

end SuiteAudit
