import SuiteAudit.Proofs.DirectiveWords
import SuiteAudit.Proofs.Silences

/-!
# What an enable ends

An `enable` ends the silence of the channels that it closes, up to the next `disable` that opens one
of them (`not_silentOn_of_closes`). Naming a rule closes the channel of that rule, not the one of
all rules, and of a line only the first directive is read. So after an `enable` that is about a
rule, the rule is silent in a range just where an earlier `disable` of all rules is still in force
(`silence_after_enable`).
-/

namespace SuiteAudit

/-! ### Channels after they are closed -/

section

variable {said : Nat → Option Directive} {e n : Nat} {c c' : Channel}

/-- A line has one directive, which does not both close and open. -/
theorem not_opens_of_closes (h : Closes said e c) : ¬ Opens said e c' := by
  obtain ⟨d, hd, hEnable, -⟩ := h
  rintro ⟨d', hd', hDisable, -⟩
  obtain rfl := Option.some.inj (hd.symm.trans hd')
  rw [hEnable] at hDisable
  cases hDisable

/-- **A channel that was closed stays so** until a line opens it. -/
theorem not_silentOn_of_closes (h : Closes said e c) (he : e < n)
    (quiet : ∀ s, e < s → s ≤ n → ¬ Opens said s c) : ¬ SilentOn said n c := by
  rw [silentOn_iff]
  rintro ⟨s, hs, hOpens, hKept⟩
  rcases Nat.lt_trichotomy s e with hBefore | rfl | hAfter
  · exact hKept e hBefore he h
  · exact not_opens_of_closes h hOpens
  · exact quiet s hAfter hs hOpens

end

/-! ### Ranges and other directives -/

/-- **Whether a directive without a range silences the rule on line `n`**: one of the whole file,
one of the line itself, or one of the line before. -/
def SilencedAlone (known : Text → Bool) (lines : List Text) (n : Nat) (rule : Text) : Prop :=
  (∃ k others, Says known lines k .disableFile others ∧ IsAbout others rule) ∨
    (∃ others, Says known lines n .ignore others ∧ IsAbout others rule) ∨
    ∃ others, Says known lines (n - 1) .ignoreNextLine others ∧ IsAbout others rule

/-- **Whether a range silences the rule on line `n`.** -/
def SilencedByRange (known : Text → Bool) (lines : List Text) (n : Nat) (rule : Text) : Prop :=
  ∃ g ∈ (Silence.ofLines known lines).ranges,
    g.first ≤ n ∧ n ≤ g.last ∧ g.channel.covers rule = true

section

variable {known : Text → Bool} {lines : List Text} {n : Nat} {rule : Text}

theorem silencedByRange_iff (hn : n ≤ lines.length) :
    SilencedByRange known lines n rule ↔
      ∃ c, SilentOn (Directive.atLine? known lines) n c ∧ c.covers rule = true := by
  simp only [← exists_mem_ranges_iff hn]
  constructor
  · rintro ⟨g, hg, hFirst, hLast, hCovers⟩
    exact ⟨g.channel, ⟨g, hg, rfl, hFirst, hLast⟩, hCovers⟩
  · rintro ⟨_, ⟨g, hg, rfl, hFirst, hLast⟩, hCovers⟩
    exact ⟨g, hg, hFirst, hLast, hCovers⟩

theorem isIgnored_iff_range (hn : n ≤ lines.length) :
    (Silence.ofLines known lines).isIgnored n rule = true ↔
      SilencedAlone known lines n rule ∨ SilencedByRange known lines n rule := by
  rw [isIgnored_iff hn, exists_marksFile_iff, exists_marks_covers_iff, silencedByRange_iff hn,
    SilencedAlone, or_assoc, or_assoc, or_assoc]

/-- A directive that says something is the one that is read on its line. -/
theorem exists_atLine?_of_says {kind : DirectiveKind} {named : List Text}
    (h : Says known lines n kind named) :
    ∃ d, Directive.atLine? known lines n = some d ∧ d.kind = kind := by
  obtain ⟨d, hd, hKind, -⟩ := (exists_says_iff (Q := fun _ => True) fun _ => Iff.rfl).mp
    ⟨named, h, trivial⟩
  exact ⟨d, hd, hKind⟩

theorem not_says_of_none (h : Directive.atLine? known lines n = none) (kind : DirectiveKind)
    (named : List Text) : ¬ Says known lines n kind named := by
  intro hSays
  obtain ⟨d, hd, -⟩ := exists_atLine?_of_says hSays
  rw [h] at hd
  cases hd

/-- Files whose directives all have ranges silence nothing otherwise. -/
theorem not_silencedAlone (hFile : (Silence.ofLines known lines).file = [])
    (hLines : (Silence.ofLines known lines).lines = []) : ¬ SilencedAlone known lines n rule := by
  rw [SilencedAlone, ← exists_marksFile_iff, ← exists_marks_covers_iff]
  simp only [← mem_file_iff, ← mem_lines_iff, hFile, hLines]
  simp

end

/-! ### Rules after an enable -/

/-- **Whether a `disable` of all rules above line `e` is in force on line `n`**: no line strictly
between enables all rules. -/
def AllDisabled (known : Text → Bool) (lines : List Text) (e n : Nat) : Prop :=
  ∃ s < e, Says known lines s .disable [] ∧ ∀ k, s < k → k < n → ¬ Says known lines k .enable []

section

variable {known : Text → Bool} {lines : List Text} {e n : Nat} {named : List Text} {rule : Text}
  (enabled : Says known lines e .enable named) (about : IsAbout named rule) (he : e < n)
  (quiet : ∀ s others, e < s → s ≤ n → Says known lines s .disable others →
    ¬ IsAbout others rule)

include enabled about he quiet

/-- The channel of the rule was closed and is not opened again. -/
theorem not_silentOn_rule :
    ¬ SilentOn (Directive.atLine? known lines) n (.rule rule) := by
  apply not_silentOn_of_closes (closes_rule_iff.mpr ⟨named, enabled, about⟩) he
  intro s hs hn hOpens
  obtain ⟨others, hSays, hRule⟩ := opens_rule_iff.mp hOpens
  exact quiet s others hs hn hSays (.inr hRule)

/-- The channel of all rules is closed by an `enable` that names no rule, and else goes on. -/
theorem silentOn_all_iff :
    SilentOn (Directive.atLine? known lines) n .all ↔ named ≠ [] ∧ AllDisabled known lines e n := by
  have closed := closes_rule_iff.mpr ⟨named, enabled, about⟩
  rw [silentOn_iff]
  simp only [opens_all_iff, closes_all_iff]
  constructor
  · rintro ⟨s, hs, hSays, hKept⟩
    have before : s < e := by
      rcases Nat.lt_trichotomy s e with hBefore | rfl | hAfter
      · exact hBefore
      · exact absurd (opens_all_iff.mpr hSays) (not_opens_of_closes closed)
      -- A `disable` of all rules is one of this rule as well.
      · exact absurd (.inl rfl) (quiet s [] hAfter hs hSays)
    refine ⟨?_, s, before, hSays, hKept⟩
    rintro rfl
    exact hKept e before he enabled
  · rintro ⟨-, s, hs, hSays, hKept⟩
    exact ⟨s, by omega, hSays, hKept⟩

/-- **The ranges that silence the rule** are those of a `disable` of all rules. -/
theorem silencedByRange_after_iff (hn : n ≤ lines.length) :
    SilencedByRange known lines n rule ↔ named ≠ [] ∧ AllDisabled known lines e n := by
  rw [silencedByRange_iff hn, exists_covers_iff,
    or_iff_right (not_silentOn_rule enabled about he quiet),
    silentOn_all_iff enabled about he quiet]

end

/-- **An enable ends the silence of the rules it is about.** On a line after it, with no `disable`
of the rule in between, the rule is silent in a range only if the `enable` names rules and a
`disable` of all rules from before is still in force. Otherwise an issue of the rule is kept, unless
a directive of the line, of the line before or of the whole file silences it. -/
theorem silence_after_enable {known : Text → Bool} {lines : List Text} {e n : Nat}
    {named : List Text} {rule : Text} (hn : n ≤ lines.length)
    (enabled : Says known lines e .enable named) (about : IsAbout named rule) (he : e < n)
    (quiet : ∀ s others, e < s → s ≤ n → Says known lines s .disable others →
      ¬ IsAbout others rule) :
    (SilencedByRange known lines n rule ↔ named ≠ [] ∧ AllDisabled known lines e n) ∧
      ∀ (issues : List Issue), ∀ i ∈ issues, i.span.line = n → i.rule = rule →
        (i ∈ (Silence.ofLines known lines).filter issues ↔
          ¬ SilencedAlone known lines n rule ∧
            ¬ (named ≠ [] ∧ AllDisabled known lines e n)) := by
  have ranges := silencedByRange_after_iff enabled about he quiet hn
  refine ⟨ranges, fun issues i hi hLine hRule => ?_⟩
  rw [Silence.filter, List.mem_filter, and_iff_right hi, hLine, hRule, Bool.not_eq_true',
    ← Bool.not_eq_true, isIgnored_iff_range hn, ranges, not_or]

/-- The two rules of an example. -/
def twoRules : List Text :=
  ["weak-assertion", "no-assertions"]

/-- Both rules are disabled, and one of them is enabled again. -/
def oneEnabledAgain : List Text :=
  ["// testgrade-disable weak-assertion no-assertions", "expect(a).toBeDefined();",
    "// testgrade-enable weak-assertion -- from here on", "expect(b).toBeDefined();"]

theorem silence_after_enable_named :
    Says twoRules.contains oneEnabledAgain 3 .enable ["weak-assertion"] ∧
      IsAbout ["weak-assertion"] "weak-assertion" ∧
      ¬ SilencedByRange twoRules.contains oneEnabledAgain 4 "weak-assertion" := by
  have enabled : Says twoRules.contains oneEnabledAgain 3 .enable ["weak-assertion"] :=
    ⟨"// testgrade-enable weak-assertion -- from here on", ⟨0, 19, ["enable"]⟩, "enable",
      by decide +kernel, by decide +kernel, rfl, by decide, by decide +kernel⟩
  have about : IsAbout ["weak-assertion"] "weak-assertion" := .inr List.mem_cons_self
  have quiet (s : Nat) (others : List Text) (hs : 3 < s) (hn : s ≤ 4)
      (h : Says twoRules.contains oneEnabledAgain s .disable others) :
      ¬ IsAbout others "weak-assertion" := by
    obtain rfl : s = 4 := by omega
    exact absurd h (not_says_of_none (by decide +kernel) _ _)
  have none_names_all : ∀ s < 3, ((Directive.atLine? twoRules.contains oneEnabledAgain s).all
      fun d => !d.channels.contains .all) = true := by decide +kernel
  refine ⟨enabled, about, ?_⟩
  rw [(silence_after_enable (by decide) enabled about (by decide) quiet).1]
  rintro ⟨-, s, hs, hSays, -⟩
  obtain ⟨d, hd, -, hAll⟩ := says_nil_iff.mp hSays
  have := none_names_all s hs
  rw [hd] at this
  simp [hAll] at this

/-- All rules are disabled, and then one of them is enabled. -/
def allDisabledOneEnabled : List Text :=
  ["// testgrade-disable", "// testgrade-enable weak-assertion", "expect(a).toBeDefined();"]

/-- A rule is disabled and enabled on one line. -/
def enabledOnTheSameLine : List Text :=
  ["/* testgrade-disable weak-assertion */ expect(a).toBeDefined(); /* testgrade-enable */",
    "expect(b).toBeDefined();"]

/-- **An enable can be without effect**: where it names a rule after a `disable` of all rules, and
where it is not the first directive of its line. -/
theorem enable_without_effect :
    (Says registry.contains allDisabledOneEnabled 2 .enable ["weak-assertion"] ∧
        (∀ kind others, ¬ Says registry.contains allDisabledOneEnabled 3 kind others) ∧
        ¬ SilencedAlone registry.contains allDisabledOneEnabled 3 "weak-assertion" ∧
        SilencedByRange registry.contains allDisabledOneEnabled 3 "weak-assertion") ∧
      enabledOnTheSameLine.map Directive.commentWords =
        ([["disable", "enable"], []] : List (List Text)) ∧
      ¬ SilencedAlone registry.contains enabledOnTheSameLine 2 "weak-assertion" ∧
      SilencedByRange registry.contains enabledOnTheSameLine 2 "weak-assertion" := by
  have kept_open : Silence.ofLines registry.contains allDisabledOneEnabled =
      { ranges := [⟨1, 3, .all⟩] } := by decide +kernel
  have not_closed : Silence.ofLines registry.contains enabledOnTheSameLine =
      { ranges := [⟨1, 2, .rule "weak-assertion"⟩] } := by decide +kernel
  refine ⟨⟨?_, ?_, ?_, ?_⟩, by decide +kernel, ?_, ?_⟩
  · exact ⟨"// testgrade-enable weak-assertion", ⟨0, 19, ["enable"]⟩, "enable",
      by decide +kernel, by decide +kernel, rfl, by decide, by decide +kernel⟩
  · exact not_says_of_none (by decide +kernel)
  · exact not_silencedAlone (by rw [kept_open]) (by rw [kept_open])
  · exact ⟨⟨1, 3, .all⟩, by rw [kept_open]; exact List.mem_cons_self, by decide, by decide, rfl⟩
  · exact not_silencedAlone (by rw [not_closed]) (by rw [not_closed])
  · exact ⟨⟨1, 2, .rule "weak-assertion"⟩, by rw [not_closed]; exact List.mem_cons_self,
      by decide, by decide, by decide⟩

end SuiteAudit
