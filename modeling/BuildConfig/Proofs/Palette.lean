import BuildConfig.Palette
import Mathlib.Data.List.Forall2

namespace BuildConfig

/-- What follows the digits and semicolons of a colour sequence and the letter that ends it; `none` where the text goes
on in another way. -/
def afterColour? : List Char → Option (List Char)
  | [] => none
  | c :: rest =>
    if c = 'm' then some rest
    else if c.isDigit || c == ';' then afterColour? rest
    else none

theorem length_afterColour? {text rest : List Char} (ends : afterColour? text = some rest) :
    rest.length < text.length := by
  induction text with
  | nil => cases ends
  | cons c text ih =>
    rw [afterColour?] at ends
    split at ends
    · cases ends
      exact Nat.lt_succ_self _
    · split at ends
      · exact Nat.lt_succ_of_lt (ih ends)
      · cases ends

/-- The text without its colour sequences: an escape, an opening bracket, digits and semicolons, and the letter m. -/
def dropColours : List Char → List Char
  | [] => []
  | [c] => [c]
  | c :: bracket :: rest =>
    if c = '\x1b' ∧ bracket = '[' then
      match _ : afterColour? rest with
      | some further => dropColours further
      | none => c :: dropColours (bracket :: rest)
    else c :: dropColours (bracket :: rest)
termination_by text => text.length
decreasing_by
  · have shorter := length_afterColour? ‹_›
    simp only [List.length_cons]
    omega
  · exact Nat.lt_succ_self _
  · exact Nat.lt_succ_self _

def withoutColours (text : String) : String :=
  String.ofList (dropColours text.toList)

def Unescaped (text : String) : Prop :=
  '\x1b' ∉ text.toList

instance (text : String) : Decidable (Unescaped text) :=
  inferInstanceAs (Decidable (_ ∉ _))

theorem unescaped_append_iff {text more : String} : Unescaped (text ++ more) ↔ Unescaped text ∧ Unescaped more := by
  simp only [Unescaped, String.toList_append, List.mem_append, not_or]

theorem unescaped_toString (n : Nat) : Unescaped (toString n) := by
  intro escaped
  have digit := Nat.isDigit_of_mem_toDigits (by decide) (by decide) (Nat.toList_repr ▸ escaped)
  cases digit

theorem dropColours_cons {c : Char} (plain : c ≠ '\x1b') (rest : List Char) :
    dropColours (c :: rest) = c :: dropColours rest := by
  cases rest with
  | nil => simp only [dropColours]
  | cons => rw [dropColours, if_neg fun sequence => plain sequence.1]

theorem dropColours_append {text : List Char} (plain : '\x1b' ∉ text) (rest : List Char) :
    dropColours (text ++ rest) = text ++ dropColours rest := by
  induction text with
  | nil => rfl
  | cons c text ih =>
    rw [List.mem_cons, not_or] at plain
    rw [List.cons_append, dropColours_cons (Ne.symm plain.1), ih plain.2, List.cons_append]

theorem afterColour?_code {code : List Char} (coded : ∀ c ∈ code, (c.isDigit || c == ';') = true) (rest : List Char) :
    afterColour? (code ++ 'm' :: rest) = some rest := by
  induction code with
  | nil => rfl
  | cons c code ih =>
    obtain ⟨here, later⟩ := List.forall_mem_cons.mp coded
    have notEnd : c ≠ 'm' := by
      rintro rfl
      cases here
    rw [List.cons_append, afterColour?, if_neg notEnd, if_pos here, ih later]

theorem dropColours_sequence {code : List Char} (coded : (code.all fun c => c.isDigit || c == ';') = true)
    (rest : List Char) : dropColours ('\x1b' :: '[' :: (code ++ 'm' :: rest)) = dropColours rest := by
  rw [List.all_eq_true] at coded
  rw [dropColours, if_pos ⟨rfl, rfl⟩]
  split
  · rename_i further ends
    rw [afterColour?_code coded] at ends
    obtain rfl := Option.some.inj ends
    rfl
  · rename_i none
    rw [afterColour?_code coded] at none
    cases none

/-- A dressed text shows a plain one: this is what is left of it without colours, whatever follows. -/
def Shows (dressed plain : String) : Prop :=
  ∀ rest, dropColours (dressed.toList ++ rest) = plain.toList ++ dropColours rest

theorem Shows.withoutColours_eq {dressed plain : String} (shows : Shows dressed plain) :
    withoutColours dressed = plain := by
  have whole := shows []
  have nothing : dropColours [] = [] := by rw [dropColours]
  rw [nothing, List.append_nil, List.append_nil] at whole
  rw [withoutColours, whole, String.ofList_toList]

theorem shows_self {text : String} (plain : Unescaped text) : Shows text text :=
  dropColours_append plain

theorem Shows.append {dressed plain more other : String} (first : Shows dressed plain) (second : Shows more other) :
    Shows (dressed ++ more) (plain ++ other) := by
  intro rest
  rw [String.toList_append, String.toList_append, List.append_assoc, first, second, List.append_assoc]

theorem Shows.paint {dressed plain : String} (shows : Shows dressed plain) (palette : Palette) {code : String}
    (coded : (code.toList.all fun c => c.isDigit || c == ';') = true) : Shows (palette.paint code dressed) plain := by
  rw [Palette.paint]
  split
  · intro rest
    have start : ("\x1b[" ++ code ++ "m" ++ dressed ++ "\x1b[0m").toList ++ rest =
        '\x1b' :: '[' :: (code.toList ++ 'm' :: (dressed.toList ++ '\x1b' :: '[' :: (['0'] ++ 'm' :: rest))) := by
      simp
    rw [start, dropColours_sequence coded, shows, dropColours_sequence (by decide)]
  · exact shows

theorem Shows.intercalate {separator : String} (plain : Unescaped separator) {dressed texts : List String}
    (each : List.Forall₂ Shows dressed texts) :
    Shows (String.intercalate separator dressed) (String.intercalate separator texts) := by
  induction each with
  | nil =>
    rw [String.intercalate_nil]
    exact shows_self (by decide)
  | cons first more ih =>
    cases more with
    | nil =>
      rw [String.intercalate_singleton, String.intercalate_singleton]
      exact first
    | cons second others =>
      rw [String.intercalate_cons_cons, String.intercalate_cons_cons]
      exact (first.append (shows_self plain)).append ih

/-- Each part of a report is shown in a style that only adds colours. -/
structure ReportStyle.Shows (style : ReportStyle) : Prop where
  title : ∀ text, Unescaped text → BuildConfig.Shows (style.title text) text
  heading : ∀ kind text, Unescaped text → BuildConfig.Shows (style.heading kind text) text
  marker : ∀ kind text, Unescaped text → BuildConfig.Shows (style.marker kind text) text
  punctuation : ∀ text, Unescaped text → BuildConfig.Shows (style.punctuation text) text
  success : ∀ text, Unescaped text → BuildConfig.Shows (style.success text) text

theorem Palette.shows_reportStyle (palette : Palette) : palette.reportStyle.Shows where
  title _ plain := ((shows_self plain).paint palette (by decide)).paint palette (by decide)
  heading kind _ plain := (shows_self plain).paint palette (by cases kind <;> decide)
  marker kind _ plain := (shows_self plain).paint palette (by cases kind <;> decide)
  punctuation _ plain := (shows_self plain).paint palette (by decide)
  success _ plain := (shows_self plain).paint palette (by decide)

namespace Report

/-- There is no escape in what a report was told: where the configuration is from, and the places, values and messages
of what was found. -/
structure FreeOfEscapes (report : Report) : Prop where
  source : ∀ path, report.configPath = some path → Unescaped path
  errors : ∀ problem ∈ report.errors,
    Unescaped problem.path.text ∧ Unescaped problem.value.inspect ∧ Unescaped problem.message
  notices : ∀ notice ∈ report.deprecations ++ report.hints,
    Unescaped notice.path.text ∧ ∀ message ∈ notice.messages, Unescaped message

variable {report : Report} {style : ReportStyle}

theorem FreeOfEscapes.sourceText (free : report.FreeOfEscapes) : Unescaped report.sourceText := by
  rw [Report.sourceText]
  split
  · rename_i path given _
    exact unescaped_append_iff.mpr ⟨free.source path given, by decide⟩
  · rename_i path given _
    exact free.source path given
  · decide
  · decide

theorem unescaped_sectionHeading (kind : DiagnosticKind) (count : Nat) : Unescaped (kind.sectionHeading count) := by
  have heading : Unescaped kind.heading := by cases kind <;> decide
  have ending : Unescaped (pluralEnding count) := by
    rw [pluralEnding]
    split <;> decide
  rw [DiagnosticKind.sectionHeading, unescaped_append_iff, unescaped_append_iff]
  refine ⟨⟨?_, heading⟩, ending⟩
  split
  · exact unescaped_append_iff.mpr ⟨unescaped_toString count, by decide⟩
  · decide

theorem unescaped_markerText {path : Path} (kind : DiagnosticKind) (plain : Unescaped path.text) :
    Unescaped (markerText kind path) := by
  have symbol : Unescaped kind.symbol := by cases kind <;> decide
  rw [markerText, unescaped_append_iff, unescaped_append_iff]
  exact ⟨⟨symbol, by decide⟩, plain⟩

theorem shows_problemLines (shows : style.Shows) {problem : Problem}
    (plain : Unescaped problem.path.text ∧ Unescaped problem.value.inspect ∧ Unescaped problem.message) :
    List.Forall₂ Shows (problemLines style problem) (problemLines .plain problem) := by
  obtain ⟨path, value, message⟩ := plain
  have blank : Shows " " " " := shows_self (by decide)
  have marker := shows.marker .error _ (unescaped_markerText .error path)
  have sign := shows.punctuation "=" (by decide)
  have indented : Unescaped ("  " ++ problem.message) := unescaped_append_iff.mpr ⟨by decide, message⟩
  exact .cons ((((marker.append blank).append sign).append blank).append (shows_self value))
    (.cons (shows_self indented) (.cons (shows_self (by decide)) .nil))

theorem shows_noticeLines (shows : style.Shows) (kind : DiagnosticKind) {notice : Notice}
    (plain : Unescaped notice.path.text ∧ ∀ message ∈ notice.messages, Unescaped message) :
    List.Forall₂ Shows (noticeLines style kind notice) (noticeLines .plain kind notice) := by
  obtain ⟨path, messages⟩ := plain
  have marker := shows.marker kind _ (unescaped_markerText kind path)
  have indented : List.Forall₂ Shows (notice.messages.map fun message => "  " ++ message)
      (notice.messages.map fun message => "  " ++ message) := by
    rw [List.forall₂_same]
    intro line listed
    obtain ⟨message, given, rfl⟩ := List.mem_map.mp listed
    exact shows_self (unescaped_append_iff.mpr ⟨by decide, messages message given⟩)
  exact List.rel_append (.cons marker indented) (.cons (shows_self (by decide)) .nil)

/-- A section shows its plain form when each of its blocks does. -/
theorem shows_sectionLines {α : Type} (shows : style.Shows) (kind : DiagnosticKind) {items : List α}
    {dressed plain : α → List String} (each : ∀ item ∈ items, List.Forall₂ Shows (dressed item) (plain item)) :
    List.Forall₂ Shows (sectionLines style kind (items.map dressed)) (sectionLines .plain kind (items.map plain)) := by
  have blocks : List.Forall₂ (List.Forall₂ Shows) (items.map dressed) (items.map plain) := by
    rw [List.forall₂_map_left_iff, List.forall₂_map_right_iff, List.forall₂_same]
    exact each
  rw [sectionLines, sectionLines, List.isEmpty_map, List.isEmpty_map, List.length_map, List.length_map]
  split
  · exact .nil
  · have heading := shows.heading kind _ (unescaped_sectionHeading kind items.length)
    exact .cons heading (.cons (shows_self (by decide)) (List.rel_flatten blocks))

theorem shows_lines (shows : style.Shows) (free : report.FreeOfEscapes) :
    List.Forall₂ Shows (report.lines style) (report.lines .plain) := by
  have title := shows.title ("sprout config report for " ++ report.sourceText)
    (unescaped_append_iff.mpr ⟨by decide, free.sourceText⟩)
  have head : List.Forall₂ Shows [style.title ("sprout config report for " ++ report.sourceText), ""]
      [ReportStyle.plain.title ("sprout config report for " ++ report.sourceText), ""] :=
    .cons title (.cons (shows_self (by decide)) .nil)
  have errors := shows_sectionLines shows .error fun problem listed =>
    shows_problemLines shows (free.errors problem listed)
  have deprecations := shows_sectionLines shows .deprecation fun notice listed =>
    shows_noticeLines shows .deprecation (free.notices notice (List.mem_append_left _ listed))
  have hints := shows_sectionLines shows .hint fun notice listed =>
    shows_noticeLines shows .hint (free.notices notice (List.mem_append_right _ listed))
  rw [lines, lines]
  split
  · exact List.rel_append (List.rel_append (List.rel_append head errors) deprecations) hints
  · exact List.rel_append head (.cons (shows.success _ (by decide)) .nil)

/-- A report in a style that only adds colours shows the plain report. -/
theorem shows_renderWith (shows : style.Shows) (free : report.FreeOfEscapes) :
    Shows (report.renderWith style) report.render :=
  Shows.intercalate (by decide) (shows_lines shows free)

end Report

theorem Palette.reportStyle_disabled : (Palette.mk false).reportStyle = .plain := rfl

/-- Colours change nothing that a report says: when they are off it is the plain one, and when they are on it becomes
the plain one as soon as they are deleted. -/
theorem colours_leave_report_text {report : Report} (free : report.FreeOfEscapes) :
    (Palette.mk false).formatReport report = report.render ∧
      withoutColours ((Palette.mk true).formatReport report) = report.render := by
  refine ⟨?_, (Report.shows_renderWith (Palette.shows_reportStyle ⟨true⟩) free).withoutColours_eq⟩
  rw [Palette.formatReport, Palette.reportStyle_disabled, Report.render]

/-- A report with a finding of each kind, whose texts look like parts of a colour sequence. -/
theorem colours_leave_report_text_brackets :
    let report := (((Report.ofSource (some "[0m.json")).addError (Path.root.key "npm") (.string "[1;31m") "31;4m")
      |>.addHint (Path.root.index 4) ["m"]).addDeprecation (Path.ofKeys ["webpack", "uglify"]) ["Renamed", "[m"]
    report.FreeOfEscapes ∧ (Palette.mk true).formatReport report ≠ report.render ∧
      withoutColours ((Palette.mk true).formatReport report) = report.render := by
  intro report
  have free : report.FreeOfEscapes := by
    refine ⟨fun path given => ?_, by decide +kernel, by decide +kernel⟩
    cases given
    decide
  exact ⟨free, by decide +kernel, (colours_leave_report_text free).2⟩

end BuildConfig
