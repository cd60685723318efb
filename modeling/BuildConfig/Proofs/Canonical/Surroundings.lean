import BuildConfig.Proofs.Canonical.Untouched
import BuildConfig.Proofs.Value.Frame

namespace BuildConfig

open Value (SameAround SameBut SameOutside)

section Steps

variable {places : List (List String)} {config : Value}

/-- A move from one key of a table to another makes no difference but at these keys. -/
theorem Rename.sameAround_apply {rename : Rename} {parent : List String} {old new : String}
    (source : rename.source = parent ++ [old]) (target : rename.target = parent ++ [new])
    (sourceListed : rename.source ∈ places) (targetListed : rename.target ∈ places) (config : Value) :
    SameAround places config (rename.apply config).1 := by
  unfold apply
  split
  · exact .refl places config
  · rename_i value left takes
    have taken : SameAround places config left := Value.sameAround_takePath? sourceListed takes
    split
    · exact taken
    · rw [source] at takes
      rw [target] at targetListed ⊢
      obtain ⟨entries, _, _, remains⟩ := Value.takePath?_concat_eq_some_iff.mp takes
      have holder : left.getPath? parent = some (.map (Entries.erase entries old)) := by
        rw [← remains, Value.getPath?_insertPath_self]
      exact taken.trans (Value.sameAround_insertPath targetListed holder value)

/-- A shorthand that is written out makes no difference but at its place. -/
theorem Shorthand.sameAround_expand {shorthand : Shorthand} (nonempty : shorthand.path ≠ [])
    (listed : shorthand.path ∈ places) (config : Value) : SameAround places config (shorthand.expand config) := by
  unfold expand
  split
  · rename_i value found
    split
    · obtain ⟨parent, key, atKey⟩ := (List.eq_nil_or_concat' shorthand.path).resolve_left nonempty
      rw [atKey] at found listed ⊢
      rw [Value.getPath?_concat] at found
      obtain ⟨holder, held, inside⟩ := Option.bind_eq_some_iff.mp found
      obtain ⟨entries, rfl⟩ := Value.isMap_iff.mp (Value.isMap_of_get?_eq_some inside)
      exact Value.sameAround_insertPath listed held _
    · exact .refl places config
  · exact .refl places config

end Steps

theorem renames_within_table :
    ∀ rename ∈ renames, ∃ parent old new, rename.source = parent ++ [old] ∧ rename.target = parent ++ [new] := by
  intro rename listed
  simp only [renames, List.mem_cons, List.not_mem_nil, or_false] at listed
  rcases listed with rfl | rfl
  · exact ⟨["webpack"], "uglify", "terser", rfl, rfl⟩
  · exact ⟨["karma"], "testDirs", "excludeFromCoverage", rfl, rfl⟩

/-- Canonical form makes no difference but at the places of moved keys and shorthands. -/
theorem sameAround_canonicalize (config : Value) : SameAround canonicalPlaces config (canonicalize config).1 := by
  have placesOf : ∀ rename ∈ renames, rename.source ∈ canonicalPlaces ∧ rename.target ∈ canonicalPlaces := by decide
  have placeOf : ∀ shorthand ∈ shorthands, shorthand.path ∈ canonicalPlaces := by decide
  rw [canonicalize_fst]
  split
  · have moved : SameAround canonicalPlaces config
        (renames.foldl (fun config rename => (rename.apply config).1) config) := by
      refine List.foldlRecOn renames _ (.refl canonicalPlaces config) fun tree before rename listed => ?_
      obtain ⟨parent, old, new, source, target⟩ := renames_within_table rename listed
      obtain ⟨sourceListed, targetListed⟩ := placesOf rename listed
      exact before.trans (rename.sameAround_apply source target sourceListed targetListed tree)
    refine List.foldlRecOn shorthands _ moved fun tree before shorthand listed => ?_
    have expands := shorthand.sameAround_expand (shorthands_inside shorthand listed) (placeOf shorthand listed) tree
    exact before.trans expands
  · exact .refl canonicalPlaces config

/-- Apart from the places of moved keys and shorthands canonical form leaves a configuration as it is. No key comes
or goes at the top, every table stays a table with its other keys in their order, and whatever is no table stays as
it is. A report keeps what it says, and nothing but deprecations and hints is added to it. -/
theorem canonicalize_leaves_rest_alone (config : Value) (report : Report) :
    (∀ place, (∀ touched ∈ canonicalPlaces, Apart touched place) →
        (canonicalize config).1.getPath? place = config.getPath? place) ∧
      (SameOutside config (canonicalize config).1 ∧
        Entries.keys (canonicalize config).1.entries = Entries.keys config.entries) ∧
      (∀ table, Option.Rel (SameBut fun key => [table, key] ∉ canonicalPlaces) (config.get? table)
        ((canonicalize config).1.get? table)) ∧
      ∃ deprecations hints, report.addAll (canonicalize config).2 =
        { report with
          deprecations := report.deprecations ++ deprecations
          hints := report.hints ++ hints } := by
  have deep : ∀ touched ∈ canonicalPlaces, 1 < touched.length := by decide
  have around := sameAround_canonicalize config
  refine ⟨fun place apart => getPath?_canonicalize_of_apart apart config, around.keys_eq deep, around.get? deep, ?_⟩
  refine ⟨deprecationNotices (canonicalize config).2, hintNotices (canonicalize config).2, ?_⟩
  rw [Report.addAll_eq, problems_canonicalize, List.append_nil]

/-- Both moves and two shorthands next to values that pass through, and a string in place of a table. -/
theorem canonicalize_leaves_rest_alone_rewritten :
    let output : Value := .map [("publicPath", .string "/")]
    let config : Value := .map
      [("webpack", .map [("uglify", .bool true), ("debug", .null), ("copy", .array [.string "icons"]),
          ("extra", .map [("output", output)]), ("autoprefixer", .string "ie 11")]),
        ("npm", .string "none"), ("karma", .map [("testDirs", .string "spec"), ("browsers", .array [])])]
    let report := (Report.ofSource none).addError .root .null "earlier"
    let canonical := (canonicalize config).1
    canonicalPlaces =
        [["webpack", "uglify"], ["karma", "testDirs"], ["webpack", "terser"], ["karma", "excludeFromCoverage"],
          ["npm", "umd"], ["webpack", "autoprefixer"], ["webpack", "copy"]] ∧
      (canonical.get? "webpack").map (fun table => Entries.keys table.entries) =
        some ["debug", "copy", "extra", "autoprefixer", "terser"] ∧
      canonical.getPath? ["webpack", "extra", "output"] = some output ∧
      canonical.get? "npm" = some (.string "none") ∧
      Entries.keys canonical.entries = ["webpack", "npm", "karma"] ∧
      (report.addAll (canonicalize config).2).errors = report.errors := by
  intro output config report canonical
  have rewritten : (canonical.get? "webpack").map (fun table => Entries.keys table.entries) =
      some ["debug", "copy", "extra", "autoprefixer", "terser"] := by
    decide +kernel
  obtain ⟨untouched, ⟨_, top⟩, tables, _, _, told⟩ := canonicalize_leaves_rest_alone config report
  have scalar : canonical.get? "npm" = some (.string "none") := by
    have atTable := tables "npm"
    generalize canonical.get? "npm" = found at atTable
    cases atTable with
    | some same => rw [same.1.resolve_right fun maps => Bool.false_ne_true maps.1]
  exact ⟨rfl, rewritten, untouched ["webpack", "extra", "output"] (by decide), scalar, top, by rw [told]⟩

end BuildConfig
