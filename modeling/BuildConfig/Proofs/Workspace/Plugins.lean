import BuildConfig.Proofs.Json.DistinctKeys
import BuildConfig.Proofs.Preprocessors
import BuildConfig.Workspace.Load

namespace BuildConfig

variable {compiles : String → Bool}

namespace Preprocessors

/-- A manifest registers no id twice. -/
theorem distinct_documents? {text : String} {documents : Entries Json} (read : documents? text = some documents) :
    Entries.Distinct documents := by
  obtain ⟨written, _, later⟩ := Option.bind_eq_some_iff.mp read
  obtain ⟨fields, _, inFields⟩ := Option.bind_eq_some_iff.mp later
  unfold JsonText.fieldOr at inFields
  split at inFields
  · rename_i value _
    cases value with
    | object members => exact (JsonText.distinctNames_of_membersToJson? Entries.distinct_nil (by simp) inFields).1
    | _ => cases inFields
  · cases inFields
    exact Entries.distinct_nil

theorem foldlM_register (documents : Entries Json) (plugins : Preprocessors) :
    documents.foldlM (fun plugins (id, document) => do
        return plugins.register id (← Value.ofJson compiles document)) plugins =
      (documents.makeEach (Value.ofJson compiles)).map fun entries => ⟨plugins.registered.assign entries⟩ := by
  induction documents generalizing plugins with
  | nil => rfl
  | cons entry rest ih =>
    obtain ⟨id, document⟩ := entry
    rw [List.foldlM_cons, Entries.makeEach, List.mapM_cons]
    dsimp only
    cases made : Value.ofJson compiles document with
    | error fault => rfl
    | ok config =>
      have later := ih (plugins.register id config)
      rw [Entries.makeEach] at later
      refine later.trans ?_
      cases rest.mapM fun entry => (Value.ofJson compiles entry.2).map fun value => (entry.1, value) <;> rfl

/-- A manifest is read into the registrations that it has, in their order. -/
theorem ofManifest_eq {text : String} {documents : Entries Json} (read : documents? text = some documents) :
    ofManifest compiles text = (documents.makeEach (Value.ofJson compiles)).map Preprocessors.mk := by
  rw [ofManifest, read]
  refine (foldlM_register documents .empty).trans ?_
  cases made : documents.makeEach (Value.ofJson compiles) with
  | error fault => rfl
  | ok entries =>
    have distinct : Entries.Distinct entries := by
      rw [Entries.Distinct, Entries.keys_makeEach made]
      exact distinct_documents? read
    exact congrArg (fun registered => Except.ok (Preprocessors.mk registered)) (Entries.ofList_eq_self distinct)

end Preprocessors

namespace Workspace

variable {files : Workspace}

/-- What the manifest of a package registers, before it is converted. A package without a manifest registers nothing. -/
def manifestDocuments (files : Workspace) (name : String) : Entries Json :=
  ((files.read (files.pluginManifestPath name)).toOption.bind Preprocessors.documents?).getD []

theorem makeEach_manifestDocuments {name : String} {loaded : Option Preprocessors}
    (loads : files.loadPlugin compiles name = .ok loaded) :
    (files.manifestDocuments name).makeEach (Value.ofJson compiles) =
      .ok ((loaded.map Preprocessors.registered).getD []) := by
  unfold loadPlugin at loads
  rw [manifestDocuments]
  dsimp only at loads
  generalize files.pluginManifestPath name = path at loads ⊢
  generalize files.read path = found at loads ⊢
  split at loads
  · rename_i text
    obtain ⟨plugin, reads, rfl⟩ := map_eq_ok_iff.mp loads
    have ofManifest := mapError_eq_ok_iff.mp reads
    cases documents : Preprocessors.documents? text with
    | none =>
      rw [Preprocessors.ofManifest, documents] at ofManifest
      cases ofManifest
    | some listed =>
      rw [Preprocessors.ofManifest_eq documents] at ofManifest
      obtain ⟨entries, made, rfl⟩ := map_eq_ok_iff.mp ofManifest
      rw [Except.toOption, Option.bind_some, documents]
      exact made
  · cases loads
    rfl
  · cases loads

/-- Packages are scanned one after the other. Together they register what their manifests do in a row, and of two
registrations of an id the earlier one counts. -/
theorem foldlM_loadPlugin {names : List String}
    (readable : ∀ name ∈ names, ∃ loaded, files.loadPlugin compiles name = .ok loaded) (known : Entries Value) :
    ∃ registered, Entries.makeEach (Value.ofJson compiles) (names.flatMap files.manifestDocuments) = .ok registered ∧
      names.foldlM (fun plugins name => do
        match ← files.loadPlugin compiles name with
        | some plugin => return plugins.merge plugin
        | none => return plugins) (Preprocessors.mk known) = .ok ⟨Preprocessors.takeUp known registered⟩ := by
  -- Each package adds to what is known, so the induction leaves that open.
  induction names generalizing known with
  | nil => exact ⟨[], rfl, rfl⟩
  | cons name rest ih =>
    obtain ⟨⟨loaded, loads⟩, later⟩ := List.forall_mem_cons.mp readable
    have made := makeEach_manifestDocuments loads
    obtain ⟨others, madeOthers, scans⟩ :=
      ih later (Preprocessors.takeUp known ((loaded.map Preprocessors.registered).getD []))
    refine ⟨_, Entries.makeEach_append made madeOthers, ?_⟩
    rw [List.foldlM_cons, loads, Preprocessors.takeUp_append]
    cases loaded <;> exact scans

end Workspace

/-- How the plugins of a project come from the packages that it lists. An id has the configuration of the first package
that registers it, and its place among the ids in the order in which they are registered first. -/
structure FirstRegistrations (compiles : String → Bool) (files : Workspace) (names : List String)
    (plugins : Preprocessors) : Prop where
  first : ∀ id config, Entries.get? plugins.registered id = some config ↔
    ∃ before name after document, names = before ++ name :: after ∧
      Entries.get? (files.manifestDocuments name) id = some document ∧ Value.ofJson compiles document = .ok config ∧
      ∀ earlier ∈ before, Entries.get? (files.manifestDocuments earlier) id = none
  order : plugins.ids = (names.flatMap fun name => Entries.keys (files.manifestDocuments name)).eraseDups

namespace Workspace

theorem firstRegistrations_takeUp {files : Workspace} {names : List String} {registered : Entries Value}
    (made : Entries.makeEach (Value.ofJson compiles) (names.flatMap files.manifestDocuments) = .ok registered) :
    FirstRegistrations compiles files names ⟨Preprocessors.takeUp [] registered⟩ where
  first := by
    intro id config
    have sources := Entries.get?_makeEach made id
    rw [Entries.get?_flatMap] at sources
    rw [Preprocessors.get?_takeUp, Entries.get?, Option.none_or]
    have converted : Entries.get? registered id = some config ↔
        ∃ document, (names.findSome? fun name => Entries.get? (files.manifestDocuments name) id) = some document ∧
          Value.ofJson compiles document = .ok config := by
      rw [← Option.map_eq_some_iff, sources, Option.map_eq_some_iff]
      simp
    rw [converted]
    simp only [List.findSome?_eq_some_iff]
    constructor
    · rintro ⟨document, ⟨before, name, after, listed, held, earlier⟩, makes⟩
      exact ⟨before, name, after, document, listed, held, makes, earlier⟩
    · rintro ⟨before, name, after, document, listed, held, makes, earlier⟩
      exact ⟨document, ⟨before, name, after, listed, held, earlier⟩, makes⟩
  order := by
    rw [Preprocessors.ids, Preprocessors.keys_takeUp Entries.distinct_nil, Entries.keys_makeEach made,
      Entries.keys_flatMap]
    rfl

/-- Where every manifest can be read, a scan of the plugins keeps the first registration of each id. Registrations of
two plugins are merged in the same way, whichever are merged first, and none of them counts twice. -/
theorem scanPlugins_keeps_first_registrations (compiles : String → Bool) :
    (∀ (files : Workspace) (text : String) (manifest : PackageManifest),
      files.read (files.pathOf "package.json") = .ok text → PackageManifest.read text = .ok manifest →
      (∀ name ∈ pluginNames manifest, ∃ loaded, files.loadPlugin compiles name = .ok loaded) →
      ∃ plugins, files.scanPlugins compiles = .ok plugins ∧
        FirstRegistrations compiles files (pluginNames manifest) plugins) ∧
    (∀ plugins others more : Preprocessors,
      (plugins.merge others).merge more = plugins.merge (others.merge more)) ∧
    (∀ plugins : Preprocessors, plugins.merge plugins = plugins) ∧
    ∀ plugins : Preprocessors, Entries.Distinct plugins.registered →
      plugins.merge .empty = plugins ∧ Preprocessors.empty.merge plugins = plugins := by
  refine ⟨fun files text manifest found reads readable => ?_, fun plugins others more => ?_, fun plugins => ?_,
    fun plugins distinct => ⟨rfl, ?_⟩⟩
  · obtain ⟨registered, made, scans⟩ := foldlM_loadPlugin readable []
    refine ⟨⟨Preprocessors.takeUp [] registered⟩, ?_, firstRegistrations_takeUp made⟩
    rw [scanPlugins, found]
    dsimp only
    rw [reads]
    exact scans
  · simp only [Preprocessors.merge_eq, Preprocessors.takeUp_takeUp]
  · rw [Preprocessors.merge_eq, Preprocessors.takeUp_of_known (List.Subset.refl _)]
  · exact congrArg Preprocessors.mk (Preprocessors.takeUp_nil distinct)

/-- One package that is listed twice, two that register one id, and one without a manifest. -/
theorem scanPlugins_keeps_first_registrations_sass :
    let compiles : String → Bool := fun source => source == "a"
    let listed : String := "\x7b\"devDependencies\":\x7b\"sprout-less\":\"2\",\"sprout-sass\":\"1\"\x7d," ++
      "\"dependencies\":\x7b\"sprout-sass\":\"1\",\"sprout-gone\":\"1\"\x7d\x7d"
    let less : String := "\x7b\"cssPreprocessors\":\x7b\"sass\":1,\"less\":2\x7d\x7d"
    let sass : String := "\x7b\"cssPreprocessors\":\x7b\"scss\":null,\"sass\":\x7b\"$regex\":\"a\"\x7d\x7d\x7d"
    let files : Workspace :=
      ⟨"", [("package.json", .file listed),
        ("node_modules", .directory
          [("sprout-less", .directory [("sprout-plugin.json", .file less)]),
            ("sprout-sass", .directory [("sprout-plugin.json", .file sass)])])], ""⟩
    ∃ manifest,
      (files.read (files.pathOf "package.json") = .ok listed ∧ PackageManifest.read listed = .ok manifest ∧
        ∀ name ∈ pluginNames manifest, ∃ loaded, files.loadPlugin compiles name = .ok loaded) ∧
      ∃ plugins, files.scanPlugins compiles = .ok plugins ∧ plugins.ids = ["scss", "sass", "less"] := by
  intro compiles listed less sass files
  have found : files.read (files.pathOf "package.json") = .ok listed :=
    toOption_eq_some_iff.mp (by decide +kernel)
  have names : (PackageManifest.ofText? listed).map pluginNames =
      some ["sprout-sass", "sprout-gone", "sprout-less", "sprout-sass"] := by decide +kernel
  obtain ⟨manifest, ofText, listedNames⟩ := Option.map_eq_some_iff.mp names
  have reads : PackageManifest.read listed = .ok manifest := by rw [PackageManifest.read, ofText]
  have readable : ∀ name ∈ pluginNames manifest, ∃ loaded, files.loadPlugin compiles name = .ok loaded := by
    have loads : ∀ name ∈ ["sprout-sass", "sprout-gone", "sprout-less", "sprout-sass"],
        (files.loadPlugin compiles name).toOption.isSome := by decide +kernel
    intro name plugin
    obtain ⟨loaded, load⟩ := Option.isSome_iff_exists.mp (loads name (listedNames ▸ plugin))
    exact ⟨loaded, toOption_eq_some_iff.mp load⟩
  obtain ⟨plugins, scans, _, order⟩ :=
    (scanPlugins_keeps_first_registrations compiles).1 files listed manifest found reads readable
  refine ⟨manifest, ⟨found, reads, readable⟩, plugins, scans, order.trans ?_⟩
  rw [listedNames]
  decide +kernel

end Workspace

end BuildConfig
