import BuildConfig.Proofs.Hoist.Alike

namespace BuildConfig

open Value

/-- A rule with its gathered options back beside its own keys. -/
def spreadOptions (rule : Entries Value) : Entries Value :=
  (rule.filter fun (key, _) => key != "options") ++ ((Entries.get? rule "options").getD .empty).entries

section Rules

variable {rule : Entries Value}

/-- A rule has gathered options just if it holds a key that is not its own. -/
theorem ruleOptions_eq_nil_iff : ruleOptions rule = [] ↔ ∀ key ∈ Entries.keys rule, key ∈ ruleKeys := by
  rw [ruleOptions, List.filter_eq_nil_iff]
  constructor
  · intro none key held
    obtain ⟨value, found⟩ := Entries.mem_keys_iff.mp held
    have own := none (key, value) (Entries.mem_of_get? found)
    simpa using own
  · rintro own ⟨key, value⟩ listed
    have held : key ∈ ruleKeys := own key (Entries.mem_keys_of_mem listed)
    simpa using held

theorem contains_options_hoistRule (missing : Entries.contains rule "options" = false) :
    Entries.contains (hoistRule rule) "options" = true ↔ ∃ key ∈ Entries.keys rule, key ∉ ruleKeys := by
  rw [Entries.contains, get?_hoistRule missing, if_pos rfl]
  by_cases none : ruleOptions rule = []
  · have own := ruleOptions_eq_nil_iff.mp none
    simpa [none] using own
  · have more := mt ruleOptions_eq_nil_iff.mpr none
    simpa [none] using more

/-- Nothing of a rule is lost when its options are gathered: they are its entries again once they are put back. -/
theorem perm_spreadOptions_hoistRule (missing : Entries.contains rule "options" = false) :
    (spreadOptions (hoistRule rule)).Perm rule := by
  have absent : "options" ∉ Entries.keys rule := by
    rw [← Entries.contains_iff_mem, missing]
    simp
  have noneOwn : ∀ entry ∈ rule.filter fun (key, _) => ruleKeys.contains key, (entry.1 != "options") = true := by
    rintro ⟨key, value⟩ listed
    have held : key ∈ Entries.keys rule := Entries.mem_keys_of_mem (List.mem_filter.mp listed).1
    rw [bne_iff_ne]
    exact fun same => absent (same ▸ held)
  have own : (hoistRule rule).filter (fun (key, _) => key != "options") =
      rule.filter fun (key, _) => ruleKeys.contains key := by
    rw [hoistRule_of_no_options missing, List.filter_append, filter_lastEntry, List.append_nil,
      List.filter_eq_self.mpr noneOwn]
  have options : ((Entries.get? (hoistRule rule) "options").getD .empty).entries = ruleOptions rule := by
    have last : Entries.get? (hoistRule rule) "options" =
        Entries.get? (lastEntry "options" (ruleOptions rule)) "options" := by
      rw [get?_hoistRule missing, get?_lastEntry]
      simp
    rw [last, entries_get?_lastEntry]
  rw [spreadOptions, own, options, ruleOptions]
  exact List.filter_append_perm (fun entry => ruleKeys.contains entry.1) rule

/-- Each look-up in a rule is one in what the rule becomes. -/
theorem get?_of_hoistRule (distinct : Entries.Distinct rule) (missing : Entries.contains rule "options" = false)
    (key : String) :
    Entries.get? rule key =
      (Entries.get? ((hoistRule rule).filter fun (name, _) => name != "options") key).or
        (Entries.get? ((Entries.get? (hoistRule rule) "options").getD .empty).entries key) := by
  have perm : rule.Perm (spreadOptions (hoistRule rule)) := (perm_spreadOptions_hoistRule missing).symm
  rw [distinct.get?_eq_of_perm perm, spreadOptions, Entries.get?_append]

/-- Rules without options that become alike are alike. -/
theorem alike_of_alike_hoistRule {other : Entries Value} (distinct : Entries.Distinct rule)
    (distinctOther : Entries.Distinct other) (missing : Entries.contains rule "options" = false)
    (missingOther : Entries.contains other "options" = false)
    (alike : Alike (.map (hoistRule rule)) (.map (hoistRule other))) : Alike (.map rule) (.map other) := by
  have own := alike_filter alike fun key => key != "options"
  have options := (alike_getD_empty (alike.get? "options")).entries
  refine alike_map_iff.mpr ⟨distinct, distinctOther, fun key => ?_⟩
  rw [get?_of_hoistRule distinct missing, get?_of_hoistRule distinctOther missingOther]
  exact rel_or (own.get? key) (options.get? key)

/-- Two rules without options hold the same entries if and only if what becomes of them does. -/
theorem same_hoistRule_iff {other : Entries Value} (keyed : (Value.map rule).DistinctKeys)
    (otherKeyed : (Value.map other).DistinctKeys) (missing : Entries.contains rule "options" = false)
    (missingOther : Entries.contains other "options" = false) :
    (Value.map (hoistRule rule)).same (.map (hoistRule other)) = true ↔ (Value.map rule).same (.map other) = true := by
  have hoistedKeyed : (Value.map (hoistRule rule)).DistinctKeys :=
    (alike_hoistRule (alike_self keyed)).distinctKeys.1
  have hoistedOtherKeyed : (Value.map (hoistRule other)).DistinctKeys :=
    (alike_hoistRule (alike_self otherKeyed)).distinctKeys.1
  constructor
  · intro same
    have alike := alike_of_same hoistedKeyed hoistedOtherKeyed same
    exact (alike_of_alike_hoistRule keyed.entries otherKeyed.entries missing missingOther alike).same
  · intro same
    exact (alike_hoistRule (alike_of_same keyed otherKeyed same)).same

end Rules

/-- A rule with options stays as it is. Any other rule is parted in two, each part in the order of the rule: its own
keys stay at the top, and all the others come under `options`, which stands last and is there only if it has something
to hold. Nothing is lost. So two such rules hold the same entries if the same becomes of them, be that the same to the
order of keys or but for it. -/
theorem hoistRule_parts_entries (rule : Entries Value) :
    (Entries.contains rule "options" = true → hoistRule rule = rule) ∧
    (Entries.contains rule "options" = false →
      hoistRule rule = (rule.filter fun (key, _) => ruleKeys.contains key) ++ lastEntry "options" (ruleOptions rule) ∧
      (Entries.contains (hoistRule rule) "options" = true ↔ ∃ key ∈ Entries.keys rule, key ∉ ruleKeys) ∧
      (spreadOptions (hoistRule rule)).Perm rule ∧
      ∀ other, Entries.contains other "options" = false →
        (hoistRule rule = hoistRule other → rule.Perm other) ∧
        ((Value.map rule).DistinctKeys → (Value.map other).DistinctKeys →
          ((Value.map (hoistRule rule)).same (.map (hoistRule other)) = true ↔
            (Value.map rule).same (.map other) = true))) := by
  refine ⟨hoistRule_of_options, fun missing => ⟨hoistRule_of_no_options missing, contains_options_hoistRule missing,
    perm_spreadOptions_hoistRule missing, fun other missingOther => ⟨fun same => ?_, fun keyed otherKeyed => ?_⟩⟩⟩
  · have here := perm_spreadOptions_hoistRule missing
    have there := perm_spreadOptions_hoistRule missingOther
    rw [same] at here
    exact here.symm.trans there
  · exact same_hoistRule_iff keyed otherKeyed missing missingOther

/-- Of three rules the first two become one and the same, and the third differs from them in the order of its options.
A rule that has options keeps what it holds beside them. -/
theorem hoistRule_parts_entries_limit :
    let limit : String × Value := ("limit", .ofInt 10)
    let loader : String × Value := ("loader", .string "url")
    let name : String × Value := ("name", .string "[name]")
    let rules : List (Entries Value) := [[limit, loader, name], [loader, limit, name], [name, limit, loader]]
    let standing : Entries Value := [limit, ("options", .null), loader]
    (∀ rule ∈ rules, Entries.contains rule "options" = false ∧ (Value.map rule).DistinctKeys) ∧
    hoistRule [limit, loader, name] = [loader, ("options", .map [limit, name])] ∧
    hoistRule [limit, loader, name] = hoistRule [loader, limit, name] ∧
    [limit, loader, name].Perm [loader, limit, name] ∧
    (Value.map [limit, loader, name]).same (.map [name, limit, loader]) = true ∧
    Entries.contains standing "options" = true ∧ hoistRule standing = standing := by
  intro limit loader name rules standing
  have each : ∀ rule ∈ rules, Entries.contains rule "options" = false ∧ (Value.map rule).DistinctKeys := by decide
  have first := each [limit, loader, name] (by simp [rules])
  have second := each [loader, limit, name] (by simp [rules])
  have third := each [name, limit, loader] (by simp [rules])
  obtain ⟨equation, _, _, lossless⟩ := (hoistRule_parts_entries [limit, loader, name]).2 first.1
  have become : hoistRule [limit, loader, name] = hoistRule [loader, limit, name] := rfl
  have entries := (lossless _ second.1).1 become
  have butForOrder := ((lossless _ third.1).2 first.2 third.2).mp (by decide +kernel)
  have stays := (hoistRule_parts_entries standing).1 rfl
  exact ⟨each, equation, become, entries, butForOrder, rfl, stays⟩

end BuildConfig
