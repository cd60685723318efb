import BuildConfig.Proofs.Schema.UserSchema
import BuildConfig.Proofs.Value.AlikeEdits
import Mathlib.Data.List.Perm.Basic

namespace BuildConfig

open Value (Alike)

namespace Alternatives

variable {accepted : Alternatives} {a b : Value}

theorem isException_of_alike (plain : accepted.Plain) (alike : Alike a b) :
    accepted.isException a = accepted.isException b := by
  have same := alike.same
  have onFalse : (Value.bool false).same a = (Value.bool false).same b := by
    cases a <;> cases b <;> simp_all [Value.same]
  unfold isException
  rw [Bool.eq_iff_iff, List.any_eq_true, List.any_eq_true]
  refine exists_congr fun exception => and_congr_right fun listed => ?_
  rw [plain.1 exception listed, onFalse]

theorem matchesKind_of_alike (accepted : Alternatives) (alike : Alike a b) :
    accepted.matchesKind a = accepted.matchesKind b := by
  have same := alike.same
  have onKind (kind : Kind) : kind.accepts a = kind.accepts b := by
    cases a <;> cases b <;> first | (cases kind <;> rfl) | simp [Value.same] at same
  unfold matchesKind
  simp only [onKind]

theorem acceptsKind_of_alike (plain : accepted.Plain) (alike : Alike a b) :
    accepted.acceptsKind a = accepted.acceptsKind b := by
  unfold acceptsKind
  rw [isException_of_alike plain alike, matchesKind_of_alike accepted alike]

/-- Only the text of a string counts among the choices. -/
theorem verdict_eq (accepted : Alternatives) (value : Value) :
    accepted.verdict value =
      if accepted.isException value then .passes
      else if accepted.choices.isEmpty || accepted.kinds.contains .string then accepted.kindVerdict value
      else match value.asString? with
        | some text =>
          if accepted.choices.contains text then .passes
          else .rejected accepted.choiceMessage (suggestSimilar text accepted.choices)
        | none =>
          if accepted.kinds.isEmpty && accepted.exceptions.isEmpty then .rejected accepted.choiceMessage none
          else accepted.kindVerdict value := by
  unfold verdict
  cases value <;> rfl

theorem verdict_of_alike (plain : accepted.Plain) (alike : Alike a b) : accepted.verdict a = accepted.verdict b := by
  have byKind : accepted.kindVerdict a = accepted.kindVerdict b := by
    unfold kindVerdict
    rw [matchesKind_of_alike accepted alike]
  rw [verdict_eq, verdict_eq, isException_of_alike plain alike, alike.asString?, byKind]

end Alternatives

namespace Schema

/-- Where the check of a value finds something wrong, as often as it does. -/
def errorPaths (schema : Schema) (path : Path) (value : Value) : List Path :=
  (problems (schema.findings path value)).map Problem.path

/-- A walk over the entries of a table is one over its keys. -/
theorem flatMap_entries {α β : Type} {entries : Entries α} (distinct : Entries.Distinct entries)
    (visit : String → α → List β) :
    (entries.flatMap fun entry => visit entry.1 entry.2) =
      (Entries.keys entries).flatMap fun key => (Entries.get? entries key).elim [] (visit key) := by
  rw [Entries.keys, List.flatMap_map]
  refine List.flatMap_congr ?_
  rintro ⟨key, value⟩ held
  rw [distinct.get?_of_mem held]
  rfl

theorem perm_elim {found other : Option Value} {visit : Value → List Path} (rel : Option.Rel Alike found other)
    (each : ∀ a b, Alike a b → (visit a).Perm (visit b)) :
    (found.elim [] visit).Perm (other.elim [] visit) := by
  cases rel with
  | none => exact .nil
  | some alike => exact each _ _ alike

section Parts

variable {as bs : Entries Value}

theorem keys_perm_of_alike (alike : Alike (.map as) (.map bs)) : (Entries.keys as).Perm (Entries.keys bs) := by
  obtain ⟨left, right, lookups⟩ := Value.alike_map_iff.mp alike
  exact Entries.keys_perm_of_lookups left right fun key => isSome_of_rel (lookups key)

theorem unknownKeyPaths_of_alike (alike : Alike (.map as) (.map bs)) (unknownKeys : UnknownKeys)
    (declared : List String) (path : Path) :
    (problems (unknownKeyFindings unknownKeys declared path as)).map Problem.path =
      (problems (unknownKeyFindings unknownKeys declared path bs)).map Problem.path := by
  cases unknownKeys with
  | allow => rfl
  | reject message =>
    have unexpected := (keys_perm_of_alike alike).filter fun key => !declared.contains key
    have together : ((Entries.keys as).filter fun key => !declared.contains key).isEmpty =
        ((Entries.keys bs).filter fun key => !declared.contains key).isEmpty := by
      rw [Bool.eq_iff_iff, List.isEmpty_iff_length_eq_zero, List.isEmpty_iff_length_eq_zero, unexpected.length_eq]
    simp only [unknownKeyFindings, together]
    split <;> rfl

theorem requiredKeyPaths_of_alike (alike : Alike (.map as) (.map bs)) (requireAny : List String) (path : Path) :
    (problems (requiredKeyFindings requireAny path as)).map Problem.path =
      (problems (requiredKeyFindings requireAny path bs)).map Problem.path := by
  have together : Entries.contains as = Entries.contains bs := by
    funext key
    exact isSome_of_rel (alike.get? key)
  unfold requiredKeyFindings
  rw [together]
  split <;> rfl

theorem fieldPaths_perm (alike : Alike (.map as) (.map bs)) (fields : List (String × Schema)) (path : Path)
    (each : ∀ name field, (name, field) ∈ fields → ∀ path a b, Alike a b →
      (errorPaths field path a).Perm (errorPaths field path b)) :
    ((problems (fieldFindings fields path as)).map Problem.path).Perm
      ((problems (fieldFindings fields path bs)).map Problem.path) := by
  induction fields with
  | nil => exact .nil
  | cons declaration rest ih =>
    obtain ⟨name, field⟩ := declaration
    have later := ih fun other schema listed => each other schema (List.mem_cons_of_mem _ listed)
    have sides (entries : Entries Value) :
        (problems (fieldFindings ((name, field) :: rest) path entries)).map Problem.path =
          ((Value.notNull? (Entries.get? entries name)).elim [] fun child => errorPaths field (path.key name) child)
            ++ (problems (fieldFindings rest path entries)).map Problem.path := by
      rw [fieldFindings_cons, problems_append, List.map_append]
      cases Value.notNull? (Entries.get? entries name) <;> rfl
    rw [sides as, sides bs]
    refine List.Perm.append (perm_elim ?_ fun a b => each name field (List.mem_cons_self ..) _ a b) later
    exact Value.rel_notNull? (fun _ _ => Alike.null_iff) (alike.get? name)

theorem undeclaredPaths_perm (alike : Alike (.map as) (.map bs)) (fields : List (String × Schema))
    (values : Option Schema) (path : Path)
    (each : ∀ other, values = some other → ∀ path a b, Alike a b →
      (errorPaths other path a).Perm (errorPaths other path b)) :
    ((problems (undeclaredFindings fields path as values)).map Problem.path).Perm
      ((problems (undeclaredFindings fields path bs values)).map Problem.path) := by
  cases values with
  | none => exact .nil
  | some other =>
    obtain ⟨left, right, lookups⟩ := Value.alike_map_iff.mp alike
    have sides (entries : Entries Value) (distinct : Entries.Distinct entries) :
        (problems (undeclaredFindings fields path entries (some other))).map Problem.path =
          (Entries.keys entries).flatMap fun key => (Entries.get? entries key).elim [] fun child =>
            if Entries.contains fields key then [] else errorPaths other (path.key key) child := by
      rw [← flatMap_entries distinct fun key child =>
        if Entries.contains fields key then [] else errorPaths other (path.key key) child]
      simp only [undeclaredFindings, problems_flatMap, List.map_flatMap]
      refine List.flatMap_congr ?_
      rintro ⟨key, child⟩ _
      simp only
      split <;> rfl
    rw [sides as left, sides bs right]
    refine (keys_perm_of_alike alike).flatMap fun key _ => perm_elim (lookups key) fun a b inside => ?_
    split
    · exact .nil
    · exact each other rfl _ a b inside

theorem itemPaths_perm {members others : List Value} (alike : List.Forall₂ Alike members others)
    (items : Option Schema) (path : Path)
    (each : ∀ item, items = some item → ∀ path a b, Alike a b →
      (errorPaths item path a).Perm (errorPaths item path b)) :
    ((problems (itemFindings path members items)).map Problem.path).Perm
      ((problems (itemFindings path others items)).map Problem.path) := by
  cases items with
  | none => exact .nil
  | some item =>
    simp only [itemFindings, problems_flatMap, List.map_flatMap]
    -- positions are counted from wherever the rest of the array starts
    suffices fromStart : ∀ start,
        ((members.zipIdx start).flatMap fun entry => errorPaths item (path.index entry.2) entry.1).Perm
          ((others.zipIdx start).flatMap fun entry => errorPaths item (path.index entry.2) entry.1) from
      fromStart 0
    induction alike with
    | nil => exact fun _ => .nil
    | cons first _ ih =>
      intro start
      rw [List.zipIdx_cons, List.zipIdx_cons, List.flatMap_cons, List.flatMap_cons]
      exact (each item rfl _ _ _ first).append (ih (start + 1))

theorem singleEntryPaths_of_alike (alike : Alike (.map as) (.map bs)) {entry : Schema}
    (plain : entry.accepted.Plain) (message : String) (path : Path) :
    (singleEntryProblems entry message path as).map Problem.path =
      (singleEntryProblems entry message path bs).map Problem.path := by
  have size := (keys_perm_of_alike alike).length_eq
  rw [Value.length_keys, Value.length_keys] at size
  match as, bs with
  | [], [] => rfl
  | [(key, only)], [(name, other)] =>
    have names : [key].Perm [name] := keys_perm_of_alike alike
    cases List.singleton_perm_singleton.mp names
    have inside := alike.get? key
    simp only [Value.get?_map, Entries.get?, if_true, Option.rel_some_some] at inside
    have together : entry.acceptsKind only = entry.acceptsKind other :=
      Alternatives.acceptsKind_of_alike plain inside
    rw [singleEntryProblems, singleEntryProblems, together]
    split <;> rfl
  | _ :: _ :: _, _ :: _ :: _ => rfl
  | [], _ :: _ => cases size
  | _ :: _, [] => cases size
  | [_], _ :: _ :: _ => simp at size
  | _ :: _ :: _, [_] => simp at size

end Parts

/-- The order of keys changes nothing about where something is wrong. -/
theorem errorPaths_perm {schema : Schema} (plain : schema.Everywhere Alternatives.Plain) (path : Path)
    {a b : Value} (alike : Alike a b) : (errorPaths schema path a).Perm (errorPaths schema path b) := by
  induction plain generalizing path a b with
  | @node accepted fields unknownKeys requireAny items values singleEntry here _ _ _ inSingleEntry inFields inItems
      inValues _ =>
    have together := Alternatives.verdict_of_alike here alike
    unfold errorPaths
    cases verdict : accepted.verdict a with
    | passes =>
      rw [findings_of_passes _ _ _ _ _ _ _ verdict, findings_of_passes _ _ _ _ _ _ _ (together ▸ verdict)]
    | rejected message meant =>
      rw [findings_of_rejected _ _ _ _ _ _ _ verdict, findings_of_rejected _ _ _ _ _ _ _ (together ▸ verdict),
        problems_rejection, problems_rejection]
      exact .refl _
    | lookInside =>
      have otherVerdict : accepted.verdict b = .lookInside := together ▸ verdict
      by_cases isMap : a.isMap = true
      · obtain ⟨as, rfl⟩ := Value.isMap_iff.mp isMap
        obtain ⟨bs, rfl⟩ := Value.isMap_iff.mp (alike.isMap ▸ isMap)
        cases singleEntry with
        | some entry =>
          rw [problems_singleEntry _ _ _ _ _ _ verdict, problems_singleEntry _ _ _ _ _ _ otherVerdict]
          exact .of_eq (singleEntryPaths_of_alike alike (inSingleEntry entry rfl).accepted _ path)
        | none =>
          rw [findings_map _ _ _ _ _ _ verdict, findings_map _ _ _ _ _ _ otherVerdict]
          simp only [problems_append, List.map_append]
          rw [unknownKeyPaths_of_alike alike, requiredKeyPaths_of_alike alike]
          refine List.Perm.append (List.Perm.append (.refl _) ?_) ?_
          · exact fieldPaths_perm alike fields path fun name field listed path _ _ => inFields name field listed path
          · exact undeclaredPaths_perm alike fields values path fun other isOther path _ _ =>
              inValues other isOther path
      by_cases isArray : a.isArray = true
      · obtain ⟨members, rfl⟩ := Value.isArray_iff.mp isArray
        obtain ⟨others, rfl⟩ := Value.isArray_iff.mp (alike.isArray ▸ isArray)
        rw [findings_array _ _ _ _ _ _ _ verdict, findings_array _ _ _ _ _ _ _ otherVerdict]
        exact itemPaths_perm (Value.alike_array_iff.mp alike) items path fun item isItem path _ _ =>
          inItems item isItem path
      rw [Bool.not_eq_true] at isMap isArray
      rw [findings_scalar _ _ _ _ _ _ _ verdict isMap isArray,
        findings_scalar _ _ _ _ _ _ _ otherVerdict (alike.isMap ▸ isMap) (alike.isArray ▸ isArray)]

end Schema

end BuildConfig
