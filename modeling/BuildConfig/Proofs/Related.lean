namespace BuildConfig

/-- Two look-ups are related if both find nothing, or find related values. -/
theorem rel_of_isSome {α : Type} {related : α → α → Prop} {a b : Option α} (together : a.isSome = b.isSome)
    (inside : ∀ x y, a = some x → b = some y → related x y) : Option.Rel related a b := by
  cases a with
  | none =>
    cases b with
    | none => exact .none
    | some => cases together
  | some x =>
    cases b with
    | none => cases together
    | some y => exact .some (inside x y rfl rfl)

theorem isSome_of_rel {α β : Type} {related : α → β → Prop} {a : Option α} {b : Option β}
    (rel : Option.Rel related a b) : a.isSome = b.isSome := by
  cases rel <;> rfl

theorem exists_of_rel_some {α β : Type} {related : α → β → Prop} {a : α} {found : Option β}
    (rel : Option.Rel related (some a) found) : ∃ b, found = some b ∧ related a b := by
  cases rel with
  | some both => exact ⟨_, rfl, both⟩

theorem exists_of_some_rel {α β : Type} {related : α → β → Prop} {b : β} {found : Option α}
    (rel : Option.Rel related found (some b)) : ∃ a, found = some a ∧ related a b := by
  cases rel with
  | some both => exact ⟨_, rfl, both⟩

theorem rel_imp {α : Type} {related also : α → α → Prop} {a b : Option α} (implies : ∀ x y, related x y → also x y)
    (rel : Option.Rel related a b) : Option.Rel also a b := by
  cases rel with
  | none => exact .none
  | some both => exact .some (implies _ _ both)

theorem rel_bind {α β : Type} {related : α → α → Prop} {next : β → β → Prop} {a b : Option α}
    {f g : α → Option β} (rel : Option.Rel related a b)
    (inside : ∀ x y, related x y → Option.Rel next (f x) (g y)) : Option.Rel next (a.bind f) (b.bind g) := by
  cases rel with
  | none => exact .none
  | some both => exact inside _ _ both

theorem rel_map {α β : Type} {related : α → α → Prop} {next : β → β → Prop} {a b : Option α} {f g : α → β}
    (rel : Option.Rel related a b) (inside : ∀ x y, related x y → next (f x) (g y)) :
    Option.Rel next (a.map f) (b.map g) := by
  cases rel with
  | none => exact .none
  | some both => exact .some (inside _ _ both)

theorem rel_or {α : Type} {related : α → α → Prop} {a b more others : Option α} (rel : Option.Rel related a b)
    (otherwise : Option.Rel related more others) : Option.Rel related (a.or more) (b.or others) := by
  cases rel with
  | none => exact otherwise
  | some both => exact .some both

theorem rel_self {α : Type} {related : α → α → Prop} (refl : ∀ a, related a a) (found : Option α) :
    Option.Rel related found found := by
  cases found with
  | none => exact .none
  | some value => exact .some (refl value)

theorem rel_trans {α : Type} {related : α → α → Prop} {a b c : Option α}
    (trans : ∀ x y z, related x y → related y z → related x z) (first : Option.Rel related a b)
    (second : Option.Rel related b c) : Option.Rel related a c := by
  cases first with
  | none => exact second
  | some both =>
    obtain ⟨z, rfl, next⟩ := exists_of_rel_some second
    exact .some (trans _ _ z both next)

theorem map_eq_ok_iff {ε α β : Type} {attempt : Except ε α} {f : α → β} {result : β} :
    attempt.map f = .ok result ↔ ∃ value, attempt = .ok value ∧ f value = result := by
  cases attempt <;> simp [Except.map]

theorem bind_eq_ok_iff {ε α β : Type} {attempt : Except ε α} {next : α → Except ε β} {result : β} :
    attempt >>= next = .ok result ↔ ∃ value, attempt = .ok value ∧ next value = .ok result := by
  cases attempt <;> simp [bind, Except.bind]

theorem mapError_eq_ok_iff {ε δ α : Type} {attempt : Except ε α} {told : ε → δ} {result : α} :
    attempt.mapError told = .ok result ↔ attempt = .ok result := by
  cases attempt <;> constructor <;> intro same <;> cases same <;> rfl

theorem toOption_eq_some_iff {ε α : Type} {attempt : Except ε α} {result : α} :
    attempt.toOption = some result ↔ attempt = .ok result := by
  cases attempt <;> simp [Except.toOption]

theorem mapM_cons_eq_ok_iff {ε α β : Type} {make : α → Except ε β} {item : α} {rest : List α} {made : List β} :
    (item :: rest).mapM make = .ok made ↔
      ∃ first others, make item = .ok first ∧ rest.mapM make = .ok others ∧ first :: others = made := by
  rw [List.mapM_cons, bind_eq_ok_iff]
  constructor
  · rintro ⟨first, makesFirst, later⟩
    obtain ⟨others, makesOthers, same⟩ := bind_eq_ok_iff.mp later
    exact ⟨first, others, makesFirst, makesOthers, Except.ok.inj same⟩
  · rintro ⟨first, others, makesFirst, makesOthers, rfl⟩
    exact ⟨first, makesFirst, bind_eq_ok_iff.mpr ⟨others, makesOthers, rfl⟩⟩

/-- What is made item by item has a source for every item. -/
theorem mem_of_mapM_eq_ok {ε α β : Type} {make : α → Except ε β} {items : List α} {made : List β}
    (makes : items.mapM make = .ok made) : ∀ value ∈ made, ∃ item ∈ items, make item = .ok value := by
  induction items generalizing made with
  | nil =>
    cases makes
    simp
  | cons item rest ih =>
    obtain ⟨first, others, makesFirst, makesOthers, rfl⟩ := mapM_cons_eq_ok_iff.mp makes
    intro value listed
    rcases List.mem_cons.mp listed with rfl | other
    · exact ⟨item, List.mem_cons_self .., makesFirst⟩
    · obtain ⟨source, held, makesValue⟩ := ih makesOthers value other
      exact ⟨source, List.mem_cons_of_mem _ held, makesValue⟩

/-- What is made item by item is found where its source is. -/
theorem getElem?_mapM {ε α β : Type} {make : α → Except ε β} {items : List α} {made : List β}
    (makes : items.mapM make = .ok made) (position : Nat) : items[position]?.map make = made[position]?.map .ok := by
  induction items generalizing made position with
  | nil =>
    cases makes
    rfl
  | cons item rest ih =>
    obtain ⟨first, others, makesFirst, makesOthers, rfl⟩ := mapM_cons_eq_ok_iff.mp makes
    cases position with
    | zero => rw [List.getElem?_cons_zero, List.getElem?_cons_zero, Option.map_some, Option.map_some, makesFirst]
    | succ position => rw [List.getElem?_cons_succ, List.getElem?_cons_succ, ih makesOthers]

theorem mapM_congr {ε α β : Type} {make other : α → Except ε β} {items : List α}
    (same : ∀ item ∈ items, make item = other item) : items.mapM make = items.mapM other := by
  induction items with
  | nil => rfl
  | cons item rest ih =>
    obtain ⟨first, later⟩ := List.forall_mem_cons.mp same
    rw [List.mapM_cons, List.mapM_cons, first, ih later]

theorem mapM_map_eq_ok {ε α β : Type} {make : α → Except ε β} {source : β → α} {values : List β}
    (each : ∀ value ∈ values, make (source value) = .ok value) : (values.map source).mapM make = .ok values := by
  have asGiven : values.mapM (make ∘ source) = values.mapM fun value => pure (id value) := mapM_congr each
  rw [List.mapM_map, asGiven, List.mapM_pure, List.map_id]
  rfl

theorem exists_mapM_eq_ok {ε α β : Type} {make : α → Except ε β} {source : β → α} {items : List α}
    (each : ∀ item ∈ items, ∃ value, make item = .ok value ∧ source value = item) :
    ∃ values, items.mapM make = .ok values ∧ values.map source = items := by
  induction items with
  | nil => exact ⟨[], rfl, rfl⟩
  | cons item rest ih =>
    obtain ⟨⟨value, makes, same⟩, later⟩ := List.forall_mem_cons.mp each
    obtain ⟨values, makesRest, sameRest⟩ := ih later
    refine ⟨value :: values, ?_, by rw [List.map_cons, same, sameRest]⟩
    rw [List.mapM_cons, makes, makesRest]
    rfl

theorem findSome?_congr {α β : Type} {f g : α → Option β} {items : List α}
    (same : ∀ item ∈ items, f item = g item) : items.findSome? f = items.findSome? g := by
  induction items with
  | nil => rfl
  | cons item rest ih =>
    obtain ⟨first, later⟩ := List.forall_mem_cons.mp same
    rw [List.findSome?_cons, List.findSome?_cons, first, ih later]

/-- Why an attempt has failed, if it has. -/
def fault? {ε α : Type} : Except ε α → Option ε
  | .error fault => some fault
  | .ok _ => none

theorem fault?_eq_some_iff {ε α : Type} {attempt : Except ε α} {fault : ε} :
    fault? attempt = some fault ↔ attempt = .error fault := by
  cases attempt <;> simp [fault?]

theorem fault?_map {ε α β : Type} (attempt : Except ε α) (f : α → β) : fault? (attempt.map f) = fault? attempt := by
  cases attempt <;> rfl

/-- The first item that cannot be made says why a list of them cannot. -/
theorem fault?_mapM {ε α β : Type} (make : α → Except ε β) (items : List α) :
    fault? (items.mapM make) = items.findSome? fun item => fault? (make item) := by
  induction items with
  | nil => rfl
  | cons item rest ih =>
    rw [List.mapM_cons, List.findSome?_cons, ← ih]
    cases make item with
    | error => rfl
    | ok value => cases rest.mapM make <;> rfl

/-- Of sources with different names only one can have something under a name. -/
theorem flatMap_eq_of_only {α β γ : Type} {sources : List α} {name : α → γ} {found : α → List β}
    (nodup : (sources.map name).Nodup) (wanted : γ)
    (others : ∀ source ∈ sources, name source ≠ wanted → found source = []) :
    sources.flatMap found = [] ∨
      ∃ source ∈ sources, name source = wanted ∧ sources.flatMap found = found source := by
  induction sources with
  | nil => exact Or.inl rfl
  | cons source rest ih =>
    rw [List.map_cons, List.nodup_cons] at nodup
    obtain ⟨first, nodupRest⟩ := nodup
    rw [List.flatMap_cons]
    by_cases here : name source = wanted
    · have restNothing : rest.flatMap found = [] := List.flatMap_eq_nil_iff.mpr fun other listed =>
        others other (List.mem_cons_of_mem _ listed) fun same =>
          first (List.mem_map.mpr ⟨other, listed, same.trans here.symm⟩)
      exact Or.inr ⟨source, List.mem_cons_self .., here, by rw [restNothing, List.append_nil]⟩
    · rw [others source (List.mem_cons_self ..) here, List.nil_append]
      rcases ih nodupRest fun other listed => others other (List.mem_cons_of_mem _ listed) with none | only
      · exact Or.inl none
      · obtain ⟨other, listed, at_other, same⟩ := only
        exact Or.inr ⟨other, List.mem_cons_of_mem _ listed, at_other, same⟩

end BuildConfig
