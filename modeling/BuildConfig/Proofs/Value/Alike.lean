import BuildConfig.Proofs.Value.Trees
import Mathlib.Data.List.Perm.Subperm

namespace BuildConfig.Value

theorem isMap_of_same {value other : Value} (same : value.same other = true) : value.isMap = other.isMap := by
  cases value <;> cases other <;> first | rfl | simp [Value.same] at same

theorem isArray_of_same {value other : Value} (same : value.same other = true) :
    value.isArray = other.isArray := by
  cases value <;> cases other <;> first | rfl | simp [Value.same] at same

/-- Trees that differ in nothing but the order of keys and the sign of zeros, and hold no key twice. -/
inductive Alike : Value → Value → Prop
  | leaf {a b : Value} (notMap : a.isMap = false) (notArray : a.isArray = false) (same : a.same b = true) :
      Alike a b
  | array {as bs : List Value} (length : as.length = bs.length)
      (inside : ∀ (position : Nat) a b, as[position]? = some a → bs[position]? = some b → Alike a b) :
      Alike (.array as) (.array bs)
  | map {as bs : Entries Value} (left : Entries.Distinct as) (right : Entries.Distinct bs)
      (keys : ∀ key, (Entries.get? as key).isSome = (Entries.get? bs key).isSome)
      (inside : ∀ key a b, Entries.get? as key = some a → Entries.get? bs key = some b → Alike a b) :
      Alike (.map as) (.map bs)

theorem alike_map_iff {as bs : Entries Value} :
    Alike (.map as) (.map bs) ↔ Entries.Distinct as ∧ Entries.Distinct bs ∧
      ∀ key, Option.Rel Alike (Entries.get? as key) (Entries.get? bs key) := by
  constructor
  · intro alike
    cases alike with
    | leaf notMap => cases notMap
    | map left right keys inside =>
      exact ⟨left, right, fun key => rel_of_isSome (keys key) (inside key)⟩
  · rintro ⟨left, right, lookups⟩
    refine .map left right (fun key => isSome_of_rel (lookups key)) fun key a b atA atB => ?_
    have rel := lookups key
    rw [atA, atB] at rel
    exact Option.rel_some_some.mp rel

theorem alike_array_iff {as bs : List Value} : Alike (.array as) (.array bs) ↔ List.Forall₂ Alike as bs := by
  rw [List.forall₂_iff_get]
  constructor
  · intro alike
    cases alike with
    | leaf _ notArray => cases notArray
    | array length inside =>
      refine ⟨length, fun position inA inB => ?_⟩
      exact inside position _ _ (List.getElem?_eq_getElem inA) (List.getElem?_eq_getElem inB)
  · rintro ⟨length, inside⟩
    refine .array length fun position a b atA atB => ?_
    obtain ⟨inA, rfl⟩ := List.getElem?_eq_some_iff.mp atA
    obtain ⟨inB, rfl⟩ := List.getElem?_eq_some_iff.mp atB
    exact inside position inA inB

theorem sameItems_iff {as bs : List Value} :
    sameItems as bs = true ↔ List.Forall₂ (fun a b => a.same b = true) as bs := by
  induction as generalizing bs with
  | nil => cases bs <;> simp [sameItems]
  | cons a rest ih => cases bs <;> simp [sameItems, ih]

theorem sameEntries_cons (key : String) (a : Value) (rest bs : Entries Value) :
    sameEntries ((key, a) :: rest) bs = ((Entries.get? bs key).elim false a.same && sameEntries rest bs) := by
  rw [sameEntries]
  cases Entries.get? bs key <;> rfl

theorem sameEntries_iff {as bs : Entries Value} :
    sameEntries as bs = true ↔
      ∀ key a, (key, a) ∈ as → ∃ b, Entries.get? bs key = some b ∧ a.same b = true := by
  induction as with
  | nil => simp [sameEntries]
  | cons entry rest ih =>
    obtain ⟨name, value⟩ := entry
    have here : (Entries.get? bs name).elim false value.same = true ↔
        ∃ b, Entries.get? bs name = some b ∧ value.same b = true := by
      cases Entries.get? bs name <;> simp
    rw [sameEntries_cons, Bool.and_eq_true, here, ih]
    simp only [List.mem_cons, Prod.mk.injEq]
    constructor
    · rintro ⟨first, others⟩ key a (⟨rfl, rfl⟩ | later)
      · exact first
      · exact others key a later
    · intro all
      exact ⟨all name value (Or.inl ⟨rfl, rfl⟩), fun key a later => all key a (Or.inr later)⟩

theorem length_keys (entries : Entries Value) : (Entries.keys entries).length = entries.length :=
  List.length_map _

/-- Two tables of one size hold the same keys if the second holds those of the first. -/
theorem isSome_get?_of_subset {as bs : Entries Value} (left : Entries.Distinct as)
    (size : as.length = bs.length) (subset : Entries.keys as ⊆ Entries.keys bs) (key : String) :
    (Entries.get? as key).isSome = (Entries.get? bs key).isSome := by
  have perm : (Entries.keys as).Perm (Entries.keys bs) := by
    have sizes : (Entries.keys bs).length = (Entries.keys as).length := by
      rw [length_keys, length_keys, size]
    exact (List.Nodup.subperm left subset).perm_of_length_le (Nat.le_of_eq sizes)
  rw [Bool.eq_iff_iff]
  have held := perm.mem_iff (a := key)
  rwa [← Entries.contains_iff_mem, ← Entries.contains_iff_mem] at held

theorem alike_of_same {a b : Value} (left : a.DistinctKeys) (right : b.DistinctKeys) (same : a.same b = true) :
    Alike a b := by
  induction a using treeInduction generalizing b with
  | leaf a notMap notArray => exact .leaf notMap notArray same
  | array as ih =>
    cases b with
    | array bs =>
      rw [Value.same, sameItems_iff] at same
      rw [distinctKeys_array] at left right
      refine alike_array_iff.mpr (List.forall₂_iff_get.mpr ⟨same.length_eq, fun position inA inB => ?_⟩)
      exact ih _ (List.get_mem _ _) (left _ (List.get_mem _ _)) (right _ (List.get_mem _ _)) (same.get inA inB)
    | _ => simp [Value.same] at same
  | map as ih =>
    cases b with
    | map bs =>
      rw [Value.same, Bool.and_eq_true, beq_iff_eq, sameEntries_iff] at same
      obtain ⟨size, entriesSame⟩ := same
      obtain ⟨distinctA, insideA⟩ := distinctKeys_map.mp left
      obtain ⟨distinctB, insideB⟩ := distinctKeys_map.mp right
      have subset : Entries.keys as ⊆ Entries.keys bs := by
        intro key held
        obtain ⟨a, atA⟩ := Entries.mem_keys_iff.mp held
        obtain ⟨b, atB, _⟩ := entriesSame key a (Entries.mem_of_get? atA)
        exact Entries.mem_keys_iff.mpr ⟨b, atB⟩
      refine .map distinctA distinctB (isSome_get?_of_subset distinctA size subset) fun key a b atA atB => ?_
      have held := Entries.mem_of_get? atA
      obtain ⟨other, atOther, childSame⟩ := entriesSame key a held
      cases Option.some.inj (atOther.symm.trans atB)
      exact ih key a held (insideA key a atA) (insideB key b atB) childSame
    | _ => simp [Value.same] at same

theorem Alike.same {a b : Value} (alike : Alike a b) : a.same b = true := by
  induction alike with
  | leaf _ _ same => exact same
  | @array as bs length _ ih =>
    rw [Value.same, sameItems_iff, List.forall₂_iff_get]
    refine ⟨length, fun position inA inB => ?_⟩
    exact ih position _ _ (List.getElem?_eq_getElem inA) (List.getElem?_eq_getElem inB)
  | @map as bs left right keys _ ih =>
    have size : as.length = bs.length := by
      rw [← length_keys as, ← length_keys bs]
      exact (Entries.keys_perm_of_lookups left right keys).length_eq
    rw [Value.same, size, beq_self_eq_true, Bool.true_and, sameEntries_iff]
    intro key a held
    have atA := left.get?_of_mem held
    obtain ⟨b, atB⟩ := Option.isSome_iff_exists.mp (keys key ▸ Option.isSome_iff_exists.mpr ⟨a, atA⟩)
    exact ⟨b, atB, ih key a b atA atB⟩

theorem Alike.distinctKeys {a b : Value} (alike : Alike a b) : a.DistinctKeys ∧ b.DistinctKeys := by
  induction alike with
  | @leaf a b notMap notArray same =>
    refine ⟨distinctKeys_leaf notMap notArray, distinctKeys_leaf ?_ ?_⟩
    · rw [← isMap_of_same same, notMap]
    · rw [← isArray_of_same same, notArray]
  | @array as bs length _ ih =>
    rw [distinctKeys_array, distinctKeys_array]
    constructor
    · intro a held
      obtain ⟨position, inA, rfl⟩ := List.mem_iff_getElem.mp held
      exact (ih position _ _ (List.getElem?_eq_getElem inA) (List.getElem?_eq_getElem (length ▸ inA))).1
    · intro b held
      obtain ⟨position, inB, rfl⟩ := List.mem_iff_getElem.mp held
      exact (ih position _ _ (List.getElem?_eq_getElem (length ▸ inB)) (List.getElem?_eq_getElem inB)).2
  | @map as bs left right keys _ ih =>
    refine ⟨distinctKeys_map.mpr ⟨left, fun key a atA => ?_⟩, distinctKeys_map.mpr ⟨right, fun key b atB => ?_⟩⟩
    · obtain ⟨b, atB⟩ := Option.isSome_iff_exists.mp (keys key ▸ Option.isSome_iff_exists.mpr ⟨a, atA⟩)
      exact (ih key a b atA atB).1
    · obtain ⟨a, atA⟩ := Option.isSome_iff_exists.mp ((keys key).symm ▸ Option.isSome_iff_exists.mpr ⟨b, atB⟩)
      exact (ih key a b atA atB).2

theorem same_self (value : Value) (leaf : value.isMap = false) (notArray : value.isArray = false) :
    value.same value = true := by
  cases value with
  | map => cases leaf
  | array => cases notArray
  | number number => cases number <;> simp [Value.same, Number.sameValue, Binary64.sameValue]
  | _ => simp [Value.same]

theorem alike_self {value : Value} (distinct : value.DistinctKeys) : Alike value value := by
  induction value using treeInduction with
  | leaf value notMap notArray => exact .leaf notMap notArray (same_self value notMap notArray)
  | array items ih =>
    rw [distinctKeys_array] at distinct
    refine alike_array_iff.mpr (List.forall₂_same.mpr fun item held => ih item held (distinct item held))
  | map entries ih =>
    obtain ⟨distinctHere, inside⟩ := distinctKeys_map.mp distinct
    refine .map distinctHere distinctHere (fun _ => rfl) fun key a b atA atB => ?_
    cases Option.some.inj (atA.symm.trans atB)
    exact ih key a (Entries.mem_of_get? atA) (inside key a atA)

/-- A tree without repeated keys is one that is alike to itself. -/
theorem alike_self_iff {value : Value} : Alike value value ↔ value.DistinctKeys :=
  ⟨fun alike => alike.distinctKeys.1, alike_self⟩

end BuildConfig.Value
