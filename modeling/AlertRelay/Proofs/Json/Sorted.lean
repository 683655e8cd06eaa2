import AlertRelay.Json.Basic

/-!
# Sorted documents

A document that went through storage has the fields of every object in the order of their keys, each
key once. Such a document is stored again as it is: sorting has nothing left to do. So a stored
document can be put into another one that is stored in its turn, and is found there unchanged.

## Main definitions

* `Json.IsOrdered` — fields in the order of their keys, each key once

## Main results

* `Json.sorted_sorted` — sorting a sorted document changes nothing
* `Json.field?_sorted` — sorting keeps every field, if each key is there once
-/

namespace AlertRelay.Json

/-- The fields are in the order of their keys, and each key is there once. -/
def IsOrdered (fields : List (String × Json)) : Prop := fields.Pairwise fun f g => f.1 < g.1

variable {key : String} {value : Json} {fields : List (String × Json)}

/-- Of two keys that differ one comes first. -/
theorem key_lt_of_not_lt {key other : String} (notBefore : ¬ key < other) (differ : other ≠ key) :
    other < key := by
  have le : other ≤ key := String.not_lt.mp notBefore
  exact String.not_le.mp fun ge => differ (String.le_antisymm le ge)

theorem mem_insertField {f : String × Json} (member : f ∈ insertField key value fields) :
    f = (key, value) ∨ f ∈ fields := by
  induction fields with
  | nil => exact .inl (List.mem_singleton.mp member)
  | cons g rest ih =>
    obtain ⟨k, v⟩ := g
    rw [insertField] at member
    split at member
    · exact (List.mem_cons.mp member).imp_right id
    · split at member
      · exact (List.mem_cons.mp member).imp_right (List.mem_cons_of_mem _)
      · rcases List.mem_cons.mp member with rfl | member
        · exact .inr List.mem_cons_self
        · exact (ih member).imp_right (List.mem_cons_of_mem _)

theorem mem_insertNew {f : String × Json} (member : f ∈ insertNew key value fields) :
    f = (key, value) ∨ f ∈ fields := by
  rw [insertNew] at member
  split at member
  · exact .inr member
  · exact mem_insertField member

/-- Inserting a field keeps the fields in order. -/
theorem IsOrdered.insertField (ordered : IsOrdered fields) :
    IsOrdered (insertField key value fields) := by
  induction fields with
  | nil => exact List.pairwise_singleton _ _
  | cons g rest ih =>
    obtain ⟨k, v⟩ := g
    obtain ⟨first, others⟩ := List.pairwise_cons.mp ordered
    rw [Json.insertField]
    split
    case isTrue before =>
      refine List.pairwise_cons.mpr ⟨fun f member => ?_, ordered⟩
      rcases List.mem_cons.mp member with rfl | member
      · exact before
      · exact String.lt_trans before (first f member)
    case isFalse notBefore =>
      split
      case isTrue same =>
        subst same
        exact List.pairwise_cons.mpr ⟨first, others⟩
      case isFalse differ =>
        -- the field goes into the rest, and everything there comes after the first key
        refine List.pairwise_cons.mpr ⟨fun f member => ?_, ih others⟩
        rcases mem_insertField member with rfl | member
        · exact key_lt_of_not_lt notBefore differ
        · exact first f member

theorem IsOrdered.insertNew (ordered : IsOrdered fields) :
    IsOrdered (insertNew key value fields) := by
  rw [Json.insertNew]
  split
  · exact ordered
  · exact ordered.insertField

theorem isOrdered_sortedFields (fields : List (String × Json)) :
    IsOrdered (sortedFields fields) := by
  induction fields with
  | nil => exact List.Pairwise.nil
  | cons f rest ih => exact ih.insertNew

theorem lookup_eq_none_of_lt (before : ∀ f ∈ fields, key < f.1) : lookup key fields = none := by
  induction fields with
  | nil => rfl
  | cons f rest ih =>
    rw [List.forall_mem_cons] at before
    have differ : ¬ f.1 = key := fun same => String.lt_irrefl _ (same ▸ before.1)
    rw [lookup, if_neg differ, ih before.2]

/-- A field whose key comes before all others is put at the front. -/
theorem insertNew_of_lt (before : ∀ f ∈ fields, key < f.1) :
    insertNew key value fields = (key, value) :: fields := by
  rw [insertNew, lookup_eq_none_of_lt before]
  cases fields with
  | nil => rfl
  | cons f rest => exact if_pos (before f List.mem_cons_self)

/-- Fields in order stay as they are, if their values do. -/
theorem sortedFields_of_ordered (ordered : IsOrdered fields)
    (fixed : ∀ f ∈ fields, f.2.sorted = f.2) : sortedFields fields = fields := by
  induction fields with
  | nil => rfl
  | cons f rest ih =>
    obtain ⟨first, others⟩ := List.pairwise_cons.mp ordered
    rw [List.forall_mem_cons] at fixed
    rw [sortedFields, ih others fixed.2, fixed.1, insertNew_of_lt first]

/-! ## What is found in a sorted document -/

theorem lookup_eq_none_of_not_mem (absent : key ∉ fields.map Prod.fst) :
    lookup key fields = none := by
  induction fields with
  | nil => rfl
  | cons f rest ih =>
    rw [List.map_cons, List.mem_cons, not_or] at absent
    rw [lookup, if_neg (Ne.symm absent.1), ih absent.2]

/-- Fields with a key each keep their keys when they are sorted. -/
theorem lookup_sortedFields (distinct : (fields.map Prod.fst).Nodup) (key : String) :
    lookup key (sortedFields fields) = (lookup key fields).map sorted := by
  induction fields with
  | nil => rfl
  | cons f rest ih =>
    obtain ⟨k, v⟩ := f
    obtain ⟨fresh, others⟩ := List.nodup_cons.mp distinct
    rw [sortedFields, lookup_insertNew, lookup]
    by_cases same : k = key
    · -- the key is in no field that follows, so nothing replaces this one
      subst same
      rw [if_pos rfl, if_pos rfl, ih others, lookup_eq_none_of_not_mem fresh]
      rfl
    · rw [if_neg same, if_neg same, ih others]

/-- Sorting a document keeps what is under a key. -/
theorem field?_sorted (distinct : (fields.map Prod.fst).Nodup) (key : String) :
    (obj fields).sorted.field? key = ((obj fields).field? key).map sorted := by
  rw [sorted]
  exact lookup_sortedFields distinct key

theorem sorted_ofFloat (x : Float) : (ofFloat x).sorted = ofFloat x := by
  rw [ofFloat]
  split <;> rfl

/-! ## Sorting again -/

mutual

/-- Sorting a sorted document changes nothing. -/
theorem sorted_sorted : ∀ j : Json, j.sorted.sorted = j.sorted
  | .null | .bool _ | .int _ | .double _ | .str _ => rfl
  | .arr items => by rw [sorted, sorted, sortedItems_sortedItems items]
  | .obj fields => by
    rw [sorted, sorted,
      sortedFields_of_ordered (isOrdered_sortedFields fields) (sorted_of_mem_sortedFields fields)]

theorem sortedItems_sortedItems :
    ∀ items : List Json, sortedItems (sortedItems items) = sortedItems items
  | [] => rfl
  | j :: rest => by
    rw [sortedItems, sortedItems, sorted_sorted j, sortedItems_sortedItems rest]

/-- The values of sorted fields are sorted. -/
theorem sorted_of_mem_sortedFields :
    ∀ fields : List (String × Json), ∀ f ∈ sortedFields fields, f.2.sorted = f.2
  | [], _, member => by cases member
  | (k, v) :: rest, f, member => by
    rcases mem_insertNew member with rfl | member
    · exact sorted_sorted v
    · exact sorted_of_mem_sortedFields rest f member

end

end AlertRelay.Json
