import DocumentAnalyser.EvidenceStore

/-!
# What `_strip_none` removes

The leaves of a value are its scalars in document order, each with the object keys on the way to
it (array positions are not part of the path, as pruning shifts them). Pruning removes `None`
leaves and containers with no other leaves, and keeps every other leaf in place: the proof is
one induction over the value, one case per branch of `_strip_none`. A dict entry is tested
before its value is pruned, so a value that prunes to `{}` or `[]` stays behind.
-/

namespace DocumentAnalyser.Json

set_option autoImplicit false

mutual
/-- The scalar leaves of a value in document order, with their paths of object keys. -/
def leaves : Json → List (List String × Json)
  | obj fields => fieldLeaves fields
  | arr elems => elemLeaves elems
  | x => [([], x)]

def fieldLeaves : List (String × Json) → List (List String × Json)
  | [] => []
  | (k, v) :: rest => (leaves v).map (fun l => (k :: l.1, l.2)) ++ fieldLeaves rest

def elemLeaves : List Json → List (List String × Json)
  | [] => []
  | v :: rest => leaves v ++ elemLeaves rest
end

/-- A leaf that carries data: a bool, a number, or a non-empty string. -/
def isData : Json → Bool
  | bool _ | num _ => true
  | str s => s != ""
  | _ => false

@[simp] theorem stripNone_obj (fields : List (String × Json)) :
    stripNone (obj fields) = obj (stripFields fields) := by simp [stripNone]

@[simp] theorem stripNone_arr (elems : List Json) :
    stripNone (arr elems) = arr (stripElems elems) := by simp [stripNone]

@[simp] theorem stripFields_cons (k : String) (v : Json) (rest : List (String × Json)) :
    stripFields ((k, v) :: rest) =
      if v.isPlaceholder then stripFields rest else (k, stripNone v) :: stripFields rest := by
  simp [stripFields]

@[simp] theorem stripFields_nil : stripFields [] = [] := by simp [stripFields]

theorem lookup_stripFields {k : String} {v : Json} :
    ∀ {fields : List (String × Json)}, fields.lookup k = some v → v.isPlaceholder = false →
      (stripFields fields).lookup k = some (stripNone v)
  | [], h, _ => by cases h
  | (k', w) :: rest, h, hv => by
    by_cases hk : k = k'
    · subst hk
      simp only [List.lookup_cons_self, Option.some.injEq] at h
      subst h
      simp [hv]
    · rw [lookup_cons_of_ne _ _ hk] at h
      simp only [stripFields_cons]
      split <;> simp [lookup_stripFields h hv, lookup_cons_of_ne _ _ hk]

theorem lookup_stripFields_setField_of_ne (k : String) {k' : String} (v : Json) (h : k ≠ k') :
    ∀ d : List (String × Json), (stripFields (setField d k' v)).lookup k = (stripFields d).lookup k
  | [] => by simp only [setField, stripFields_cons]; split <;> simp [lookup_cons_of_ne _ _ h]
  | (k'', w) :: rest => by
    simp only [setField]
    split
    · subst k''
      simp only [stripFields_cons]
      split <;> split <;> simp [lookup_cons_of_ne _ _ h]
    · simp only [stripFields_cons]
      split
      · exact lookup_stripFields_setField_of_ne k v h rest
      · by_cases hk : k = k''
        · subst hk; simp
        · simp [lookup_cons_of_ne _ _ hk, lookup_stripFields_setField_of_ne k v h rest]

/-- What pruning keeps of a dict entry's value: nothing for a placeholder, the value pruned
otherwise. -/
def pruned (v : Json) : Option Json := if v.isPlaceholder then none else some (stripNone v)

/-- In a dict, pruning leaves each key's value pruned, or drops the key when its value is a
placeholder. -/
theorem lookup_stripFields_of_nodup (k : String) :
    ∀ {fields : List (String × Json)}, (fields.map Prod.fst).Nodup →
      (stripFields fields).lookup k = (fields.lookup k).bind pruned
  | [], _ => by simp
  | (k', v) :: rest, hnodup => by
    rw [List.map_cons, List.nodup_cons] at hnodup
    have ih := lookup_stripFields_of_nodup k hnodup.2
    by_cases hk : k = k'
    · subst hk
      have hnone : rest.lookup k = none := by
        simp only [List.lookup_eq_none_iff]
        intro p hp
        have hmem : p.1 ∈ rest.map Prod.fst := List.mem_map_of_mem Prod.fst hp
        simpa using fun hkp : k = p.1 => hnodup.1 (hkp ▸ hmem)
      simp only [stripFields_cons, List.lookup_cons_self, Option.some_bind, pruned]
      split <;> simp [ih, hnone]
    · simp only [stripFields_cons, lookup_cons_of_ne _ _ hk]
      split <;> simp [ih, lookup_cons_of_ne _ _ hk]

@[simp] theorem stripElems_cons (v : Json) (rest : List Json) :
    stripElems (v :: rest) =
      if (stripNone v).isPlaceholder then stripElems rest else stripNone v :: stripElems rest := by
  simp [stripElems]

section Filter

variable (p : Json → Bool)

theorem filter_leaves_placeholder (hp : p null = false) {x : Json} (h : x.isPlaceholder = true) :
    (leaves x).filter (p ·.2) = [] := by
  rcases (isPlaceholder_iff x).mp h with rfl | rfl | rfl <;> simp [leaves, fieldLeaves, elemLeaves, hp]

mutual
/-- Pruning keeps, in order and under the same paths, every leaf that is not `None`. -/
theorem filter_leaves_stripNone (hp : p null = false) : ∀ x : Json,
    (leaves (stripNone x)).filter (p ·.2) = (leaves x).filter (p ·.2)
  | obj fields => by simpa [leaves] using filter_fieldLeaves_stripFields hp fields
  | arr elems => by simpa [leaves] using filter_elemLeaves_stripElems hp elems
  | null | bool _ | num _ | str _ => rfl

theorem filter_fieldLeaves_stripFields (hp : p null = false) : ∀ fields : List (String × Json),
    (fieldLeaves (stripFields fields)).filter (p ·.2) = (fieldLeaves fields).filter (p ·.2)
  | [] => rfl
  | (k, v) :: rest => by
    have ih := filter_fieldLeaves_stripFields hp rest
    by_cases hv : v.isPlaceholder
    · simp [fieldLeaves, hv, ih, List.filter_map, Function.comp_def,
        filter_leaves_placeholder p hp hv]
    · simp [fieldLeaves, hv, ih, List.filter_map, Function.comp_def,
        filter_leaves_stripNone hp v]

theorem filter_elemLeaves_stripElems (hp : p null = false) : ∀ elems : List Json,
    (elemLeaves (stripElems elems)).filter (p ·.2) = (elemLeaves elems).filter (p ·.2)
  | [] => rfl
  | v :: rest => by
    have ih := filter_elemLeaves_stripElems hp rest
    have hv := filter_leaves_stripNone hp v
    by_cases hs : (stripNone v).isPlaceholder
    · rw [filter_leaves_placeholder p hp hs] at hv
      simp [elemLeaves, hs, ih, ← hv]
    · simp [elemLeaves, hs, ih, hv]
end

end Filter

theorem stripNone_preserves_data_leaves (x : Json) :
    (leaves (stripNone x)).filter (isData ·.2) = (leaves x).filter (isData ·.2) :=
  filter_leaves_stripNone isData rfl x

/-- A dict entry is tested before its value is pruned, so a nested dict whose entries are all
pruned stays behind as `{}`. -/
theorem stripNone_keeps_emptied_object :
    stripNone (obj [("a", obj [("b", null)])]) = obj [("a", obj [])] := rfl

end DocumentAnalyser.Json
