import DocumentAnalyser.Payload

/-!
# The payload list

`build_evidence_payloads` walks the evidence list once and pairs element `i` with document
`i % len(documents)`. The loop returns exactly when every element is `payloadable`, a dict whose
`responseField` can be a dict key, and payload `i` is then the one element `i` makes at index `i`;
otherwise it raises at the first element that is not. Resource ids `"{tool_id}:document:{i}"`
differ for different `i`, as a decimal numeral reads back to its number, but an element's
`responseField` can name a fixed field of the resource and replace or remove it.
-/

namespace DocumentAnalyser

set_option autoImplicit false

open Json

/-! ## Decimal numerals read back -/

/-- The number a list of decimal digit characters stands for. -/
def decimalValue (cs : List Char) : Nat :=
  cs.foldl (fun acc c => 10 * acc + (c.toNat - 48)) 0

@[simp] theorem decimalValue_append_digit (cs : List Char) (c : Char) :
    decimalValue (cs ++ [c]) = 10 * decimalValue cs + (c.toNat - 48) := by
  simp [decimalValue]

theorem digitChar_toNat_sub {d : Nat} (h : d < 10) : (Nat.digitChar d).toNat - 48 = d := by
  have hdigits : ∀ d < 10, (Nat.digitChar d).toNat - 48 = d := by decide
  exact hdigits d h

theorem toDigitsCore_succ (fuel n : Nat) (ds : List Char) :
    Nat.toDigitsCore 10 (fuel + 1) n ds =
      if n / 10 = 0 then Nat.digitChar (n % 10) :: ds
      else Nat.toDigitsCore 10 fuel (n / 10) (Nat.digitChar (n % 10) :: ds) := rfl

theorem toDigitsCore_append (fuel n : Nat) (ds : List Char) :
    Nat.toDigitsCore 10 fuel n ds = Nat.toDigitsCore 10 fuel n [] ++ ds := by
  induction fuel generalizing n ds with
  | zero => rfl
  | succ fuel ih =>
    simp only [toDigitsCore_succ]
    split
    · rfl
    · rw [ih _ (_ :: ds), ih _ [_], List.append_assoc, List.singleton_append]

theorem decimalValue_toDigitsCore {fuel n : Nat} (h : n < fuel) :
    decimalValue (Nat.toDigitsCore 10 fuel n []) = n := by
  induction fuel generalizing n with
  | zero => omega
  | succ fuel ih =>
    have hdigit := digitChar_toNat_sub (Nat.mod_lt n (by decide : 10 > 0))
    simp only [toDigitsCore_succ]
    split
    · simp [decimalValue, hdigit]
      omega
    · rw [toDigitsCore_append, decimalValue_append_digit, hdigit, ih (by omega)]
      omega

theorem decimalValue_toString (n : Nat) : decimalValue (toString n).data = n :=
  decimalValue_toDigitsCore (Nat.lt_succ_self n)

/-- The resource ids of two evidence items are equal only for the same index. -/
theorem documentId_injective (toolId : String) {i j : Nat}
    (h : s!"{toolId}:document:{i}" = s!"{toolId}:document:{j}") : i = j := by
  have hdata := congrArg String.data h
  simp only [String.data_append, List.append_assoc, List.append_cancel_left_eq,
    List.append_left_inj] at hdata
  rw [← decimalValue_toString i, ← decimalValue_toString j, hdata]

/-! ## The loop -/

/-- A value that can be a dict key: anything but a list or a dict. -/
def Json.hashable : Json → Bool
  | arr _ | obj _ => false
  | _ => true

/-- An evidence element the payload builder turns into a payload: a dict whose `responseField`, or
its default, can be a dict key. -/
def payloadable : Json → Bool
  | obj item => (((item.lookup "responseField").getD null).or (.str "requirementMet")).hashable
  | _ => false

theorem asKey_ok_iff (x : Json) : (∃ key, x.asKey = .ok key) ↔ x.hashable := by
  cases x with
  | bool b => cases b <;> simp [asKey, hashable]
  | num n =>
    cases n with
    | infinity negative => cases negative <;> simp [asKey, hashable]
    | _ => simp [asKey, hashable]
  | _ => simp [asKey, hashable]

theorem evidencePayload_ok_iff (config : EvidenceStoreConfig) (stamp : Stamp) (idx : Nat)
    (doc : Document) (item : Json) :
    (∃ payload, evidencePayload config stamp idx doc item = .ok payload) ↔ payloadable item := by
  cases item with
  | obj item =>
    rw [payloadable, ← asKey_ok_iff]
    cases hkey : (((item.lookup "responseField").getD null).or (.str "requirementMet")).asKey <;>
      simp [evidencePayload, hkey, bind, Except.bind, pure, Except.pure]
  | _ => simp [evidencePayload, payloadable]

/-- The error `build_evidence_payloads` raises at an element that cannot become a payload: the
`AttributeError` of `item.get` on a non-dict, or the `TypeError` of an unhashable `responseField`
used as a dict key. -/
def elementError : Json → PyError
  | obj item =>
    let t := (((item.lookup "responseField").getD null).or (.str "requirementMet")).typeName
    .typeError s!"unhashable type: '{t}'"
  | x => x.noAttribute "get"

theorem evidencePayload_of_not_payloadable (config : EvidenceStoreConfig) (stamp : Stamp)
    (idx : Nat) (doc : Document) {item : Json} (h : payloadable item = false) :
    evidencePayload config stamp idx doc item = .error (elementError item) := by
  cases item with
  | obj item =>
    simp only [payloadable] at h
    simp only [evidencePayload, elementError, bind, Except.bind]
    generalize ((item.lookup "responseField").getD null).or (.str "requirementMet") = v at h ⊢
    cases v <;> first | rfl | cases h
  | _ => rfl

theorem getElem?_of_documentAt {documents : List Document} {idx : Nat} {doc : Document}
    (h : documentAt documents idx = .ok doc) : documents[idx % documents.length]? = some doc := by
  unfold documentAt at h
  split at h
  · cases h; exact List.getElem?_eq_getElem _
  · cases h

theorem documentAt_ok {documents : List Document} (hdocs : documents ≠ []) (idx : Nat) :
    ∃ doc, documentAt documents idx = .ok doc :=
  ⟨_, dif_pos (List.length_pos.mpr hdocs)⟩

/-- Given documents, the loop returns exactly when every element is payloadable. -/
theorem payloadLoop_ok_iff (config : EvidenceStoreConfig) (stamp : Nat → Stamp)
    {documents : List Document} (hdocs : documents ≠ []) :
    ∀ (idx : Nat) (items : List Json),
      (∃ payloads, payloadLoop config stamp documents idx items = .ok payloads) ↔
        ∀ item ∈ items, payloadable item
  | _, [] => by simp [payloadLoop]
  | idx, item :: items => by
    obtain ⟨doc, hdoc⟩ := documentAt_ok hdocs idx
    rw [List.forall_mem_cons, ← evidencePayload_ok_iff config (stamp idx) idx doc,
      ← payloadLoop_ok_iff config stamp hdocs (idx + 1) items]
    simp only [payloadLoop, hdoc, bind, Except.bind, pure, Except.pure]
    cases evidencePayload config (stamp idx) idx doc item <;>
      cases payloadLoop config stamp documents (idx + 1) items <;> simp

/-- Given documents, the loop raises the error of its first element that cannot become a
payload. -/
theorem payloadLoop_error (config : EvidenceStoreConfig) (stamp : Nat → Stamp)
    {documents : List Document} (hdocs : documents ≠ []) :
    ∀ (idx : Nat) (items : List Json) (e : PyError),
      payloadLoop config stamp documents idx items = .error e →
      ∃ pre elem post, items = pre ++ elem :: post ∧ (∀ x ∈ pre, payloadable x) ∧
        payloadable elem = false ∧ e = elementError elem
  | _, [], _, h => by cases h
  | idx, item :: items, e, h => by
    obtain ⟨doc, hdoc⟩ := documentAt_ok hdocs idx
    cases hitem : payloadable item
    · simp only [payloadLoop, hdoc, evidencePayload_of_not_payloadable _ _ _ _ hitem, bind,
        Except.bind, Except.error.injEq] at h
      exact ⟨[], item, items, rfl, by simp, hitem, h.symm⟩
    · obtain ⟨payload, hpayload⟩ := (evidencePayload_ok_iff config (stamp idx) idx doc item).mpr hitem
      simp only [payloadLoop, hdoc, hpayload, bind, Except.bind] at h
      cases hrest : payloadLoop config stamp documents (idx + 1) items with
      | error e' =>
        rw [hrest] at h
        cases h
        obtain ⟨pre, elem, post, rfl, hpre, helem, rfl⟩ :=
          payloadLoop_error config stamp hdocs (idx + 1) items _ hrest
        exact ⟨item :: pre, elem, post, rfl, by simpa [hitem] using hpre, helem, rfl⟩
      | ok rest => rw [hrest] at h; cases h

/-- What the loop returns: one payload per element, payload `i` being the one element `i` makes at
index `idx + i`, with the document that index picks. -/
theorem payloadLoop_get {config : EvidenceStoreConfig} {stamp : Nat → Stamp}
    {documents : List Document} :
    ∀ {idx : Nat} {items payloads : List Json},
      payloadLoop config stamp documents idx items = .ok payloads →
      payloads.length = items.length ∧ ∀ (i : Nat) (payload : Json), payloads[i]? = some payload →
        ∃ item doc, items[i]? = some item ∧ documentAt documents (idx + i) = .ok doc ∧
          evidencePayload config (stamp (idx + i)) (idx + i) doc item = .ok payload
  | _, [], _, h => by cases h; simp
  | idx, item :: items, payloads, h => by
    simp only [payloadLoop, bind, Except.bind, pure, Except.pure] at h
    split at h
    · cases h
    rename_i doc hdoc
    split at h
    · cases h
    rename_i p hp
    split at h
    · cases h
    rename_i rest hrest
    cases h
    obtain ⟨hlen, hget⟩ := payloadLoop_get hrest
    refine ⟨by simp [hlen], fun i payload hi => ?_⟩
    cases i with
    | zero =>
      rw [List.getElem?_cons_zero, Option.some.injEq] at hi
      exact ⟨item, doc, List.getElem?_cons_zero, hdoc, hi ▸ hp⟩
    | succ i =>
      rw [List.getElem?_cons_succ] at hi ⊢
      rw [show idx + (i + 1) = idx + 1 + i by omega]
      exact hget i payload hi

theorem Json.or_arr_nil (elems : List Json) : (arr elems).or (arr []) = arr elems := by
  cases elems <;> rfl

theorem buildEvidencePayloads_of_get {result : AnalysisResult} {evidence : Json}
    (h : result.data.get "evidence" = .ok evidence) (documents : List Document)
    (config : EvidenceStoreConfig) (stamp : Nat → Stamp) :
    buildEvidencePayloads result documents config stamp =
      match evidence.or (arr []) with
      | arr items => payloadLoop config stamp documents 0 items
      | _ => .ok [] := by
  simp only [buildEvidencePayloads, h, bind, Except.bind]
  rfl

/-! ## The document fields of the resources -/

/-- `payload["resource"]["genericDocument"][key]`, or nothing when a step is missing. -/
def resourceField (payload : Json) (key : String) : Option Json :=
  match payload.get "resource" with
  | .ok (obj resource) =>
    match resource.lookup "genericDocument" with
    | some (obj fields) => fields.lookup key
    | _ => none
  | _ => none

theorem resourceField_of_get {payload : Json} {fields : List (String × Json)}
    (h : payload.get "resource" = .ok (obj [("genericDocument", obj fields)])) (key : String) :
    resourceField payload key = fields.lookup key := by
  simp only [resourceField, h]
  rfl

/-- What the resource of an item's payload holds under a field the document fixes, whose value for
the item's document is `value`: the item's verdict, pruned, when its `responseField` names the
field, and the document's value otherwise. -/
def documentField (item : List (String × Json)) (field : String) (value : Json) : Option Json :=
  if item.lookup "responseField" = some (.str field) then pruned ((item.lookup "fulfilled").getD null)
  else some value

theorem responseKey_eq_iff {item : List (String × Json)}
    (h : item.lookup "responseField" = none ∨ ∃ s, item.lookup "responseField" = some (.str s)) :
    ∃ key, (((item.lookup "responseField").getD null).or (.str "requirementMet")).asKey = .ok key ∧
      ∀ field, field ≠ "" → field ≠ "requirementMet" →
        (key = field ↔ item.lookup "responseField" = some (.str field)) := by
  rcases h with h | ⟨s, h⟩ <;> rw [h] <;> unfold Json.or
  · exact ⟨"requirementMet", rfl, fun field _ hdefault => by simp [Ne.symm hdefault]⟩
  · split
    · exact ⟨s, rfl, fun field _ _ => by simp⟩
    · rename_i hfalsy
      have hs : s = "" := by simpa [Json.truthy] using hfalsy
      exact ⟨"requirementMet", rfl, fun field hne hdefault => by simp [hs, Ne.symm hne, Ne.symm hdefault]⟩

/-- The payload of a dict whose `responseField` is absent or a string: each field the document
fixes holds the document's value, or the verdict when the `responseField` names it. -/
theorem evidencePayload_document_fields (config : EvidenceStoreConfig) (stamp : Stamp)
    (idx : Nat) (doc : Document) {item : List (String × Json)}
    (hfield : item.lookup "responseField" = none ∨ ∃ s, item.lookup "responseField" = some (.str s))
    {payload : Json} (h : evidencePayload config stamp idx doc (obj item) = .ok payload) :
    resourceField payload "id" = documentField item "id" (.str s!"{config.toolId}:document:{idx}") ∧
      resourceField payload "name" = documentField item "name" (.str doc.name) ∧
      resourceField payload "dataLocation" = documentField item "dataLocation"
        (obj [("localDataLocation", obj [("path", .str doc.path)])]) := by
  obtain ⟨key, hkey, hiff⟩ := responseKey_eq_iff hfield
  obtain ⟨_, hp, fields, hresource, -, hid, hname, hloc, hverdict⟩ :=
    evidencePayload_resource_fields config stamp idx doc hkey
  rw [h, Except.ok.injEq] at hp
  subst hp
  have hfixed : ∀ field value, field ≠ "" → field ≠ "requirementMet" → field ≠ "raw" →
      (key ≠ field → fields.lookup field = some value) →
      fields.lookup field = documentField item field value := by
    intro field value hne hdefault hraw hdoc
    by_cases hk : key = field
    · rw [documentField, if_pos ((hiff field hne hdefault).mp hk), ← hk]
      exact hverdict (hk ▸ hraw)
    · rw [documentField, if_neg (mt (hiff field hne hdefault).mpr hk)]
      exact hdoc hk
  simp only [resourceField_of_get hresource]
  exact ⟨hfixed _ _ (by decide) (by decide) (by decide) hid,
    hfixed _ _ (by decide) (by decide) (by decide) hname,
    hfixed _ _ (by decide) (by decide) (by decide) hloc⟩

/-- Evidence dicts whose `responseField` is absent or a string, over any non-empty document list:
one payload per dict, in order; the resource of payload `i` has the id `"{tool_id}:document:{i}"`
and the name and path of document `i % len(documents)`, except that a dict whose `responseField`
is `id`, `name` or `dataLocation` puts its verdict there, or removes the field when the verdict is
a placeholder; and the resource ids of dicts whose `responseField` is not `id` are pairwise
distinct. -/
theorem buildEvidencePayloads_document_fields (result : AnalysisResult)
    (documents : List Document) (config : EvidenceStoreConfig) (stamp : Nat → Stamp)
    (items : List (List (String × Json))) (hdocs : documents ≠ [])
    (hevidence : result.data.get "evidence" = .ok (arr (items.map obj)))
    (hfield : ∀ item ∈ items, item.lookup "responseField" = none ∨
      ∃ s, item.lookup "responseField" = some (.str s)) :
    ∃ payloads, buildEvidencePayloads result documents config stamp = .ok payloads ∧
      payloads.length = items.length ∧
      (∀ (i : Nat) (payload : Json), payloads[i]? = some payload →
        ∃ item doc, items[i]? = some item ∧ documents[i % documents.length]? = some doc ∧
          evidencePayload config (stamp i) i doc (obj item) = .ok payload ∧
          resourceField payload "id" = documentField item "id" (.str s!"{config.toolId}:document:{i}") ∧
          resourceField payload "name" = documentField item "name" (.str doc.name) ∧
          resourceField payload "dataLocation" = documentField item "dataLocation"
            (obj [("localDataLocation", obj [("path", .str doc.path)])])) ∧
      ∀ (i j : Nat) (p q : Json) (item item' : List (String × Json)),
        payloads[i]? = some p → payloads[j]? = some q → items[i]? = some item → items[j]? = some item' →
        item.lookup "responseField" ≠ some (.str "id") →
        item'.lookup "responseField" ≠ some (.str "id") →
        resourceField p "id" = resourceField q "id" → i = j := by
  have hbuild := buildEvidencePayloads_of_get hevidence documents config stamp
  rw [or_arr_nil] at hbuild
  obtain ⟨payloads, hloop⟩ := (payloadLoop_ok_iff config stamp hdocs 0 (items.map obj)).mpr <| by
    simp only [List.forall_mem_map]
    intro item hitem
    obtain ⟨key, hkey, -⟩ := responseKey_eq_iff (hfield item hitem)
    exact (asKey_ok_iff _).mp ⟨key, hkey⟩
  obtain ⟨hlen, hget⟩ := payloadLoop_get hloop
  have hfields : ∀ (i : Nat) (payload : Json), payloads[i]? = some payload →
      ∃ item doc, items[i]? = some item ∧ documents[i % documents.length]? = some doc ∧
        evidencePayload config (stamp i) i doc (obj item) = .ok payload ∧
        resourceField payload "id" = documentField item "id" (.str s!"{config.toolId}:document:{i}") ∧
        resourceField payload "name" = documentField item "name" (.str doc.name) ∧
        resourceField payload "dataLocation" = documentField item "dataLocation"
          (obj [("localDataLocation", obj [("path", .str doc.path)])]) := by
    intro i payload hi
    obtain ⟨x, doc, hx, hdoc, hpayload⟩ := hget i payload hi
    rw [Nat.zero_add] at hdoc hpayload
    rw [List.getElem?_map, Option.map_eq_some'] at hx
    obtain ⟨item, hitem, rfl⟩ := hx
    exact ⟨item, doc, hitem, getElem?_of_documentAt hdoc, hpayload,
      evidencePayload_document_fields config _ i doc (hfield item (List.getElem?_mem hitem)) hpayload⟩
  refine ⟨payloads, hbuild ▸ hloop, by simpa using hlen, hfields,
    fun i j p q item item' hp hq hitem hitem' hne hne' hpq => ?_⟩
  obtain ⟨_, _, hi, _, _, hpi, -⟩ := hfields i p hp
  obtain ⟨_, _, hj, _, _, hqj, -⟩ := hfields j q hq
  rw [hitem, Option.some.injEq] at hi
  rw [hitem', Option.some.injEq] at hj
  subst hi hj
  rw [hpi, hqj, documentField, documentField, if_neg hne, if_neg hne'] at hpq
  exact documentId_injective config.toolId (Json.str.inj (Option.some.inj hpq))

def twoDocuments : List Document :=
  [⟨"policy.txt", "Backups run nightly."⟩, ⟨"restore.md", "Restores are tested monthly."⟩]

def indexStamp (i : Nat) : Stamp := ⟨s!"evidence-{i}", "2026-01-01T00:00:00Z"⟩

/-- Three evidence dicts: a snippet with a verdict, a verdict under its own field, a citation. -/
def threeItems : List (List (String × Json)) :=
  [[("snippet", .str "Backups run nightly."), ("fulfilled", .bool true)],
    [("responseField", .str "restoreTested"), ("fulfilled", .bool false)],
    [("citation", .str "Page 3")]]

/-- Two evidence dicts whose `responseField` names a field the document fixes: the first with a
verdict, the second without one. -/
def overwritingItems : List (List (String × Json)) :=
  [[("responseField", .str "id"), ("fulfilled", .bool true)], [("responseField", .str "name")]]

theorem buildEvidencePayloads_response_field_overwrites :
    ∃ p q, buildEvidencePayloads ⟨obj [("evidence", arr (overwritingItems.map obj))], "", []⟩
        twoDocuments (EvidenceStoreConfig.fromEnv fun _ => none) indexStamp = .ok [p, q] ∧
      resourceField p "id" = some (.bool true) ∧ resourceField q "name" = none := by
  obtain ⟨payloads, hbuild, hlen, hget, -⟩ := buildEvidencePayloads_document_fields
    ⟨obj [("evidence", arr (overwritingItems.map obj))], "", []⟩ twoDocuments
    (EvidenceStoreConfig.fromEnv fun _ => none) indexStamp overwritingItems (List.cons_ne_nil _ _) rfl (by
      intro item hitem
      simp only [overwritingItems, List.mem_cons, List.mem_singleton, List.not_mem_nil,
        or_false] at hitem
      rcases hitem with rfl | rfl <;> exact .inr ⟨_, rfl⟩)
  match payloads, hlen with
  | [p, q], _ =>
    obtain ⟨_, _, hp, -, -, hid, -⟩ := hget 0 p rfl
    obtain ⟨_, _, hq, -, -, -, hname, -⟩ := hget 1 q rfl
    cases hp
    cases hq
    exact ⟨p, q, hbuild, hid.trans rfl, hname.trans rfl⟩

/-! ## Which evidence lists give payloads -/

/-- Over a data dict with any content and a non-empty document list, `build_evidence_payloads`
returns `[]` when `evidence` is falsy or not a list. For an evidence list it returns exactly when
every element is payloadable, and then one payload per element; otherwise it raises at the first
element that is not, an `AttributeError` for a non-dict and a `TypeError` for an unhashable
`responseField`. -/
theorem buildEvidencePayloads_payloadable (result : AnalysisResult) (documents : List Document)
    (config : EvidenceStoreConfig) (stamp : Nat → Stamp) {fields : List (String × Json)}
    (hdata : result.data = obj fields) (hdocs : documents ≠ []) :
    let evidence := (fields.lookup "evidence").getD null
    (evidence.truthy = false → buildEvidencePayloads result documents config stamp = .ok []) ∧
    ((∀ elems, evidence ≠ arr elems) →
      buildEvidencePayloads result documents config stamp = .ok []) ∧
    ∀ elems, evidence = arr elems →
      ((∃ payloads, buildEvidencePayloads result documents config stamp = .ok payloads) ↔
        ∀ elem ∈ elems, payloadable elem) ∧
      (∀ payloads, buildEvidencePayloads result documents config stamp = .ok payloads →
        payloads.length = elems.length) ∧
      ∀ e, buildEvidencePayloads result documents config stamp = .error e →
        ∃ pre elem post, elems = pre ++ elem :: post ∧ (∀ x ∈ pre, payloadable x) ∧
          payloadable elem = false ∧ e = elementError elem := by
  have hbuild := buildEvidencePayloads_of_get (by rw [hdata]; rfl) documents config stamp
  generalize (fields.lookup "evidence").getD null = evidence at hbuild ⊢
  have hfalsy : evidence.truthy = false → buildEvidencePayloads result documents config stamp = .ok [] :=
    fun hfalse => by rw [hbuild, or_of_not_truthy hfalse]; rfl
  refine ⟨hfalsy, fun hnot => ?_, fun elems helems => ?_⟩
  · cases ht : evidence.truthy
    · exact hfalsy ht
    · rw [hbuild, or_of_truthy ht]
      cases evidence with
      | arr elems => exact absurd rfl (hnot elems)
      | _ => rfl
  · subst helems
    rw [hbuild, or_arr_nil]
    exact ⟨payloadLoop_ok_iff config stamp hdocs 0 elems, fun _ h => (payloadLoop_get h).1,
      payloadLoop_error config stamp hdocs 0 elems⟩

theorem buildEvidencePayloads_three_items_payloadable :
    ((∃ payloads, buildEvidencePayloads ⟨obj [("evidence", arr (threeItems.map obj))], "", []⟩
        twoDocuments (EvidenceStoreConfig.fromEnv fun _ => none) indexStamp = .ok payloads) ↔
      ∀ elem ∈ threeItems.map obj, payloadable elem) ∧
    (∀ payloads, buildEvidencePayloads ⟨obj [("evidence", arr (threeItems.map obj))], "", []⟩
        twoDocuments (EvidenceStoreConfig.fromEnv fun _ => none) indexStamp = .ok payloads →
      payloads.length = (threeItems.map obj).length) ∧
    ∀ e, buildEvidencePayloads ⟨obj [("evidence", arr (threeItems.map obj))], "", []⟩
        twoDocuments (EvidenceStoreConfig.fromEnv fun _ => none) indexStamp = .error e →
      ∃ pre elem post, threeItems.map obj = pre ++ elem :: post ∧ (∀ x ∈ pre, payloadable x) ∧
        payloadable elem = false ∧ e = elementError elem :=
  (buildEvidencePayloads_payloadable _ twoDocuments _ indexStamp rfl (List.cons_ne_nil _ _)).2.2 _
    (by rfl)

/-- A string element of the evidence list reaches `item.get` and raises `AttributeError`, and a
dict element whose `responseField` is a list raises `TypeError` as a dict key. -/
theorem buildEvidencePayloads_raises_on_elements :
    buildEvidencePayloads ⟨obj [("evidence", arr [.str "x"])], "", []⟩ twoDocuments
        (EvidenceStoreConfig.fromEnv fun _ => none) indexStamp =
      .error (.attributeError "'str' object has no attribute 'get'") ∧
    buildEvidencePayloads ⟨obj [("evidence", arr [obj [("responseField", arr [.str "a"])]])], "", []⟩
        twoDocuments (EvidenceStoreConfig.fromEnv fun _ => none) indexStamp =
      .error (.typeError "unhashable type: 'list'") :=
  ⟨rfl, rfl⟩

/-! ## Requirement mode -/

theorem requirementItem_payloadable (r : RequirementPrompt) (raw : String) :
    payloadable (requirementItem r raw) = true := by
  simp [requirementItem, evidenceItem, payloadable, List.lookup_cons, Json.or]
  split <;> rfl

/-- The data of a requirement-mode result gives one payload per evidence item, when every item
can become one. -/
theorem buildEvidencePayloads_summary {items : List Json} (hitems : ∀ item ∈ items, payloadable item)
    (sources : List String) {documents : List Document} (hdocs : documents ≠ [])
    (config : EvidenceStoreConfig) (stamp : Nat → Stamp) :
    ∃ payloads, buildEvidencePayloads
        ⟨obj [("document_summary", .str ""), ("evidence", arr items), ("gaps", arr [])], "", sources⟩
        documents config stamp = .ok payloads ∧ payloads.length = items.length := by
  have hbuild := buildEvidencePayloads_of_get (show (AnalysisResult.mk
    (obj [("document_summary", .str ""), ("evidence", arr items), ("gaps", arr [])]) "" sources).data.get
      "evidence" = .ok (arr items) by simp [List.lookup_cons]) documents config stamp
  rw [or_arr_nil] at hbuild
  obtain ⟨payloads, hloop⟩ := (payloadLoop_ok_iff config stamp hdocs 0 items).mpr hitems
  exact ⟨payloads, hbuild ▸ hloop, (payloadLoop_get hloop).1⟩

end DocumentAnalyser
