import Mathlib.Data.Set.List
import PatchForge.Declaration.Reader
import PatchForge.Proofs.Dict.Merge

/-!
# The first document decides

Data come as no document, one or many (`Documents`), and all that counts
of them is the list of their entries. What is kept is said of that list
alone (`Decided`): its names in the order of their first appearance, each
with the records of the entry where it first appears. A list of entries
decides at most one result (`Decided.unique`), so reading is exact as
soon as every step of it is: an entry either repeats a name and is passed
over, or its records go to the end (`Decided.addEntries`).

A later entry under the same name is passed over unread, whatever it
holds (`addEntries_shadowed`, which holds of failing readings too), and
more documents only add to what is there (`addEntries_extends`).
-/

namespace PatchForge

namespace Dict

variable {α β : Type} [BEq α] [LawfulBEq α]

theorem contains_iff {d : Dict α β} {key : α} : d.contains key = true ↔ key ∈ d.keys := by
  rw [contains, Option.isSome_iff_ne_none, Ne, get?_eq_none_iff, not_not]

/-- Entries with the same keys in the same order, none repeated, are known by their values. -/
theorem eq_of_get? : ∀ {d d' : Dict α β}, d.keys.Nodup → d'.keys = d.keys →
    (∀ key, d'.get? key = d.get? key) → d' = d
  | [], d', _, hkeys, _ => List.map_eq_nil_iff.mp hkeys
  | (k, v) :: d, [], _, hkeys, _ => by cases hkeys
  | (k, v) :: d, (k', v') :: d', hnodup, hkeys, hget => by
      have hk : k ∉ keys d := (List.nodup_cons.mp hnodup).1
      obtain ⟨rfl, hrest⟩ : k' = k ∧ keys d' = keys d := List.cons.inj hkeys
      have hhead := hget k'
      rw [get?_cons, get?_cons, if_pos (beq_self_eq_true k'), if_pos (beq_self_eq_true k')] at hhead
      obtain rfl := Option.some.inj hhead
      refine congrArg _ (eq_of_get? (List.nodup_cons.mp hnodup).2 hrest fun key => ?_)
      by_cases hkey : key = k'
      · rw [hkey, get?_eq_none_iff.mpr hk, get?_eq_none_iff.mpr (hrest.symm ▸ hk)]
      · have hlater := hget key
        rwa [get?_cons, get?_cons, if_neg (by simpa using hkey), if_neg (by simpa using hkey)]
          at hlater

end Dict

namespace Declaration

variable {point : String} {v value : Json} {entries seen : List (String × Json)}
  {data data' : Dict String (List Record)} {records : List Record}

/-! ## Records -/

/-- The text that stands for a value in a record. -/
def keptText : Json → String
  | .bool b => if b then "true" else "false"
  | v => v.text

/-- What a record keeps of an object: the fields that are not null, in order, as texts. -/
def keptFields (fields : List (String × Json)) : Record :=
  (fields.filter fun f => !f.2.isNull).map fun f => (f.1, keptText f.2)

/-- The value is a list of objects, and these are their records. -/
def AreRecords (value : Json) (records : List Record) : Prop :=
  ∃ objects : List (List (String × Json)),
    value = .arr (objects.map .obj) ∧ records = objects.map keptFields

theorem recordOf_obj (point : String) (fields : List (String × Json)) :
    recordOf point (.obj fields) = .ok (keptFields fields) := by
  have hfield : ∀ f : String × Json, (fieldText? f.2).map (f.1, ·)
      = if f.2.isNull then none else some (f.1, keptText f.2) := by
    rintro ⟨name, v⟩
    cases v with
    | bool b => cases b <;> rfl
    | _ => rfl
  have hfields : (fields.filterMap fun f => (fieldText? f.2).map (f.1, ·)) = keptFields fields := by
    induction fields with
    | nil => rfl
    | cons f fields ih =>
        rw [List.filterMap_cons, hfield, ih, keptFields, keptFields, List.filter_cons]
        cases f.2.isNull <;> rfl
  rw [recordOf, hfields]

theorem recordsOf_objects (point : String) (objects : List (List (String × Json))) :
    recordsOf point (.arr (objects.map .obj)) = .ok (objects.map keptFields) := by
  rw [recordsOf, Result.mapM_ok, List.forall₂_map_left_iff, List.forall₂_map_right_iff,
    List.forall₂_same]
  exact fun fields _ => recordOf_obj point fields

theorem recordsOf_ok : recordsOf point value = .ok records ↔ AreRecords value records := by
  constructor
  · intro h
    cases value with
    | arr items =>
        have hitems : items ∈ Set.range (List.map Json.obj) := by
          rw [Set.range_list_map]
          intro item hitem
          obtain ⟨record, hrecord⟩ := Result.exists_mapM_ok.mp ⟨records, h⟩ item hitem
          cases item with
          | obj fields => exact ⟨fields, rfl⟩
          | _ => cases hrecord
        obtain ⟨objects, rfl⟩ := hitems
        rw [recordsOf_objects] at h
        exact ⟨objects, rfl, (Except.ok.inj h).symm⟩
    | _ => cases h
  · rintro ⟨objects, rfl, rfl⟩
    exact recordsOf_objects point objects

theorem AreRecords.unique {records' : List Record} (h : AreRecords value records)
    (h' : AreRecords value records') : records = records' := by
  have hread : recordsOf "" value = .ok records := recordsOf_ok.mpr h
  exact Except.ok.inj (hread.symm.trans (recordsOf_ok.mpr h'))

/-! ## Entries -/

/-- The data have the names of the entries, in the order in which they first appear, each with
the records of the entry where it first appears. -/
structure Decided (entries : List (String × Json)) (data : Dict String (List Record)) : Prop where
  names : data.keys = (entries.map Prod.fst).eraseDups
  first : ∀ point value, Dict.get? entries point = some value →
    ∃ records, AreRecords value records ∧ data.get? point = some records

namespace Decided

theorem contains_iff (h : Decided entries data) :
    data.contains point = true ↔ point ∈ Dict.keys entries := by
  rw [Dict.contains_iff, h.names, List.mem_eraseDups]
  rfl

theorem get?_eq_none (h : Decided entries data) (hpoint : Dict.get? entries point = none) :
    data.get? point = none := by
  rw [Dict.get?_eq_none_iff] at hpoint ⊢
  rwa [← Dict.contains_iff, h.contains_iff]

/-- Entries decide at most one result. -/
theorem unique (h : Decided entries data) (h' : Decided entries data') : data' = data := by
  have hnodup : data.keys.Nodup := by
    rw [h.names, ← foldl_addNew_nil]
    exact nodup_foldl_addNew List.nodup_nil
  refine Dict.eq_of_get? hnodup (h'.names.trans h.names.symm) fun point => ?_
  cases hpoint : Dict.get? entries point with
  | none => rw [h.get?_eq_none hpoint, h'.get?_eq_none hpoint]
  | some value =>
      obtain ⟨records, hrecords, hget⟩ := h.first point value hpoint
      obtain ⟨records', hrecords', hget'⟩ := h'.first point value hpoint
      rw [hget, hget', hrecords.unique hrecords']

theorem nil : Decided [] [] where
  names := rfl
  first point value h := by cases h

/-- An entry under a name that is there decides nothing. -/
theorem pass (h : Decided entries data) (hpoint : data.contains point = true) (value : Json) :
    Decided (entries ++ [(point, value)]) data where
  names := by
    have hthere : point ∈ entries.map Prod.fst := h.contains_iff.mp hpoint
    rw [h.names, List.map_append, List.eraseDups_append]
    simp [List.removeAll, hthere]
  first point' value' hget := by
    rw [Dict.get?_append, Option.or_eq_some_iff] at hget
    rcases hget with hget | ⟨hnone, hget⟩
    · exact h.first point' value' hget
    · obtain ⟨rfl, -⟩ := Prod.mk.inj (List.mem_singleton.mp (Dict.mem_of_get? hget))
      exact (Dict.get?_eq_none_iff.mp hnone (h.contains_iff.mp hpoint)).elim

/-- An entry under a new name decides its records. -/
theorem add (h : Decided entries data) (hpoint : ¬ data.contains point = true)
    (hrecords : AreRecords value records) :
    Decided (entries ++ [(point, value)]) (data ++ [(point, records)]) where
  names := by
    have hnew : point ∉ entries.map Prod.fst := mt h.contains_iff.mpr hpoint
    have hkeys : Dict.keys (data ++ [(point, records)]) = data.keys ++ [point] := by
      simp [Dict.keys]
    rw [hkeys, h.names, List.map_append, List.eraseDups_append]
    simp [List.removeAll, hnew, List.eraseDups_cons]
  first point' value' hget := by
    rw [Dict.get?_append, Option.or_eq_some_iff] at hget
    rw [Dict.get?_append]
    rcases hget with hget | ⟨hnone, hget⟩
    · obtain ⟨records', hrecords', hfound⟩ := h.first point' value' hget
      exact ⟨records', hrecords', by rw [hfound, Option.some_or]⟩
    · obtain ⟨rfl, rfl⟩ := Prod.mk.inj (List.mem_singleton.mp (Dict.mem_of_get? hget))
      refine ⟨records, hrecords, ?_⟩
      rw [h.get?_eq_none hnone, Option.none_or, Dict.get?_cons, if_pos (beq_self_eq_true _)]

end Decided

/-- Going through entries decides what all entries so far decide. -/
theorem Decided.addEntries : ∀ {entries : List (String × Json)}
    {data : Dict String (List Record)} {seen : List (String × Json)}, Decided seen data →
      addEntries data entries = .ok data' → Decided (seen ++ entries) data'
  | [], data, seen, h, hrun => by
      cases hrun
      rwa [List.append_nil]
  | (point, value) :: entries, data, seen, h, hrun => by
      rw [Declaration.addEntries] at hrun
      rw [List.append_cons]
      split at hrun
      · rename_i hthere
        exact (h.pass hthere value).addEntries hrun
      · rename_i hnew
        split at hrun
        · rename_i records hrecords
          exact (h.add hnew (recordsOf_ok.mp hrecords)).addEntries hrun
        · cases hrun

/-- It fails at an entry that is the first under its name and has no records. -/
theorem Decided.addEntries_error {f : Fault} : ∀ {entries : List (String × Json)}
    {data : Dict String (List Record)} {seen : List (String × Json)}, Decided seen data →
      Declaration.addEntries data entries = .error f → ∃ point value,
        Dict.get? (seen ++ entries) point = some value ∧ recordsOf point value = .error f
  | [], data, seen, h, hrun => by cases hrun
  | (point, value) :: entries, data, seen, h, hrun => by
      rw [Declaration.addEntries] at hrun
      rw [List.append_cons]
      split at hrun
      · rename_i hthere
        exact (h.pass hthere value).addEntries_error hrun
      · rename_i hnew
        split at hrun
        · rename_i records hrecords
          exact (h.add hnew (recordsOf_ok.mp hrecords)).addEntries_error hrun
        · rename_i f' hrecords
          cases hrun
          have hnone : Dict.get? seen point = none :=
            Dict.get?_eq_none_iff.mpr (mt h.contains_iff.mpr hnew)
          refine ⟨point, value, ?_, hrecords⟩
          rw [List.append_assoc, Dict.get?_append, hnone, Option.none_or, List.singleton_append,
            Dict.get?_cons, if_pos (beq_self_eq_true point)]

/-- More entries only add to the data. -/
theorem addEntries_extends : ∀ {entries : List (String × Json)} {data : Dict String (List Record)},
    addEntries data entries = .ok data' → data <+: data'
  | [], data, h => by
      cases h
      exact List.prefix_rfl
  | (point, value) :: entries, data, h => by
      rw [addEntries] at h
      split at h
      · exact addEntries_extends h
      · split at h
        · exact (List.prefix_append _ _).trans (addEntries_extends h)
        · cases h

theorem addEntries_append : ∀ (entries more : List (String × Json))
    (data : Dict String (List Record)),
      addEntries data (entries ++ more) = addEntries data entries >>= (addEntries · more)
  | [], more, data => rfl
  | (point, value) :: entries, more, data => by
      rw [List.cons_append, addEntries, addEntries]
      split
      · exact addEntries_append entries more data
      · split
        · exact addEntries_append entries more _
        · rfl

/-! ## Documents -/

/-- The documents of a data value: null has none, an object is one, and a list holds many. -/
inductive Documents : Json → List (List (String × Json)) → Prop where
  | none : Documents .null []
  | one (fields : List (String × Json)) : Documents (.obj fields) [fields]
  | many (docs : List (List (String × Json))) : Documents (.arr (docs.map .obj)) docs

theorem documents_iff {docs : List (List (String × Json))} :
    Documents v docs ↔ documentsOf v = docs.map .obj := by
  constructor
  · rintro ⟨⟩ <;> rfl
  · intro h
    cases v with
    | null =>
        obtain rfl := List.map_eq_nil_iff.mp h.symm
        exact .none
    | arr items =>
        obtain rfl : items = docs.map .obj := h
        exact .many docs
    | obj fields =>
        obtain ⟨fields', rfl, hfields⟩ := List.map_eq_singleton_iff.mp h.symm
        cases hfields
        exact .one fields
    | _ =>
        obtain ⟨fields, -, hfields⟩ := List.map_eq_singleton_iff.mp h.symm
        cases hfields

theorem addDocuments_objects : ∀ (docs : List (List (String × Json)))
    (data : Dict String (List Record)),
      addDocuments data (docs.map .obj) = addEntries data docs.flatten
  | [], data => rfl
  | fields :: docs, data => by
      rw [List.map_cons, addDocuments, List.flatten_cons, addEntries_append]
      cases addEntries data fields with
      | ok data => exact addDocuments_objects docs data
      | error f => rfl

theorem objects_of_addDocuments : ∀ {l : List Json} {data : Dict String (List Record)},
    addDocuments data l = .ok data' → ∃ docs : List (List (String × Json)), l = docs.map .obj
  | [], data, _ => ⟨[], rfl⟩
  | v :: l, data, h => by
      cases v with
      | obj fields =>
          rw [addDocuments] at h
          split at h
          · obtain ⟨docs, rfl⟩ := objects_of_addDocuments h
            exact ⟨fields :: docs, rfl⟩
          · cases h
      | _ => cases h

theorem addDocuments_append : ∀ (l more : List Json) (data : Dict String (List Record)),
    addDocuments data (l ++ more) = addDocuments data l >>= (addDocuments · more)
  | [], more, data => rfl
  | v :: l, more, data => by
      cases v with
      | obj fields =>
          rw [List.cons_append, addDocuments, addDocuments]
          split
          · exact addDocuments_append l more _
          · rfl
      | _ => rfl

/-- Documents that are objects are read as the list of their entries. -/
theorem dataOf_documents {docs : List (List (String × Json))} (h : Documents v docs) :
    dataOf v = addEntries [] docs.flatten := by
  rw [dataOf, documents_iff.mp h, addDocuments_objects]

theorem dataOf_list (l : List Json) : dataOf (.arr l) = addDocuments [] l := rfl

theorem decided_of_dataOf (h : dataOf v = .ok data) :
    ∃ docs, Documents v docs ∧ Decided docs.flatten data := by
  obtain ⟨docs, hdocs⟩ := objects_of_addDocuments h
  have hdocs := documents_iff.mpr hdocs
  rw [dataOf_documents hdocs] at h
  exact ⟨docs, hdocs, Decided.nil.addEntries h⟩

/-- Data can be read exactly if every entry in which a name first appears has records. -/
theorem exists_dataOf_ok : (∃ data, dataOf v = .ok data) ↔
    ∃ docs, Documents v docs ∧ ∀ point value, Dict.get? docs.flatten point = some value →
      ∃ records, AreRecords value records := by
  constructor
  · rintro ⟨data, h⟩
    obtain ⟨docs, hdocs, hdecided⟩ := decided_of_dataOf h
    refine ⟨docs, hdocs, fun point value hfirst => ?_⟩
    obtain ⟨records, hare, -⟩ := hdecided.first point value hfirst
    exact ⟨records, hare⟩
  · rintro ⟨docs, hdocs, hfirst⟩
    rw [dataOf_documents hdocs]
    cases hrun : addEntries [] docs.flatten with
    | ok data => exact ⟨data, rfl⟩
    | error f =>
        obtain ⟨point, value, hget, hrecords⟩ := Decided.nil.addEntries_error hrun
        obtain ⟨records, hare⟩ := hfirst point value hget
        rw [recordsOf_ok.mpr hare] at hrecords
        cases hrecords

theorem dataOf_ok :
    dataOf v = .ok data ↔ ∃ docs, Documents v docs ∧ Decided docs.flatten data := by
  refine ⟨decided_of_dataOf, ?_⟩
  rintro ⟨docs, hdocs, hdecided⟩
  obtain ⟨data', hdata'⟩ : ∃ data', dataOf v = .ok data' := by
    refine exists_dataOf_ok.mpr ⟨docs, hdocs, fun point value hget => ?_⟩
    obtain ⟨records, hare, -⟩ := hdecided.first point value hget
    exact ⟨records, hare⟩
  rw [dataOf_documents hdocs] at hdata' ⊢
  rw [hdata', hdecided.unique (Decided.nil.addEntries hdata')]

/-! ## Refusals -/

theorem recordsOf_error {f : Fault} (h : recordsOf point value = .error f) :
    ∃ cause, f = .invalid cause := by
  cases value with
  | arr items =>
      obtain ⟨_, item, _, -, -, hitem⟩ := Result.mapM_error h
      cases item with
      | obj fields => cases hitem
      | _ =>
          cases hitem
          exact ⟨_, rfl⟩
  | _ =>
      cases h
      exact ⟨_, rfl⟩

theorem addEntries_error {f : Fault} : ∀ {entries : List (String × Json)}
    {data : Dict String (List Record)}, addEntries data entries = .error f →
      ∃ cause, f = .invalid cause
  | [], _, h => by cases h
  | (point, value) :: entries, data, h => by
      rw [addEntries] at h
      split at h
      · exact addEntries_error h
      · split at h
        · exact addEntries_error h
        · rename_i hrecords
          cases h
          exact recordsOf_error hrecords

theorem addDocuments_error {f : Fault} : ∀ {l : List Json} {data : Dict String (List Record)},
    addDocuments data l = .error f → ∃ cause, f = .invalid cause
  | [], _, h => by cases h
  | v :: l, data, h => by
      cases v with
      | obj fields =>
          rw [addDocuments] at h
          split at h
          · exact addDocuments_error h
          · rename_i hfields
            cases h
            exact addEntries_error hfields
      | _ =>
          cases h
          exact ⟨_, rfl⟩

/-- Data that cannot be read are refused for what they are. -/
theorem dataOf_error {f : Fault} (h : dataOf v = .error f) : ∃ cause, f = .invalid cause :=
  addDocuments_error h

/-! ## What is not looked at -/

/-- Later entries under a name that has appeared may hold anything. -/
theorem addEntries_shadowed (h : Decided seen data)
    (hpoint : point ∈ Dict.keys (seen ++ entries)) (x y : Json) (more : List (String × Json)) :
    addEntries data (entries ++ (point, x) :: more)
      = addEntries data (entries ++ (point, y) :: more) := by
  rw [addEntries_append, addEntries_append]
  cases hrun : addEntries data entries with
  | error f => rfl
  | ok data' =>
      have hthere : data'.contains point = true := (h.addEntries hrun).contains_iff.mpr hpoint
      show addEntries data' _ = addEntries data' _
      rw [addEntries, addEntries, if_pos hthere, if_pos hthere]

theorem dataOf_shadowed {before : List (List (String × Json))} {fields : List (String × Json)}
    (hpoint : point ∈ Dict.keys (before.flatten ++ fields)) (x y : Json)
    (rest : List (String × Json)) (after : List Json) :
    dataOf (.arr (before.map .obj ++ .obj (fields ++ (point, x) :: rest) :: after))
      = dataOf (.arr (before.map .obj ++ .obj (fields ++ (point, y) :: rest) :: after)) := by
  rw [dataOf_list, dataOf_list, addDocuments_append, addDocuments_append, addDocuments_objects]
  cases hrun : addEntries [] before.flatten with
  | error f => rfl
  | ok data =>
      show addDocuments data _ = addDocuments data _
      rw [addDocuments, addDocuments,
        addEntries_shadowed (Decided.nil.addEntries hrun) hpoint x y rest]

/-- More documents, if they can be read too, only add to the data. -/
theorem dataOf_append {more : List Json} (h : dataOf v = .ok data)
    (h' : dataOf (.arr (documentsOf v ++ more)) = .ok data') : data <+: data' := by
  rw [dataOf_list, addDocuments_append, ← dataOf, h] at h'
  obtain ⟨docs, rfl⟩ := objects_of_addDocuments (show addDocuments data more = .ok data' from h')
  exact addEntries_extends ((addDocuments_objects docs data).symm.trans h')

/-! ## Null fields -/

/-- The object without its null fields. -/
def dropNulls : Json → Json
  | .obj fields => .obj (fields.filter fun f => !f.2.isNull)
  | v => v

def recordsWithoutNulls : Json → Json
  | .arr items => .arr (items.map dropNulls)
  | v => v

def documentWithoutNulls : Json → Json
  | .obj fields => .obj (fields.map fun f => (f.1, recordsWithoutNulls f.2))
  | v => v

/-- The data without the null fields of their records. -/
def withoutNulls : Json → Json
  | .arr docs => .arr (docs.map documentWithoutNulls)
  | v => documentWithoutNulls v

theorem recordOf_dropNulls (point : String) (v : Json) :
    recordOf point (dropNulls v) = recordOf point v := by
  cases v with
  | obj fields =>
      rw [dropNulls, recordOf_obj, recordOf_obj, keptFields, keptFields, List.filter_filter]
      simp only [Bool.and_self]
  | _ => rfl

theorem recordsOf_withoutNulls (point : String) (value : Json) :
    recordsOf point (recordsWithoutNulls value) = recordsOf point value := by
  cases value with
  | arr items =>
      simp only [recordsWithoutNulls, recordsOf, List.mapM_map, Function.comp_def,
        recordOf_dropNulls]
  | _ => rfl

theorem addEntries_withoutNulls : ∀ (entries : List (String × Json))
    (data : Dict String (List Record)),
      addEntries data (entries.map fun f => (f.1, recordsWithoutNulls f.2))
        = addEntries data entries
  | [], data => rfl
  | (point, value) :: entries, data => by
      rw [List.map_cons, addEntries, addEntries, recordsOf_withoutNulls]
      simp only [addEntries_withoutNulls entries]

theorem addDocuments_withoutNulls : ∀ (docs : List Json) (data : Dict String (List Record)),
    addDocuments data (docs.map documentWithoutNulls) = addDocuments data docs
  | [], data => rfl
  | v :: docs, data => by
      cases v with
      | obj fields =>
          rw [List.map_cons, documentWithoutNulls, addDocuments, addDocuments,
            addEntries_withoutNulls]
          simp only [addDocuments_withoutNulls docs]
      | _ => rfl

theorem dataOf_withoutNulls (v : Json) : dataOf (withoutNulls v) = dataOf v := by
  cases v with
  | arr docs => exact addDocuments_withoutNulls docs []
  | obj fields => exact addDocuments_withoutNulls [.obj fields] []
  | _ => rfl

/-! ## All together -/

/-- A module contributes the records of the entry where the extension point first appears. -/
theorem Decided.contributions {m : Module} (h : Decided entries m.data) (point : String) :
    (∀ value, Dict.get? entries point = some value → AreRecords value (m.contributions point))
      ∧ (Dict.get? entries point = none → m.contributions point = []) := by
  unfold Module.contributions
  constructor
  · intro value hvalue
    obtain ⟨records, hare, hget⟩ := h.first point value hvalue
    rwa [hget, Option.getD_some]
  · intro hnone
    rw [h.get?_eq_none hnone, Option.getD_none]

/-- **The first document decides.** A data value can be read exactly if it is null, an object or a
list of objects in which the first entry under each name is a list of objects; else it is refused.
What is read has the names in the order of their first appearance, each with the records of its
first entry, and a record has the fields that are not null, as texts. So a null field is as good as
none, more documents change nothing that was read, and what stands under a name that has appeared
is not looked at. -/
theorem dataOf_firstDecides (v : Json) :
    ((∃ data, dataOf v = .ok data) ↔ ∃ docs, Documents v docs
        ∧ ∀ point value, Dict.get? docs.flatten point = some value →
          ∃ records, AreRecords value records)
      ∧ (∀ data, dataOf v = .ok data ↔ ∃ docs, Documents v docs ∧ Decided docs.flatten data)
      ∧ (∀ f, dataOf v = .error f → ∃ cause, f = .invalid cause)
      ∧ (∀ m : Module, dataOf v = .ok m.data → ∀ docs, Documents v docs → ∀ point,
          (∀ value, Dict.get? docs.flatten point = some value →
              AreRecords value (m.contributions point))
            ∧ (Dict.get? docs.flatten point = none → m.contributions point = []))
      ∧ dataOf (withoutNulls v) = dataOf v
      ∧ (∀ more data data', dataOf v = .ok data →
          dataOf (.arr (documentsOf v ++ more)) = .ok data' → data <+: data'
            ∧ ∀ point records, data.get? point = some records → data'.get? point = some records)
      ∧ ∀ (before : List (List (String × Json))) (fields : List (String × Json)) (point : String)
          (x y : Json) (rest : List (String × Json)) (after : List Json),
          point ∈ Dict.keys (before.flatten ++ fields) →
            dataOf (.arr (before.map .obj ++ .obj (fields ++ (point, x) :: rest) :: after))
              = dataOf (.arr (before.map .obj ++ .obj (fields ++ (point, y) :: rest) :: after)) := by
  refine ⟨exists_dataOf_ok, fun _ => dataOf_ok, fun _ => dataOf_error, ?_,
    dataOf_withoutNulls v, ?_, fun _ _ _ x y rest after h => dataOf_shadowed h x y rest after⟩
  · intro m hdata docs hdocs point
    rw [dataOf_documents hdocs] at hdata
    exact (Decided.nil.addEntries hdata).contributions point
  · intro more data data' h h'
    have hextends := dataOf_append h h'
    refine ⟨hextends, fun point records hget => ?_⟩
    obtain ⟨new, rfl⟩ := hextends
    rw [Dict.get?_append, hget, Option.some_or]

/-! ### A name that appears twice -/

/-- The entries of a document with one record for an extension point. -/
def hookEntries : List (String × Json) :=
  [("Hooks", .arr [.obj [("Id", .int 3), ("Enabled", .bool true), ("Include", .null)]])]

/-- After the record, something that is no list of records stands under the same name. -/
def hookDocuments : Json :=
  .arr [.obj hookEntries, .obj [("Hooks", .str "OnInit"), ("Actors", .arr [])]]

def hookData : Dict String (List Record) :=
  [("Hooks", [[("Id", "3"), ("Enabled", "true")]]), ("Actors", [])]

theorem dataOf_firstDecides_hooks :
    dataOf hookDocuments = .ok hookData
      ∧ (∃ docs, Documents hookDocuments docs ∧ Decided docs.flatten hookData)
      ∧ dataOf hookDocuments
        = dataOf (.arr [.obj hookEntries, .obj [("Hooks", .null), ("Actors", .arr [])]])
      ∧ hookData.get? "Hooks" = some [[("Id", "3"), ("Enabled", "true")]] := by
  obtain ⟨-, hok, -, -, -, -, hshadowed⟩ := dataOf_firstDecides hookDocuments
  have hread : dataOf hookDocuments = .ok hookData := rfl
  refine ⟨hread, (hok hookData).mp hread, ?_, by decide⟩
  exact hshadowed [hookEntries] [] "Hooks" (.str "OnInit") .null [("Actors", .arr [])] []
    (by decide)

end Declaration

end PatchForge
