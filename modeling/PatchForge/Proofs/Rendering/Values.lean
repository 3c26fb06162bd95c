import PatchForge.Proofs.Basic
import PatchForge.Rendering

/-!
# What replaces a placeholder

In both modes the texts of the placeholders are a dictionary with one
entry for each name, made from the first placeholder of that name
(`decisive_ok`). In fixed mode the text is one line for each record, and
an include of nothing gives no line at all (`fixedLines_ok`).
-/

namespace PatchForge

/-! ## Includes of nothing -/

/-- An include directive with empty quotes in its line. -/
def VacuousInclude (line : String) : Prop :=
  "#include".toList <+: line.toList ∧ ['"', '"'] <:+: line.toList

theorem holdsEmptyQuotes_iff (cs : List Char) :
    holdsEmptyQuotes cs = true ↔ ['"', '"'] <:+: cs := by
  fun_induction holdsEmptyQuotes cs with
  | case1 cs => simpa using (List.prefix_append ['"', '"'] cs).isInfix
  | case2 c cs hno ih =>
      rw [ih, List.infix_cons_iff]
      constructor
      · exact Or.inr
      · rintro (⟨rest, hrest⟩ | hlater)
        · obtain ⟨rfl, rfl⟩ := List.cons.inj hrest
          exact (hno rest rfl rfl).elim
        · exact hlater
  | case3 => simp

theorem isVacuousInclude_iff (line : String) :
    isVacuousInclude line = true ↔ VacuousInclude line := by
  rw [isVacuousInclude, Bool.and_eq_true, List.isPrefixOf_iff_prefix, holdsEmptyQuotes_iff]
  exact Iff.rfl

instance (line : String) : Decidable (VacuousInclude line) :=
  decidable_of_iff _ (isVacuousInclude_iff line)

/-! ## The lines of records -/

/-- The records at hand are those of the modules, in order; who brought them is forgotten. -/
theorem ExtensionPoint.records_contributions (p : ExtensionPoint) (modules : List Module) :
    (p.contributions modules).flatMap (·.records)
      = modules.flatMap fun m => (m.contributions p.name).map (Record.project · p.slots) := by
  induction modules with
  | nil => rfl
  | cons m modules ih =>
      rw [List.flatMap_cons, ← ih, contributions, List.filterMap_cons, contribution?]
      cases m.contributions p.name with
      | nil => rfl
      | cons r rs => rfl

theorem formatRecord_ok {template point : String} {record : List String} {text : String} :
    formatRecord template record point = .ok text ↔ applyFormat template record = .ok text :=
  Result.mapError_ok

/-- The line that a record gives under a format, or no line for an include of nothing. -/
def recordLine (format : String) (record : List String) : String :=
  match applyFormat format record with
  | .ok text => if VacuousInclude text then "" else text ++ "\n"
  | .error _ => ""

theorem recordLine_of_ok {format : String} {record : List String} {text : String}
    (h : applyFormat format record = .ok text) :
    recordLine format record = if VacuousInclude text then "" else text ++ "\n" := by
  rw [recordLine, h]

theorem recordTexts_ok {template point : String} {records : List (List String)}
    {texts : List String} :
    recordTexts template point records = .ok texts ↔
      ∃ all, List.Forall₂ (fun r text => applyFormat template r = .ok text) records all
        ∧ (all.filter fun line => !isVacuousInclude line) = texts := by
  simp only [recordTexts, Result.map_ok, Result.mapM_ok, formatRecord_ok]

theorem join_lines {format : String} {records : List (List String)} {all : List String}
    (h : List.Forall₂ (fun r text => applyFormat format r = .ok text) records all) :
    String.join ((all.filter fun line => !isVacuousInclude line).map (· ++ "\n"))
      = String.join (records.map (recordLine format)) := by
  induction h with
  | nil => rfl
  | @cons record text records all htext _ ih =>
      rw [List.map_cons, String.join_cons, recordLine_of_ok htext, ← ih]
      by_cases hv : VacuousInclude text
      · have hdrop : isVacuousInclude text = true := (isVacuousInclude_iff text).mpr hv
        rw [if_pos hv, List.filter_cons_of_neg (by simp [hdrop]), String.empty_append]
      · have hkeep : ¬ isVacuousInclude text = true :=
          fun h => hv ((isVacuousInclude_iff text).mp h)
        rw [if_neg hv, List.filter_cons_of_pos (by simp [hkeep]), List.map_cons,
          String.join_cons]

/-- Every record has a text under the format, and the lines stand in the order of the
records. -/
theorem fixedLines_ok {point : String} {p : Placeholder} {records : List (List String)}
    {lines : String} (h : fixedLines point p records = .ok lines) :
    (∀ r ∈ records, ∃ text, applyFormat p.format r = .ok text)
      ∧ lines = String.join (records.map (recordLine p.format)) := by
  obtain ⟨texts, htexts, rfl⟩ := Result.map_ok.mp h
  obtain ⟨all, hall, rfl⟩ := recordTexts_ok.mp htexts
  exact ⟨Result.exists_mapM_ok.mp ⟨all, Result.mapM_ok.mpr hall⟩, join_lines hall⟩

/-! ## The values of a group -/

section

variable {point format : String} {record : List String} {records : List (List String)}
  {texts : List String}

theorem recordTexts_cons {text : String} (h : applyFormat format record = .ok text) :
    recordTexts format point (record :: records) = (recordTexts format point records).map
      fun texts => if isVacuousInclude text then texts else text :: texts := by
  rw [recordTexts, List.mapM_cons, formatRecord_ok.mpr h, recordTexts]
  cases records.mapM fun r => formatRecord format r point with
  | error f => rfl
  | ok all =>
      show Except.ok ((text :: all).filter _) = .ok _
      cases hv : isVacuousInclude text with
      | true => rw [List.filter_cons_of_neg (by simp [hv])]; rfl
      | false => rw [List.filter_cons_of_pos (by simp [hv])]; rfl

/-- There are texts exactly if the format applies to every record. -/
theorem exists_recordTexts :
    (∃ texts, recordTexts format point records = .ok texts)
      ↔ ∀ r ∈ records, ∃ text, applyFormat format r = .ok text := by
  have hall : (∃ all, (records.mapM fun r => formatRecord format r point) = .ok all)
      ↔ ∀ r ∈ records, ∃ text, applyFormat format r = .ok text := by
    rw [Result.exists_mapM_ok]
    simp only [formatRecord_ok]
  rw [← hall]
  simp only [recordTexts, Result.map_ok]
  constructor
  · rintro ⟨_, all, h, -⟩
    exact ⟨all, h⟩
  · rintro ⟨all, h⟩
    exact ⟨_, all, h, rfl⟩

theorem mem_recordTexts (h : recordTexts format point records = .ok texts) {text : String} :
    text ∈ texts ↔ (∃ r ∈ records, applyFormat format r = .ok text) ∧ ¬ VacuousInclude text := by
  induction records generalizing texts with
  | nil =>
      cases h
      simp
  | cons r rs ih =>
      obtain ⟨first, hfirst⟩ := exists_recordTexts.mp ⟨texts, h⟩ r (List.mem_cons_self ..)
      rw [recordTexts_cons hfirst] at h
      obtain ⟨rest, hrest, rfl⟩ := Result.map_ok.mp h
      have hhead : applyFormat format r = .ok text ↔ text = first := by
        rw [hfirst, Except.ok.injEq, eq_comm]
      have hexists : (∃ x ∈ r :: rs, applyFormat format x = .ok text)
          ↔ text = first ∨ ∃ x ∈ rs, applyFormat format x = .ok text := by
        rw [List.exists_mem_cons_iff, hhead]
      rw [hexists, or_and_right, ← ih hrest]
      by_cases hv : VacuousInclude first
      · rw [if_pos ((isVacuousInclude_iff first).mpr hv)]
        constructor
        · exact Or.inr
        · rintro (⟨rfl, hno⟩ | hmem)
          · exact (hno hv).elim
          · exact hmem
      · rw [if_neg fun h => hv ((isVacuousInclude_iff first).mp h), List.mem_cons]
        refine or_congr_left ?_
        constructor
        · rintro rfl
          exact ⟨rfl, hv⟩
        · exact And.left

/-- A value for all records is found exactly if their texts agree with it and with what was
found before. -/
theorem collectScalar_ok {p : Placeholder} {value : String} {found : Option String} :
    collectScalar point p found records = .ok value ↔
      ∃ texts, recordTexts p.format point records = .ok texts
        ∧ (∀ text ∈ found.toList ++ texts, text = value)
        ∧ (found.toList ++ texts = [] → value = "") := by
  induction records generalizing found with
  | nil =>
      have hnone : recordTexts p.format point [] = .ok [] := rfl
      cases found with
      | none => simp [collectScalar, hnone, eq_comm]
      | some existing => simp [collectScalar, hnone]
  | cons r rs ih =>
      rw [collectScalar]
      cases hr : formatRecord p.format r point with
      | error f =>
          have hno : ¬ ∃ texts, recordTexts p.format point (r :: rs) = .ok texts := by
            intro h
            obtain ⟨text, htext⟩ := exists_recordTexts.mp h r (List.mem_cons_self ..)
            rw [formatRecord_ok.mpr htext] at hr
            cases hr
          simp only [reduceCtorEq, false_iff]
          exact fun ⟨texts, htexts, _⟩ => hno ⟨texts, htexts⟩
      | ok text =>
          rw [recordTexts_cons (formatRecord_ok.mp hr)]
          cases hrest : recordTexts p.format point rs with
          | error f =>
              have hno : ∀ found, collectScalar point p found rs ≠ .ok value := by
                intro found h
                obtain ⟨texts, htexts, -⟩ := ih.mp h
                rw [hrest] at htexts
                cases htexts
              simp only [Except.map, reduceCtorEq, false_and, exists_false, iff_false]
              split
              · exact hno _
              · split
                · exact hno _
                · split
                  · exact hno _
                  · exact nofun
          | ok rest =>
              have hlater : ∀ found, collectScalar point p found rs = .ok value ↔
                  (∀ t ∈ found.toList ++ rest, t = value)
                    ∧ (found.toList ++ rest = [] → value = "") := by
                intro found
                rw [ih, hrest]
                simp only [Except.ok.injEq, exists_eq_left']
              simp only [Except.map, Except.ok.injEq, exists_eq_left']
              cases hv : isVacuousInclude text with
              | true => exact hlater found
              | false =>
                  cases found with
                  | none => exact hlater (some text)
                  | some existing =>
                      dsimp only
                      by_cases hsame : text = existing
                      · subst hsame
                        simp [hlater]
                      · simp only [Bool.false_eq_true, if_false, if_neg hsame, reduceCtorEq,
                          false_iff]
                        rintro ⟨hall, -⟩
                        have hexisting : existing = value := hall existing (by simp)
                        have htext : text = value := hall text (by simp)
                        exact hsame (htext.trans hexisting.symm)

end

/-! ## First declarations -/

/-- The first placeholder of each name decides. -/
theorem find?_decisive (name : String) : ∀ placeholders : List Placeholder,
    (decisive placeholders).find? (·.name = name) = placeholders.find? (·.name = name)
  | [] => rfl
  | p :: ps => by
      rw [decisive, List.find?_cons, List.find?_cons]
      split
      · rfl
      · rename_i hother
        rw [← find?_decisive name ps, List.find?_filter]
        congr 1
        funext q
        by_cases hq : q.name = name
        · have hne : name ≠ p.name := fun h => by simp [h] at hother
          simp [hq, hne]
        · simp [hq]

theorem mem_names_decisive (name : String) (placeholders : List Placeholder) :
    (∃ p ∈ decisive placeholders, p.name = name) ↔ ∃ p ∈ placeholders, p.name = name := by
  have h := congrArg Option.isSome (find?_decisive name placeholders)
  rw [Bool.eq_iff_iff, List.find?_isSome, List.find?_isSome] at h
  simpa using h

section Entries

variable {f : Placeholder → Except RenderFault String} {placeholders : List Placeholder}
  {values : Dict String String}

theorem entries_ok
    (h : List.Forall₂ (fun p e => (f p).map (p.name, ·) = .ok e) placeholders values) :
    values.keys = placeholders.map (·.name)
      ∧ ∀ name p, placeholders.find? (·.name = name) = some p →
          ∃ value, f p = .ok value ∧ values.get? name = some value := by
  induction h with
  | nil => exact ⟨rfl, by simp⟩
  | @cons q e qs rest hq _ ih =>
      obtain ⟨value, hvalue, rfl⟩ := Result.map_ok.mp hq
      refine ⟨congrArg (q.name :: ·) ih.1, fun name p hp => ?_⟩
      rw [List.find?_cons] at hp
      split at hp
      · rename_i hname
        cases hp
        refine ⟨value, hvalue, ?_⟩
        rw [Dict.get?_cons, if_pos (by simpa using (of_decide_eq_true hname).symm)]
      · rename_i hname
        rw [Dict.get?_cons, if_neg]
        · exact ih.2 name p hp
        · simpa using fun h => of_decide_eq_false hname h.symm

/-- The keys are the names of the placeholders, and the value under a name is made from its
first placeholder. -/
theorem decisive_ok
    (h : (decisive placeholders).mapM (fun p => (f p).map (p.name, ·)) = .ok values) :
    (∀ name, name ∈ values.keys ↔ ∃ p ∈ placeholders, p.name = name)
      ∧ ∀ name p, placeholders.find? (·.name = name) = some p →
          ∃ value, f p = .ok value ∧ values.get? name = some value := by
  obtain ⟨hkeys, hget⟩ := entries_ok (Result.mapM_ok.mp h)
  refine ⟨fun name => ?_, fun name p hp => hget name p ((find?_decisive name _).trans hp)⟩
  rw [hkeys, List.mem_map]
  exact mem_names_decisive name placeholders

end Entries

end PatchForge
