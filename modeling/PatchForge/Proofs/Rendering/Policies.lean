import PatchForge.Proofs.Rendering.Soundness

/-!
# The policies of lists and scalars

Where its format applies to the records of a group, a placeholder has a
list of texts (`Placeholder.texts`), and what replaces it is a function of
this list: the texts once each for a list, and for a scalar the text that
they all are (`agreed`). The work on a scalar goes from record to record
and breaks off at the first text that differs from the first one; that
this is no more than a function of the texts is `collectScalar_texts`.

The values of a group break off in the same way, at the first placeholder
whose texts do not agree, where only the first declaration of a name
counts (`decisive_split`). So `groupValues_policies` can say when there are
values, what they are, and which disagreement is reported.
-/

namespace PatchForge

/-- The texts that the records have under a placeholder, less the includes of nothing. -/
def Placeholder.texts (q : Placeholder) (records : List (List String)) : List String :=
  (records.filterMap fun r => (applyFormat q.format r).toOption).filter (¬ VacuousInclude ·)

/-- The text that all of the texts are, or the first that differs from the first one. -/
def agreed (point : String) (q : Placeholder) : List String → Except RenderFault String
  | [] => .ok ""
  | existing :: rest =>
    match rest.find? (· ≠ existing) with
    | none => .ok existing
    | some conflicting => .error (.conflict q point existing conflicting)

variable {point : String} {q : Placeholder} {records : List (List String)} {texts : List String}

/-! ## One placeholder -/

theorem Placeholder.texts_cons {r : List String} {text : String}
    (h : applyFormat q.format r = .ok text) :
    q.texts (r :: records)
      = if isVacuousInclude text then q.texts records else text :: q.texts records := by
  have hsome : (applyFormat q.format r).toOption = some text := Result.toOption_some.mpr h
  rw [texts, List.filterMap_cons_some (f := fun r => (applyFormat q.format r).toOption) hsome,
    List.filter_cons]
  by_cases hv : VacuousInclude text
  · rw [if_neg (by simpa using hv), if_pos ((isVacuousInclude_iff text).mpr hv)]
    rfl
  · rw [if_pos (by simpa using hv), if_neg fun h => hv ((isVacuousInclude_iff text).mp h)]
    rfl

theorem recordTexts_texts
    (happly : ∀ r ∈ records, ∃ text, applyFormat q.format r = .ok text) :
    recordTexts q.format point records = .ok (q.texts records) := by
  induction records with
  | nil => rfl
  | cons r rs ih =>
      obtain ⟨⟨text, htext⟩, hrest⟩ := List.forall_mem_cons.mp happly
      rw [recordTexts_cons htext, ih hrest, Placeholder.texts_cons htext]
      rfl

/-- The search for one value asks for agreement with what it found and among what comes. -/
theorem collectScalar_texts {found : Option String}
    (happly : ∀ r ∈ records, ∃ text, applyFormat q.format r = .ok text) :
    collectScalar point q found records = agreed point q (found.toList ++ q.texts records) := by
  induction records generalizing found with
  | nil => cases found <;> rfl
  | cons r rs ih =>
      obtain ⟨⟨text, htext⟩, hrest⟩ := List.forall_mem_cons.mp happly
      rw [collectScalar, formatRecord_ok.mpr htext, Placeholder.texts_cons htext]
      dsimp only
      split
      · exact ih hrest
      · cases found with
        | none => exact ih hrest
        | some existing =>
            dsimp only [Option.toList_some, List.singleton_append, agreed]
            split
            · rename_i hsame
              rw [List.find?_cons_of_neg (by simpa using hsame)]
              exact ih hrest
            · rename_i hother
              rw [List.find?_cons_of_pos (by simpa using hother)]

theorem groupValue_texts
    (happly : ∀ r ∈ records, ∃ text, applyFormat q.format r = .ok text) :
    groupValue point records q
      = if q.isList then .ok ("\n".intercalate (q.texts records).eraseDups)
        else agreed point q (q.texts records) := by
  rw [groupValue, recordTexts_texts happly, collectScalar_texts happly, ← foldl_addNew_nil]
  rfl

/-! ## Agreement -/

theorem agreed_ok {value : String} : agreed point q texts = .ok value ↔
    (∀ t ∈ texts, t = value) ∧ (texts = [] → value = "") := by
  cases texts with
  | nil => simp [agreed, eq_comm]
  | cons existing rest =>
      cases hfind : rest.find? (· ≠ existing) with
      | none =>
          have hall : ∀ t ∈ rest, t = existing := by simpa using hfind
          simp only [agreed, hfind, Except.ok.injEq]
          constructor
          · rintro rfl
            exact ⟨List.forall_mem_cons.mpr ⟨rfl, hall⟩, nofun⟩
          · exact fun h => h.1 existing (List.mem_cons_self ..)
      | some conflicting =>
          simp only [agreed, hfind, reduceCtorEq, false_iff]
          rintro ⟨hall, -⟩
          obtain ⟨hexisting, hrest⟩ := List.forall_mem_cons.mp hall
          have hdiffer : conflicting ≠ existing := by simpa using List.find?_some hfind
          exact hdiffer ((hrest _ (List.mem_of_find?_eq_some hfind)).trans hexisting.symm)

/-- Texts agree if no two of them differ. -/
theorem exists_agreed_iff : (∃ value, agreed point q texts = .ok value) ↔
    ∀ t ∈ texts, ∀ t' ∈ texts, t = t' := by
  simp only [agreed_ok]
  constructor
  · rintro ⟨value, hall, -⟩ t ht t' ht'
    rw [hall t ht, hall t' ht']
  · intro hsame
    cases texts with
    | nil => exact ⟨"", by simp⟩
    | cons existing rest =>
        exact ⟨existing, fun t ht => hsame t ht existing (List.mem_cons_self ..), nofun⟩

/-- The texts disagree at `conflicting`: all before it are as the first one. -/
structure FirstConflict (texts : List String) (existing conflicting : String) : Prop where
  split : ∃ same later, texts = existing :: same ++ conflicting :: later
    ∧ ∀ t ∈ same, t = existing
  differ : conflicting ≠ existing

theorem agreed_error {fault : RenderFault} (h : agreed point q texts = .error fault) :
    ∃ existing conflicting, fault = .conflict q point existing conflicting
      ∧ FirstConflict texts existing conflicting := by
  cases texts with
  | nil => cases h
  | cons existing rest =>
      rw [agreed] at h
      split at h
      · cases h
      · rename_i conflicting hfind
        cases h
        obtain ⟨hdiffer, same, later, rfl, hsame⟩ := List.find?_eq_some_iff_append.mp hfind
        exact ⟨existing, conflicting, rfl, ⟨same, later, rfl, by simpa using hsame⟩,
          by simpa using hdiffer⟩

/-! ## First declarations -/

/-- What decides before a placeholder is what would decide without it and all that follows. -/
theorem decisive_split : ∀ {placeholders before after : List Placeholder} {q : Placeholder},
    decisive placeholders = before ++ q :: after →
      ∃ before' after', placeholders = before' ++ q :: after'
        ∧ (∀ q' ∈ before', q'.name ≠ q.name) ∧ decisive before' = before
  | [], before, after, q, h => by
      cases before <;> cases h
  | p :: ps, [], after, q, h => by
      obtain ⟨rfl, -⟩ := List.cons.inj h
      exact ⟨[], ps, rfl, by simp, rfl⟩
  | p :: ps, p' :: before, after, q, h => by
      obtain ⟨rfl, hrest⟩ := List.cons.inj h
      obtain ⟨kept, rest, hps, hkept, hq⟩ := List.filter_eq_append_iff.mp hrest
      obtain ⟨dropped, more, rfl, hdropped, hname, -⟩ := List.filter_eq_cons_iff.mp hq
      rw [← List.append_assoc] at hps
      obtain ⟨before', after', rfl, hnames, hbefore⟩ := decisive_split hps
      have hne : p.name ≠ q.name := by simpa using Ne.symm (of_decide_eq_true hname)
      refine ⟨p :: before', after', rfl, List.forall_mem_cons.mpr ⟨hne, hnames⟩, ?_⟩
      rw [decisive, hbefore, List.filter_append, hkept,
        List.filter_eq_nil_iff.mpr fun q' hq' => hdropped q' hq', List.append_nil]

/-- The placeholder is the first of its name. -/
abbrev Declares (placeholders : List Placeholder) (q : Placeholder) : Prop :=
  placeholders.find? (·.name = q.name) = some q

theorem declares_of_split {before after : List Placeholder}
    (h : ∀ q' ∈ before, q'.name ≠ q.name) : Declares (before ++ q :: after) q :=
  List.find?_eq_some_iff_append.mpr ⟨by simp, before, after, rfl, by simpa using h⟩

theorem mem_decisive {placeholders : List Placeholder} :
    q ∈ decisive placeholders ↔ Declares placeholders q := by
  constructor
  · intro hq
    obtain ⟨before, after, hsplit⟩ := List.append_of_mem hq
    obtain ⟨before', after', rfl, hnames, -⟩ := decisive_split hsplit
    exact declares_of_split hnames
  · intro hq
    rw [Declares, ← find?_decisive] at hq
    exact List.mem_of_find?_eq_some hq

/-! ## The values of a group -/

/-- A scalar has one text for all of the records. -/
def Placeholder.Agrees (q : Placeholder) (records : List (List String)) : Prop :=
  q.isList = false → ∀ t ∈ q.texts records, ∀ t' ∈ q.texts records, t = t'

theorem exists_groupValue_iff
    (happly : ∀ r ∈ records, ∃ text, applyFormat q.format r = .ok text) :
    (∃ value, groupValue point records q = .ok value) ↔ q.Agrees records := by
  rw [groupValue_texts happly]
  cases hlist : q.isList with
  | true => simp [Placeholder.Agrees, hlist]
  | false => simpa [Placeholder.Agrees, hlist] using exists_agreed_iff

/-- Once the text is found, it is the entries of the list or the one text of the scalar. -/
theorem groupValue_ok {value : String}
    (happly : ∀ r ∈ records, ∃ text, applyFormat q.format r = .ok text)
    (h : groupValue point records q = .ok value) :
    (q.isList = true → value = "\n".intercalate (q.texts records).eraseDups)
      ∧ (q.isList = false → ∀ t ∈ q.texts records, value = t)
      ∧ (q.texts records = [] → value = "") := by
  rw [groupValue_texts happly] at h
  split at h
  · rename_i hlist
    cases h
    refine ⟨fun _ => rfl, fun hscalar => by simp [hlist] at hscalar, fun hnone => ?_⟩
    rw [hnone]
    rfl
  · rename_i hscalar
    obtain ⟨hall, hnone⟩ := agreed_ok.mp h
    exact ⟨fun hlist => (hscalar hlist).elim, fun _ t ht => (hall t ht).symm, hnone⟩

theorem groupValue_fault {fault : RenderFault}
    (happly : ∀ r ∈ records, ∃ text, applyFormat q.format r = .ok text)
    (h : groupValue point records q = .error fault) :
    q.isList = false ∧ ∃ existing conflicting, fault = .conflict q point existing conflicting
      ∧ FirstConflict (q.texts records) existing conflicting := by
  rw [groupValue_texts happly] at h
  split at h
  · cases h
  · rename_i hscalar
    exact ⟨eq_false_of_ne_true hscalar, agreed_error h⟩

theorem exists_entry {α : Type} {x : Except RenderFault α} {name : String} :
    (∃ e, x.map (name, ·) = .ok e) ↔ ∃ value, x = .ok value := by
  cases x <;> simp [Except.map]

/-- **Lists and scalars.** Let the formats of the placeholders apply to all records of a group. The
group has values exactly if each scalar has one text for all of the records; a list may have many,
a name that is declared again has only its first placeholder, and an include of nothing is no text,
but an empty text is one. Then each declared name has a value: a list its texts, each once in
the order of their first record and one per line, a scalar its text, and a placeholder without
texts nothing. Where there are no values, the first scalar in the order of declaration whose texts
differ is reported, with its first text and the first one after it that is not the same. -/
theorem groupValues_policies {p : ExtensionPoint} {records : List (List String)}
    (happly : ∀ q ∈ p.placeholders, ∀ r ∈ records, ∃ text, applyFormat q.format r = .ok text) :
    ((∃ values, groupValues p.name p.placeholders records = .ok values)
        ↔ ∀ q, Declares p.placeholders q → q.Agrees records)
      ∧ (∀ values, groupValues p.name p.placeholders records = .ok values →
        (∀ name, name ∈ values.keys ↔ ∃ q ∈ p.placeholders, q.name = name)
          ∧ ∀ q, Declares p.placeholders q → ∃ value, values.get? q.name = some value
            ∧ (q.isList = true → value = "\n".intercalate (q.texts records).eraseDups)
            ∧ (q.isList = false → ∀ t ∈ q.texts records, value = t)
            ∧ (q.texts records = [] → value = ""))
      ∧ ∀ fault, groupValues p.name p.placeholders records = .error fault →
        ∃ before q after, p.placeholders = before ++ q :: after
          ∧ (∀ q' ∈ before, q'.name ≠ q.name) ∧ q.isList = false
          ∧ (∀ q', Declares before q' → q'.Agrees records)
          ∧ ∃ existing conflicting, fault = .conflict q p.name existing conflicting
            ∧ FirstConflict (q.texts records) existing conflicting := by
  refine ⟨?_, fun values h => ?_, fun fault h => ?_⟩
  · rw [groupValues, Result.exists_mapM_ok]
    simp only [mem_decisive, exists_entry]
    refine forall₂_congr fun q hq => exists_groupValue_iff (happly q ?_)
    exact List.mem_of_find?_eq_some hq
  · obtain ⟨hkeys, hvalues⟩ := decisive_ok h
    refine ⟨hkeys, fun q hq => ?_⟩
    obtain ⟨value, hvalue, hget⟩ := hvalues q.name q hq
    exact ⟨value, hget, groupValue_ok (happly q (List.mem_of_find?_eq_some hq)) hvalue⟩
  · obtain ⟨decided, q, rest, hsplit, hdecided, hq⟩ := Result.mapM_error h
    obtain ⟨before, after, hplaceholders, hnames, rfl⟩ := decisive_split hsplit
    have hmem : q ∈ p.placeholders := by simp [hplaceholders]
    obtain ⟨hscalar, hconflict⟩ := groupValue_fault (happly q hmem) (Result.map_error.mp hq)
    refine ⟨before, q, after, hplaceholders, hnames, hscalar, fun q' hq' => ?_, hconflict⟩
    have hearlier : q' ∈ p.placeholders := by
      simp [hplaceholders, List.mem_of_find?_eq_some hq']
    exact (exists_groupValue_iff (happly q' hearlier)).mp
      (exists_entry.mp (hdecided q' (mem_decisive.mpr hq')))

/-! ### An album and a late remark -/

/-- The album is declared again, with another format, and a song may lack a header or a remark. -/
def albumPoint : ExtensionPoint :=
  { (default : ExtensionPoint) with
    name := "Song"
    placeholders := [⟨"Album", "\x7b0\x7d"⟩, ⟨"HeaderList", "#include \"\x7b1\x7d\""⟩,
      ⟨"Album", "\x7b1\x7d"⟩, ⟨"Remark", "\x7b2\x7d"⟩] }

def albumSongs : List (List String) :=
  [["Live", "a.h", ""], ["Live", "", ""], ["Live", "b.h", ""], ["Live", "a.h", ""]]

/-- A song with a remark, after songs whose remark is empty. -/
def lateSong : List String := ["Live", "c.h", "late"]

theorem groupValues_policies_album :
    groupValues "Song" albumPoint.placeholders albumSongs
        = .ok [("Album", "Live"), ("HeaderList", "#include \"a.h\"\n#include \"b.h\""),
          ("Remark", "")]
      ∧ (∀ q, Declares albumPoint.placeholders q → q.Agrees albumSongs)
      ∧ groupValues "Song" albumPoint.placeholders (albumSongs ++ [lateSong])
        = .error (.conflict ⟨"Remark", "\x7b2\x7d"⟩ "Song" "" "late")
      ∧ ∃ before q after, albumPoint.placeholders = before ++ q :: after ∧ q.name = "Remark"
        ∧ (∀ q', Declares before q' → q'.Agrees (albumSongs ++ [lateSong]))
        ∧ FirstConflict (q.texts (albumSongs ++ [lateSong])) "" "late" := by
  have hall : ∀ q ∈ albumPoint.placeholders, ∀ r ∈ albumSongs ++ [lateSong],
      (applyFormat q.format r).toOption.isSome := by
    decide +kernel
  have happly : ∀ q ∈ albumPoint.placeholders, ∀ r ∈ albumSongs ++ [lateSong],
      ∃ text, applyFormat q.format r = .ok text := by
    intro q hq r hr
    obtain ⟨text, htext⟩ := Option.isSome_iff_exists.mp (hall q hq r hr)
    exact ⟨text, Result.toOption_some.mp htext⟩
  have hvalues : groupValues "Song" albumPoint.placeholders albumSongs
      = .ok [("Album", "Live"), ("HeaderList", "#include \"a.h\"\n#include \"b.h\""),
        ("Remark", "")] := by
    decide +kernel
  have hfault : groupValues "Song" albumPoint.placeholders (albumSongs ++ [lateSong])
      = .error (.conflict ⟨"Remark", "\x7b2\x7d"⟩ "Song" "" "late") := by
    decide +kernel
  have hsongs : ∀ q ∈ albumPoint.placeholders, ∀ r ∈ albumSongs,
      ∃ text, applyFormat q.format r = .ok text :=
    fun q hq r hr => happly q hq r (List.mem_append_left _ hr)
  obtain ⟨hexists, -, -⟩ := groupValues_policies hsongs
  obtain ⟨-, -, hreport⟩ := groupValues_policies happly
  obtain ⟨before, q, after, hsplit, -, -, hearlier, _, _, hconflict, hfirst⟩ := hreport _ hfault
  cases hconflict
  exact ⟨hvalues, hexists.mp ⟨_, hvalues⟩, hfault,
    before, _, after, hsplit, rfl, hearlier, hfirst⟩

end PatchForge
