import PatchForge.Proofs.Json.Scalars

/-!
# The layout of JSON text

Between two brackets the writer puts its parts in the same way, whether
they are items or fields: white space, the first part, a comma and white
space before each other part, white space, and the closing bracket. What
follows the first part is `afterFirst`, so that a reader which has taken
one part sees either the closing bracket (`skipSpace_afterFirst_nil`) or a
comma and the rest of the same shape (`afterFirst_cons`).

No text of a value begins with white space or a closing bracket
(`begins_renderAt`). So the reader, which skips white space and then looks
at one character, cannot take a part for the end.
-/

namespace PatchForge.Json

section

variable {indent : Option Nat} {level : Nat} {spaces rest : List Char} {close : Char}
  {parts : List String}

/-! ## White space -/

theorem mem_lineBreak {c : Char} (h : c ∈ (lineBreak indent level).toList) :
    c = '\n' ∨ c = ' ' := by
  cases indent with
  | none => cases h
  | some width =>
      rw [lineBreak, String.toList_ofList] at h
      exact (List.mem_cons.mp h).imp_right List.eq_of_mem_replicate

theorem isSpace_lineBreak : ∀ c ∈ (lineBreak indent level).toList, isSpace c = true := by
  intro c hc
  rcases mem_lineBreak hc with rfl | rfl <;> rfl

/-- A separator is a comma with a line break or a blank. -/
theorem exists_separator (indent : Option Nat) (level : Nat) :
    ∃ spaces, (separator indent level).toList = ',' :: spaces
      ∧ ∀ c ∈ spaces, c = '\n' ∨ c = ' ' := by
  cases indent with
  | none => exact ⟨[' '], by simp [separator], by simp⟩
  | some width =>
      refine ⟨(lineBreak (some width) level).toList, ?_, fun c => mem_lineBreak⟩
      rw [separator, String.toList_append]
      rfl

theorem skipSpace_append (h : ∀ c ∈ spaces, isSpace c = true) :
    skipSpace (spaces ++ rest) = skipSpace rest :=
  List.dropWhile_append_of_pos h

theorem skipSpace_cons {c : Char} (h : isSpace c = false) : skipSpace (c :: rest) = c :: rest :=
  List.dropWhile_cons_of_neg (by simp [h])

theorem skipSpace_blank (cs : List Char) : skipSpace (' ' :: cs) = skipSpace cs :=
  List.dropWhile_cons_of_pos rfl

theorem skipSpace_colon (cs : List Char) : skipSpace (':' :: cs) = ':' :: cs :=
  skipSpace_cons rfl

/-- White space and what follows a value end a number. -/
theorem delimited_spaces (hspaces : ∀ c ∈ spaces, isSpace c = true)
    (hclose : close ∈ [',', ']', '\x7d']) : Delimited (spaces ++ close :: rest) := by
  cases spaces with
  | nil =>
      rintro c ⟨⟩
      simp only [List.mem_cons, List.not_mem_nil, or_false] at hclose
      rcases hclose with rfl | rfl | rfl <;> decide
  | cons s spaces =>
      rintro c ⟨⟩
      have hspace := hspaces s (List.mem_cons_self ..)
      simp only [isSpace, Bool.or_eq_true, decide_eq_true_eq] at hspace
      rcases hspace with ((rfl | rfl) | rfl) | rfl <;> decide

/-! ## The text between brackets -/

/-- What follows the first part between brackets: the other parts and the closing bracket. -/
def afterFirst (indent : Option Nat) (level : Nat) (close : Char) (parts : List String)
    (rest : List Char) : List Char :=
  (parts.flatMap fun s => (separator indent (level + 1)).toList ++ s.toList)
    ++ ((lineBreak indent level).toList ++ close :: rest)

/-- Parts between brackets. -/
theorem toList_intercalate_cons (sep first : String) (parts : List String) :
    (sep.intercalate (first :: parts)).toList
      = first.toList ++ parts.flatMap fun s => sep.toList ++ s.toList := by
  rw [String.toList_intercalate, List.map_cons]
  induction parts generalizing first with
  | nil => simp
  | cons s parts ih =>
      rw [List.map_cons, List.intercalate_cons_cons, ih, List.flatMap_cons]
      simp only [List.append_assoc]

theorem toList_bracketed (first : String) :
    (lineBreak indent (level + 1)
        ++ (separator indent (level + 1)).intercalate (first :: parts)
        ++ lineBreak indent level).toList ++ close :: rest
      = (lineBreak indent (level + 1)).toList ++ (first.toList
        ++ afterFirst indent level close parts rest) := by
  simp only [String.toList_append, toList_intercalate_cons, afterFirst, List.append_assoc]

theorem skipSpace_afterFirst_nil (h : isSpace close = false) :
    skipSpace (afterFirst indent level close [] rest) = close :: rest := by
  rw [afterFirst, List.flatMap_nil, List.nil_append, skipSpace_append isSpace_lineBreak,
    skipSpace_cons h]

/-- Before another part there is a comma and white space. -/
theorem afterFirst_cons (indent : Option Nat) (level : Nat) (close : Char) (s : String)
    (parts : List String) (rest : List Char) : ∃ spaces, (∀ c ∈ spaces, isSpace c = true)
      ∧ afterFirst indent level close (s :: parts) rest
        = ',' :: (spaces ++ (s.toList ++ afterFirst indent level close parts rest)) := by
  obtain ⟨spaces, hsep, hblank⟩ := exists_separator indent (level + 1)
  refine ⟨spaces, fun c hc => ?_, ?_⟩
  · rcases hblank c hc with rfl | rfl <;> rfl
  simp only [afterFirst, List.flatMap_cons, hsep, List.cons_append, List.append_assoc]

theorem delimited_afterFirst (hclose : close ∈ [']', '\x7d']) :
    Delimited (afterFirst indent level close parts rest) := by
  cases parts with
  | nil =>
      rw [afterFirst, List.flatMap_nil, List.nil_append]
      exact delimited_spaces isSpace_lineBreak (List.mem_cons_of_mem _ hclose)
  | cons s parts =>
      obtain ⟨spaces, -, hcomma⟩ := afterFirst_cons indent level close s parts rest
      have hspaces : ∀ c ∈ ([] : List Char), isSpace c = true := nofun
      rw [hcomma]
      exact delimited_spaces hspaces (List.mem_cons_self ..)

/-! ## Texts of values -/

theorem renderItems_eq (vs : List Json) :
    renderItems indent level vs = vs.map (renderAt indent level) := by
  induction vs with
  | nil => rfl
  | cons v vs ih => rw [renderItems, ih, List.map_cons]

/-- The text of a field. -/
def renderField (indent : Option Nat) (level : Nat) (e : String × Json) : String :=
  renderString e.1 ++ ": " ++ renderAt indent level e.2

theorem renderFields_eq (fs : List (String × Json)) :
    renderFields indent level fs = fs.map (renderField indent level) := by
  induction fs with
  | nil => rfl
  | cons e fs ih => rw [renderFields, ih, List.map_cons, renderField]

theorem toList_arr (v : Json) (vs : List Json) :
    (renderAt indent level (.arr (v :: vs))).toList ++ rest
      = '[' :: ((lineBreak indent (level + 1)).toList ++ ((renderAt indent (level + 1) v).toList
        ++ afterFirst indent level ']' (vs.map (renderAt indent (level + 1))) rest)) := by
  rw [← toList_bracketed, renderAt, renderItems_eq]
  simp [String.toList_append]

theorem toList_obj (e : String × Json) (fs : List (String × Json)) :
    (renderAt indent level (.obj (e :: fs))).toList ++ rest
      = '\x7b' :: ((lineBreak indent (level + 1)).toList
        ++ ((renderField indent (level + 1) e).toList
          ++ afterFirst indent level '\x7d' (fs.map (renderField indent (level + 1))) rest)) := by
  rw [← toList_bracketed, renderAt, renderFields_eq]
  simp [String.toList_append, renderField]

/-- The text of a field's name, with what follows. -/
def nameText (name : String) (cs : List Char) : List Char :=
  '"' :: (name.toList.flatMap escapeChar ++ '"' :: ':' :: ' ' :: cs)

theorem toList_renderField (e : String × Json) :
    (renderField indent level e).toList ++ rest
      = nameText e.1 ((renderAt indent level e.2).toList ++ rest) := by
  simp [nameText, renderField, renderString, String.toList_append]

/-- A text that begins like a value: with no white space, closing bracket or byte order mark. -/
def Begins (cs : List Char) : Prop :=
  ∃ c more, cs = c :: more ∧ isSpace c = false ∧ c ≠ ']' ∧ c ≠ '\x7d' ∧ c ≠ '\uFEFF'

theorem begins_decimalInt (k : Int) : Begins (Text.decimalInt k).toList := by
  obtain ⟨c, more, hc, rfl | hdigit⟩ := exists_decimalInt_cons k
  · exact ⟨'-', more, hc, by decide⟩
  · have hother : ∀ {x : Char}, Text.isAsciiDigit x = false → c ≠ x := by
      rintro x hx rfl
      rw [hdigit] at hx
      cases hx
    have hspace : isSpace c = false := by
      simp only [isSpace, decide_eq_false (hother (x := ' ') rfl),
        decide_eq_false (hother (x := '\t') rfl), decide_eq_false (hother (x := '\n') rfl),
        decide_eq_false (hother (x := '\r') rfl), Bool.or_self]
    exact ⟨c, more, hc, hspace, hother rfl, hother rfl, hother rfl⟩

theorem begins_renderAt {v : Json} (h : ∀ x, v ≠ .float x) :
    Begins (renderAt indent level v).toList := by
  cases v with
  | float x => exact (h x rfl).elim
  | null =>
      rw [renderAt]
      exact ⟨'n', _, rfl, by decide⟩
  | bool b =>
      cases b with
      | false =>
          rw [renderAt]
          exact ⟨'f', _, rfl, by decide⟩
      | true =>
          rw [renderAt]
          exact ⟨'t', _, rfl, by decide⟩
  | int k =>
      rw [renderAt]
      exact begins_decimalInt k
  | str s =>
      rw [renderAt, renderString, String.toList_ofList]
      exact ⟨'"', _, rfl, by decide⟩
  | arr items =>
      cases items with
      | nil =>
          rw [renderAt]
          exact ⟨'[', _, rfl, by decide⟩
      | cons v vs => exact ⟨'[', _, (List.append_nil _).symm.trans (toList_arr v vs), by decide⟩
  | obj fields =>
      cases fields with
      | nil =>
          rw [renderAt]
          exact ⟨'\x7b', _, rfl, by decide⟩
      | cons e fs => exact ⟨'\x7b', _, (List.append_nil _).symm.trans (toList_obj e fs), by decide⟩

theorem begins_renderField (e : String × Json) :
    Begins (renderField indent level e).toList := by
  rw [← List.append_nil (renderField indent level e).toList, toList_renderField]
  exact ⟨'"', _, rfl, by decide⟩

theorem Begins.append {cs : List Char} (h : Begins cs) (rest : List Char) :
    Begins (cs ++ rest) := by
  obtain ⟨c, more, rfl, hc⟩ := h
  exact ⟨c, more ++ rest, rfl, hc⟩

theorem Begins.skipSpace {cs : List Char} (h : Begins cs) : skipSpace cs = cs := by
  obtain ⟨c, more, rfl, hc, -⟩ := h
  exact skipSpace_cons hc

theorem Begins.length_pos {cs : List Char} (h : Begins cs) : 0 < cs.length := by
  obtain ⟨c, more, rfl, -⟩ := h
  exact Nat.succ_pos _

end

end PatchForge.Json
