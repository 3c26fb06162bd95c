import PatchForge.Proofs.Dict.Merge
import PatchForge.Proofs.Json.Layout

/-!
# Reading undoes writing

A value without doubles is read back from its text (`parse_render`), within
two limits of the reader: the digits of an integer and the number of
brackets that are open at once. `Storable n` says that a value keeps to
both with `n` more brackets to open.

The proof is an induction on the value. A value is read back whatever
follows it, so that the induction passes through items and fields, as long
as what follows does not go on with a number (`Delimited`). The fuel of
the reader is twice the number of characters that are left, and each step
uses up at least one character for two units of fuel.
-/

namespace PatchForge.Json

/-- The value has no doubles, its integers are not too long, the names in its objects are
distinct, and at most `n` of its brackets are open at once. -/
inductive Storable : Nat → Json → Prop
  | null {n : Nat} : Storable n .null
  | bool {n : Nat} (b : Bool) : Storable n (.bool b)
  | int {n : Nat} {k : Int} (h : (digits k.natAbs).length ≤ integerDigitLimit) :
      Storable n (.int k)
  | str {n : Nat} (s : String) : Storable n (.str s)
  | arr {n : Nat} {items : List Json} (h : ∀ v ∈ items, Storable n v) :
      Storable (n + 1) (.arr items)
  | obj {n : Nat} {fields : List (String × Json)} (hkeys : (Dict.keys fields).Nodup)
      (h : ∀ e ∈ fields, Storable n e.2) : Storable (n + 1) (.obj fields)

theorem Storable.begins {indent : Option Nat} {level n : Nat} {v : Json} (h : Storable n v) :
    Begins (renderAt indent level v).toList := by
  refine begins_renderAt ?_
  rintro x rfl
  cases h

/-! ## Reading -/

section

variable {fuel depth : Nat} {cs cs' more rest : List Char} {v : Json} {vs : List Json}
  {name : String} {fs : List (String × Json)}

theorem items_last (hv : value fuel depth cs = .ok (v, cs'))
    (hclose : skipSpace cs' = ']' :: rest) : items (fuel + 1) depth cs = .ok ([v], rest) := by
  simp only [items, hv, hclose]

theorem items_more (hv : value fuel depth cs = .ok (v, cs')) (hcomma : skipSpace cs' = ',' :: more)
    (hlater : items fuel depth (skipSpace more) = .ok (vs, rest)) :
    items (fuel + 1) depth cs = .ok (v :: vs, rest) := by
  simp only [items, hv, hcomma, hlater, Except.map]

theorem members_last (hcs : skipSpace cs = cs) (hv : value fuel depth cs = .ok (v, cs'))
    (hclose : skipSpace cs' = '\x7d' :: rest) :
    members (fuel + 1) depth (nameText name cs) = .ok ([(name, v)], rest) := by
  simp only [nameText, members, string_written, skipSpace_colon, skipSpace_blank, hcs, hv, hclose]

theorem members_more (hcs : skipSpace cs = cs) (hv : value fuel depth cs = .ok (v, cs'))
    (hcomma : skipSpace cs' = ',' :: more)
    (hlater : members fuel depth (skipSpace more) = .ok (fs, rest)) :
    members (fuel + 1) depth (nameText name cs) = .ok ((name, v) :: fs, rest) := by
  simp only [nameText, members, string_written, skipSpace_colon, skipSpace_blank, hcs, hv, hcomma,
    hlater, Except.map]

theorem members_error {f : Fault} (hcs : skipSpace cs = cs)
    (hv : value fuel depth cs = .error f) :
    members (fuel + 1) depth (nameText name cs) = .error f := by
  simp only [nameText, members, string_written, skipSpace_colon, skipSpace_blank, hcs, hv]

end

section

variable {indent : Option Nat} {n : Nat}

/-- The reader takes the value back from its text, whatever follows that does not go on with a
number, as long as `n` more brackets may be opened. -/
def ReadsBack (indent : Option Nat) (n : Nat) (v : Json) : Prop :=
  ∀ (level fuel depth : Nat) (rest : List Char), Delimited rest → depth + n ≤ depthLimit →
    2 * ((renderAt indent level v).toList ++ rest).length ≤ fuel →
    value fuel depth ((renderAt indent level v).toList ++ rest) = .ok (v, rest)

variable {level fuel depth : Nat} {rest : List Char} {v : Json} {vs : List Json}
  (hdepth : depth + n ≤ depthLimit)

include hdepth

theorem items_written (hfuel : 2 * ((renderAt indent (level + 1) v).toList
      ++ afterFirst indent level ']' (vs.map (renderAt indent (level + 1))) rest).length ≤ fuel)
    (hread : ∀ x ∈ v :: vs, Storable n x ∧ ReadsBack indent n x) :
    items (fuel + 1) depth ((renderAt indent (level + 1) v).toList
      ++ afterFirst indent level ']' (vs.map (renderAt indent (level + 1))) rest)
      = .ok (v :: vs, rest) := by
  induction vs generalizing v fuel with
  | nil =>
      obtain ⟨-, hv⟩ := hread v (List.mem_cons_self ..)
      exact items_last (hv _ _ _ _ (delimited_afterFirst (List.mem_cons_self ..)) hdepth hfuel)
        (skipSpace_afterFirst_nil rfl)
  | cons v' vs ih =>
      obtain ⟨-, hv⟩ := hread v (List.mem_cons_self ..)
      obtain ⟨hstorable, -⟩ := hread v' (by simp)
      obtain ⟨spaces, hspaces, hcomma⟩ := afterFirst_cons indent level ']'
        (renderAt indent (level + 1) v') (vs.map (renderAt indent (level + 1))) rest
      refine items_more (hv _ _ _ _ (delimited_afterFirst (List.mem_cons_self ..)) hdepth hfuel)
        ((congrArg skipSpace hcomma).trans (skipSpace_cons rfl)) ?_
      rw [List.map_cons, hcomma] at hfuel
      simp only [List.length_append, List.length_cons] at hfuel
      obtain ⟨fuel, rfl⟩ := Nat.exists_eq_succ_of_ne_zero (n := fuel) (by omega)
      rw [skipSpace_append hspaces, (hstorable.begins.append _).skipSpace]
      refine ih ?_ fun x hx => hread x (List.mem_cons_of_mem _ hx)
      simp only [List.length_append]
      omega

theorem members_written {fs : List (String × Json)} {e : String × Json}
    (hfuel : 2 * ((renderField indent (level + 1) e).toList
      ++ afterFirst indent level '\x7d' (fs.map (renderField indent (level + 1))) rest).length
      ≤ fuel)
    (hread : ∀ x ∈ e :: fs, Storable n x.2 ∧ ReadsBack indent n x.2) :
    members (fuel + 1) depth ((renderField indent (level + 1) e).toList
      ++ afterFirst indent level '\x7d' (fs.map (renderField indent (level + 1))) rest)
      = .ok (e :: fs, rest) := by
  induction fs generalizing e fuel with
  | nil =>
      obtain ⟨hstorable, hv⟩ := hread e (List.mem_cons_self ..)
      rw [toList_renderField] at hfuel ⊢
      refine members_last (hstorable.begins.append _).skipSpace
        (hv _ _ _ _ (delimited_afterFirst (by decide)) hdepth ?_) (skipSpace_afterFirst_nil rfl)
      simp only [nameText, List.length_append, List.length_cons] at hfuel ⊢
      omega
  | cons e' fs ih =>
      obtain ⟨hstorable, hv⟩ := hread e (List.mem_cons_self ..)
      obtain ⟨spaces, hspaces, hcomma⟩ := afterFirst_cons indent level '\x7d'
        (renderField indent (level + 1) e') (fs.map (renderField indent (level + 1))) rest
      rw [toList_renderField] at hfuel ⊢
      refine members_more (hstorable.begins.append _).skipSpace
        (hv _ _ _ _ (delimited_afterFirst (by decide)) hdepth ?_)
        ((congrArg skipSpace hcomma).trans (skipSpace_cons rfl)) ?_
      · simp only [nameText, List.length_append, List.length_cons] at hfuel ⊢
        omega
      · rw [List.map_cons, hcomma] at hfuel
        simp only [nameText, List.length_append, List.length_cons] at hfuel
        obtain ⟨fuel, rfl⟩ := Nat.exists_eq_succ_of_ne_zero (n := fuel) (by omega)
        rw [skipSpace_append hspaces, ((begins_renderField e').append _).skipSpace]
        refine ih ?_ fun x hx => hread x (List.mem_cons_of_mem _ hx)
        simp only [List.length_append]
        omega

end

/-- A value that is no array or object is read as such. -/
theorem value_scalar {fuel depth : Nat} {c : Char} {cs : List Char} (harr : c ≠ '[')
    (hobj : c ≠ '\x7b') : value (fuel + 1) depth (c :: cs) = scalar (c :: cs) := by
  rw [value]
  · exact fun _ h => harr (List.cons.inj h).1
  · exact fun _ h => hobj (List.cons.inj h).1

section

variable {fuel depth : Nat} {spaces cs rest : List Char} (hdepth : depth < depthLimit)
  (hspaces : ∀ c ∈ spaces, isSpace c = true) (hcs : Begins cs)

include hdepth hspaces hcs

theorem value_items : value (fuel + 1) depth ('[' :: (spaces ++ cs))
    = (items fuel (depth + 1) cs).map fun (vs, rest) => (.arr vs, rest) := by
  rw [value, if_neg (Nat.not_le.mpr hdepth), skipSpace_append hspaces, hcs.skipSpace]
  obtain ⟨c, more, rfl, -, hclose, -⟩ := hcs
  split
  · rename_i heq
    exact (hclose (List.cons.inj heq).1).elim
  · rfl

theorem value_members : value (fuel + 1) depth ('\x7b' :: (spaces ++ cs))
    = (members fuel (depth + 1) cs).map fun (fs, rest) => (.obj (Dict.ofEntries fs), rest) := by
  rw [value, if_neg (Nat.not_le.mpr hdepth), skipSpace_append hspaces, hcs.skipSpace]
  obtain ⟨c, more, rfl, -, -, hclose, -⟩ := hcs
  split
  · rename_i heq
    exact (hclose (List.cons.inj heq).1).elim
  · rfl

end

section

variable {indent : Option Nat} {n : Nat} {v : Json}

/-- Reading a text that is not empty has fuel to begin with. -/
theorem Storable.readsBack_of_succ (h : Storable n v)
    (hread : ∀ (level fuel depth : Nat) (rest : List Char), Delimited rest →
      depth + n ≤ depthLimit →
      2 * ((renderAt indent level v).toList ++ rest).length ≤ fuel + 1 →
      value (fuel + 1) depth ((renderAt indent level v).toList ++ rest) = .ok (v, rest)) :
    ReadsBack indent n v := by
  intro level fuel depth rest hrest hdepth hfuel
  have hbegins : Begins (renderAt indent level v).toList := h.begins
  have hpos := (hbegins.append rest).length_pos
  obtain ⟨fuel, rfl⟩ := Nat.exists_eq_succ_of_ne_zero (n := fuel) (by omega)
  exact hread level fuel depth rest hrest hdepth hfuel

theorem readsBack_null : ReadsBack indent n .null := by
  refine Storable.null.readsBack_of_succ fun level fuel depth rest _ _ _ => ?_
  rw [renderAt]
  exact (value_scalar (by decide) (by decide)).trans rfl

theorem readsBack_bool (b : Bool) : ReadsBack indent n (.bool b) := by
  refine (Storable.bool b).readsBack_of_succ fun level fuel depth rest _ _ _ => ?_
  cases b with
  | false =>
      rw [renderAt]
      exact (value_scalar (by decide) (by decide)).trans rfl
  | true =>
      rw [renderAt]
      exact (value_scalar (by decide) (by decide)).trans rfl

/-- An integer is read as such. -/
theorem value_int (level fuel depth : Nat) (k : Int) (rest : List Char) :
    value (fuel + 1) depth ((renderAt indent level (.int k)).toList ++ rest)
      = scalar ((Text.decimalInt k).toList ++ rest) := by
  obtain ⟨c, cs, hc, hsign⟩ := exists_decimalInt_cons k
  rw [renderAt, hc]
  refine value_scalar ?_ ?_
  · rintro rfl
    rcases hsign with h | h <;> cases h
  · rintro rfl
    rcases hsign with h | h <;> cases h

theorem readsBack_int {k : Int} (hshort : (digits k.natAbs).length ≤ integerDigitLimit) :
    ReadsBack indent n (.int k) := by
  refine (Storable.int hshort).readsBack_of_succ fun level fuel depth rest hrest _ _ => ?_
  rw [value_int, scalar_int k hrest, if_neg (Nat.not_lt.mpr hshort)]

theorem readsBack_str (s : String) : ReadsBack indent n (.str s) := by
  refine (Storable.str s).readsBack_of_succ fun level fuel depth rest _ _ _ => ?_
  have htext : (renderString s).toList ++ rest
      = '"' :: (s.toList.flatMap escapeChar ++ '"' :: rest) := by
    simp [renderString]
  rw [renderAt, htext, value_scalar (by decide) (by decide), scalar, string_written]
  rfl

theorem readsBack_arr {items : List Json} (hitems : ∀ v ∈ items, Storable n v)
    (hread : ∀ v ∈ items, ReadsBack indent n v) : ReadsBack indent (n + 1) (.arr items) := by
  refine (Storable.arr hitems).readsBack_of_succ ?_
  intro level fuel depth rest hrest hdepth hfuel
  cases items with
  | nil =>
      rw [renderAt]
      show value (fuel + 1) depth ('[' :: ']' :: rest) = _
      rw [value, if_neg (by omega), skipSpace_cons rfl]
      rfl
  | cons v vs =>
      rw [toList_arr] at hfuel ⊢
      simp only [List.length_cons, List.length_append] at hfuel
      obtain ⟨fuel, rfl⟩ := Nat.exists_eq_succ_of_ne_zero (n := fuel) (by omega)
      rw [value_items (by omega) isSpace_lineBreak
          ((hitems v (List.mem_cons_self ..)).begins.append _),
        items_written (n := n) (by omega) ?_ fun x hx => ⟨hitems x hx, hread x hx⟩]
      · rfl
      · simp only [List.length_append]
        omega

theorem readsBack_obj {fields : List (String × Json)} (hkeys : (Dict.keys fields).Nodup)
    (hfields : ∀ e ∈ fields, Storable n e.2) (hread : ∀ e ∈ fields, ReadsBack indent n e.2) :
    ReadsBack indent (n + 1) (.obj fields) := by
  refine (Storable.obj hkeys hfields).readsBack_of_succ ?_
  intro level fuel depth rest hrest hdepth hfuel
  cases fields with
  | nil =>
      rw [renderAt]
      show value (fuel + 1) depth ('\x7b' :: '\x7d' :: rest) = _
      rw [value, if_neg (by omega), skipSpace_cons rfl]
      rfl
  | cons e fs =>
      rw [toList_obj] at hfuel ⊢
      simp only [List.length_cons, List.length_append] at hfuel
      obtain ⟨fuel, rfl⟩ := Nat.exists_eq_succ_of_ne_zero (n := fuel) (by omega)
      rw [value_members (by omega) isSpace_lineBreak ((begins_renderField e).append _),
        members_written (n := n) (by omega) ?_ fun x hx => ⟨hfields x hx, hread x hx⟩]
      · show Except.ok (Json.obj (Dict.ofEntries (e :: fs)), rest) = _
        rw [Dict.ofEntries_of_nodup hkeys]
      · simp only [List.length_append]
        omega

/-- What is storable is read back. -/
theorem Storable.readsBack (h : Storable n v) : ReadsBack indent n v := by
  induction h with
  | null => exact readsBack_null
  | bool b => exact readsBack_bool b
  | int hshort => exact readsBack_int hshort
  | str s => exact readsBack_str s
  | arr hitems ih => exact readsBack_arr hitems ih
  | obj hkeys hfields ih => exact readsBack_obj hkeys hfields ih

section

variable {cs : List Char} (hbegins : Begins cs)

include hbegins

/-- A text that begins like a value is read from its first character. -/
theorem document_ok (hv : value (2 * cs.length + 2) 0 cs = .ok (v, [])) : document cs = .ok v := by
  have hskip := hbegins.skipSpace
  have hend : skipSpace [] = [] := rfl
  obtain ⟨c, more, hcs, -, -, -, hmark⟩ := hbegins
  unfold document
  split
  · exact (hmark (List.cons.inj hcs).1.symm).elim
  · simp only [hskip, hv, hend]

theorem document_error {f : Fault} (hv : value (2 * cs.length + 2) 0 cs = .error f) :
    document cs = .error f := by
  have hskip := hbegins.skipSpace
  obtain ⟨c, more, hcs, -, -, -, hmark⟩ := hbegins
  unfold document
  split
  · exact (hmark (List.cons.inj hcs).1.symm).elim
  · simp only [hskip, hv]

end

/-- **Reading undoes writing.** A value without doubles, with integers that are not too long,
distinct names in its objects and not too many brackets open at once is read back from its text,
on one line or with any indentation. -/
theorem parse_render (h : Storable depthLimit v) : parse (render indent v) = .ok v := by
  have hread : value (2 * (renderAt indent 0 v).toList.length + 2) 0 (renderAt indent 0 v).toList
      = .ok (v, []) := by
    have hreads : ReadsBack indent depthLimit v := h.readsBack
    have hback := hreads 0 (2 * (renderAt indent 0 v).toList.length + 2) 0 [] nofun (by omega)
    rw [List.append_nil] at hback
    exact hback (by omega)
  rw [parse, render, document_ok h.begins hread]
  rfl

end

/-! ## Line ends -/

section

variable {indent : Option Nat} {level : Nat}

/-- No text of the value holds a carriage return, so its line ends stay as they were written. -/
def NoReturn (v : Json) : Prop :=
  ∀ (indent : Option Nat) (level : Nat), '\r' ∉ (renderAt indent level v).toList

theorem return_not_mem_lineBreak : '\r' ∉ (lineBreak indent level).toList := by
  intro hmem
  rcases mem_lineBreak hmem with h | h <;> cases h

theorem return_not_mem_renderString (s : String) : '\r' ∉ (renderString s).toList := by
  intro hmem
  rw [renderString, String.toList_ofList] at hmem
  simp [return_not_mem_escapeChar] at hmem

theorem return_not_mem_afterFirst {close : Char} {parts : List String} (hclose : close ≠ '\r')
    (hparts : ∀ s ∈ parts, '\r' ∉ s.toList) :
    '\r' ∉ afterFirst indent level close parts [] := by
  obtain ⟨spaces, hsep, hspaces⟩ := exists_separator indent (level + 1)
  intro h
  rcases List.mem_append.mp h with hpart | hend
  · obtain ⟨s, hs, hmem⟩ := List.mem_flatMap.mp hpart
    rcases List.mem_append.mp hmem with hmem | hmem
    · rw [hsep] at hmem
      rcases List.mem_cons.mp hmem with hcomma | hmem
      · cases hcomma
      · rcases hspaces _ hmem with h | h <;> cases h
    · exact hparts s hs hmem
  · rcases List.mem_append.mp hend with hmem | hmem
    · exact return_not_mem_lineBreak hmem
    · exact hclose (List.mem_singleton.mp hmem).symm

theorem noReturn_null : NoReturn .null := by
  intro indent level
  rw [renderAt]
  decide

theorem noReturn_bool (b : Bool) : NoReturn (.bool b) := by
  intro indent level
  cases b with
  | false =>
      rw [renderAt]
      decide
  | true =>
      rw [renderAt]
      decide

theorem noReturn_int (k : Int) : NoReturn (.int k) := by
  intro indent level
  rw [renderAt, toList_decimalInt]
  have hdigits : '\r' ∉ digits k.natAbs := fun hmem => by
    cases isAsciiDigit_of_mem hmem
  split
  · simpa using hdigits
  · exact hdigits

theorem noReturn_str (s : String) : NoReturn (.str s) := by
  intro indent level
  rw [renderAt]
  exact return_not_mem_renderString s

theorem noReturn_arr {items : List Json} (h : ∀ v ∈ items, NoReturn v) :
    NoReturn (.arr items) := by
  intro indent level
  cases items with
  | nil =>
      rw [renderAt]
      decide
  | cons v vs =>
      have hafter : '\r' ∉ afterFirst indent level ']'
          (vs.map (renderAt indent (level + 1))) [] := by
        refine return_not_mem_afterFirst (by decide) fun s hs => ?_
        obtain ⟨x, hx, rfl⟩ := List.mem_map.mp hs
        exact h x (List.mem_cons_of_mem _ hx) _ _
      rw [← List.append_nil (renderAt indent level _).toList, toList_arr]
      simp [return_not_mem_lineBreak, hafter, h v (List.mem_cons_self ..) indent]

theorem noReturn_obj {fields : List (String × Json)} (h : ∀ e ∈ fields, NoReturn e.2) :
    NoReturn (.obj fields) := by
  intro indent level
  have hfield : ∀ e ∈ fields, '\r' ∉ (renderField indent (level + 1) e).toList := by
    intro e he
    rw [renderField, String.toList_append, String.toList_append]
    simp [return_not_mem_renderString, h e he indent]
  cases fields with
  | nil =>
      rw [renderAt]
      decide
  | cons e fs =>
      have hafter : '\r' ∉ afterFirst indent level '\x7d'
          (fs.map (renderField indent (level + 1))) [] := by
        refine return_not_mem_afterFirst (by decide) fun s hs => ?_
        obtain ⟨x, hx, rfl⟩ := List.mem_map.mp hs
        exact hfield x (List.mem_cons_of_mem _ hx)
      rw [← List.append_nil (renderAt indent level _).toList, toList_obj]
      simp [return_not_mem_lineBreak, hafter, hfield e (List.mem_cons_self ..)]

theorem Storable.noReturn {n : Nat} {v : Json} (h : Storable n v) : NoReturn v := by
  induction h with
  | null => exact noReturn_null
  | bool b => exact noReturn_bool b
  | int _ => exact noReturn_int _
  | str s => exact noReturn_str s
  | arr _ ih => exact noReturn_arr ih
  | obj _ _ ih => exact noReturn_obj ih

end

end PatchForge.Json
