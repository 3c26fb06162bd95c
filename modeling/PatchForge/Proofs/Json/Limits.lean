import PatchForge.Proofs.Json.RoundTrip

/-!
# What the reader refuses

The writer writes values that the reader does not take: an integer with
more digits than the reader converts (`refused_int`), and a value with
more brackets open than the reader follows (`refused_nested`). Whatever
holds such a value in its first place is refused with it, so a text can
be well-formed and not be read (`exists_parse_error`).
-/

namespace PatchForge.Json

variable {depth : Nat} {v : Json}

/-- With so many brackets open, no text of the value is read. -/
def Refused (depth : Nat) (v : Json) : Prop :=
  ∀ (indent : Option Nat) (level fuel : Nat) (rest : List Char), Delimited rest →
    ∃ f, value fuel depth ((renderAt indent level v).toList ++ rest) = .error f

theorem refused_int {k : Int} (h : integerDigitLimit < (digits k.natAbs).length) :
    Refused depth (.int k) := by
  intro indent level fuel rest hrest
  cases fuel with
  | zero => exact ⟨_, rfl⟩
  | succ fuel =>
      rw [value_int, scalar_int k hrest, if_pos h]
      exact ⟨_, rfl⟩

/-- An array is refused with its first item, and where no more brackets may be opened. -/
theorem refused_arr {vs : List Json} (hbegins : ∀ x, v ≠ .float x)
    (h : depth < depthLimit → Refused (depth + 1) v) : Refused depth (.arr (v :: vs)) := by
  intro indent level fuel rest hrest
  cases fuel with
  | zero => exact ⟨_, rfl⟩
  | succ fuel =>
      rw [toList_arr]
      by_cases hdepth : depth < depthLimit
      · rw [value_items hdepth isSpace_lineBreak ((begins_renderAt hbegins).append _)]
        cases fuel with
        | zero => exact ⟨_, rfl⟩
        | succ fuel =>
            obtain ⟨f, hf⟩ := h hdepth indent (level + 1) fuel
              (afterFirst indent level ']' (vs.map (renderAt indent (level + 1))) rest)
              (delimited_afterFirst (List.mem_cons_self ..))
            rw [items, hf]
            exact ⟨f, rfl⟩
      · rw [value, if_pos (Nat.le_of_not_lt hdepth)]
        exact ⟨_, rfl⟩

/-- An object is refused with the value of its first field. -/
theorem refused_obj {name : String} {fs : List (String × Json)} (hbegins : ∀ x, v ≠ .float x)
    (h : Refused (depth + 1) v) : Refused depth (.obj ((name, v) :: fs)) := by
  intro indent level fuel rest hrest
  cases fuel with
  | zero => exact ⟨_, rfl⟩
  | succ fuel =>
      rw [toList_obj]
      by_cases hdepth : depth < depthLimit
      · rw [value_members hdepth isSpace_lineBreak ((begins_renderField _).append _),
          toList_renderField]
        cases fuel with
        | zero => exact ⟨_, rfl⟩
        | succ fuel =>
            obtain ⟨f, hf⟩ := h indent (level + 1) fuel
              (afterFirst indent level '\x7d' (fs.map (renderField indent (level + 1))) rest)
              (delimited_afterFirst (by decide))
            rw [members_error ((begins_renderAt hbegins).append _).skipSpace hf]
            exact ⟨f, rfl⟩
      · rw [value, if_pos (Nat.le_of_not_lt hdepth)]
        exact ⟨_, rfl⟩

/-- `n` arrays, one in the other. -/
def nested : Nat → Json
  | 0 => .null
  | n + 1 => .arr [nested n]

theorem nested_ne_float (n : Nat) (x : Binary64) : nested n ≠ .float x := by
  cases n <;> nofun

theorem refused_nested : ∀ {n depth : Nat}, depth ≤ depthLimit → depthLimit < depth + n →
    Refused depth (nested n)
  | 0, depth, hdepth, hdeep => absurd hdepth (Nat.not_le.mpr hdeep)
  | n + 1, depth, _, hdeep => by
      exact refused_arr (nested_ne_float n) fun hdepth => refused_nested hdepth (by omega)

theorem noReturn_nested (n : Nat) : NoReturn (nested n) := by
  induction n with
  | zero => exact noReturn_null
  | succ n ih => exact noReturn_arr fun v hv => List.mem_singleton.mp hv ▸ ih

theorem exists_parse_error (indent : Option Nat) (hbegins : ∀ x, v ≠ .float x)
    (h : Refused 0 v) : ∃ f, parse (render indent v) = .error f := by
  obtain ⟨f, hf⟩ := h indent 0 (2 * (renderAt indent 0 v).toList.length + 2) [] nofun
  rw [List.append_nil] at hf
  rw [parse, render, document_error (begins_renderAt hbegins) hf]
  exact ⟨_, rfl⟩

end PatchForge.Json
