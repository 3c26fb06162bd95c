import PatchForge.Proofs.Format.Lookup

/-!
# Templates of literals and lookups

A template without conversions and alignments is made of literal texts
and slots that may look further. It is written with every brace of a
literal doubled and a slot as its number and its lookups between braces,
and reading takes it apart again (`readFrom_escape`, `readFrom_field`).
So what it makes of a record can be said without the reader: each literal
as it is, each slot replaced by what its lookups lead to
(`apply_writtenParts`).
-/

namespace PatchForge.Format

/-- A part of a template without conversions and alignments. -/
inductive Part where
  | text (cs : List Char)
  | slot (i : Nat) (lookups : List Lookup)
  deriving DecidableEq, Repr

/-- A text with each of its braces doubled. -/
def escape : List Char → List Char
  | [] => []
  | c :: cs => if c = '\x7b' ∨ c = '\x7d' then c :: c :: escape cs else c :: escape cs

def Lookup.written : Lookup → List Char
  | .member name => '.' :: name
  | .index key => '[' :: (key ++ [']'])

/-- The name of a field as it is written: a number and the lookups. -/
def fieldName (i : Nat) (lookups : List Lookup) : List Char :=
  Nat.toDigits 10 i ++ lookups.flatMap Lookup.written

def Part.written : Part → List Char
  | .text cs => escape cs
  | .slot i lookups => '\x7b' :: (fieldName i lookups ++ ['\x7d'])

/-- The template as it is written. -/
def writtenParts (parts : List Part) : List Char := parts.flatMap Part.written

theorem writtenParts_cons (p : Part) (parts : List Part) :
    writtenParts (p :: parts) = p.written ++ writtenParts parts := rfl

/-- A character that a field's name goes on with. -/
def GoesOn (c : Char) : Prop := c ∉ ['\x7b', '[', '\x7d', ':', '!']

/-- The lookup is not empty, and it ends where it is written to end. -/
def Lookup.Legible : Lookup → Prop
  | .member name => name ≠ [] ∧ ∀ c ∈ name, GoesOn c ∧ beginsLookup c = false
  | .index key => key ≠ [] ∧ ']' ∉ key

/-! ## Numbers -/

theorem digitValue_digitChar : ∀ d < 10, Text.digitValue? (Nat.digitChar d) = some d := by
  decide

/-- A number is written in digits. -/
theorem mem_toDigits (n : Nat) : ∀ c ∈ Nat.toDigits 10 n, ∃ d < 10, c = Nat.digitChar d := by
  induction n using Nat.strongRecOn with
  | ind n ih =>
      by_cases h : n < 10
      · rw [Nat.toDigits_of_lt_base h]
        exact List.forall_mem_singleton.mpr ⟨n, h, rfl⟩
      · rw [Nat.toDigits_of_base_le (by decide) (by omega)]
        intro c hc
        rcases List.mem_append.mp hc with hc | hc
        · exact ih (n / 10) (by omega) c hc
        · exact ⟨n % 10, Nat.mod_lt _ (by decide), List.mem_singleton.mp hc⟩

/-- The last digit is pushed onto the number before it. -/
theorem nameNumber_snoc {c : Char} {d : Nat} (hc : Text.digitValue? c = some d) :
    ∀ (cs : List Char) (n : Option Nat), (∀ x ∈ cs, (Text.digitValue? x).isSome) →
      nameNumber? n (cs ++ [c]) = match nameNumber? n cs with
        | .error f => .error f
        | .ok k => (pushDigit (k.getD 0) d).map some
  | [], n, _ => by
      simp only [List.nil_append, nameNumber?, hc]
      cases pushDigit (n.getD 0) d <;> rfl
  | x :: cs, n, h => by
      obtain ⟨hx, hcs⟩ := List.forall_mem_cons.mp h
      obtain ⟨e, he⟩ := Option.isSome_iff_exists.mp hx
      simp only [List.cons_append, nameNumber?, he]
      cases pushDigit (n.getD 0) e with
      | error f => rfl
      | ok k => exact nameNumber_snoc hc cs (some k) hcs

theorem nameNumber_toDigits (n : Nat) : nameNumber? none (Nat.toDigits 10 n)
    = if numberLimit < n then .error .tooManyDigits else .ok (some n) := by
  induction n using Nat.strongRecOn with
  | ind n ih =>
      by_cases h : n < 10
      · have hlimit : ¬ numberLimit < n := by
          unfold numberLimit
          omega
        have hpush : pushDigit 0 n = .ok n := by
          unfold pushDigit
          rw [if_neg (by omega), Nat.zero_mul, Nat.zero_add]
        rw [Nat.toDigits_of_lt_base h, if_neg hlimit]
        simp only [nameNumber?, digitValue_digitChar n h, Option.getD_none, hpush]
      · have hlast : n % 10 < 10 := Nat.mod_lt _ (by decide)
        have hdigits : ∀ x ∈ Nat.toDigits 10 (n / 10), (Text.digitValue? x).isSome := by
          intro x hx
          obtain ⟨d, hd, rfl⟩ := mem_toDigits _ x hx
          rw [digitValue_digitChar d hd]
          rfl
        rw [Nat.toDigits_of_base_le (by decide) (by omega),
          nameNumber_snoc (digitValue_digitChar _ hlast) _ _ hdigits, ih (n / 10) (by omega)]
        have hn : n / 10 * 10 + n % 10 = n := Nat.div_add_mod' n 10
        by_cases hfront : numberLimit < n / 10
        · rw [if_pos hfront, if_pos (by omega)]
        · rw [if_neg hfront]
          show (pushDigit (n / 10) (n % 10)).map some = _
          rw [pushDigit, hn]
          by_cases hwhole : numberLimit < n
          · rw [if_pos hwhole, if_pos]
            · rfl
            · unfold numberLimit at hwhole ⊢
              omega
          · rw [if_neg hwhole, if_neg]
            · rfl
            · unfold numberLimit at hwhole ⊢
              omega

/-! ## Reading what was written -/

theorem readFrom_ok {s s' : State} {c : Char} {cs : List Char} {before : List Piece}
    (h : s.step c = .ok (before, s')) :
    readFrom s (c :: cs) = ⟨before ++ (readFrom s' cs).pieces, (readFrom s' cs).fault⟩ := by
  rw [readFrom, h]

/-- Doubled braces are read as braces, and other characters as themselves. -/
theorem readFrom_escape (rest : List Char) : ∀ (cs acc : List Char),
    readFrom (.literal acc) (escape cs ++ rest) = readFrom (.literal (cs.reverse ++ acc)) rest
  | [], acc => rfl
  | c :: cs, acc => by
      have hrest := readFrom_escape rest cs (c :: acc)
      rw [List.reverse_cons, List.append_assoc, List.singleton_append, ← hrest, escape]
      by_cases hopen : c = '\x7b'
      · subst hopen
        rfl
      · by_cases hclose : c = '\x7d'
        · subst hclose
          rfl
        · rw [if_neg (by simp [hopen, hclose]), List.cons_append]
          have hstep : (State.literal acc).step c = .ok ([], .literal (c :: acc)) := by
            rw [State.step, if_neg hopen, if_neg hclose]
          rw [readFrom_ok hstep]
          rfl

/-- The characters that a number is written with have no meaning in a field's name. -/
theorem digitChar_plain : ∀ d < 10, Nat.digitChar d ≠ '\x7b' ∧ Nat.digitChar d ≠ '\x7d'
    ∧ Nat.digitChar d ≠ ':' ∧ Nat.digitChar d ≠ '!' ∧ beginsLookup (Nat.digitChar d) = false := by
  decide

theorem stepName_goesOn (before : List Piece) (name : List Char) {c : Char} (h : GoesOn c) :
    stepName before name c = .ok (before, .naming (c :: name)) := by
  simp only [GoesOn, List.mem_cons, List.not_mem_nil, or_false, not_or] at h
  obtain ⟨hopen, hindex, hclose, hcolon, hmark⟩ := h
  rw [stepName, if_neg hopen, if_neg hindex, if_neg hclose, if_neg hcolon, if_neg hmark]

theorem readFrom_naming (rest : List Char) : ∀ (cs name : List Char), (∀ c ∈ cs, GoesOn c) →
    readFrom (.naming name) (cs ++ rest) = readFrom (.naming (cs.reverse ++ name)) rest
  | [], name, _ => rfl
  | c :: cs, name, h => by
      obtain ⟨hc, hcs⟩ := List.forall_mem_cons.mp h
      rw [List.cons_append, readFrom_ok (s := .naming name) (stepName_goesOn [] name hc),
        readFrom_naming rest cs _ hcs, List.reverse_cons, List.append_assoc]
      rfl

theorem readFrom_indexing (rest : List Char) : ∀ (key name : List Char), ']' ∉ key →
    readFrom (.indexing name) (key ++ ']' :: rest)
      = readFrom (.naming (']' :: (key.reverse ++ name))) rest
  | [], name, _ => rfl
  | c :: key, name, h => by
      have hc : c ≠ ']' := (List.ne_of_not_mem_cons h).symm
      have hkey : ']' ∉ key := List.not_mem_of_not_mem_cons h
      have hstep : (State.indexing name).step c = .ok ([], .indexing (c :: name)) := by
        rw [State.step, if_neg hc]
      rw [List.cons_append, readFrom_ok hstep, readFrom_indexing rest key _ hkey,
        List.reverse_cons, List.append_assoc]
      rfl

theorem readFrom_lookup {l : Lookup} (h : l.Legible) (name rest : List Char) :
    readFrom (.naming name) (l.written ++ rest)
      = readFrom (.naming (l.written.reverse ++ name)) rest := by
  cases l with
  | member m =>
      refine readFrom_naming rest ('.' :: m) name (List.forall_mem_cons.mpr ⟨?_, ?_⟩)
      · simp [GoesOn]
      · exact fun c hc => (h.2 c hc).1
  | index key =>
      have hopen : (State.naming name).step '[' = .ok ([], .indexing ('[' :: name)) := rfl
      have hwritten : (Lookup.index key).written ++ rest = '[' :: (key ++ ']' :: rest) := by
        rw [Lookup.written, List.cons_append, List.append_assoc, List.singleton_append]
      rw [hwritten, readFrom_ok hopen, readFrom_indexing rest key _ h.2]
      simp [Lookup.written]

theorem readFrom_lookups (rest : List Char) : ∀ (ls : List Lookup) (name : List Char),
    (∀ l ∈ ls, l.Legible) → readFrom (.naming name) (ls.flatMap Lookup.written ++ rest)
      = readFrom (.naming ((ls.flatMap Lookup.written).reverse ++ name)) rest
  | [], name, _ => rfl
  | l :: ls, name, h => by
      obtain ⟨hl, hls⟩ := List.forall_mem_cons.mp h
      rw [List.flatMap_cons, List.append_assoc, readFrom_lookup hl, readFrom_lookups rest ls _ hls,
        List.reverse_append, List.append_assoc]

/-- A number is written in characters that a name goes on with. -/
theorem goesOn_digit {d : Nat} (h : d < 10) : GoesOn (Nat.digitChar d) := by
  obtain ⟨hopen, hclose, hcolon, hmark, hlookup⟩ := digitChar_plain d h
  have hindex : Nat.digitChar d ≠ '[' := fun hc => by simp [beginsLookup, hc] at hlookup
  simp [GoesOn, hopen, hclose, hcolon, hmark, hindex]

theorem readFrom_field {ls : List Lookup} (h : ∀ l ∈ ls, l.Legible) (acc rest : List Char)
    (i : Nat) : readFrom (.literal acc) ((Part.slot i ls).written ++ rest)
      = ⟨literalPiece acc ++ .field ⟨fieldName i ls, none, [], false⟩
            :: (readFrom (.literal []) rest).pieces,
          (readFrom (.literal []) rest).fault⟩ := by
  have hdigits := mem_toDigits i
  cases hnumber : Nat.toDigits 10 i with
  | nil => exact (Nat.toDigits_ne_nil hnumber).elim
  | cons c cs =>
      rw [hnumber] at hdigits
      obtain ⟨⟨d, hd, rfl⟩, hcs⟩ := List.forall_mem_cons.mp hdigits
      have hgoes : ∀ c ∈ cs, GoesOn c := by
        intro c hc
        obtain ⟨e, he, rfl⟩ := hcs c hc
        exact goesOn_digit he
      have hopen : (State.literal acc).step '\x7b' = .ok ([], .opened acc) := rfl
      have hfirst : (State.opened acc).step (Nat.digitChar d)
          = .ok (literalPiece acc, .naming [Nat.digitChar d]) := by
        rw [State.step, if_neg (digitChar_plain d hd).1]
        exact stepName_goesOn _ _ (goesOn_digit hd)
      have hclose : ∀ name, readFrom (.naming name) ('\x7d' :: rest)
          = ⟨fieldPiece name none [] false ++ (readFrom (.literal []) rest).pieces,
            (readFrom (.literal []) rest).fault⟩ := fun name => rfl
      have hname : fieldName i ls = Nat.digitChar d :: (cs ++ ls.flatMap Lookup.written) := by
        rw [fieldName, hnumber, List.cons_append]
      have hwritten : (Part.slot i ls).written ++ rest = '\x7b' :: Nat.digitChar d
          :: (cs ++ (ls.flatMap Lookup.written ++ '\x7d' :: rest)) := by
        rw [Part.written, hname]
        simp only [List.cons_append, List.append_assoc, List.nil_append]
      rw [hwritten, readFrom_ok hopen, readFrom_ok hfirst, readFrom_naming _ _ _ hgoes,
        readFrom_lookups _ _ _ h, hclose, hname]
      simp [fieldPiece]

/-! ## Applying what was written -/

theorem readStart_toDigits (i : Nat) : readStart (Nat.toDigits 10 i)
    = if numberLimit < i then .error .tooManyDigits else .ok (.slot i) := by
  have hsome : (Nat.toDigits 10 i).isEmpty = false := by simp
  rw [readStart, hsome, nameNumber_toDigits]
  by_cases hlimit : numberLimit < i
  · simp [hlimit]
  · simp [hlimit]

theorem slot_manual {numbering : Numbering} (h : ∀ used, numbering ≠ .automatic used) (i : Nat) :
    numbering.slot (.slot i) = .ok (i, .manual) := by
  cases numbering with
  | automatic used => exact (h used rfl).elim
  | unset => rfl
  | manual => rfl

theorem takeWhile_lookups (ls : List Lookup) :
    (ls.flatMap Lookup.written).takeWhile (!beginsLookup ·) = [] := by
  cases ls with
  | nil => rfl
  | cons l ls => cases l <;> rfl

theorem startOf_fieldName (i : Nat) (ls : List Lookup) :
    startOf (fieldName i ls) = Nat.toDigits 10 i := by
  have hdigits : ∀ c ∈ Nat.toDigits 10 i, (!beginsLookup c) = true := by
    intro c hc
    obtain ⟨d, hd, rfl⟩ := mem_toDigits i c hc
    rw [(digitChar_plain d hd).2.2.2.2]
    rfl
  rw [startOf, fieldName, List.takeWhile_append_of_pos hdigits, takeWhile_lookups,
    List.append_nil]

theorem readLookups_written : ∀ (ls : List Lookup) (fuel : Nat), (∀ l ∈ ls, l.Legible) →
    (ls.flatMap Lookup.written).length ≤ fuel →
      readLookups fuel (ls.flatMap Lookup.written) = (ls, none)
  | [], fuel, _, _ => by cases fuel <;> rfl
  | .member name :: ls, fuel, h, hfuel => by
      obtain ⟨⟨hname, hcs⟩, hls⟩ := List.forall_mem_cons.mp h
      rw [List.flatMap_cons, List.length_append] at hfuel
      simp only [Lookup.written, List.length_cons] at hfuel
      obtain ⟨fuel, rfl⟩ : ∃ n, fuel = n + 1 := ⟨fuel - 1, by omega⟩
      have hall : ∀ c ∈ name, (!beginsLookup c) = true := by
        intro c hc
        rw [(hcs c hc).2]
        rfl
      have hspan : (name ++ ls.flatMap Lookup.written).takeWhile (!beginsLookup ·) = name := by
        rw [List.takeWhile_append_of_pos hall, takeWhile_lookups, List.append_nil]
      rw [List.flatMap_cons, Lookup.written, List.cons_append, readLookups]
      simp only [hspan, List.drop_left, readLookups_written ls fuel hls (by omega)]
      simp [hname]
  | .index key :: ls, fuel, h, hfuel => by
      obtain ⟨⟨hkey, hend⟩, hls⟩ := List.forall_mem_cons.mp h
      rw [List.flatMap_cons, List.length_append] at hfuel
      simp only [Lookup.written, List.length_cons, List.length_append] at hfuel
      obtain ⟨fuel, rfl⟩ : ∃ n, fuel = n + 1 := ⟨fuel - 1, by omega⟩
      have hall : ∀ c ∈ key, decide (c ≠ ']') = true := by
        intro c hc
        refine decide_eq_true ?_
        rintro rfl
        exact hend hc
      have hspan : (key ++ ']' :: ls.flatMap Lookup.written).takeWhile (· ≠ ']') = key := by
        rw [List.takeWhile_append_of_pos hall, List.takeWhile_cons_of_neg (by simp),
          List.append_nil]
      rw [List.flatMap_cons, Lookup.written, List.cons_append, List.append_assoc,
        List.singleton_append, readLookups]
      simp only [hspan, List.drop_left, readLookups_written ls fuel hls (by omega)]
      simp [hkey]

theorem lookupsOf_fieldName {ls : List Lookup} (h : ∀ l ∈ ls, l.Legible) (i : Nat) :
    lookupsOf (fieldName i ls) = (ls, none) := by
  rw [lookupsOf, startOf_fieldName, fieldName, List.drop_left]
  exact readLookups_written ls _ h le_rfl

section

variable (record : List (List Char))

/-- The text of a record under a number. -/
def slotText (record : List (List Char)) (i : Nat) : Except Fault (List Char) :=
  if numberLimit < i then .error .tooManyDigits
  else
    match record[i]? with
    | some text => .ok text
    | none => .error (.slotBeyond record.length)

variable {record} in
theorem slotText_eq_ok {i : Nat} {text : List Char} :
    slotText record i = .ok text ↔ i ≤ numberLimit ∧ record[i]? = some text := by
  rw [slotText]
  split
  · simp only [reduceCtorEq, false_iff, not_and]
    omega
  · cases record[i]? with
    | none => simp
    | some t =>
        simp only [Except.ok.injEq, Option.some.injEq, iff_and_self]
        omega

/-- What the lookups lead to from the text under a number. -/
def reached (i : Nat) (lookups : List Lookup) : Except Fault Operand :=
  slotText record i >>= fun text => (Operand.text text).follow record.length lookups none

theorem reached_nil (i : Nat) : reached record i [] = (slotText record i).map Operand.text := by
  rw [reached]
  cases slotText record i <;> rfl

/-- The text that a part stands for. -/
def Part.filled : Part → Except Fault (List Char)
  | .text cs => .ok cs
  | .slot i lookups => (reached record i lookups).map Operand.shown

/-- What the template makes of the record. -/
def filledParts : List Part → Except Fault (List Char)
  | [] => .ok []
  | p :: parts => do
    let text ← p.filled record
    let rest ← filledParts parts
    return text ++ rest

theorem lookUp_fieldName {numbering : Numbering} (hmanual : ∀ used, numbering ≠ .automatic used)
    {ls : List Lookup} (h : ∀ l ∈ ls, l.Legible) (i : Nat) :
    lookUp record numbering (fieldName i ls)
      = (reached record i ls).map fun operand => (operand, .manual) := by
  rw [lookUp_eq, startOf_fieldName, readStart_toDigits, lookupsOf_fieldName h, reached, slotText]
  split
  · rfl
  · show numbering.slot (.slot i) >>= _ = _
    rw [slot_manual hmanual]
    dsimp only [bind, Except.bind]
    cases record[i]? <;> rfl

/-- An operand that is not laid out is shown as it is. -/
theorem align_nil (operand : Operand) : operand.align [] = .ok operand.shown := by
  cases operand with
  | whole n =>
      show Except.ok (Nat.toDigits 10 n) = .ok (String.ofList (Nat.toDigits 10 n)).toList
      rw [String.toList_ofList]
  | _ => rfl

variable {record} {expand : Numbering → List Char → Except Fault (List Char × Numbering)}

theorem fill_literalPiece (numbering : Numbering) (acc : List Char) (pieces : List Piece) :
    (fill record expand numbering (literalPiece acc ++ pieces)).map Prod.fst
      = ((fill record expand numbering pieces).map Prod.fst).map (acc.reverse ++ ·) := by
  cases acc with
  | nil =>
      cases hfill : fill record expand numbering pieces <;> simp [literalPiece, hfill, Except.map]
  | cons c acc =>
      show (fill record expand numbering (.literal (c :: acc).reverse :: pieces)).map Prod.fst = _
      rw [fill]
      cases fill record expand numbering pieces with
      | error f => rfl
      | ok result => rfl

theorem fill_part {numbering : Numbering} (hmanual : ∀ used, numbering ≠ .automatic used)
    {ls : List Lookup} (h : ∀ l ∈ ls, l.Legible) (i : Nat) (pieces : List Piece) :
    (fill record expand numbering (.field ⟨fieldName i ls, none, [], false⟩ :: pieces)).map
        Prod.fst
      = do
        let text ← (Part.slot i ls).filled record
        let rest ← (fill record expand .manual pieces).map Prod.fst
        return text ++ rest := by
  rw [fill_field, lookUp_fieldName record hmanual h, Part.filled]
  cases reached record i ls with
  | error f => rfl
  | ok operand =>
      show (operand.align [] >>= fun text => (fill record expand .manual pieces).map _).map _ = _
      rw [align_nil]
      cases fill record expand .manual pieces <;> rfl

theorem fill_parts : ∀ (parts : List Part) (acc : List Char) (numbering : Numbering),
    (∀ i ls, .slot i ls ∈ parts → ∀ l ∈ ls, l.Legible) →
    (∀ used, numbering ≠ .automatic used) →
      (readFrom (.literal acc) (writtenParts parts)).fault = none
      ∧ (fill record expand numbering (readFrom (.literal acc) (writtenParts parts)).pieces).map
          Prod.fst
        = (filledParts record parts).map (acc.reverse ++ ·)
  | [], acc, numbering, _, _ => by
      refine ⟨rfl, ?_⟩
      have hend := @fill_literalPiece record expand numbering acc []
      rw [List.append_nil] at hend
      exact hend
  | .text cs :: parts, acc, numbering, h, hmanual => by
      have hread : readFrom (.literal acc) (writtenParts (.text cs :: parts))
          = readFrom (.literal (cs.reverse ++ acc)) (writtenParts parts) :=
        readFrom_escape _ cs acc
      obtain ⟨hfault, hfill⟩ := fill_parts parts (cs.reverse ++ acc) numbering
        (fun i ls hmem => h i ls (List.mem_cons_of_mem _ hmem)) hmanual
      rw [hread]
      refine ⟨hfault, hfill.trans ?_⟩
      rw [filledParts]
      cases filledParts record parts with
      | error f => rfl
      | ok rest =>
          show Except.ok ((cs.reverse ++ acc).reverse ++ rest) = .ok (acc.reverse ++ (cs ++ rest))
          rw [List.reverse_append, List.reverse_reverse, List.append_assoc]
  | .slot i ls :: parts, acc, numbering, h, hmanual => by
      have hls := h i ls (List.mem_cons_self ..)
      obtain ⟨hfault, hfill⟩ := fill_parts parts [] .manual
        (fun i ls hmem => h i ls (List.mem_cons_of_mem _ hmem)) nofun
      rw [writtenParts_cons, readFrom_field hls]
      refine ⟨hfault, ?_⟩
      rw [fill_literalPiece, fill_part hmanual hls, hfill, filledParts]
      cases (Part.slot i ls).filled record with
      | error f => rfl
      | ok text => cases filledParts record parts <;> rfl

/-- Written out and applied to a record, literals and lookups give the literals as they are and
what the lookups lead to. -/
theorem apply_writtenParts {parts : List Part}
    (h : ∀ i ls, .slot i ls ∈ parts → ∀ l ∈ ls, l.Legible) :
    apply (writtenParts parts) record = filledParts record parts := by
  obtain ⟨hfault, hfill⟩ := @fill_parts record (applyAt record 1) parts [] .unset h nofun
  rw [apply, applyAt, read, hfault]
  have hresult := hfill.trans (by cases filledParts record parts <;> rfl :
    _ = filledParts record parts)
  rw [← hresult]
  cases fill record (applyAt record 1) .unset (readFrom (.literal []) (writtenParts parts)).pieces
    <;> rfl

theorem filledParts_ok : ∀ {parts : List Part}, (∃ text, filledParts record parts = .ok text)
    ↔ ∀ i ls, .slot i ls ∈ parts → ∃ operand, reached record i ls = .ok operand
  | [] => by simp [filledParts]
  | p :: parts => by
      have hpart : (∃ text, p.filled record = .ok text)
          ↔ ∀ i ls, .slot i ls = p → ∃ operand, reached record i ls = .ok operand := by
        cases p with
        | text cs => simp [Part.filled]
        | slot i ls =>
            simp only [Part.filled, Result.map_ok, Part.slot.injEq, and_imp]
            constructor
            · rintro ⟨text, operand, hoperand, -⟩ i ls rfl rfl
              exact ⟨operand, hoperand⟩
            · intro hall
              obtain ⟨operand, hoperand⟩ := hall i ls rfl rfl
              exact ⟨_, operand, hoperand, rfl⟩
      simp only [List.mem_cons, or_imp, forall_and, ← hpart, ← filledParts_ok, filledParts]
      constructor
      · rintro ⟨text, h⟩
        obtain ⟨first, hfirst, h⟩ := Result.bind_ok.mp h
        obtain ⟨rest, hrest, -⟩ := Result.bind_ok.mp h
        exact ⟨⟨first, hfirst⟩, rest, hrest⟩
      · rintro ⟨⟨first, hfirst⟩, rest, hrest⟩
        refine ⟨first ++ rest, Result.bind_ok.mpr ⟨first, hfirst, ?_⟩⟩
        exact Result.bind_ok.mpr ⟨rest, hrest, rfl⟩

/-- One lookup leads somewhere exactly if the record has a text under the number that has what
it asks for. -/
theorem reached_one {i : Nat} {l : Lookup} : (∃ operand, reached record i [l] = .ok operand)
    ↔ i ≤ numberLimit ∧ ∃ text, record[i]? = some text ∧ Finds text l := by
  have hfollow : ∀ text operand, (Operand.text text).follow record.length [l] none = .ok operand
      ↔ (Operand.text text).step record.length l = .ok operand := by
    intro text operand
    rw [follow_cons]
    cases (Operand.text text).step record.length l <;> rfl
  simp only [reached, Result.bind_ok, slotText_eq_ok, hfollow, ← @step_text record.length]
  constructor
  · rintro ⟨operand, text, ⟨hlimit, htext⟩, hstep⟩
    exact ⟨hlimit, text, htext, operand, hstep⟩
  · rintro ⟨hlimit, text, htext, operand, hstep⟩
    exact ⟨operand, text, ⟨hlimit, htext⟩, hstep⟩

end

end PatchForge.Format
