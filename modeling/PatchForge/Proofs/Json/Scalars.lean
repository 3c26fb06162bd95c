import Mathlib.Algebra.Group.Int.Defs
import Mathlib.Data.List.TakeDrop
import PatchForge.Json.Reader
import PatchForge.Json.Writer

/-!
# Strings and integers read back

A character is written in one of four ways (`escapeChar_cases`), and the
reader takes each of them back in one step (`stringFrom_escape`). A
character beyond the range of a code unit is written as a pair of units
and no other one begins like a pair, so the reader, which looks for the
second unit after every first one, is not led astray.

An integer is read as far as its digits go: it is read back where what
follows does not go on with a number (`Delimited`), unless it has more
digits than the reader takes (`scalar_int`).
-/

namespace PatchForge.Json

/-! ## Code units -/

theorem hex_succ {w : Nat} (hw : 0 < w) (n : Nat) :
    Text.hex (w + 1) n = Text.hex w (n / 16) ++ [(n % 16).digitChar] := by
  simp only [Text.hex]
  by_cases hn : n < 16
  · have hlow : n / 16 = 0 := Nat.div_eq_of_lt hn
    rw [Nat.toDigits_of_lt_base hn, hlow, Nat.toDigits_zero, Nat.mod_eq_of_lt hn,
      List.length_singleton, List.length_singleton, Nat.add_sub_cancel,
      ← List.replicate_succ', Nat.sub_add_cancel hw]
  · rw [Nat.toDigits_of_base_le (by decide) (Nat.le_of_not_lt hn), List.length_append,
      List.length_singleton, Nat.add_sub_add_right, List.append_assoc]

theorem hexValue?_digitChar {k : Nat} (h : k < 16) : hexValue? k.digitChar = some k := by
  revert h
  revert k
  decide

/-- The code unit that four digits write is read back. -/
theorem unit?_hex {n : Nat} (hn : n < 0x10000) (c : Char) (rest : List Char) :
    unit? (Text.hex 4 n ++ c :: rest) = some (n, c :: rest) := by
  have hfirst : n / 16 / 16 / 16 < 16 := by omega
  have hone : Text.hex 1 (n / 16 / 16 / 16) = [(n / 16 / 16 / 16).digitChar] := by
    rw [Text.hex, Nat.toDigits_of_lt_base hfirst]
    rfl
  have hmod : ∀ m : Nat, m % 16 < 16 := fun m => Nat.mod_lt m (by decide)
  rw [hex_succ (by decide), hex_succ (by decide), hex_succ (by decide), hone]
  simp only [List.cons_append, List.nil_append, unit?,
    hexValue?_digitChar hfirst, hexValue?_digitChar (hmod _), bind, Option.bind, pure]
  congr 2
  omega

/-! ## Characters -/

section

variable {start fuel : Nat} {acc cs : List Char} {c : Char}

theorem stringFrom_simple {e : Char} (h : simpleEscape? e = some c) :
    stringFrom start (fuel + 1) acc ('\\' :: e :: cs) = stringFrom start fuel (c :: acc) cs := by
  unfold simpleEscape? at h
  split at h <;> cases h <;> rfl

theorem stringFrom_plain (hquote : c ≠ '"') (hescape : c ≠ '\\') (hprint : 0x20 ≤ c.toNat) :
    stringFrom start (fuel + 1) acc (c :: cs) = stringFrom start fuel (c :: acc) cs := by
  rw [stringFrom]
  · exact if_neg (Nat.not_lt.mpr hprint)
  · exact hquote
  · exact fun h => (hescape h).elim
  · exact fun _ h => (hescape h).elim
  · exact fun _ _ h => (hescape h).elim

/-- A code unit that begins no pair is a character, whatever follows. -/
theorem stringFrom_unit {n : Nat} (hn : n < 0x10000) (hlone : isHighUnit n = false)
    (hcs : cs ≠ []) : stringFrom start (fuel + 1) acc (unitEscape n ++ cs)
      = stringFrom start fuel (unitChar n :: acc) cs := by
  obtain ⟨x, xs, rfl⟩ := List.exists_cons_of_ne_nil hcs
  show stringFrom start (fuel + 1) acc ('\\' :: 'u' :: (Text.hex 4 n ++ x :: xs)) = _
  rw [stringFrom, unit?_hex hn]
  split
  · rename_i heq
    cases heq
  · rename_i high rest heq
    cases heq
    rw [if_neg (by simp [hlone])]
  · rename_i heq
    cases heq
    rfl

/-- Two code units that make a pair are one character. -/
theorem stringFrom_pair {high low : Nat} (hhigh : isHighUnit high = true)
    (hlow : isLowUnit low = true) (hcs : cs ≠ []) :
    stringFrom start (fuel + 1) acc (unitEscape high ++ unitEscape low ++ cs)
      = stringFrom start fuel (pairChar high low :: acc) cs := by
  obtain ⟨x, xs, rfl⟩ := List.exists_cons_of_ne_nil hcs
  have hhigh' : high < 0x10000 := by
    simp only [isHighUnit, Bool.and_eq_true, decide_eq_true_eq] at hhigh
    omega
  have hlow' : low < 0x10000 := by
    simp only [isLowUnit, Bool.and_eq_true, decide_eq_true_eq] at hlow
    omega
  rw [List.append_assoc]
  show stringFrom start (fuel + 1) acc
    ('\\' :: 'u' :: (Text.hex 4 high ++ '\\' :: 'u' :: (Text.hex 4 low ++ x :: xs))) = _
  rw [stringFrom, unit?_hex hhigh']
  show (if isHighUnit high = true then _ else _) = _
  rw [if_pos hhigh, unit?_hex hlow']
  exact if_pos hlow

/-- The code of a character is not that of half a pair. -/
theorem not_surrogate (c : Char) : isHighUnit c.toNat = false ∧ isLowUnit c.toNat = false := by
  have hvalid := c.valid
  rw [UInt32.isValidChar, Nat.isValidChar] at hvalid
  show isHighUnit c.val.toNat = false ∧ isLowUnit c.val.toNat = false
  simp only [isHighUnit, isLowUnit, Bool.and_eq_false_iff, decide_eq_false_iff_not]
  omega

theorem unitChar_toNat (c : Char) : unitChar c.toNat = c := by
  obtain ⟨hhigh, hlow⟩ := not_surrogate c
  rw [unitChar, hhigh, hlow]
  exact Char.ofNat_toNat c

/-- A character beyond the code units is read back from its pair. -/
theorem pair_of_large (hlarge : 0x10000 ≤ c.toNat) :
    isHighUnit (0xD800 + (c.toNat - 0x10000) / 0x400) = true
      ∧ isLowUnit (0xDC00 + (c.toNat - 0x10000) % 0x400) = true
      ∧ pairChar (0xD800 + (c.toNat - 0x10000) / 0x400) (0xDC00 + (c.toNat - 0x10000) % 0x400)
        = c := by
  have hvalid : c.toNat < 0x110000 := by
    have h := c.valid
    rw [UInt32.isValidChar, Nat.isValidChar] at h
    show c.val.toNat < 0x110000
    omega
  refine ⟨?_, ?_, ?_⟩
  · simp only [isHighUnit, Bool.and_eq_true, decide_eq_true_eq]
    omega
  · simp only [isLowUnit, Bool.and_eq_true, decide_eq_true_eq]
    omega
  · have hsum : 0x10000 + (0xD800 + (c.toNat - 0x10000) / 0x400 - 0xD800) * 0x400
        + (0xDC00 + (c.toNat - 0x10000) % 0x400 - 0xDC00) = c.toNat := by
      omega
    rw [pairChar, hsum, Char.ofNat_toNat]

/-- A character is written by a short escape, as it is, or by its code units. -/
theorem escapeChar_cases (c : Char) :
    (∃ e, simpleEscape? e = some c ∧ escapeChar c = ['\\', e])
      ∨ (c ≠ '"' ∧ c ≠ '\\' ∧ 0x20 ≤ c.toNat ∧ escapeChar c = [c])
      ∨ (c.toNat < 0x10000 ∧ escapeChar c = unitEscape c.toNat)
      ∨ (0x10000 ≤ c.toNat ∧ escapeChar c
        = unitEscape (0xD800 + (c.toNat - 0x10000) / 0x400)
          ++ unitEscape (0xDC00 + (c.toNat - 0x10000) % 0x400)) := by
  have hcode : ∀ n : Nat, c.toNat = n → c = Char.ofNat n := by
    rintro n rfl
    exact (Char.ofNat_toNat c).symm
  unfold escapeChar
  dsimp only
  by_cases hquote : c = '"'
  · exact Or.inl ⟨'"', hquote.symm ▸ rfl, if_pos hquote⟩
  rw [if_neg hquote]
  by_cases hescape : c = '\\'
  · exact Or.inl ⟨'\\', hescape.symm ▸ rfl, if_pos hescape⟩
  rw [if_neg hescape]
  by_cases hline : c = '\n'
  · exact Or.inl ⟨'n', hline.symm ▸ rfl, if_pos hline⟩
  rw [if_neg hline]
  by_cases hreturn : c = '\r'
  · exact Or.inl ⟨'r', hreturn.symm ▸ rfl, if_pos hreturn⟩
  rw [if_neg hreturn]
  by_cases htab : c = '\t'
  · exact Or.inl ⟨'t', htab.symm ▸ rfl, if_pos htab⟩
  rw [if_neg htab]
  by_cases hback : c.toNat = 8
  · exact Or.inl ⟨'b', (hcode 8 hback).symm ▸ rfl, if_pos hback⟩
  rw [if_neg hback]
  by_cases hpage : c.toNat = 12
  · exact Or.inl ⟨'f', (hcode 12 hpage).symm ▸ rfl, if_pos hpage⟩
  rw [if_neg hpage]
  by_cases hprint : (decide (0x20 ≤ c.toNat) && decide (c.toNat < 0x7F)) = true
  · have hlow := of_decide_eq_true (Bool.and_eq_true _ _ ▸ hprint).1
    exact Or.inr (Or.inl ⟨hquote, hescape, hlow, if_pos hprint⟩)
  rw [if_neg hprint]
  by_cases hsmall : c.toNat < 0x10000
  · exact Or.inr (Or.inr (Or.inl ⟨hsmall, if_pos hsmall⟩))
  · exact Or.inr (Or.inr (Or.inr ⟨Nat.le_of_not_lt hsmall, if_neg hsmall⟩))

/-- What is written for a character is read as that character. -/
theorem stringFrom_escape (hcs : cs ≠ []) :
    stringFrom start (fuel + 1) acc (escapeChar c ++ cs) = stringFrom start fuel (c :: acc) cs := by
  rcases escapeChar_cases c with ⟨e, he, htext⟩ | ⟨hquote, hescape, hprint, htext⟩
    | ⟨hsmall, htext⟩ | ⟨hlarge, htext⟩
  · rw [htext]
    exact stringFrom_simple he
  · rw [htext]
    exact stringFrom_plain hquote hescape hprint
  · rw [htext, stringFrom_unit hsmall (not_surrogate c).1 hcs, unitChar_toNat]
  · obtain ⟨hhigh, hlow, hpair⟩ := pair_of_large hlarge
    rw [htext, stringFrom_pair hhigh hlow hcs, hpair]

end

/-! ## Strings -/

theorem stringFrom_text {start : Nat} {rest : List Char} : ∀ {text acc : List Char} {fuel : Nat},
    text.length < fuel →
      stringFrom start fuel acc (text.flatMap escapeChar ++ '"' :: rest)
        = .ok (String.ofList (acc.reverse ++ text), rest)
  | [], acc, fuel + 1, _ => by
      rw [List.append_nil]
      rfl
  | c :: text, acc, fuel + 1, h => by
      rw [List.flatMap_cons, List.append_assoc, stringFrom_escape (by simp),
        stringFrom_text (Nat.lt_of_succ_lt_succ h), List.reverse_cons, List.append_assoc]
      rfl

theorem escapeChar_ne_nil (c : Char) : escapeChar c ≠ [] := by
  rcases escapeChar_cases c with ⟨e, -, htext⟩ | ⟨-, -, -, htext⟩ | ⟨-, htext⟩ | ⟨-, htext⟩
  all_goals
    rw [htext]
    exact List.cons_ne_nil _ _

/-- Nothing but digits is written in base sixteen. -/
theorem mem_hex {width n : Nat} {c : Char} (h : c ∈ Text.hex width n) :
    ∃ k < 16, c = k.digitChar := by
  have hdigits : ∀ n, c ∈ Nat.toDigits 16 n → ∃ k < 16, c = k.digitChar := by
    intro n
    induction n using Nat.strongRecOn with
    | ind n ih =>
        intro hmem
        by_cases hn : n < 16
        · rw [Nat.toDigits_of_lt_base hn] at hmem
          exact ⟨n, hn, List.mem_singleton.mp hmem⟩
        · rw [Nat.toDigits_of_base_le (by decide) (Nat.le_of_not_lt hn)] at hmem
          rcases List.mem_append.mp hmem with hmem | hmem
          · exact ih (n / 16) (by omega) hmem
          · exact ⟨n % 16, Nat.mod_lt n (by decide), List.mem_singleton.mp hmem⟩
  rcases List.mem_append.mp h with hzero | hmem
  · exact ⟨0, by decide, List.eq_of_mem_replicate hzero⟩
  · exact hdigits n hmem

theorem return_not_mem_unitEscape (n : Nat) : '\r' ∉ unitEscape n := by
  intro h
  rcases List.mem_cons.mp h with h | h
  · cases h
  · rcases List.mem_cons.mp h with h | h
    · cases h
    · obtain ⟨k, hk, hdigit⟩ := mem_hex h
      revert hdigit
      revert hk
      revert k
      decide

/-- A carriage return is always escaped. -/
theorem return_not_mem_escapeChar (c : Char) : '\r' ∉ escapeChar c := by
  rcases escapeChar_cases c with ⟨e, he, htext⟩ | ⟨-, -, hprint, htext⟩ | ⟨-, htext⟩ | ⟨-, htext⟩
  · rw [htext]
    rintro (_ | ⟨_, _ | ⟨_, h⟩⟩)
    · cases he
    · cases h
  · rw [htext]
    intro h
    rw [← List.mem_singleton.mp h] at hprint
    exact absurd hprint (by decide)
  · rw [htext]
    exact return_not_mem_unitEscape _
  · rw [htext, List.mem_append]
    exact not_or.mpr ⟨return_not_mem_unitEscape _, return_not_mem_unitEscape _⟩

theorem length_le_escaped : ∀ text : List Char, text.length ≤ (text.flatMap escapeChar).length
  | [] => Nat.le_refl 0
  | c :: text => by
      have hsome : 0 < (escapeChar c).length := List.length_pos_iff.mpr (escapeChar_ne_nil c)
      have hrest := length_le_escaped text
      rw [List.flatMap_cons, List.length_append, List.length_cons]
      omega

/-- A string that was written is read back, whatever follows it. -/
theorem string_written (s : String) (rest : List Char) :
    string (s.toList.flatMap escapeChar ++ '"' :: rest) = .ok (s, rest) := by
  have henough : s.toList.length
      < (s.toList.flatMap escapeChar ++ '"' :: rest).length + 1 := by
    have hlength := length_le_escaped s.toList
    rw [List.length_append]
    omega
  rw [string, stringFrom_text henough]
  simp

/-! ## Integers -/

/-- A number ends before these characters: no digit, fraction or exponent follows. -/
def Delimited (rest : List Char) : Prop :=
  ∀ c ∈ rest.head?, Text.isAsciiDigit c = false ∧ c ≠ '.' ∧ c ≠ 'e' ∧ c ≠ 'E'

/-- The digits of a natural number. -/
abbrev digits (n : Nat) : List Char := Nat.toDigits 10 n

theorem isAsciiDigit_of_mem {n : Nat} {c : Char} (h : c ∈ digits n) :
    Text.isAsciiDigit c = true := by
  have hdigit := Nat.isDigit_of_mem_toDigits (by decide) (by decide) h
  simp only [Char.isDigit, Bool.and_eq_true, decide_eq_true_eq] at hdigit
  simp only [Text.isAsciiDigit, Bool.and_eq_true, decide_eq_true_eq]
  exact hdigit

theorem exists_digits_cons (n : Nat) :
    ∃ d ds, digits n = d :: ds ∧ Text.isAsciiDigit d = true := by
  obtain ⟨d, ds, hds⟩ := List.exists_cons_of_ne_nil (Nat.toDigits_ne_nil (n := n) (b := 10))
  have hd : d ∈ digits n := by
    rw [digits, hds]
    exact List.mem_cons_self ..
  exact ⟨d, ds, hds, isAsciiDigit_of_mem hd⟩

theorem digitsValue_digits (n : Nat) : digitsValue (digits n) = n := by
  have hfold : digitsValue (digits n) = Nat.ofDigitChars 10 (digits n) 0 := by
    rw [digitsValue, Nat.ofDigitChars]
    simp only [Nat.mul_comm]
  rw [hfold, Nat.ofDigitChars_toDigits (by decide) (by decide)]

/-- Only zero is written with a zero in front. -/
theorem digits_zero_cons {n : Nat} {ds : List Char} (h : digits n = '0' :: ds) : ds = [] := by
  induction n using Nat.strongRecOn generalizing ds with
  | ind n ih =>
      by_cases hn : n < 10
      · rw [digits, Nat.toDigits_of_lt_base hn] at h
        exact (List.cons.inj h).2.symm
      · rw [digits, Nat.toDigits_of_base_le (by decide) (Nat.le_of_not_lt hn)] at h
        obtain ⟨d, more, hsplit, -⟩ := exists_digits_cons (n / 10)
        change digits (n / 10) ++ _ = _ at h
        rw [hsplit] at h
        obtain ⟨rfl, -⟩ := List.cons.inj h
        obtain rfl := ih (n / 10) (by omega) hsplit
        have hvalue := digitsValue_digits (n / 10)
        have hzero : n / 10 = 0 := by
          rw [← hvalue, hsplit]
          rfl
        omega

theorem lt_length_digits_pow {n : Nat} (hn : 0 < n) :
    n < (digits ((10 : Int) ^ n).natAbs).length := by
  rw [← Nat.not_le, Nat.length_toDigits_le_iff (by decide) hn, Int.natAbs_pow]
  exact Nat.lt_irrefl _

section

variable {rest : List Char}

theorem digitsSpan_append {ds : List Char} (hds : ∀ c ∈ ds, Text.isAsciiDigit c = true)
    (hrest : Delimited rest) : digitsSpan (ds ++ rest) = (ds, rest) := by
  rw [digitsSpan, List.span_eq_takeWhile_dropWhile, List.takeWhile_append_of_pos hds,
    List.dropWhile_append_of_pos hds]
  cases rest with
  | nil => simp
  | cons c rest =>
      have hc := (hrest c rfl).1
      simp [hc]

theorem wholeSpan_digits (n : Nat) (hrest : Delimited rest) :
    wholeSpan (digits n ++ rest) = (digits n, rest) := by
  obtain ⟨d, ds, hds, -⟩ := exists_digits_cons n
  by_cases hd : d = '0'
  · subst hd
    obtain rfl := digits_zero_cons hds
    rw [hds]
    rfl
  · have hspan := digitsSpan_append (fun c => isAsciiDigit_of_mem (n := n) (c := c)) hrest
    rw [hds] at hspan ⊢
    rw [← hspan, List.cons_append, wholeSpan]
    exact fun _ h => hd (List.cons.inj h).1

theorem number_digits (start : List Char) (negative : Bool) (n : Nat) (hrest : Delimited rest) :
    number start negative (digits n ++ rest)
      = if integerDigitLimit < (digits n).length then
          failAt (.integerTooLong (digits n).length) start
        else .ok (.int (if negative then -n else n), rest) := by
  have hfraction : fractionSpan rest = ([], rest) := by
    cases rest with
    | nil => rfl
    | cons c rest =>
        rw [fractionSpan]
        exact fun _ _ h => (hrest c rfl).2.1 (List.cons.inj h).1
  have hexponent : exponentSpan rest = none := by
    cases rest with
    | nil => rfl
    | cons c rest =>
        obtain ⟨-, -, he, hE⟩ := hrest c rfl
        unfold exponentSpan
        exact if_neg (by simp [he, hE])
  obtain ⟨d, ds, hds, -⟩ := exists_digits_cons n
  have hvalue := digitsValue_digits n
  rw [number, wholeSpan_digits n hrest]
  rw [hds] at hvalue ⊢
  dsimp only
  rw [hfraction, hexponent]
  simp only [List.isEmpty_nil, Option.isNone_none, Bool.and_self, if_true, hvalue]

/-- A word is not there if its first letter is not. -/
theorem after?_other (word : String) {c d : Char} {w cs : List Char}
    (hword : word.toList = c :: w) (hcd : c ≠ d) : after? word (d :: cs) = none := by
  rw [after?, hword, List.isPrefixOf, beq_eq_false_iff_ne.mpr hcd]
  rfl

/-- An integer is written as its digits, after a sign if it is negative. -/
theorem toList_decimalInt (k : Int) :
    (Text.decimalInt k).toList = if k < 0 then '-' :: digits k.natAbs else digits k.natAbs := by
  rw [Text.decimalInt]
  split
  · rw [String.toList_append, Text.decimal, String.toList_ofList, String.toList_ofList,
      List.singleton_append]
  · rw [Text.decimal, String.toList_ofList]

theorem exists_decimalInt_cons (k : Int) : ∃ c cs, (Text.decimalInt k).toList = c :: cs
    ∧ (c = '-' ∨ Text.isAsciiDigit c = true) := by
  rw [toList_decimalInt]
  split
  · exact ⟨'-', _, rfl, Or.inl rfl⟩
  · obtain ⟨d, ds, hds, hdigit⟩ := exists_digits_cons k.natAbs
    exact ⟨d, ds, hds, Or.inr hdigit⟩

/-- An integer is read back unless it has too many digits. -/
theorem scalar_int (k : Int) (hrest : Delimited rest) :
    scalar ((Text.decimalInt k).toList ++ rest)
      = if integerDigitLimit < (digits k.natAbs).length then
          failAt (.integerTooLong (digits k.natAbs).length) ((Text.decimalInt k).toList ++ rest)
        else .ok (.int k, rest) := by
  obtain ⟨d, ds, hds, hdigit⟩ := exists_digits_cons k.natAbs
  have hother : ∀ {c : Char}, Text.isAsciiDigit c = false → c ≠ d := by
    rintro c hc rfl
    rw [hdigit] at hc
    cases hc
  rw [toList_decimalInt]
  by_cases hk : k < 0
  · have hinfinity : after? "Infinity" (digits k.natAbs ++ rest) = none := by
      rw [hds]
      exact after?_other _ rfl (hother (by decide))
    have hvalue : -(k.natAbs : Int) = k := by omega
    rw [if_pos hk, List.cons_append, scalar, hinfinity]
    dsimp only
    rw [number_digits _ _ _ hrest, if_pos rfl, hvalue]
  · have hnumber := number_digits (digits k.natAbs ++ rest) false k.natAbs hrest
    have hvalue : (k.natAbs : Int) = k := by omega
    rw [if_neg hk]
    rw [hds, List.cons_append] at hnumber ⊢
    rw [scalar, after?_other "null" rfl (hother (by decide)),
      after?_other "true" rfl (hother (by decide)),
      after?_other "false" rfl (hother (by decide)),
      after?_other "NaN" rfl (hother (by decide)),
      after?_other "Infinity" rfl (hother (by decide))]
    · dsimp only
      rw [hnumber, if_neg Bool.false_ne_true, hvalue]
    · exact fun _ h => hother (by decide) (List.cons.inj h).1.symm
    · exact fun _ h => hother (by decide) (List.cons.inj h).1.symm

end

end PatchForge.Json
