import Mathlib.Data.List.TakeWhile
import PatchForge.Proofs.Work.Files
import PatchForge.Version

/-!
# Declared versions

A version is written as three numbers with dots between them, perhaps
followed by the mark and number of a pre-release (`Release`). The version
that a project file declares is the text between quote marks in the first
declaration of the file (`FirstDeclared`), and it counts if it is written
in that way.

The text between quote marks may go on over a line end, and one line feed
after a version is not noticed (`isVersion_iff`). So what is found in a
project file is a version, a version with a line feed after it, or not
known (`current_fallBack`).
-/

namespace PatchForge

open Work Disk

namespace Version

/-! ## How versions are written -/

/-- One or more decimal digits, of any script. -/
def IsNumber (cs : List Char) : Prop := cs ≠ [] ∧ ∀ c ∈ cs, Text.isDigit c = true

/-- The marks of pre-releases. -/
def preReleaseMarks : List String := ["a", "b", "rc"]

/-- The characters are those of a version and no others. -/
inductive Release : List Char → Prop
  | final {x y z : List Char} (hx : IsNumber x) (hy : IsNumber y) (hz : IsNumber z) :
      Release (x ++ '.' :: (y ++ '.' :: z))
  | pre {x y z n : List Char} {mark : String} (hx : IsNumber x) (hy : IsNumber y)
      (hz : IsNumber z) (hmark : mark ∈ preReleaseMarks) (hn : IsNumber n) :
      Release (x ++ '.' :: (y ++ '.' :: (z ++ (mark.toList ++ n))))

/-- A version, or a version and a line feed. -/
def Accepted (value : List Char) : Prop :=
  ∃ release, Release release ∧ (value = release ∨ value = release ++ ['\n'])

theorem IsNumber.not_mem {cs : List Char} (h : IsNumber cs) {c : Char}
    (hc : Text.isDigit c = false) : c ∉ cs := by
  intro hmem
  rw [h.2 c hmem] at hc
  cases hc

/-- A version is on one line. -/
theorem Release.not_mem_lineFeed {cs : List Char} (h : Release cs) : '\n' ∉ cs := by
  have hfeed : Text.isDigit '\n' = false := by decide
  have hdot : '\n' ≠ '.' := by decide
  have hmarks : ∀ mark ∈ preReleaseMarks, '\n' ∉ mark.toList := by decide
  cases h with
  | final hx hy hz => simp [hdot, hx.not_mem hfeed, hy.not_mem hfeed, hz.not_mem hfeed]
  | pre hx hy hz hmark hn =>
      simp [hdot, hx.not_mem hfeed, hy.not_mem hfeed, hz.not_mem hfeed, hn.not_mem hfeed,
        hmarks _ hmark]

/-! ## Reading a version -/

section

variable {cs rest n : List Char} {word : String}

/-- Where a run of characters of a kind ends is determined. -/
theorem dropWhile_run {p : Char → Bool} (hn : ∀ c ∈ n, p c = true)
    (hrest : ∀ c ∈ rest.head?, p c = false) : (n ++ rest).dropWhile p = rest := by
  rw [List.dropWhile_append_of_pos hn]
  cases rest with
  | nil => rfl
  | cons c rest => exact List.dropWhile_cons_of_neg (by simp [hrest c rfl])

theorem afterNumber?_eq_some (h : afterNumber? cs = some rest) :
    ∃ n, IsNumber n ∧ cs = n ++ rest := by
  unfold afterNumber? at h
  split at h
  · rename_i c tail
    split at h
    · rename_i hdigit
      obtain rfl := Option.some.inj h
      refine ⟨(c :: tail).takeWhile Text.isDigit, ⟨?_, ?_⟩, List.takeWhile_append_dropWhile.symm⟩
      · rw [List.takeWhile_cons_of_pos hdigit]
        exact List.cons_ne_nil _ _
      · exact fun d hd => List.mem_takeWhile_imp hd
    · cases h
  · cases h

theorem afterNumber?_append (hn : IsNumber n) (hrest : ∀ c ∈ rest.head?, Text.isDigit c = false) :
    afterNumber? (n ++ rest) = some rest := by
  obtain ⟨hne, hdigits⟩ := hn
  have hdrop := dropWhile_run hdigits hrest
  obtain ⟨c, tail, rfl⟩ := List.exists_cons_of_ne_nil hne
  have hc : Text.isDigit c = true := hdigits c (List.mem_cons_self ..)
  rw [List.cons_append] at hdrop ⊢
  rw [afterNumber?, if_pos hc, hdrop]

theorem after?_eq_some : after? word cs = some rest ↔ cs = word.toList ++ rest := by
  unfold after?
  constructor
  · intro h
    split at h
    · rename_i hword
      obtain ⟨tail, rfl⟩ := List.isPrefixOf_iff_prefix.mp hword
      obtain rfl := Option.some.inj h
      rw [← String.length_toList, List.drop_left]
    · cases h
  · rintro rfl
    rw [if_pos (List.isPrefixOf_iff_prefix.mpr (List.prefix_append ..)), ← String.length_toList,
      List.drop_left]

theorem isEnd_iff : isEnd cs = true ↔ cs = [] ∨ cs = ['\n'] := by
  simp [isEnd]

theorem afterPreRelease?_eq_some (h : afterPreRelease? cs = some rest) :
    ∃ mark n, mark ∈ preReleaseMarks ∧ IsNumber n ∧ cs = mark.toList ++ (n ++ rest) := by
  obtain ⟨tail, hmark, hnumber⟩ := Option.bind_eq_some_iff.mp h
  obtain ⟨n, hn, rfl⟩ := afterNumber?_eq_some hnumber
  rw [Option.or_eq_some_iff, Option.or_eq_some_iff] at hmark
  rcases hmark with ha | ⟨-, hb | ⟨-, hrc⟩⟩
  · exact ⟨"a", n, by decide, hn, after?_eq_some.mp ha⟩
  · exact ⟨"b", n, by decide, hn, after?_eq_some.mp hb⟩
  · exact ⟨"rc", n, by decide, hn, after?_eq_some.mp hrc⟩

theorem afterPreRelease?_append {mark : String} (hmark : mark ∈ preReleaseMarks) (hn : IsNumber n)
    (hrest : ∀ c ∈ rest.head?, Text.isDigit c = false) :
    afterPreRelease? (mark.toList ++ (n ++ rest)) = some rest := by
  have hmarked : ∀ tail, (after? "a" (mark.toList ++ tail)).or
      ((after? "b" (mark.toList ++ tail)).or (after? "rc" (mark.toList ++ tail)))
        = some tail := by
    intro tail
    simp only [preReleaseMarks, List.mem_cons, List.not_mem_nil, or_false] at hmark
    rcases hmark with rfl | rfl | rfl
    · rfl
    · rfl
    · rfl
  rw [afterPreRelease?, hmarked]
  exact afterNumber?_append hn hrest

/-- The text after three numbers with dots between them. -/
def afterRelease? (cs : List Char) : Option (List Char) := do
  let cs ← afterNumber? cs
  let cs ← afterNumber? (← after? "." cs)
  afterNumber? (← after? "." cs)

theorem afterRelease?_eq_some (h : afterRelease? cs = some rest) :
    ∃ x y z, IsNumber x ∧ IsNumber y ∧ IsNumber z
      ∧ cs = x ++ '.' :: (y ++ '.' :: (z ++ rest)) := by
  obtain ⟨first, hfirst, h⟩ := Option.bind_eq_some_iff.mp h
  obtain ⟨dotted, hdotted, h⟩ := Option.bind_eq_some_iff.mp h
  obtain ⟨second, hsecond, h⟩ := Option.bind_eq_some_iff.mp h
  obtain ⟨dotted', hdotted', hthird⟩ := Option.bind_eq_some_iff.mp h
  obtain ⟨x, hx, rfl⟩ := afterNumber?_eq_some hfirst
  obtain rfl := after?_eq_some.mp hdotted
  obtain ⟨y, hy, rfl⟩ := afterNumber?_eq_some hsecond
  obtain rfl := after?_eq_some.mp hdotted'
  obtain ⟨z, hz, rfl⟩ := afterNumber?_eq_some hthird
  exact ⟨x, y, z, hx, hy, hz, rfl⟩

theorem afterRelease?_append {x y z : List Char} (hx : IsNumber x) (hy : IsNumber y)
    (hz : IsNumber z) (hrest : ∀ c ∈ rest.head?, Text.isDigit c = false) :
    afterRelease? (x ++ '.' :: (y ++ '.' :: (z ++ rest))) = some rest := by
  have hdot : ∀ tail : List Char, ∀ c ∈ ('.' :: tail).head?, Text.isDigit c = false := by
    rintro tail c ⟨⟩
    decide
  have hafter : ∀ tail : List Char, after? "." ('.' :: tail) = some tail :=
    fun _ => after?_eq_some.mpr rfl
  unfold afterRelease?
  simp only [afterNumber?_append hx (hdot _), afterNumber?_append hy (hdot _), hafter,
    Option.bind_eq_bind, Option.bind_some]
  exact afterNumber?_append hz hrest

/-- What is at the end of a version is no digit. -/
theorem head_of_isEnd (h : isEnd rest = true) : ∀ c ∈ rest.head?, Text.isDigit c = false := by
  rcases isEnd_iff.mp h with rfl | rfl
  · rintro c ⟨⟩
  · rintro c ⟨⟩
    decide

theorem head_of_mark {mark : String} (hmark : mark ∈ preReleaseMarks) (tail : List Char) :
    ∀ c ∈ (mark.toList ++ tail).head?, Text.isDigit c = false := by
  simp only [preReleaseMarks, List.mem_cons, List.not_mem_nil, or_false] at hmark
  rcases hmark with rfl | rfl | rfl
  all_goals
    rintro c ⟨⟩
    decide

/-- **How versions are read.** What counts as a version is a version, or one with a line feed
after it. -/
theorem isVersion_iff : isVersion cs = true ↔ Accepted cs := by
  have hform : isVersion cs = (afterRelease? cs).any fun rest =>
      isEnd rest || ((afterPreRelease? rest).map isEnd).getD false := by
    unfold isVersion afterRelease?
    dsimp only
    split
    · rename_i hrelease
      rw [hrelease]
      rfl
    · rename_i hrelease
      rw [hrelease]
      rfl
  -- both kinds of ends at once
  have haccepted : Accepted cs ↔ ∃ release rest, Release release ∧ isEnd rest = true
      ∧ cs = release ++ rest := by
    unfold Accepted
    simp only [isEnd_iff]
    constructor
    · rintro ⟨release, h, rfl | rfl⟩
      · exact ⟨_, [], h, Or.inl rfl, (List.append_nil _).symm⟩
      · exact ⟨_, _, h, Or.inr rfl, rfl⟩
    · rintro ⟨release, rest, h, rfl | rfl, rfl⟩
      · exact ⟨release, h, Or.inl (List.append_nil _)⟩
      · exact ⟨release, h, Or.inr rfl⟩
  rw [hform, haccepted]
  constructor
  · intro h
    cases hrelease : afterRelease? cs with
    | none =>
        rw [hrelease] at h
        cases h
    | some rest =>
        rw [hrelease] at h
        obtain ⟨x, y, z, hx, hy, hz, rfl⟩ := afterRelease?_eq_some hrelease
        rcases Bool.or_eq_true_iff.mp h with hend | hpre
        · exact ⟨_, rest, .final hx hy hz, hend, by simp⟩
        · cases hmark : afterPreRelease? rest with
          | none =>
              rw [hmark] at hpre
              cases hpre
          | some last =>
              rw [hmark] at hpre
              obtain ⟨mark, n, hmem, hn, rfl⟩ := afterPreRelease?_eq_some hmark
              exact ⟨_, last, .pre hx hy hz hmem hn, hpre, by simp⟩
  · rintro ⟨release, rest, hrelease, hend, rfl⟩
    cases hrelease with
    | @final x y z hx hy hz =>
        have hread := afterRelease?_append hx hy hz (head_of_isEnd hend)
        have hsplit : (x ++ '.' :: (y ++ '.' :: z)) ++ rest
            = x ++ '.' :: (y ++ '.' :: (z ++ rest)) := by simp
        rw [hsplit, hread]
        exact Bool.or_eq_true_iff.mpr (Or.inl hend)
    | @pre x y z n mark hx hy hz hmark hn =>
        have hread := afterRelease?_append hx hy hz (head_of_mark hmark (n ++ rest))
        have hsplit : (x ++ '.' :: (y ++ '.' :: (z ++ (mark.toList ++ n)))) ++ rest
            = x ++ '.' :: (y ++ '.' :: (z ++ (mark.toList ++ (n ++ rest)))) := by simp
        rw [hsplit, hread]
        refine Bool.or_eq_true_iff.mpr (Or.inr ?_)
        rw [afterPreRelease?_append hmark hn (head_of_isEnd hend)]
        exact hend

end

/-! ## Declarations in a project file -/

/-- One of the marks between which a value stands. -/
def IsQuote (c : Char) : Prop := c = '"' ∨ c = '\''

/-- The characters begin with a declaration of the value. Blanks around the equals sign may be
line ends, and so may characters of the value. -/
inductive Declares : List Char → List Char → Prop
  | intro {blanks blanks' value after : List Char} {q q' : Char}
      (hblanks : ∀ c ∈ blanks, Text.isBlank c = true)
      (hblanks' : ∀ c ∈ blanks', Text.isBlank c = true)
      (hq : IsQuote q) (hq' : IsQuote q') (hne : value ≠ []) (hvalue : ∀ c ∈ value, ¬ IsQuote c) :
      Declares ("version".toList ++ (blanks ++ '=' :: (blanks' ++ q :: (value ++ q' :: after))))
        value

/-- A line starts after these characters. -/
def StartsLine (before : List Char) : Prop := before = [] ∨ ∃ line, before = line ++ ['\n']

/-- The first declaration that starts a line of the text is one of the value. -/
def FirstDeclared (text value : List Char) : Prop :=
  ∃ before rest, text = before ++ rest ∧ StartsLine before ∧ Declares rest value
    ∧ ∀ before' rest' value', text = before' ++ rest' → StartsLine before' →
        before'.length < before.length → ¬ Declares rest' value'

theorem isQuote_iff {c : Char} : declared?.isQuote c = true ↔ IsQuote c := by
  simp [declared?.isQuote, IsQuote]

theorem not_isQuote_iff {c : Char} : (!declared?.isQuote c) = true ↔ ¬ IsQuote c := by
  rw [Bool.not_eq_true', ← Bool.not_eq_true, isQuote_iff]

section

variable {cs value : List Char}

/-- A run of characters of a kind that does not reach the end ends at one of another kind. -/
theorem exists_of_drop_takeWhile {p : Char → Bool} (h : cs.drop (cs.takeWhile p).length ≠ []) :
    ∃ c after, cs = cs.takeWhile p ++ c :: after ∧ p c = false := by
  have hcs := List.takeWhile_append_dropWhile (p := p) (l := cs)
  have hdrop : cs.drop (cs.takeWhile p).length = cs.dropWhile p := by
    have hleft := @List.drop_left _ (cs.takeWhile p) (cs.dropWhile p)
    rwa [hcs] at hleft
  cases hrest : cs.dropWhile p with
  | nil =>
      rw [hdrop, hrest] at h
      exact (h rfl).elim
  | cons c after =>
      have hhead := List.head?_dropWhile_not p cs
      rw [hrest] at hcs hhead
      exact ⟨c, after, hcs.symm, by simpa using hhead⟩

/-- What stands after the name is read to the closing quote mark, and nothing else can be read. -/
theorem declared?_eq_some :
    declared? cs = some value ↔ Declares ("version".toList ++ cs) value := by
  constructor
  · intro h
    unfold declared? at h
    split at h
    · rename_i rest hequals
      split at h
      · rename_i q rest' hquote
        split at h
        · rename_i hq
          dsimp only at h
          split at h
          · cases h
          · rename_i hclosed
            obtain rfl := Option.some.inj h
            rw [Bool.or_eq_true_iff, not_or, List.isEmpty_iff, List.isEmpty_iff] at hclosed
            obtain ⟨hne, hrest⟩ := hclosed
            obtain ⟨q', after, hvalue, hq'⟩ := exists_of_drop_takeWhile hrest
            have hcs : cs = cs.takeWhile Text.isBlank ++ '=' :: rest := by
              rw [← hequals, List.takeWhile_append_dropWhile]
            have hblanks : rest = rest.takeWhile Text.isBlank ++ q :: rest' := by
              rw [← hquote, List.takeWhile_append_dropWhile]
            generalize hread : rest'.takeWhile (fun c => !declared?.isQuote c) = value at hvalue hne
            have hplain : ∀ c ∈ value, ¬ IsQuote c := by
              intro c hc
              rw [← hread] at hc
              exact not_isQuote_iff.mp
                (List.mem_takeWhile_imp (p := fun c => !declared?.isQuote c) hc)
            rw [hcs, hblanks, hvalue]
            refine .intro (fun c hc => List.mem_takeWhile_imp hc)
              (fun c hc => List.mem_takeWhile_imp hc) (isQuote_iff.mp hq) ?_ hne hplain
            exact isQuote_iff.mp (by simpa using hq')
        · cases h
      · cases h
    · cases h
  · generalize htext : "version".toList ++ cs = text
    rintro ⟨hblanks, hblanks', hq, hq', hne, hvalue⟩
    rename_i blanks blanks' after q q'
    obtain rfl := List.append_cancel_left htext
    have hequals : ∀ tail : List Char, (blanks ++ '=' :: tail).dropWhile Text.isBlank
        = '=' :: tail := fun tail => dropWhile_run hblanks (by rintro c ⟨⟩; decide)
    have hquote : ∀ tail : List Char, (blanks' ++ q :: tail).dropWhile Text.isBlank
        = q :: tail := by
      refine fun tail => dropWhile_run hblanks' ?_
      rintro c ⟨⟩
      rcases hq with rfl | rfl
      · decide
      · decide
    have hread : (value ++ q' :: after).takeWhile (fun c => !declared?.isQuote c) = value := by
      rw [List.takeWhile_append_of_pos fun c hc => not_isQuote_iff.mpr (hvalue c hc),
        List.takeWhile_cons_of_neg (by simp [isQuote_iff.mpr hq']), List.append_nil]
    unfold declared?
    simp only [hequals, hquote, isQuote_iff.mpr hq, if_true, hread, List.drop_left]
    rw [if_neg (by simp [hne])]

/-! ## The first declaration -/

/-- A declaration of a value is read at the start of a text exactly if there is one. -/
theorem begun_eq_some :
    (if "version".toList.isPrefixOf cs then declared? (cs.drop "version".length) else none)
      = some value ↔ Declares cs value := by
  constructor
  · intro h
    split at h
    · rename_i hname
      obtain ⟨rest, rfl⟩ := List.isPrefixOf_iff_prefix.mp hname
      exact declared?_eq_some.mp h
    · cases h
  · intro h
    have hname : "version".toList <+: cs := by
      cases h
      exact List.prefix_append ..
    obtain ⟨rest, rfl⟩ := hname
    rw [if_pos (List.isPrefixOf_iff_prefix.mpr (List.prefix_append ..))]
    exact declared?_eq_some.mpr h

/-- Does a line start after these characters, if one started before them or not? -/
def endsLine (atLineStart : Bool) (before : List Char) : Bool :=
  before.foldl (fun _ c => c = '\n') atLineStart

theorem endsLine_iff {before : List Char} : endsLine true before = true ↔ StartsLine before := by
  rcases List.eq_nil_or_concat before with rfl | ⟨line, c, rfl⟩
  · simp [endsLine, StartsLine]
  · rw [List.concat_eq_append, endsLine, List.foldl_append, StartsLine]
    simp

theorem findDeclared?_eq_some : ∀ {text : List Char} {atLineStart : Bool},
    findDeclared? atLineStart text = some value ↔
      ∃ before rest, text = before ++ rest ∧ endsLine atLineStart before = true
        ∧ Declares rest value
        ∧ ∀ before' rest' value', text = before' ++ rest' → endsLine atLineStart before' = true →
            before'.length < before.length → ¬ Declares rest' value'
  | [], atLineStart => by
      constructor
      · intro h
        cases h
      · rintro ⟨before, rest, hnil, -, hdeclares, -⟩
        obtain ⟨-, rfl⟩ := List.append_eq_nil_iff.mp hnil.symm
        cases hdeclares
  | c :: cs, atLineStart => by
      have hhere : ∀ v, (if (atLineStart && "version".toList.isPrefixOf (c :: cs)) = true then
          declared? ((c :: cs).drop "version".length) else none) = some v ↔
            atLineStart = true ∧ Declares (c :: cs) v := by
        intro v
        cases atLineStart with
        | false => simp
        | true =>
            rw [Bool.true_and, begun_eq_some]
            exact (and_iff_right rfl).symm
      rw [findDeclared?, Option.or_eq_some_iff, findDeclared?_eq_some, hhere]
      constructor
      · rintro (⟨hstart, hdeclares⟩ | ⟨hnone, before, rest, rfl, hends, hdeclares, hfirst⟩)
        · exact ⟨[], c :: cs, rfl, hstart, hdeclares, fun _ _ _ _ _ h => (Nat.not_lt_zero _ h).elim⟩
        · refine ⟨c :: before, rest, rfl, hends, hdeclares, ?_⟩
          rintro before' rest' value' htext hends' hshorter hdeclares'
          cases before' with
          | nil =>
              obtain rfl : c :: (before ++ rest) = rest' := htext
              rw [(hhere value').mpr ⟨hends', hdeclares'⟩] at hnone
              cases hnone
          | cons c' before' =>
              obtain ⟨rfl, htail⟩ := List.cons.inj htext
              exact hfirst before' rest' value' htail hends' (Nat.lt_of_succ_lt_succ hshorter)
                hdeclares'
      · rintro ⟨before, rest, htext, hends, hdeclares, hfirst⟩
        cases before with
        | nil =>
            obtain rfl : c :: cs = rest := htext
            exact Or.inl ⟨hends, hdeclares⟩
        | cons c' before =>
            obtain ⟨rfl, rfl⟩ := List.cons.inj htext
            refine Or.inr ⟨?_, before, rest, rfl, hends, hdeclares, ?_⟩
            · refine Option.eq_none_iff_forall_ne_some.mpr fun v hv => ?_
              obtain ⟨hstart, hdeclares'⟩ := (hhere v).mp hv
              exact hfirst [] _ v rfl hstart (Nat.succ_pos _) hdeclares'
            · exact fun before' rest' value' htext hends' hshorter =>
                hfirst (c :: before') rest' value' (congrArg (c :: ·) htext) hends'
                  (Nat.succ_lt_succ hshorter)

/-- The scan finds what is declared first. -/
theorem findDeclared?_iff {text : List Char} :
    findDeclared? true text = some value ↔ FirstDeclared text value := by
  simp only [findDeclared?_eq_some, endsLine_iff, FirstDeclared]

end

theorem ofText_of_accepted {text value : List Char} (hfirst : FirstDeclared text value)
    (haccepted : Accepted value) : ofText (String.ofList text) = String.ofList value := by
  rw [ofText, String.toList_ofList, findDeclared?_iff.mpr hfirst]
  exact if_pos (isVersion_iff.mpr haccepted)

theorem ofText_of_not_accepted {text : List Char}
    (h : ∀ value, FirstDeclared text value → ¬ Accepted value) :
    ofText (String.ofList text) = unknown := by
  rw [ofText, String.toList_ofList]
  cases hfind : findDeclared? true text with
  | none => rfl
  | some value =>
      have hnot := h value (findDeclared?_iff.mp hfind)
      exact if_neg fun hversion => hnot (isVersion_iff.mp hversion)

end Version

/-! ## Falling back to a project file -/

/-- The file at the path has the text, where every line end counts as a line feed. -/
def Workshop.HoldsText (w : Workshop) (file : Path) (text : List Char) : Prop :=
  hasNull file = false ∧ ∃ (place : Place) (s : String), w.disk.follow w.here file = .ok place
    ∧ w.disk.get? place = some (.file s.toUTF8) ∧ text = Text.unifyNewlines s.toList

namespace Version

variable {w w' : Workshop} {file : Path} {text : List Char}

theorem readText_ok : (readText file).run w = (.ok (String.ofList text), w') ↔
    w' = w ∧ w.HoldsText file text := by
  unfold readText Workshop.HoldsText
  simp only [bind_ok, readExact_ok, decodeUtf8_ok]
  constructor
  · rintro ⟨s, w₁, ⟨hnull, rfl, place, bytes, hfollow, hget, hbytes⟩, hpure⟩
    obtain ⟨htext, hw⟩ := Prod.mk.inj hpure
    refine ⟨hw.symm, hnull, place, s, hfollow, hbytes ▸ hget, ?_⟩
    exact (String.ofList_inj.mp (Except.ok.inj htext)).symm
  · rintro ⟨rfl, hnull, place, s, hfollow, hget, rfl⟩
    exact ⟨s, _, ⟨hnull, rfl, place, _, hfollow, hget, rfl⟩, rfl⟩

/-- The version of a project file is that of its text, and unknown if it has none. -/
theorem ofFile_run (file : Path) (w : Workshop) :
    (∃ text, w.HoldsText file text ∧ (ofFile file).run w = (.ok (ofText (String.ofList text)), w))
      ∨ (∀ text, ¬ w.HoldsText file text) ∧ (ofFile file).run w = (.ok unknown, w) := by
  have hreads : Meets (.keeping fun w => w) (readText file) := meets_readText keeping_files file
  have hasks : Meets (.keeping fun w => w) (exists? file) := meets_exists keeping_files file
  cases hread : (readText file).run w with
  | mk result w₁ =>
      cases result with
      | ok s =>
          have htext : (readText file).run w = (.ok (String.ofList s.toList), w₁) := by
            rw [hread, String.ofList_toList]
          obtain ⟨rfl, hholds⟩ := readText_ok.mp htext
          obtain ⟨hnull, place, bytes, hfollow, hget, -⟩ := id hholds
          have hthere : (exists? file).run w₁ = (.ok true, w₁) := by
            rw [exists?_of_follow hnull hfollow, hget]
            rfl
          refine Or.inl ⟨s.toList, hholds, ?_⟩
          rw [ofFile, run_bind, run_tryCatch, run_bind, hthere, String.ofList_toList]
          simp only [if_true]
          rw [run_bind, hread]
          rfl
      | error f =>
          have hnot : ∀ text, ¬ w.HoldsText file text := by
            intro text hholds
            rw [readText_ok.mpr ⟨rfl, hholds⟩] at hread
            cases hread
          obtain rfl : w₁ = w := hreads.error hread
          refine Or.inr ⟨hnot, ?_⟩
          rw [ofFile, run_bind, run_tryCatch, run_bind, run_of_keeping hasks]
          rcases ((exists? file).run w₁).1 with f' | there
          · rfl
          · cases there with
            | false => rfl
            | true =>
                simp only [if_true]
                rw [run_bind, hread]
                rfl

/-- **Versions of a checkout.** With no version built in and none installed, the tool always says
some version, and nothing is touched. Either it is the value that the project file declares first,
which is then a version or a version with one line feed after it, or it is not known, because the
file has no text or declares no such value. A value that does not end with a line feed is a
version and nothing else. -/
theorem current_fallBack {builtIn : Option String} (hbuilt : builtIn.getD "" = "") (file : Path)
    (w : Workshop) :
    ∃ v, (current builtIn none file).run w = (.ok v, w)
      ∧ (v = unknown ∧ (∀ text value, w.HoldsText file text → FirstDeclared text value →
            ¬ Accepted value)
          ∨ (∃ text, w.HoldsText file text ∧ FirstDeclared text v.toList) ∧ Accepted v.toList)
      ∧ (v.toList.getLast? ≠ some '\n' → v = unknown ∨ Release v.toList) := by
  have hcurrent : current builtIn none file = ofFile file := by
    cases builtIn with
    | none => rfl
    | some v =>
        obtain rfl : v = "" := hbuilt
        rfl
  have hends : ∀ v : String, Accepted v.toList → v.toList.getLast? ≠ some '\n' →
      Release v.toList := by
    rintro v ⟨release, hrelease, hv | hv⟩ hlast
    · rwa [hv]
    · rw [hv, List.getLast?_concat] at hlast
      exact (hlast rfl).elim
  rw [hcurrent]
  rcases ofFile_run file w with ⟨text, hholds, hrun⟩ | ⟨hnone, hrun⟩
  · rw [hrun]
    refine ⟨_, rfl, ?_⟩
    by_cases hfound : ∃ value, FirstDeclared text value ∧ Accepted value
    · obtain ⟨value, hfirst, haccepted⟩ := hfound
      rw [ofText_of_accepted hfirst haccepted]
      have hvalue : (String.ofList value).toList = value := String.toList_ofList
      refine ⟨Or.inr ⟨⟨text, hholds, ?_⟩, ?_⟩, fun hlast => Or.inr (hends _ ?_ hlast)⟩
      all_goals rwa [hvalue]
    · have hnot : ∀ value, FirstDeclared text value → ¬ Accepted value :=
        fun value hfirst haccepted => hfound ⟨value, hfirst, haccepted⟩
      rw [ofText_of_not_accepted hnot]
      refine ⟨Or.inl ⟨rfl, fun text' value hholds' => ?_⟩, fun _ => Or.inl rfl⟩
      have hread := readText_ok.mpr ⟨rfl, hholds⟩
      rw [readText_ok.mpr ⟨rfl, hholds'⟩] at hread
      obtain rfl : text' = text := String.ofList_inj.mp (Except.ok.inj (Prod.mk.inj hread).1)
      exact hnot value
  · rw [hrun]
    refine ⟨_, rfl, Or.inl ⟨rfl, fun text value hholds => (hnone text hholds).elim⟩,
      fun _ => Or.inl rfl⟩

/-! ### Two checkouts -/

def projectFile : Path := ⟨.top, ["pyproject.toml"]⟩

/-- A checkout with nothing but the project file. -/
def checkout (text : String) : Workshop :=
  { (default : Workshop) with disk := ⟨[(["pyproject.toml"], .file text.toUTF8)]⟩ }

theorem current_fallBack_checkout :
    (some "").getD "" = ""
      ∧ (current (some "") none projectFile).run
          (checkout "[project]\r\nname = 'patch'\r\nversion\t= \"0.3.0rc1'\r\n")
        = (.ok "0.3.0rc1",
          checkout "[project]\r\nname = 'patch'\r\nversion\t= \"0.3.0rc1'\r\n")
      ∧ Release "0.3.0rc1".toList := by
  have hresult : ((current (some "") none projectFile).run
      (checkout "[project]\r\nname = 'patch'\r\nversion\t= \"0.3.0rc1'\r\n")).1.toOption
        = some "0.3.0rc1" := by decide +kernel
  obtain ⟨v, hrun, -, hrelease⟩ := @current_fallBack (some "") rfl projectFile
    (checkout "[project]\r\nname = 'patch'\r\nversion\t= \"0.3.0rc1'\r\n")
  rw [hrun] at hresult
  obtain rfl : v = "0.3.0rc1" := Option.some.inj hresult
  exact ⟨rfl, hrun, (hrelease (by decide)).resolve_left (by decide)⟩

/-- The closing quote mark on the next line is enough for a version that is none. -/
theorem current_across_lines : ∃ v,
    (current none none projectFile).run (checkout "version = \"1.2.3\n\"\n")
        = (.ok v, checkout "version = \"1.2.3\n\"\n")
      ∧ v ≠ unknown ∧ ¬ Release v.toList := by
  have hresult : ((current none none projectFile).run
      (checkout "version = \"1.2.3\n\"\n")).1.toOption = some "1.2.3\n" := by decide +kernel
  have hsame : ((current none none projectFile).run (checkout "version = \"1.2.3\n\"\n")).2
      = checkout "version = \"1.2.3\n\"\n" := by
    rcases ofFile_run projectFile (checkout "version = \"1.2.3\n\"\n") with ⟨_, -, hrun⟩ | ⟨-, hrun⟩
    · exact congrArg Prod.snd hrun
    · exact congrArg Prod.snd hrun
  refine ⟨"1.2.3\n", ?_, by decide, fun h => h.not_mem_lineFeed (by decide)⟩
  rw [run_of_result hresult, hsame]

end Version

end PatchForge
