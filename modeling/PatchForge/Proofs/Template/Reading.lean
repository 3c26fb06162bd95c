import PatchForge.Template

/-!
# Template texts as characters and tokens

What substitution should do is said without a scan: a template text is
read as a list of pieces, each a character or the token of a name that
is looked for, so that every occurrence of such a token is a piece of its
own (`Reads`). The result is then the same list with each token filled.

Where no name holds a brace, tokens cannot overlap
(`not_inside_token`), so every text has such a reading (`exists_reads`)
and only one (`reads_unique`), and a scan from the left finds it
(`substitute_of_reads`). With braces in names this fails: of two tokens
that overlap only one can be replaced.
-/

namespace PatchForge.Template

/-- A part of a template text. -/
inductive Piece where
  | char (c : Char)
  | token (name : String)
  deriving DecidableEq, Repr

/-- A piece as it stands in the text. -/
def Piece.written : Piece → List Char
  | .char c => [c]
  | .token name => Template.token name.toList

/-- A piece with its token replaced. -/
def Piece.filled (value : String → String) : Piece → List Char
  | .char c => [c]
  | .token name => (value name).toList

def written (pieces : List Piece) : List Char :=
  pieces.flatMap Piece.written

def filled (value : String → String) (pieces : List Piece) : List Char :=
  pieces.flatMap (Piece.filled value)

/-- The pieces make up the text, and its tokens of the names are exactly the token pieces. -/
structure Reads (names : List String) (text : List Char) (pieces : List Piece) : Prop where
  spells : written pieces = text
  live : ∀ name, .token name ∈ pieces → name ∈ names
  complete : ∀ name ∈ names, ∀ before after, text = before ++ token name.toList ++ after →
    ∃ l r, pieces = l ++ .token name :: r ∧ written l = before

def BraceFree (name : String) : Prop :=
  '\x7b' ∉ name.toList ∧ '\x7d' ∉ name.toList

@[simp] theorem written_cons (p : Piece) (pieces : List Piece) :
    written (p :: pieces) = p.written ++ written pieces := rfl

@[simp] theorem filled_cons (value : String → String) (p : Piece) (pieces : List Piece) :
    filled value (p :: pieces) = p.filled value ++ filled value pieces := rfl

theorem piece_written_ne_nil : ∀ p : Piece, p.written ≠ []
  | .char _ => List.cons_ne_nil _ _
  | .token _ => List.cons_ne_nil _ _

theorem written_eq_nil {pieces : List Piece} (h : written pieces = []) : pieces = [] := by
  cases pieces with
  | nil => rfl
  | cons p pieces => exact (piece_written_ne_nil p (List.append_eq_nil_iff.mp h).1).elim

theorem filled_congr {value value' : String → String} {pieces : List Piece}
    (h : ∀ name, .token name ∈ pieces → value name = value' name) :
    filled value pieces = filled value' pieces := by
  induction pieces with
  | nil => rfl
  | cons p pieces ih =>
      rw [filled_cons, filled_cons, ih fun name hn => h name (List.mem_cons_of_mem _ hn)]
      cases p with
      | char c => rfl
      | token name => rw [Piece.filled, Piece.filled, h name (List.mem_cons_self ..)]

/-- Only which names there are matters. -/
theorem Reads.congr {names names' : List String} {text : List Char} {pieces : List Piece}
    (h : Reads names text pieces) (hsame : ∀ name, name ∈ names ↔ name ∈ names') :
    Reads names' text pieces where
  spells := h.spells
  live name hmem := (hsame name).mp (h.live name hmem)
  complete name hn := h.complete name ((hsame name).mpr hn)

/-! ## Tokens do not overlap -/

/-- What stands before the first occurrence of a mark is determined. -/
theorem before_mark {c : Char} : ∀ {m n r s : List Char}, c ∉ m → c ∉ n →
    m ++ c :: r = n ++ c :: s → m = n
  | [], [], _, _, _, _, _ => rfl
  | [], x :: n, _, _, _, hn, h => by
      cases h
      exact (hn (List.mem_cons_self ..)).elim
  | x :: m, [], _, _, hm, _, h => by
      cases h
      exact (hm (List.mem_cons_self ..)).elim
  | x :: m, y :: n, r, s, hm, hn, h => by
      obtain ⟨rfl, htail⟩ := List.cons.inj h
      rw [before_mark (fun hx => hm (List.mem_cons_of_mem _ hx))
        (fun hx => hn (List.mem_cons_of_mem _ hx)) htail]

/-- At one place stands the token of at most one name. -/
theorem token_name_unique {m n : String} {r s : List Char} (hm : BraceFree m)
    (hn : BraceFree n) (h : token m.toList ++ r = token n.toList ++ s) : m = n := by
  simp only [token, List.cons_append, List.append_assoc, List.cons.injEq, true_and,
    List.nil_append] at h
  exact String.toList_inj.mp (before_mark hm.2 hn.2 h)

/-- No token begins inside another one. -/
theorem not_inside_token {m n : String} {before after r : List Char} (hm : BraceFree m)
    (h : token m.toList ++ r = before ++ token n.toList ++ after) (hne : before ≠ []) :
    ∃ between, before = token m.toList ++ between
      ∧ r = between ++ token n.toList ++ after := by
  rw [List.append_assoc, List.append_eq_append_iff] at h
  rcases h with ⟨between, hbefore, hr⟩ | ⟨inside, htoken, hafter⟩
  · exact ⟨between, hbefore, by rw [hr, List.append_assoc]⟩
  · cases inside with
    | nil =>
        refine ⟨[], by rw [htoken, List.append_nil, List.append_nil], ?_⟩
        exact hafter.symm
    | cons c inside =>
        -- the second token opens with two braces, and at least one of them falls into the name
        have hbrace : '\x7b' ∈ m.toList ++ ['\x7d', '\x7d'] := by
          obtain ⟨b, before, rfl⟩ := List.exists_cons_of_ne_nil hne
          obtain ⟨-, htail⟩ := List.cons.inj htoken
          obtain ⟨hc, hrest⟩ := List.cons.inj hafter
          cases before with
          | nil =>
              have hname : m.toList ++ ['\x7d', '\x7d'] = inside := (List.cons.inj htail).2
              rw [hname]
              cases inside with
              | nil => simp at hname
              | cons c' inside =>
                  obtain ⟨rfl, -⟩ := List.cons.inj hrest
                  exact List.mem_cons_self ..
          | cons b' before =>
              have hname : m.toList ++ ['\x7d', '\x7d'] = before ++ c :: inside :=
                (List.cons.inj htail).2
              rw [hname, ← hc]
              exact List.mem_append_right _ (List.mem_cons_self ..)
        rcases List.mem_append.mp hbrace with hname | hclose
        · exact (hm.1 hname).elim
        · simp at hclose

/-! ## Readings piece by piece -/

variable {names : List String} {text : List Char} {pieces : List Piece}

theorem reads_nil : Reads names [] [] where
  spells := rfl
  live := nofun
  complete _ _ before after h := by
    have hlength := congrArg List.length h
    simp [token] at hlength

theorem Reads.cons_char {c : Char} (h : Reads names text pieces)
    (hno : ∀ name ∈ names, ¬ token name.toList <+: c :: text) :
    Reads names (c :: text) (.char c :: pieces) where
  spells := by rw [written_cons, h.spells]; rfl
  live name hmem := h.live name (by simpa using hmem)
  complete name hn before after htext := by
    cases before with
    | nil => exact (hno name hn ⟨after, htext.symm⟩).elim
    | cons b before =>
        obtain ⟨rfl, htail⟩ := List.cons.inj htext
        obtain ⟨l, r, rfl, rfl⟩ := h.complete name hn before after htail
        exact ⟨.char c :: l, r, rfl, rfl⟩

theorem Reads.cons_token {name : String} (h : Reads names text pieces)
    (hnames : ∀ n ∈ names, BraceFree n) (hname : name ∈ names) :
    Reads names (token name.toList ++ text) (.token name :: pieces) where
  spells := by rw [written_cons, h.spells]; rfl
  live n hmem := by
    rcases List.mem_cons.mp hmem with heq | hmem
    · cases heq
      exact hname
    · exact h.live n hmem
  complete n hn before after htext := by
    by_cases hbefore : before = []
    · subst hbefore
      rw [List.nil_append] at htext
      obtain rfl := token_name_unique (hnames name hname) (hnames n hn) htext
      exact ⟨[], pieces, rfl, rfl⟩
    · obtain ⟨between, rfl, htail⟩ := not_inside_token (hnames name hname) htext hbefore
      obtain ⟨l, r, rfl, rfl⟩ := h.complete n hn between after htail
      exact ⟨.token name :: l, r, rfl, rfl⟩

/-- A reading goes on as a reading of what is left. -/
theorem Reads.tail {p : Piece} (h : Reads names text (p :: pieces)) :
    ∃ rest, text = p.written ++ rest ∧ Reads names rest pieces := by
  refine ⟨written pieces, h.spells.symm, rfl, ?_, ?_⟩
  · exact fun name hmem => h.live name (List.mem_cons_of_mem _ hmem)
  · intro name hn before after htail
    obtain ⟨l, r, hpieces, hl⟩ := h.complete name hn (p.written ++ before) after
      (by rw [← h.spells, written_cons, htail]; simp only [List.append_assoc])
    cases l with
    | nil => exact (piece_written_ne_nil p (List.append_eq_nil_iff.mp hl.symm).1).elim
    | cons q l =>
        obtain ⟨rfl, rfl⟩ := List.cons.inj hpieces
        exact ⟨l, r, rfl, List.append_cancel_left hl⟩

/-- Where a token stands, a reading has the token's piece. -/
theorem Reads.head {name : String} {after : List Char} {p : Piece}
    (h : Reads names text (p :: pieces)) (hn : name ∈ names)
    (htext : text = token name.toList ++ after) : p = .token name := by
  obtain ⟨l, r, hpieces, hl⟩ := h.complete name hn [] after htext
  obtain rfl := written_eq_nil hl
  exact (List.cons.inj hpieces).1

/-- Every text has a reading. -/
theorem exists_reads (hnames : ∀ n ∈ names, BraceFree n) (text : List Char) :
    ∃ pieces, Reads names text pieces := by
  induction hlen : text.length using Nat.strongRecOn generalizing text with
  | ind len ih =>
      cases text with
      | nil => exact ⟨[], reads_nil⟩
      | cons c cs =>
          by_cases htoken : ∃ n ∈ names, token n.toList <+: c :: cs
          · obtain ⟨n, hn, rest, hrest⟩ := htoken
            have hless : rest.length < len := by
              rw [← hlen, ← hrest, List.length_append, token, List.length_append]
              simp only [List.length_cons]
              omega
            obtain ⟨pieces, hpieces⟩ := ih rest.length hless rest rfl
            refine ⟨.token n :: pieces, ?_⟩
            rw [← hrest]
            exact hpieces.cons_token hnames hn
          · obtain ⟨pieces, hpieces⟩ := ih cs.length (by simp [← hlen]) cs rfl
            refine ⟨.char c :: pieces, hpieces.cons_char fun n hn hprefix => ?_⟩
            exact htoken ⟨n, hn, hprefix⟩

/-- A text has one reading. -/
theorem reads_unique : ∀ {pieces pieces' : List Piece} {text : List Char},
    Reads names text pieces → Reads names text pieces' → pieces = pieces'
  | [], pieces', text, h, h' => by
      have hempty : written pieces' = [] := h'.spells.trans h.spells.symm
      exact (written_eq_nil hempty).symm
  | p :: pieces, [], text, h, h' => by
      have hempty : written (p :: pieces) = [] := h.spells.trans h'.spells.symm
      exact written_eq_nil hempty
  | p :: pieces, q :: pieces', text, h, h' => by
      obtain ⟨rest, htext, hrest⟩ := h.tail
      obtain ⟨rest', htext', hrest'⟩ := h'.tail
      obtain rfl : p = q := by
        cases p with
        | token n => exact (h'.head (h.live n (List.mem_cons_self ..)) htext).symm
        | char c =>
            cases q with
            | token n => exact h.head (h'.live n (List.mem_cons_self ..)) htext'
            | char c' =>
                obtain ⟨rfl, -⟩ := List.cons.inj (htext.symm.trans htext')
                rfl
      obtain rfl : rest = rest' := List.append_cancel_left (htext.symm.trans htext')
      rw [reads_unique hrest hrest']

/-! ## The scan finds it -/

/-- Characters of a replaced token are passed over. -/
theorem substituteFrom_skip (values : List (List Char × List Char)) (rest : List Char) :
    ∀ skipped : List Char,
      substituteFrom values skipped.length (skipped ++ rest) = substituteFrom values 0 rest
  | [] => rfl
  | _ :: skipped => substituteFrom_skip values rest skipped

def charValues (values : Dict String String) : List (List Char × List Char) :=
  values.map fun e => (e.1.toList, e.2.toList)

theorem match?_of_no_token {values : Dict String String} {text : List Char}
    (hno : ∀ name ∈ values.keys, ¬ token name.toList <+: text) :
    match? (charValues values) text = none := by
  rw [match?, Option.map_eq_none_iff, List.find?_eq_none]
  intro e he hprefix
  obtain ⟨entry, hentry, rfl⟩ := List.mem_map.mp he
  exact hno entry.1 (List.mem_map.mpr ⟨entry, hentry, rfl⟩) (List.isPrefixOf_iff_prefix.mp hprefix)

/-- At a token the scan finds the value that is looked up. -/
theorem match?_token {name : String} (rest : List Char) : ∀ {values : Dict String String},
    (∀ n ∈ values.keys, BraceFree n) → name ∈ values.keys →
      match? (charValues values) (token name.toList ++ rest)
        = some ((token name.toList).length, ((values.get? name).getD "").toList)
  | (k, v) :: values, hnames, hname => by
      by_cases hk : name = k
      · subst hk
        have hhere : (token name.toList).isPrefixOf (token name.toList ++ rest) = true :=
          List.isPrefixOf_iff_prefix.mpr (List.prefix_append _ _)
        simp [match?, charValues, hhere, Dict.get?_cons]
      · have hother : ¬ (token k.toList).isPrefixOf (token name.toList ++ rest) = true := by
          intro hprefix
          obtain ⟨s, hs⟩ := List.isPrefixOf_iff_prefix.mp hprefix
          exact hk (token_name_unique (hnames name hname)
            (hnames k (List.mem_cons_self ..)) hs.symm)
        have hlater : name ∈ Dict.keys values :=
          (List.mem_cons.mp hname).resolve_left hk
        have ih := match?_token rest
          (fun n hn => hnames n (List.mem_cons_of_mem _ hn)) hlater
        rw [Dict.get?_cons, if_neg (by simpa using hk), ← ih]
        simp [match?, charValues, hother]

theorem substituteFrom_of_reads {values : Dict String String}
    (hnames : ∀ n ∈ values.keys, BraceFree n) :
    ∀ {pieces : List Piece} {text : List Char}, Reads values.keys text pieces →
      substituteFrom (charValues values) 0 text
        = filled (fun name => (values.get? name).getD "") pieces
  | [], text, h => by
      rw [← h.spells]
      rfl
  | .char c :: pieces, text, h => by
      obtain ⟨rest, rfl, hrest⟩ := h.tail
      have hno : ∀ name ∈ values.keys, ¬ token name.toList <+: c :: rest := by
        rintro name hn ⟨after, hafter⟩
        exact Piece.noConfusion (h.head hn hafter.symm)
      show substituteFrom _ 0 (c :: rest) = c :: filled _ pieces
      rw [substituteFrom, match?_of_no_token hno, ← substituteFrom_of_reads hnames hrest]
  | .token name :: pieces, text, h => by
      obtain ⟨rest, rfl, hrest⟩ := h.tail
      have hmatch := match?_token rest hnames (h.live name (List.mem_cons_self ..))
      obtain ⟨c, cs, hcs⟩ : ∃ c cs, token name.toList = c :: cs := ⟨_, _, rfl⟩
      rw [filled_cons, Piece.written, Piece.filled, ← substituteFrom_of_reads hnames hrest]
      rw [hcs] at hmatch ⊢
      rw [List.cons_append] at hmatch ⊢
      rw [substituteFrom, hmatch]
      exact congrArg _ (substituteFrom_skip _ rest cs)

/-- **Substitution.** Where no name holds a brace, every occurrence of a token is replaced by
its value and all else stays. -/
theorem substitute_of_reads {values : Dict String String} {text : String} {pieces : List Piece}
    (hnames : ∀ n ∈ values.keys, BraceFree n) (h : Reads values.keys text.toList pieces) :
    substitute text values
      = String.ofList (filled (fun name => (values.get? name).getD "") pieces) := by
  rw [← substituteFrom_of_reads hnames h]
  rfl

end PatchForge.Template
