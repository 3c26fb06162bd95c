import PatchForge.Proofs.Dict.Merge
import PatchForge.Proofs.Template.Reading

/-!
# Templates put together from literals and tokens

Someone who writes a template has literals and tokens in mind, not
characters. Put together, the parts may look like something else: two
literals side by side can make up a token that is in neither. Where the
literals are taken as long as they go, from one token to the next
(`literals`), and none of these holds a token that is looked for, there is
nothing else to be found: a token of brace-free names that begins in a
literal also ends in it (`Reads.literal`). Then substitution does part by
part what the writer expects, in whatever order the values are listed
(`substitute_segments`).
-/

namespace PatchForge.Template

/-- A part of a template as it was meant. -/
inductive Segment where
  | literal (text : String)
  | token (name : String)
  deriving DecidableEq, Repr

def Segment.written : Segment → List Char
  | .literal text => text.toList
  | .token name => Template.token name.toList

def Segment.pieces : Segment → List Piece
  | .literal text => text.toList.map .char
  | .token name => [.token name]

/-- The text of a template that is put together from its parts. -/
def spelled (segments : List Segment) : String :=
  String.ofList (segments.flatMap Segment.written)

/-- The literals between the tokens, each as long as it goes, where `run` has been read of the
first one. -/
def literalsFrom (run : List Char) : List Segment → List (List Char)
  | [] => [run]
  | .literal text :: rest => literalsFrom (run ++ text.toList) rest
  | .token _ :: rest => run :: literalsFrom [] rest

def literals (segments : List Segment) : List (List Char) := literalsFrom [] segments

/-- What becomes of a part: a literal stays, a token gives way to a value of its name. -/
inductive Replaced (values : Dict String String) : Segment → String → Prop
  | literal (text : String) : Replaced values (.literal text) text
  | token {name value : String} (h : (name, value) ∈ values) :
      Replaced values (.token name) value

/-! ## The parts are the reading -/

theorem filled_chars (value : String → String) (cs : List Char) :
    filled value (cs.map .char) = cs := by
  induction cs with
  | nil => rfl
  | cons c cs ih => exact congrArg (c :: ·) ih

variable {names : List String}

/-- A literal is read as its characters where no token lies in it and what follows is nothing or
a token: no token begins in the literal and ends after it. -/
theorem Reads.literal (hnames : ∀ n ∈ names, BraceFree n) {rest : List Char}
    {pieces : List Piece} (hrest : Reads names rest pieces)
    (hnext : rest = [] ∨ ∃ name after, rest = token name ++ after) :
    ∀ {run : List Char}, (∀ n ∈ names, ¬ token n.toList <:+: run) →
      Reads names (run ++ rest) (run.map .char ++ pieces)
  | [], _ => hrest
  | c :: run, hno => by
      have hlater : ∀ n ∈ names, ¬ token n.toList <:+: run :=
        fun n hn h => hno n hn (List.infix_cons h)
      refine (Reads.literal hnames hrest hnext hlater).cons_char fun n hn hprefix => ?_
      obtain ⟨after, hafter⟩ := hprefix
      refine hno n hn ?_
      rcases hnext with rfl | ⟨name, follows, rfl⟩
      · rw [List.append_nil] at hafter
        exact ⟨[], after, hafter⟩
      · have hsplit : token n.toList ++ after
            = (c :: run) ++ token name ++ follows := by
          rw [hafter, List.append_assoc, List.cons_append]
        obtain ⟨between, hrun, -⟩ := not_inside_token (hnames n hn)
          (n := String.ofList name) (by rw [String.toList_ofList]; exact hsplit)
          (List.cons_ne_nil c run)
        exact ⟨[], between, hrun.symm⟩

theorem reads_segments (hnames : ∀ n ∈ names, BraceFree n) :
    ∀ (segments : List Segment) (run : List Char),
      (∀ name, .token name ∈ segments → name ∈ names) →
      (∀ text ∈ literalsFrom run segments, ∀ n ∈ names, ¬ token n.toList <:+: text) →
      Reads names (run ++ segments.flatMap Segment.written)
        (run.map .char ++ segments.flatMap Segment.pieces)
  | [], run, _, hno =>
      reads_nil.literal hnames (Or.inl rfl) (hno run (List.mem_singleton.mpr rfl))
  | .literal text :: rest, run, hlive, hno => by
      have hjoined := reads_segments hnames rest (run ++ text.toList)
        (fun name h => hlive name (List.mem_cons_of_mem _ h)) hno
      rw [List.map_append, List.append_assoc, List.append_assoc] at hjoined
      exact hjoined
  | .token name :: rest, run, hlive, hno => by
      obtain ⟨hrun, hlater⟩ := List.forall_mem_cons.mp hno
      have htail : Reads names (rest.flatMap Segment.written) (rest.flatMap Segment.pieces) :=
        reads_segments hnames rest [] (fun name h => hlive name (List.mem_cons_of_mem _ h)) hlater
      have htoken := htail.cons_token hnames (hlive name (List.mem_cons_self ..))
      exact htoken.literal hnames (Or.inr ⟨_, _, rfl⟩) hrun

/-! ## Part by part -/

/-- The part with the value that is looked up. -/
def Segment.replacedBy (values : Dict String String) : Segment → String
  | .literal text => text
  | .token name => (values.get? name).getD ""

theorem filled_segments (values : Dict String String) (segments : List Segment) :
    String.ofList (filled (fun name => (values.get? name).getD "")
        (segments.flatMap Segment.pieces))
      = String.join (segments.map (Segment.replacedBy values)) := by
  induction segments with
  | nil => rfl
  | cons s segments ih =>
      rw [List.flatMap_cons, List.map_cons, String.join_cons, ← ih, filled, List.flatMap_append,
        String.ofList_append]
      refine congrArg (· ++ _) ?_
      cases s with
      | literal text =>
          exact (congrArg String.ofList (filled_chars _ _)).trans (String.ofList_toList ..)
      | token name =>
          show String.ofList ((((values.get? name).getD "").toList) ++ []) = _
          rw [List.append_nil, String.ofList_toList]
          rfl

/-- What a part becomes is determined where the names are distinct. -/
theorem Replaced.eq_replacedBy {values : Dict String String} (hdistinct : values.keys.Nodup)
    {s : Segment} {part : String} (h : Replaced values s part) :
    part = s.replacedBy values := by
  cases h with
  | literal text => rfl
  | token h => rw [Segment.replacedBy, (Dict.get?_eq_some_iff hdistinct).mpr h, Option.getD_some]

theorem replaced_parts {values : Dict String String} (hdistinct : values.keys.Nodup)
    {segments : List Segment} {parts : List String}
    (h : List.Forall₂ (Replaced values) segments parts) :
    parts = segments.map (Segment.replacedBy values)
      ∧ ∀ name, .token name ∈ segments → name ∈ values.keys := by
  induction h with
  | nil => exact ⟨rfl, by simp⟩
  | @cons s part segments parts hs _ ih =>
      obtain ⟨hparts, hlive⟩ := ih
      refine ⟨?_, fun name hname => ?_⟩
      · rw [List.map_cons, hparts, hs.eq_replacedBy hdistinct]
      · rcases List.mem_cons.mp hname with rfl | hname
        · cases hs with
          | token h => exact List.mem_map.mpr ⟨_, h, rfl⟩
        · exact hlive name hname

/-- **Tokens and nothing else.** A template is put together from literals and tokens of names
without braces, and no literal, taken as long as it goes, holds the token of a name that has a
value. Then substitution leaves the literals and puts the value of its name in the place of each
token, as it stands, whatever tokens the value holds; and the order in which the values are
listed does not matter. -/
theorem substitute_segments {values : Dict String String} {segments : List Segment}
    {parts : List String} (hdistinct : values.keys.Nodup)
    (hnames : ∀ n ∈ values.keys, BraceFree n)
    (hliteral : ∀ text ∈ literals segments, ∀ n ∈ values.keys, ¬ token n.toList <:+: text)
    (hparts : List.Forall₂ (Replaced values) segments parts) :
    ∀ values' : Dict String String, values'.Perm values →
      substitute (spelled segments) values' = String.join parts := by
  intro values' hperm
  obtain ⟨rfl, hlive⟩ := replaced_parts hdistinct hparts
  have hkeys : ∀ n, n ∈ values.keys ↔ n ∈ values'.keys :=
    fun n => (hperm.symm.map Prod.fst).mem_iff
  have hreads : Reads values'.keys (spelled segments).toList
      (segments.flatMap Segment.pieces) := by
    rw [spelled, String.toList_ofList]
    exact (reads_segments hnames segments [] hlive hliteral).congr hkeys
  rw [substitute_of_reads (fun n hn => hnames n ((hkeys n).mpr hn)) hreads]
  have hsame : ∀ name, Dict.get? values' name = values.get? name :=
    fun name => (Dict.get?_perm hdistinct hperm.symm name).symm
  simp only [hsame]
  exact filled_segments values segments

/-! ### Values that look like tokens -/

/-- Each of the first two values is the token of the other, and one name is empty. -/
def crossedValues : Dict String String :=
  [("A", "\x7b\x7bAB\x7d\x7d"), ("AB", "\x7b\x7bA\x7d\x7d"), ("", "")]

/-- Literals that end in the middle of a token, one of them in two parts. -/
def crossedSegments : List Segment :=
  [.literal "\x7b\x7bA", .literal "\x7d", .token "A", .literal "\x7d\x7b\x7bX\x7d\x7d", .token "",
    .token "AB"]

def crossedParts : List String :=
  ["\x7b\x7bA", "\x7d", "\x7b\x7bAB\x7d\x7d", "\x7d\x7b\x7bX\x7d\x7d", "", "\x7b\x7bA\x7d\x7d"]

theorem substitute_segments_crossed :
    crossedValues.keys.Nodup
      ∧ (∀ n ∈ crossedValues.keys, BraceFree n)
      ∧ (∀ text ∈ literals crossedSegments, ∀ n ∈ crossedValues.keys,
          ¬ token n.toList <:+: text)
      ∧ List.Forall₂ (Replaced crossedValues) crossedSegments crossedParts
      ∧ substitute ("\x7b\x7bA\x7d\x7b\x7bA\x7d\x7d\x7d\x7b\x7bX\x7d\x7d"
            ++ "\x7b\x7b\x7d\x7d\x7b\x7bAB\x7d\x7d") (List.reverse crossedValues)
        = "\x7b\x7bA\x7d\x7b\x7bAB\x7d\x7d\x7d\x7b\x7bX\x7d\x7d\x7b\x7bA\x7d\x7d" := by
  have hdistinct : crossedValues.keys.Nodup := by decide
  have hnames : ∀ n ∈ crossedValues.keys, BraceFree n := by
    intro n hn
    simp only [crossedValues, Dict.keys, List.map_cons, List.map_nil, List.mem_cons,
      List.not_mem_nil, or_false] at hn
    rcases hn with rfl | rfl | rfl <;> exact ⟨by decide, by decide⟩
  have hliteral : ∀ text ∈ literals crossedSegments, ∀ n ∈ crossedValues.keys,
      ¬ token n.toList <:+: text := by decide +kernel
  have hparts : List.Forall₂ (Replaced crossedValues) crossedSegments crossedParts :=
    .cons (.literal _) <| .cons (.literal _) <| .cons (.token (by decide)) <|
      .cons (.literal _) <| .cons (.token (by decide)) <| .cons (.token (by decide)) .nil
  refine ⟨hdistinct, hnames, hliteral, hparts, ?_⟩
  exact substitute_segments hdistinct hnames hliteral hparts _ (List.reverse_perm _)

end PatchForge.Template
