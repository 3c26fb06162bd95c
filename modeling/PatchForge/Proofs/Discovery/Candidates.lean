import PatchForge.Proofs.Build.Looking
import PatchForge.Proofs.Work.Questions

/-!
# Candidates of a modules folder

What discovery looks at, as a list that the file tree alone determines:
the folders of the modules folder in order, then what its link files name,
file after file in order and line after line (`Workshop.candidates`). Each
candidate is a path without `..`, so two ways to write one folder are one
candidate that comes twice. A link file that cannot be read counts as a
candidate of its own, which is no folder.

The loops that collect all this find the same lists
(`keep_ok`, `linkFiles_ok`), and the lists are sorted
(`Path.sorted_sort`).
-/

namespace PatchForge

open Work

/-! ## Paths without `..` -/

namespace Path

/-- No step of collapsing keeps a `..`. -/
theorem not_mem_collapse (names : List String) : ".." ∉ collapse names := by
  have hdone : ∀ (names done : List String), ".." ∉ done →
      ".." ∉ names.foldl (fun done n => if n = ".." then done.tail else n :: done) done := by
    intro names
    induction names with
    | nil => exact fun done h => h
    | cons n names ih =>
        intro done h
        refine ih _ ?_
        show ".." ∉ if n = ".." then done.tail else n :: done
        by_cases hn : n = ".."
        · rw [if_pos hn]
          exact fun hmem => h (List.mem_of_mem_tail hmem)
        · rw [if_neg hn, List.mem_cons, not_or]
          exact ⟨Ne.symm hn, h⟩
  exact fun h => hdone names [] List.not_mem_nil (List.mem_reverse.mp h)

theorem collapse_of_not_mem {names : List String} (h : ".." ∉ names) : collapse names = names := by
  have hdone : ∀ (names done : List String), ".." ∉ names →
      names.foldl (fun done n => if n = ".." then done.tail else n :: done) done
        = names.reverse ++ done := by
    intro names
    induction names with
    | nil => exact fun done _ => rfl
    | cons n names ih =>
        intro done h
        rw [List.mem_cons, not_or] at h
        rw [List.foldl_cons, if_neg (Ne.symm h.1), ih _ h.2, List.reverse_cons, List.append_assoc]
        rfl
  rw [collapse, hdone names [] h, List.append_nil, List.reverse_reverse]

/-- A path that was seen from the top once is seen so from anywhere. -/
theorem resolve_resolve (base base' p : Path) : resolve base (resolve base' p) = resolve base' p := by
  have hjoin : base.join (resolve base' p) = resolve base' p := rfl
  rw [resolve, hjoin]
  exact congrArg _ (collapse_of_not_mem (not_mem_collapse _))

/-! ## Order -/

theorem keyLe_total : ∀ a b : List String, keyLe a b = true ∨ keyLe b a = true
  | [], _ => Or.inl rfl
  | _ :: _, [] => Or.inr rfl
  | a :: as, b :: bs => by
      unfold keyLe
      by_cases h : a = b
      · rw [if_pos h, if_pos h.symm]
        exact keyLe_total as bs
      · rw [if_neg h, if_neg (Ne.symm h), decide_eq_true_eq, decide_eq_true_eq]
        by_cases hlt : a < b
        · exact Or.inl hlt
        · refine Or.inr (Decidable.by_contra fun hge => h ?_)
          exact String.le_antisymm (String.not_lt.mp hge) (String.not_lt.mp hlt)

theorem keyLe_trans : ∀ {a b c : List String},
    keyLe a b = true → keyLe b c = true → keyLe a c = true
  | [], _, _, _, _ => rfl
  | a :: as, b :: bs, c :: cs, hab, hbc => by
      unfold keyLe at hab hbc ⊢
      by_cases h₁ : a = b
      · subst h₁
        rw [if_pos rfl] at hab
        by_cases h₂ : a = c
        · rw [if_pos h₂] at hbc ⊢
          exact keyLe_trans hab hbc
        · rw [if_neg h₂] at hbc ⊢
          exact hbc
      · rw [if_neg h₁, decide_eq_true_eq] at hab
        by_cases h₂ : b = c
        · subst h₂
          rw [if_neg h₁, decide_eq_true_eq]
          exact hab
        · rw [if_neg h₂, decide_eq_true_eq] at hbc
          have hac : a < c := String.lt_trans hab hbc
          have hne : a ≠ c := fun h => String.lt_irrefl c (h ▸ hac)
          rw [if_neg hne, decide_eq_true_eq]
          exact hac

theorem sorted_sort (paths : List Path) : (sort paths).Pairwise fun p q => p.le q = true := by
  have htrans : ∀ p q r : Path, p.le q = true → q.le r = true → p.le r = true :=
    fun _ _ _ => keyLe_trans
  have htotal : ∀ p q : Path, (p.le q || q.le p) = true :=
    fun p q => Bool.or_eq_true_iff.mpr (keyLe_total p.sortKey q.sortKey)
  exact List.pairwise_mergeSort htrans htotal paths

end Path

/-! ## What the file tree holds -/

/-- The path as it is seen from the top. -/
def Workshop.resolved (w : Workshop) (p : Path) : Path := Path.resolve ⟨.top, w.here⟩ p

/-- What a folder holds, in order. -/
def Workshop.children (w : Workshop) (folder : Path) : List Path :=
  Path.sort (((w.disk.list w.here folder).toOption.getD []).map fun name =>
    ⟨folder.root, folder.names ++ [name]⟩)

/-- The folders in a folder, in order. -/
def Workshop.subfolders (w : Workshop) (folder : Path) : List Path :=
  (w.children folder).filter w.hasFolder

/-- The link files of a folder, in order. -/
def Workshop.linkFiles (w : Workshop) (folder : Path) : List Path :=
  (w.children folder).filter fun p => w.hasFile p && Discovery.isLinkName p

/-- What reading a file as a text comes to. -/
def Workshop.reading (w : Workshop) (file : Path) : Except Failure String :=
  ((readText file).run w).1

/-- The names that a modules folder ignores. -/
def Workshop.ignoredNames (w : Workshop) (folder : Path) : List String :=
  let file := folder.child Discovery.ignoreName
  if w.hasFile file then
    match w.reading file with
    | .ok text => Discovery.entriesOf text
    | .error _ => []
  else []

/-- What discovery comes upon: a folder, or a link file that cannot be read. -/
inductive Candidate where
  | folder (p : Path)
  | unreadable (file : Path) (why : String)
  deriving DecidableEq

/-- What a link file of the modules folder names, line by line. -/
def Workshop.linked (w : Workshop) (folder file : Path) : List Candidate :=
  match w.reading file with
  | .ok text => (Discovery.entriesOf text).map fun entry =>
      .folder (w.resolved (Discovery.linkTarget folder entry))
  | .error f => [.unreadable file f.message]

/-- All that discovery comes upon, in order, as often as it does. -/
def Workshop.candidates (w : Workshop) (folder : Path) : List Candidate :=
  (w.subfolders folder).map (fun p => .folder (w.resolved p))
    ++ (w.linkFiles folder).flatMap (w.linked folder)

theorem Workshop.sorted_subfolders (w : Workshop) (folder : Path) :
    (w.subfolders folder).Pairwise fun p q => p.le q = true :=
  (Path.sorted_sort _).filter _

theorem Workshop.sorted_linkFiles (w : Workshop) (folder : Path) :
    (w.linkFiles folder).Pairwise fun p q => p.le q = true :=
  (Path.sorted_sort _).filter _

/-- A folder comes up as one in the modules folder, or as one that a line of a readable link
file names. -/
theorem Workshop.mem_candidates {w : Workshop} {folder q : Path} :
    .folder q ∈ w.candidates folder ↔ (∃ p ∈ w.subfolders folder, q = w.resolved p)
      ∨ ∃ file ∈ w.linkFiles folder, ∃ text, w.reading file = .ok text
        ∧ ∃ entry ∈ Discovery.entriesOf text,
          q = w.resolved (Discovery.linkTarget folder entry) := by
  rw [candidates, List.mem_append, List.mem_map, List.mem_flatMap]
  refine or_congr (by simp only [Candidate.folder.injEq, eq_comm]) ?_
  refine exists_congr fun file => and_congr_right fun _ => ?_
  unfold linked
  cases w.reading file with
  | ok text => simp [eq_comm]
  | error f => simp

/-! ## The loops that find them -/

namespace Work

variable {α : Type} {w w' : Workshop} {p : Path}

theorem resolve_ok {q : Path} (h : (resolve p).run w = (.ok q, w')) :
    q = w.resolved p ∧ w' = w := by
  unfold resolve at h
  split at h
  · cases h
  · cases h
    exact ⟨rfl, rfl⟩

theorem children_ok {paths : List Path} (h : (children p).run w = (.ok paths, w')) :
    paths = w.children p ∧ w' = w := by
  obtain ⟨names, w₁, hnames, hpaths⟩ := bind_ok.mp h
  obtain ⟨-, hlist, rfl⟩ := query_ok.mp hnames
  cases hpaths
  rw [Workshop.children, hlist]
  exact ⟨rfl, rfl⟩

end Work

namespace Discovery

variable {w w' : Workshop} {folder : Path}

/-- The paths that are kept are those with the property, if asking for it says what it is. -/
theorem keep_ok {property : Path → Work Bool} {test : Path → Bool}
    (hp : ∀ p b w', (property p).run w = (.ok b, w') → b = test p ∧ w' = w) :
    ∀ {paths kept : List Path} {w' : Workshop}, (keep property paths).run w = (.ok kept, w') →
      kept = paths.filter test ∧ w' = w
  | [], _, _, h => by
      cases h
      exact ⟨rfl, rfl⟩
  | p :: paths, kept, w', h => by
      obtain ⟨b, w₁, hb, hthen⟩ := bind_ok.mp h
      obtain ⟨rfl, hw⟩ := hp p b w₁ hb
      rw [hw] at hthen
      obtain ⟨rest, w₂, hrest, hlast⟩ := bind_ok.mp hthen
      obtain ⟨hfilter, hsame⟩ := keep_ok hp hrest
      cases hlast
      rw [List.filter_cons, ← hfilter]
      exact ⟨rfl, hsame⟩

theorem linkFiles_ok {files : List Path} (h : (linkFiles folder).run w = (.ok files, w')) :
    files = w.linkFiles folder ∧ w' = w := by
  obtain ⟨paths, w₁, hpaths, hkeep⟩ := bind_ok.mp h
  obtain ⟨rfl, rfl⟩ := children_ok hpaths
  refine keep_ok (fun p b w' hb => ?_) hkeep
  obtain ⟨there, w₂, hthere, hb⟩ := bind_ok.mp hb
  obtain ⟨rfl, rfl⟩ := isFile_ok hthere
  cases hb
  exact ⟨rfl, rfl⟩

theorem ignoredNames_ok {names : List String}
    (h : (ignoredNames folder).run w = (.ok names, w')) :
    names = w.ignoredNames folder ∧ w' = w := by
  obtain ⟨there, w₁, hthere, h⟩ := bind_ok.mp h
  obtain ⟨hfile, rfl⟩ := isFile_ok hthere
  unfold Workshop.ignoredNames
  dsimp only
  rw [← hfile]
  cases there with
  | true =>
      obtain ⟨text, w₂, htext, hnames⟩ := bind_ok.mp h
      rw [run_of_keeping (meets_readText keeping_files _)] at htext
      cases hnames
      obtain ⟨hreading, rfl⟩ := Prod.mk.inj htext
      rw [if_pos rfl, show w₁.reading _ = _ from hreading]
      exact ⟨rfl, rfl⟩
  | false =>
      cases h
      exact ⟨rfl, rfl⟩

/-- A reading gives its result, or the message of the failure it ended with. -/
theorem readable_ok {α : Type} {x : Work α} {result : Except String α}
    (h : (readable x).run w = (.ok result, w')) :
    (∃ a, x.run w = (.ok a, w') ∧ result = .ok a)
      ∨ ∃ f, x.run w = (.error f, w') ∧ result = .error f.message := by
  unfold readable at h
  rw [run_bind, run_tryCatch, run_bind] at h
  cases hx : x.run w with
  | mk r w₁ =>
      rw [hx] at h
      cases r with
      | ok a =>
          cases h
          exact Or.inl ⟨a, rfl, rfl⟩
      | error f =>
          -- The failure is caught and put into words, or it comes through.
          have hcaught : result = .error f.message ∧ w' = w₁ := by
            cases f <;> cases h <;> exact ⟨rfl, rfl⟩
          exact Or.inr ⟨f, by rw [hcaught.2], hcaught.1⟩

theorem linkTargets_run (file : Path) (w : Workshop) :
    (linkTargets file folder).run w
      = ((w.reading file).map fun text => (entriesOf text).map (linkTarget folder), w) := by
  rw [linkTargets, run_bind, run_of_keeping (meets_readText keeping_files _), Workshop.reading]
  cases ((readText file).run w).1 <;> rfl

end Discovery

end PatchForge
