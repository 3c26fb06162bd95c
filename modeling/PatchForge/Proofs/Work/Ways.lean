import Mathlib.Algebra.GroupWithZero.Nat
import PatchForge.Proofs.Disk.Off
import PatchForge.Proofs.Work.Frame

/-!
# Making folders where nothing is in the way

Making folders can fail for many reasons. It does not if the path goes
down from the top, its names can be used (`Path.Usable`) and no file lies
on it (`Path.Free`, `makeFolders_of_free`): whichever folders are missing are
made, from the uppermost on.

If all that lies above a place is a folder (`Stands`), then making folders
at that place or below it changes nothing elsewhere
(`sameOff_makeFolders`).
-/

namespace PatchForge

open Work Disk

/-! ## Names and their length -/

/-- The bytes of the names of a path, with a slash before each. -/
def Path.size (p : Path) : Nat := (p.names.map fun n => n.utf8ByteSize + 1).sum

theorem Path.size_append (root : Root) (names more : List String) :
    Path.size ⟨root, names ++ more⟩ = Path.size ⟨.here, names⟩ + Path.size ⟨.here, more⟩ := by
  simp only [Path.size, List.map_append, List.sum_append]

theorem Path.size_text {p : Path} (htop : p.root = .top) (hne : p.names ≠ []) :
    p.text.utf8ByteSize = p.size := by
  have hjoined : ∀ names : List String, names ≠ [] → ("/".intercalate names).utf8ByteSize + 1
      = (names.map fun n => n.utf8ByteSize + 1).sum := by
    intro names
    induction names with
    | nil => exact fun h => (h rfl).elim
    | cons n names ih =>
        intro _
        by_cases hnames : names = []
        · subst hnames
          rw [String.intercalate_singleton]
          simp
        · have hsplit : "/".intercalate (n :: names) = n ++ "/" ++ "/".intercalate names := by
            have := String.intercalate_append_of_ne_nil (s := "/") (List.cons_ne_nil n []) hnames
            rwa [String.intercalate_singleton, List.singleton_append] at this
          rw [hsplit, List.map_cons, List.sum_cons, ← ih hnames, String.utf8ByteSize_append,
            String.utf8ByteSize_append]
          have hslash : "/".utf8ByteSize = 1 := by decide
          omega
  have hbody : (p.root.text ++ "/".intercalate p.names).utf8ByteSize = p.size := by
    rw [htop, String.utf8ByteSize_append, Path.size, ← hjoined p.names hne]
    have hslash : Root.top.text.utf8ByteSize = 1 := by decide
    omega
  have hsome : p.root.text ++ "/".intercalate p.names ≠ "" := by
    intro h
    rw [h] at hbody
    have := hjoined p.names hne
    rw [← Path.size, ← hbody] at this
    simp at this
  rw [Path.text, if_neg hsome, hbody]

/-- A path with names that can be used is no longer than another that is not too long. -/
theorem Path.not_tooLong_of_size {p q : Path} (hp : p.root = .top) (hq : q.root = .top)
    (hsize : p.size ≤ q.size) (hnames : ∀ n ∈ p.names, n.utf8ByteSize ≤ nameLimit)
    (h : ¬ q.TooLong) : ¬ p.TooLong := by
  rintro (htext | ⟨n, hn, hlong⟩)
  · by_cases hnil : p.names = []
    · have htop : p.text = "/" := by
        obtain ⟨root, names⟩ := p
        obtain rfl : root = .top := hp
        obtain rfl : names = [] := hnil
        decide
      rw [htop] at htext
      exact absurd htext (by decide)
    · rw [Path.size_text hp hnil] at htext
      have hqnames : q.names ≠ [] := by
        intro hqnil
        have : q.size = 0 := by simp [Path.size, hqnil]
        have hpos : pathLimit ≤ 0 := by omega
        exact absurd hpos (by decide)
      refine h (Or.inl ?_)
      rw [Path.size_text hq hqnames]
      omega
  · exact absurd (hnames n hn) (Nat.not_le.mpr hlong)

theorem Path.cutSlashes_of_notMem : ∀ {cs acc : List Char}, '/' ∉ cs →
    cutSlashes cs acc = [acc.reverse ++ cs]
  | [], acc, _ => by rw [cutSlashes, List.append_nil]
  | c :: cs, acc, h => by
      rw [List.mem_cons, not_or] at h
      rw [cutSlashes, cutSlashes_of_notMem h.2, List.reverse_cons, List.append_assoc,
        List.singleton_append]
      rintro rfl
      exact h.1 rfl

/-- A text without slashes is one name. -/
theorem Path.namesOf_of_notMem {cs : List Char} (hslash : '/' ∉ cs) (hne : cs ≠ [])
    (hdot : cs ≠ ['.']) : namesOf cs = [String.ofList cs] := by
  rw [namesOf, cutSlashes_of_notMem hslash, List.reverse_nil, List.nil_append,
    List.filter_cons_of_pos (by simp [hne, hdot]), List.filter_nil, List.map_singleton]

/-! ## Free ways -/

/-- The path goes down from the top and has names that can be used. -/
structure Path.Usable (p : Path) : Prop where
  down : p.Down
  noNull : hasNull p = false
  short : ¬ p.TooLong

/-- A path that is no longer than a usable one, and has names of usable paths, is usable. -/
theorem Path.Usable.of_names {p q r : Path} (hq : q.Usable) (hr : r.Usable) (htop : p.root = .top)
    (hnames : ∀ n ∈ p.names, n ∈ q.names ∨ n ∈ r.names) (hsize : p.size ≤ r.size) :
    p.Usable where
  down := ⟨htop, fun hup => (hnames _ hup).elim hq.down.plain hr.down.plain⟩
  noNull := by
    have hnull := hq.noNull
    have hnull' := hr.noNull
    unfold hasNull at hnull hnull' ⊢
    rw [List.any_eq_false] at hnull hnull' ⊢
    exact fun n hn => (hnames n hn).elim (hnull n) (hnull' n)
  short := by
    refine Path.not_tooLong_of_size htop hr.down.top hsize (fun n hn => ?_) hr.short
    refine Nat.le_of_not_lt fun hlong => ?_
    rcases hnames n hn with hn | hn
    · exact hq.short (Or.inr ⟨n, hn, hlong⟩)
    · exact hr.short (Or.inr ⟨n, hn, hlong⟩)

/-- The path of an entry that can be reached is usable. -/
theorem Disk.Reachable.usable {d : Disk} (h : d.Reachable) {e : Place × Entry}
    (he : e ∈ d.entries) : (⟨.top, e.1⟩ : Path).Usable :=
  ⟨h.down he, (h e he).1, not_tooLong_of_follow (h e he).2⟩

theorem Path.Usable.names_short {p : Path} (h : p.Usable) :
    ∀ n ∈ p.names, n.utf8ByteSize ≤ nameLimit :=
  fun n hn => Nat.le_of_not_lt fun hlong => h.short (Or.inr ⟨n, hn, hlong⟩)

theorem Path.Usable.parent {p : Path} (h : p.Usable) : p.parent.Usable := by
  refine h.of_names h h.down.top (fun n hn => Or.inl (List.dropLast_subset _ hn)) ?_
  obtain ⟨last, hlast⟩ := List.dropLast_prefix p.names
  rw [Path.size, Path.size, ← hlast, List.map_append, List.sum_append]
  exact Nat.le_add_right _ _

/-- Below a folder a usable path can be followed. -/
theorem Path.Usable.follow_of_parent {d : Disk} {here : Place} {p : Path} (h : p.Usable)
    (hparent : LeadsToFolder d here p.parent) : d.follow here p = .ok p.names := by
  rw [follow_down h.down, if_neg fun hlong => h.short (Or.inl hlong)]
  by_cases hnil : p.names = []
  · rw [hnil]
    rfl
  · obtain ⟨place, hfollow, hget⟩ := hparent
    have hup := h.parent
    obtain ⟨rfl, -⟩ := place_of_follow hup.down hfollow
    rw [follow_down hup.down, if_neg fun hlong => hup.short (Or.inl hlong)] at hfollow
    have hlast := List.dropLast_append_getLast hnil
    rw [← hlast, walk_append]
    have hmem := List.getLast_mem hnil
    have hname : p.names.getLast hnil ≠ ".." := fun heq => h.down.plain (heq ▸ hmem)
    show (d.walk [] p.parent.names).bind _ = _
    rw [hfollow]
    show d.walk p.parent.names [p.names.getLast hnil] = _
    rw [walk, step_down hname (h.names_short _ hmem) hget]
    rfl

/-- Folders can be made at the path: it is usable, and no file lies on it. -/
structure Path.Free (d : Disk) (p : Path) : Prop extends p.Usable where
  noFile : ∀ q, q <+: p.names → ∀ content, d.get? q ≠ some (.file content)

namespace Path.Free

variable {d d' : Disk} {here : Place} {p : Path}

theorem parent (h : p.Free d) : p.parent.Free d where
  toUsable := h.toUsable.parent
  noFile := fun q hq => h.noFile q (hq.trans (List.dropLast_prefix _))

theorem grows (h : p.Free d) (hd : Grows d d') : p.Free d' where
  down := h.down
  noNull := h.noNull
  short := h.short
  noFile q hq content hfile := h.noFile q hq content (hd.file hfile)

theorem follow (h : p.Free d) : d.follow here p = .ok p.names
    ∨ d.follow here p = .error .missing
      ∧ ∃ q, q <+: p.names ∧ q ≠ p.names ∧ d.get? q = none := by
  rw [follow_down h.down, if_neg fun hlong => h.short (Or.inl hlong)]
  exact walk_free h.down.plain h.toUsable.names_short fun q hq _ => h.noFile q hq

theorem follow_top (h : p.Free d) (hnil : p.names = []) : d.follow here p = .ok p.names := by
  refine h.follow.resolve_right ?_
  rintro ⟨-, q, hq, hne, -⟩
  rw [hnil] at hq hne
  exact hne (List.prefix_nil.mp hq)

theorem follow_of_stands (h : p.Free d)
    (hstands : ∀ q, q <+: p.names → q ≠ p.names → d.get? q = some .folder) :
    d.follow here p = .ok p.names := by
  refine h.follow.resolve_right ?_
  rintro ⟨-, q, hq, hne, hnone⟩
  rw [hstands q hq hne] at hnone
  cases hnone

/-- Below a folder the path can be followed. -/
theorem follow_of_parent (h : p.Free d) (hparent : LeadsToFolder d here p.parent) :
    d.follow here p = .ok p.names := h.toUsable.follow_of_parent hparent

end Path.Free

namespace Work

variable {w w' : Workshop} {p : Path}

/-- A free path that can be followed gets its folder, or has it. -/
theorem settle_of_free (h : p.Free w.disk) (hfollow : w.disk.follow w.here p = .ok p.names) :
    (∃ w', (makeFolder p).run w = (.ok (), w'))
      ∨ (makeFolder p).run w = (.error (.disk .occupied p), w)
        ∧ (makeFoldersFrom.accept p (.disk .occupied p)).run w = (.ok (), w) := by
  match hget : w.disk.get? p.names with
  | none =>
      have hmake := Disk.makeFolder_ok.mpr ⟨p.names, hfollow, hget, rfl⟩
      exact Or.inl ⟨_, change_ok.mpr ⟨h.noNull, _, hmake, rfl⟩⟩
  | some (.file content) => exact (h.noFile p.names List.prefix_rfl content hget).elim
  | some .folder =>
      right
      constructor
      · unfold makeFolder change query
        simp only [h.noNull, Bool.false_eq_true, if_false, run_bind, run_get, Disk.makeFolder,
          hfollow, hget, run_fail]
      · simp only [makeFoldersFrom.accept, run_bind,
          isFolder_of_leadsToFolder h.noNull ⟨p.names, hfollow, hget⟩]
        rfl

theorem makeFoldersFrom_of_free : ∀ (fuel : Nat) {p : Path} {w : Workshop}, p.Free w.disk →
    p.names.length ≤ fuel → ∃ w', (makeFoldersFrom fuel p).run w = (.ok (), w') := by
  intro fuel
  -- once the path can be followed, whatever was tried before does not matter
  have hsettle : ∀ {p : Path} {w : Workshop}, p.Free w.disk →
      w.disk.follow w.here p = .ok p.names →
      ∃ w', (makeFoldersFrom.settle p).run w = (.ok (), w') := by
    intro p w h hfollow
    unfold makeFoldersFrom.settle
    rw [run_tryCatch]
    rcases settle_of_free h hfollow with ⟨w', hmake⟩ | ⟨hmake, haccept⟩
    · exact ⟨w', by rw [hmake]⟩
    · exact ⟨w, by rw [hmake]; exact haccept⟩
  induction fuel with
  | zero =>
      intro p w h hlength
      have hnil : p.names = [] := List.eq_nil_of_length_eq_zero (Nat.le_zero.mp hlength)
      exact hsettle h (h.follow_top hnil)
  | succ fuel ih =>
      intro p w h hlength
      rw [makeFoldersFrom, run_tryCatch]
      rcases h.follow with hfollow | ⟨hmissing, -⟩
      · rcases settle_of_free h hfollow with ⟨w', hmake⟩ | ⟨hmake, haccept⟩
        · exact ⟨w', by rw [hmake]⟩
        · exact ⟨w, by rw [hmake]; exact haccept⟩
      · have hnil : p.names ≠ [] := by
          intro hnil
          rw [h.follow_top hnil] at hmissing
          cases hmissing
        have hmake : (makeFolder p).run w = (.error (.disk .missing p), w) := by
          unfold makeFolder change query
          simp only [h.noNull, Bool.false_eq_true, if_false, run_bind, run_get, Disk.makeFolder,
            hmissing, run_fail]
        have hparent : p.parent ≠ p := by
          intro heq
          have hlen := congrArg (fun q => q.names.length) heq
          simp only [Path.parent, List.length_dropLast] at hlen
          have := List.length_pos_iff.mpr hnil
          omega
        have hshorter : p.parent.names.length ≤ fuel := by
          simp only [Path.parent, List.length_dropLast]
          omega
        obtain ⟨w₁, hup⟩ := ih h.parent hshorter
        have hgrown := (growing_makeFoldersFrom _ _).ok hup
        have hfollow := (h.grows hgrown.2).follow_of_parent (makeFoldersFrom_ok hup)
        obtain ⟨w', hlast⟩ := hsettle (h.grows hgrown.2) hfollow
        refine ⟨w', ?_⟩
        rw [hmake]
        simp only [hparent, if_false]
        rw [run_bind, hup]
        exact hlast

/-- **Free ways.** Folders can be made where nothing is in the way. -/
theorem makeFolders_of_free (h : p.Free w.disk) :
    ∃ w', (makeFolders p).run w = (.ok (), w') :=
  makeFoldersFrom_of_free _ h (Nat.le_succ _)

/-- Nothing is made at a path with a null character. -/
theorem makeFolders_of_null {p : Path} (h : hasNull p = true) (w : Workshop) :
    (makeFolders p).run w = (.error .nullCharacter, w) := by
  have hmake : (makeFolder p).run w = (.error .nullCharacter, w) := by
    unfold makeFolder change query
    rw [run_bind, if_pos h]
    rfl
  rw [makeFolders, makeFoldersFrom, run_tryCatch, hmake]
  rfl

/-- Nothing is made at a path that is too long. -/
theorem makeFolders_of_tooLong {p : Path} (h : p.TooLong) (w : Workshop) :
    ((makeFolders p).run w).1 ≠ .ok () := by
  intro hmade
  obtain ⟨-, place, hfollow, -⟩ := makeFolders_ok
    (show (makeFolders p).run w = (.ok (), ((makeFolders p).run w).2) from Prod.ext hmade rfl)
  exact Disk.not_tooLong_of_follow hfollow h

/-! ## What stays as it is -/

/-- All that lies above the place is a folder. -/
def Stands (d : Disk) (top : Place) : Prop :=
  ∀ q, q <+: top → q ≠ top → d.get? q = some .folder

theorem Stands.sameOff {d d' : Disk} {top : Place} (h : Stands d top)
    (hd : SameOff [top] d d') : Stands d' top := by
  intro q hq hne
  rw [hd.get? ?_]
  · exact h q hq hne
  · by_contra hunder
    obtain ⟨t, ht, htq⟩ := under_iff.mp (Bool.of_not_eq_false hunder)
    obtain rfl := List.mem_singleton.mp ht
    exact hne (List.IsPrefix.eq_of_length hq (Nat.le_antisymm hq.length_le htq.length_le))

/-- What stands keeps standing, and nothing changes but at the place and below it. -/
def Shielded (top : Place) (w w' : Workshop) : Prop :=
  Stands w.disk top → SameOff [top] w.disk w'.disk

theorem Shielded.trans {top : Place} {w₁ w₂ w₃ : Workshop} (h : Shielded top w₁ w₂)
    (h' : Shielded top w₂ w₃) : Shielded top w₁ w₃ := by
  intro hstands
  have hfirst := h hstands
  exact hfirst.trans (h' (hstands.sameOff hfirst))

abbrev shielding (top : Place) : Contract :=
  .moving (Shielded top) (fun _ _ => SameOff.refl _) Shielded.trans

theorem shielding_makeFolder {top : Place} {q : Path} (hq : q.Down)
    (hnames : q.names <+: top ∨ top <+: q.names) : Meets (shielding top) (makeFolder q) := by
  intro w
  cases hrun : (makeFolder q).run w with
  | mk result w' =>
      cases result with
      | error f =>
          rw [change_error hrun]
          exact fun _ => SameOff.refl _
      | ok u =>
          obtain ⟨-, d, hd, rfl⟩ := change_ok.mp hrun
          obtain ⟨place, hfollow, hnone, rfl⟩ := Disk.makeFolder_ok.mp hd
          obtain ⟨rfl, -⟩ := place_of_follow hq hfollow
          intro hstands
          by_cases htop : top <+: q.names
          · exact sameOff_put htop .folder
          · -- a folder above the place is there already
            have hfolder := hstands _ (hnames.resolve_right htop)
              fun heq => htop (heq ▸ List.prefix_rfl)
            rw [hnone] at hfolder
            cases hfolder

theorem sameOff_makeFolders {top : Place} {u : Unit} (hp : p.Down) (htop : top <+: p.names)
    (hstands : Stands w.disk top) (h : (makeFolders p).run w = (.ok u, w')) :
    SameOff [top] w.disk w'.disk := by
  have hmeets : Meets (shielding top) (makeFolders p) := by
    refine moving_makeFoldersFrom _ fun q hq => shielding_makeFolder ?_ ?_
    · exact ⟨hq.1.trans hp.top, fun hmem => hp.plain (hq.2.subset hmem)⟩
    · exact List.prefix_or_prefix_of_prefix hq.2 htop
  exact hmeets.ok h hstands

end Work

end PatchForge
