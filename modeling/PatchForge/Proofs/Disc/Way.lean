import Mathlib.Algebra.Order.BigOperators.Group.List
import Mathlib.Algebra.Order.Group.Nat
import PatchForge.Proofs.Build.Preflight
import PatchForge.Proofs.Disc.Files

/-!
# The way to the output

Copying disc files makes folders under the output and on the way to it,
and puts nothing anywhere else (`Lays`). A way with `..` can go into a
disc folder and out of it again. What it leaves there is looked through
when the files of that folder are listed, and listing opens every folder
by its full path. That can be too long although the way to it was short.
A way is harmless in this respect (`Path.Passable`) if it starts at the
top, for then it has no shorter name than the folder itself, and if it
goes down only (`Path.passable_of_direct`).
-/

namespace PatchForge

open Work Disk

/-! ## A way that passes through folders -/

/-- What the way to a path makes in a folder, and leads out of again, can be opened there. -/
def Path.Passable (here : Place) (output folder : Path) : Prop :=
  ∀ names, names <+: output.names → ¬ (⟨output.root, names⟩ : Path).TooLong →
    folder.names <+: (⟨output.root, names⟩ : Path).placeFrom here →
      ¬ (⟨.top, (⟨output.root, names⟩ : Path).placeFrom here⟩ : Path).TooLong

/-- Following names drops some of them and adds none. -/
theorem Path.sublist_placeFrom (here : Place) (p : Path) :
    (p.placeFrom here).Sublist
      ((if p.isAbsolute then [] else here) ++ p.names.filter (· ≠ "..")) := by
  have hfrom : ∀ (names : List String) {place : Place} {done : List String},
      place.Sublist done →
      (names.foldl (fun place name => if name = ".." then place.dropLast else place ++ [name])
        place).Sublist (done ++ names.filter (· ≠ "..")) := by
    intro names
    induction names with
    | nil => exact fun h => by simpa using h
    | cons name names ih =>
        intro place done h
        rw [List.foldl_cons]
        by_cases hname : name = ".."
        · rw [if_pos hname, List.filter_cons_of_neg (by simp [hname])]
          exact ih ((List.dropLast_sublist place).trans h)
        · rw [if_neg hname, List.filter_cons_of_pos (by simp [hname]), List.append_cons done]
          exact ih (h.append (List.Sublist.refl _))
  exact hfrom p.names (List.Sublist.refl _)

theorem Path.mem_placeFrom {here : Place} {p : Path} {name : String}
    (h : name ∈ p.placeFrom here) : name ∈ here ∨ name ∈ p.names ∧ name ≠ ".." := by
  rcases List.mem_append.mp ((Path.sublist_placeFrom here p).subset h) with hhere | hnames
  · left
    split at hhere
    · exact (List.not_mem_nil hhere).elim
    · exact hhere
  · exact Or.inr (by simpa using hnames)

/-- One slash at the start is shorter than two. -/
theorem Path.not_tooLong_top {p : Path} (habsolute : p.isAbsolute = true) (h : ¬ p.TooLong) :
    ¬ (⟨.top, p.names⟩ : Path).TooLong := by
  obtain ⟨root, names⟩ := p
  have hsize : ∀ root : Root, root ≠ .here → (⟨root, names⟩ : Path).text.utf8ByteSize
      = root.text.utf8ByteSize + ("/".intercalate names).utf8ByteSize := by
    intro root hroot
    have hsome : root.text ++ "/".intercalate names ≠ "" := by
      cases root <;> simp_all [Root.text]
    rw [text]
    dsimp only
    rw [if_neg hsome, String.utf8ByteSize_append]
  have hroot : root ≠ .here := by simpa [isAbsolute] using habsolute
  rintro (hlong | hlong)
  · refine h (Or.inl (Nat.le_trans hlong ?_))
    rw [hsize .top (by decide), hsize root hroot]
    refine Nat.add_le_add_right ?_ _
    cases root with
    | here => exact (hroot rfl).elim
    | top => decide
    | doubleTop => decide
  · exact h (Or.inr hlong)

/-- From the top a way does not get longer, and without a `..` it leads out of no folder. -/
theorem Path.passable_of_direct {here : Place} {output folder : Path}
    (h : output.isAbsolute = true
      ∨ ".." ∉ output.names ∧ ¬ folder.names <+: output.placeFrom here) :
    output.Passable here folder := by
  intro names hnames hshort hbelow
  rcases h with habsolute | ⟨hplain, hapart⟩
  · have hsub := Path.sublist_placeFrom here ⟨output.root, names⟩
    rw [if_pos (show Path.isAbsolute ⟨output.root, names⟩ = true from habsolute),
      List.nil_append] at hsub
    have hsub := hsub.trans List.filter_sublist
    refine Path.not_tooLong_of_size rfl rfl ?_ (fun name hname => ?_)
      (Path.not_tooLong_top (p := ⟨output.root, names⟩) habsolute hshort)
    · exact (hsub.map _).sum_le_sum fun _ _ => Nat.zero_le _
    · exact Nat.le_of_not_lt fun hlong => hshort (Or.inr ⟨name, hsub.subset hname, hlong⟩)
  · obtain ⟨rest, hrest⟩ := hnames
    have hunder : output = Path.under ⟨output.root, names⟩ rest := by
      rw [under, hrest]
    refine (hapart ?_).elim
    rw [hunder, placeFrom_under here _ fun hup => hplain (hrest ▸ List.mem_append_right _ hup)]
    exact hbelow.trans (List.prefix_append ..)

/-! ## What copying puts where -/

/-- The place is under the output, or the way to the output goes through it. -/
def Path.OnWay (here : Place) (output : Path) (place : Place) : Prop :=
  output.placeFrom here <+: place
    ∨ ∃ names, names <+: output.names ∧ ¬ (⟨output.root, names⟩ : Path).TooLong
      ∧ place = (⟨output.root, names⟩ : Path).placeFrom here

theorem Path.onWay_of_follow {d : Disk} {here place : Place} {output p : Path}
    {names : List String} (hp : p.Above (output.under names)) (hplain : ".." ∉ names)
    (h : d.follow here p = .ok place) : output.OnWay here place := by
  obtain ⟨root, pnames⟩ := p
  obtain ⟨hroot, hnames⟩ := hp
  obtain rfl : root = output.root := hroot
  have hplace := placeFrom_of_follow h
  rcases List.prefix_or_prefix_of_prefix hnames (List.prefix_append output.names names) with
    hway | ⟨rest, hrest⟩
  · exact Or.inr ⟨pnames, hway, not_tooLong_of_follow h, hplace⟩
  · left
    obtain rfl : output.names ++ rest = pnames := hrest
    have hbelow : rest <+: names := (List.prefix_append_right_inj _).mp hnames
    have hunder : (⟨output.root, output.names ++ rest⟩ : Path) = output.under rest := rfl
    rw [hplace, hunder, placeFrom_under here _ fun hup => hplain (hbelow.subset hup)]
    exact List.prefix_append ..

/-- From one workshop to the other, things were put under the output and on the way there. -/
structure Lays (output : Path) (w w' : Workshop) : Prop where
  here : w'.here = w.here
  places : ∀ place ∈ w'.disk.entries.map Prod.fst,
    place ∈ w.disk.entries.map Prod.fst ∨ output.OnWay w.here place

namespace Lays

variable {output : Path} {w w₁ w' : Workshop}

theorem refl (output : Path) (w : Workshop) : Lays output w w := ⟨rfl, fun _ h => Or.inl h⟩

theorem trans (h : Lays output w w₁) (h' : Lays output w₁ w') : Lays output w w' where
  here := h'.here.trans h.here
  places place hplace := by
    rcases h'.places place hplace with hplace | hway
    · exact h.places place hplace
    · rw [h.here] at hway
      exact Or.inr hway

theorem put {d : Disk} {place : Place} {entry : Entry} (hway : output.OnWay w.here place)
    (hd : d = w.disk.put place entry) : Lays output w (w.onDisk d) where
  here := rfl
  places other hother := by
    rw [Workshop.onDisk_disk, hd, places_put, mem_addNew] at hother
    rcases hother with hother | rfl
    · exact Or.inl hother
    · exact Or.inr hway

end Lays

abbrev laying (output : Path) : Contract :=
  .moving (Lays output) (Lays.refl output) Lays.trans

section

variable {output folder p : Path} {names : List String} (hplain : ".." ∉ names)

theorem laying_files : Contract.Admits (laying output) (·.isOfFiles) :=
  fun _ _ w => Lays.refl output w

theorem laying_hears : Contract.Hears (laying output) := fun _ _ => ⟨rfl, fun _ h => Or.inl h⟩

include hplain

theorem laying_makeFolder (hp : p.Above (output.under names)) :
    Meets (laying output) (makeFolder p) := by
  intro w
  cases hrun : (makeFolder p).run w with
  | mk result w' =>
      cases result with
      | error f =>
          rw [change_error hrun]
          exact Lays.refl output w
      | ok u =>
          obtain ⟨-, d, hd, rfl⟩ := change_ok.mp hrun
          obtain ⟨place, hfollow, -, hput⟩ := Disk.makeFolder_ok.mp hd
          exact Lays.put (Path.onWay_of_follow hp hplain hfollow) hput

theorem laying_write (content : ByteArray) :
    Meets (laying output) (Work.write (output.under names) content) := by
  intro w
  cases hrun : (Work.write (output.under names) content).run w with
  | mk result w' =>
      cases result with
      | error f =>
          rw [change_error hrun]
          exact Lays.refl output w
      | ok u =>
          obtain ⟨-, d, hd, rfl⟩ := change_ok.mp hrun
          obtain ⟨place, hfollow, -, hput⟩ := Disk.write_ok.mp hd
          exact Lays.put (Path.onWay_of_follow (Path.Above.refl _) hplain hfollow) hput

theorem laying_copyDiscFile :
    Meets (laying output) (copyDiscFile folder output (folder.under names)) := by
  have hreplace : Meets (laying output)
      (replaceFile (folder.under names) (output.under names)) :=
    meets_replaceFile laying_files laying_hears _
      (moving_makeFoldersFrom _ fun _ hq => laying_makeFolder hplain hq.of_parent)
      (laying_write hplain)
  rw [← Path.join_drop folder output] at hreplace
  refine meets_bind (moving_tryCatch (meets_bind hreplace fun _ => meets_pure _) fun f => ?_)
    fun e => ?_
  · refine meets_ite ?_ (meets_bind (moving_fail f) fun _ => meets_pure _)
    exact meets_bind (meets_say laying_hears _) fun _ => meets_pure _
  · cases e with
    | ok a => exact meets_pure _
    | error r => exact meets_pure _

end

/-! ## A folder that is passed through -/

section

variable {output folder : Path} {w₀ w : Workshop} {names : List String} {entry : Entry}

/-- What is found in a folder apart from the output was there before, or is on the way. -/
theorem Lays.before_or_way (h : Lays output w₀ w)
    (hapart : ∀ names, ¬ output.placeFrom w₀.here <+: folder.names ++ names)
    (hentry : (folder.names ++ names, entry) ∈ w.disk.entries) :
    (∃ found, (folder.names ++ names, found) ∈ w₀.disk.entries)
      ∨ ∃ way, way <+: output.names ∧ ¬ (⟨output.root, way⟩ : Path).TooLong
        ∧ folder.names ++ names = (⟨output.root, way⟩ : Path).placeFrom w₀.here := by
  have hplace : folder.names ++ names ∈ w.disk.entries.map Prod.fst := List.mem_map_of_mem hentry
  rcases h.places _ hplace with hbefore | hout | hway
  · obtain ⟨⟨place, found⟩, hfound, rfl⟩ := List.mem_map.mp hbefore
    exact Or.inl ⟨found, hfound⟩
  · exact (hapart names hout).elim
  · exact Or.inr hway

variable (h : Lays output w₀ w) (hreach : w₀.disk.Reachable) (hdown : folder.Down)
  (hapart : ∀ names, ¬ output.placeFrom w₀.here <+: folder.names ++ names)
  (hentry : (folder.names ++ names, entry) ∈ w.disk.entries)

include h hreach hdown hapart hentry

/-- The names of what is found there can be used. -/
theorem Lays.plain (hhere : (⟨.top, w₀.here⟩ : Path).Usable) (hout : hasNull output = false) :
    (folder.under names).Down ∧ hasNull (folder.under names) = false := by
  rw [Path.under, hdown.top]
  rcases h.before_or_way hapart hentry with ⟨found, hfound⟩ | ⟨way, hway, -, heq⟩
  · exact ⟨hreach.down hfound, (hreach _ hfound).1⟩
  · rw [heq]
    refine ⟨⟨rfl, fun hup => ?_⟩, List.any_eq_false.mpr fun name hname => ?_⟩
    · exact (Path.mem_placeFrom hup).elim hhere.down.plain fun hmem => hmem.2 rfl
    · rcases Path.mem_placeFrom hname with hname | ⟨hname, -⟩
      · exact List.any_eq_false.mp hhere.noNull name hname
      · exact List.any_eq_false.mp hout name (hway.subset hname)

/-- What has too long a path there was made on the way to the output. -/
theorem Lays.not_passable (hlong : (folder.under names).TooLong) :
    ¬ output.Passable w₀.here folder := by
  rw [Path.under, hdown.top] at hlong
  rcases h.before_or_way hapart hentry with ⟨found, hfound⟩ | ⟨way, hway, hshort, heq⟩
  · exact ((hreach.usable hfound).short hlong).elim
  · rw [heq] at hlong
    exact fun hpassable => hpassable way hway hshort (heq ▸ List.prefix_append ..) hlong

end

end PatchForge
