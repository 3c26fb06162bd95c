import PatchForge.Proofs.Disk.Place
import PatchForge.Proofs.Work.Effects

/-!
# File work by place

What the operations on files do to the file tree of a workshop, stated
through the places that their paths lead to. Questions and readings leave
the workshop as it is; a change replaces the file tree and nothing else.

Making folders is the one operation that goes up and down: it meets the
contract `growing` (whatever it ends with, the tree has only gained
folders) and, if it ends well, its path leads to a folder
(`makeFolders_ok`). Where the path leads to a folder already it changes
nothing (`makeFolders_of_leadsToFolder`).
-/

namespace PatchForge

/-- The workshop with another file tree. -/
def Workshop.onDisk (w : Workshop) (d : Disk) : Workshop := { w with disk := d }

@[simp] theorem Workshop.onDisk_disk (w : Workshop) (d : Disk) : (w.onDisk d).disk = d := rfl

namespace Work

open Disk

variable {α : Type} {w w' : Workshop} {p : Path}

/-! ## Questions -/

theorem lookUp?_of_follow {place : Place} (hn : hasNull p = false)
    (hf : w.disk.follow w.here p = .ok place) :
    (lookUp? p).run w = (.ok (w.disk.get? place), w) := by
  unfold lookUp?
  simp only [hn, Bool.false_eq_true, if_false, run_bind, run_get]
  cases hg : w.disk.get? place with
  | none =>
      rw [find_missing hf hg]
      rfl
  | some entry =>
      rw [find_ok.mpr ⟨hf, hg⟩]
      rfl

theorem exists?_of_follow {place : Place} (hn : hasNull p = false)
    (hf : w.disk.follow w.here p = .ok place) :
    (exists? p).run w = (.ok (w.disk.get? place).isSome, w) := by
  rw [exists?, run_bind, lookUp?_of_follow hn hf]
  rfl

theorem lookUp?_some {entry : Entry} (h : (lookUp? p).run w = (.ok (some entry), w')) :
    w' = w ∧ hasNull p = false
      ∧ ∃ place, w.disk.follow w.here p = .ok place ∧ w.disk.get? place = some entry := by
  unfold lookUp? at h
  cases hn : hasNull p with
  | true =>
      rw [hn] at h
      cases h
  | false =>
      simp only [hn, Bool.false_eq_true, if_false, run_bind, run_get] at h
      split at h
      · rename_i q e hq
        cases h
        exact ⟨rfl, rfl, q, find_ok.mp hq⟩
      · cases h
      · cases h
      · cases h

theorem lookUp?_none (h : (lookUp? p).run w = (.ok none, w')) :
    w' = w ∧ ∀ place, hasNull p = false → w.disk.follow w.here p = .ok place →
      w.disk.get? place = none := by
  refine ⟨?_, fun place hn hf => ?_⟩
  · unfold lookUp? at h
    cases hn : hasNull p with
    | true =>
        rw [hn] at h
        cases h
        rfl
    | false =>
        simp only [hn, Bool.false_eq_true, if_false, run_bind, run_get] at h
        split at h <;> cases h <;> rfl
  · rw [lookUp?_of_follow hn hf] at h
    exact Except.ok.inj (Prod.mk.inj h).1

theorem isFolder_of_leadsToFolder (hn : hasNull p = false)
    (h : LeadsToFolder w.disk w.here p) : (isFolder p).run w = (.ok true, w) := by
  obtain ⟨place, hf, hg⟩ := h
  rw [isFolder, run_bind, lookUp?_of_follow hn hf, hg]
  rfl

theorem isFolder_true (h : (isFolder p).run w = (.ok true, w')) :
    w' = w ∧ LeadsToFolder w.disk w.here p := by
  obtain ⟨entry, w₁, he, hk⟩ := bind_ok.mp h
  match entry with
  | some .folder =>
      cases hk
      obtain ⟨rfl, -, place, hf, hg⟩ := lookUp?_some he
      exact ⟨rfl, place, hf, hg⟩
  | some (.file _) => cases hk
  | none => cases hk

/-! ## Operations -/

theorem query_ok {operation : Disk → Place → Path → Except DiskError α} {a : α} :
    (query p operation).run w = (.ok a, w') ↔
      hasNull p = false ∧ operation w.disk w.here p = .ok a ∧ w' = w := by
  unfold query
  cases hn : hasNull p with
  | true => simp [run_bind]
  | false =>
      simp only [Bool.false_eq_true, if_false, run_bind, run_get, true_and]
      cases operation w.disk w.here p with
      | ok b =>
          simp only [run_pure, Prod.mk.injEq, Except.ok.injEq]
          exact and_congr_right fun _ => eq_comm
      | error e => simp

theorem change_ok {operation : Disk → Place → Path → Except DiskError Disk} {u : Unit} :
    (change p operation).run w = (.ok u, w') ↔
      hasNull p = false ∧ ∃ d, operation w.disk w.here p = .ok d ∧ w' = w.onDisk d := by
  unfold change
  rw [bind_ok]
  constructor
  · rintro ⟨d, w₁, hq, hm⟩
    obtain ⟨hn, ho, rfl⟩ := query_ok.mp hq
    cases hm
    exact ⟨hn, d, ho, rfl⟩
  · rintro ⟨hn, d, ho, rfl⟩
    exact ⟨d, w, query_ok.mpr ⟨hn, ho, rfl⟩, rfl⟩

/-- A change that is refused leaves the workshop as it is. -/
theorem change_error {operation : Disk → Place → Path → Except DiskError Disk} {f : Failure}
    (h : (change p operation).run w = (.error f, w')) : w' = w := by
  unfold change query at h
  cases hn : hasNull p with
  | true =>
      simp only [hn, if_true, run_bind, run_fail] at h
      cases h
      rfl
  | false =>
      simp only [hn, Bool.false_eq_true, if_false, run_bind, run_get] at h
      cases ho : operation w.disk w.here p with
      | ok d =>
          rw [ho] at h
          cases h
      | error e =>
          rw [ho] at h
          cases h
          rfl

theorem write_ok {content : ByteArray} {u : Unit} :
    (write p content).run w = (.ok u, w') ↔
      hasNull p = false ∧ ∃ place, w.disk.follow w.here p = .ok place
        ∧ w.disk.get? place ≠ some .folder
        ∧ w' = w.onDisk (w.disk.put place (.file content)) := by
  unfold write
  rw [change_ok]
  refine and_congr_right fun _ => ?_
  constructor
  · rintro ⟨d, hd, rfl⟩
    obtain ⟨place, hf, hg, rfl⟩ := Disk.write_ok.mp hd
    exact ⟨place, hf, hg, rfl⟩
  · rintro ⟨place, hf, hg, rfl⟩
    exact ⟨_, Disk.write_ok.mpr ⟨place, hf, hg, rfl⟩, rfl⟩

theorem unlink_ok {u : Unit} :
    (unlink p).run w = (.ok u, w') ↔
      hasNull p = false ∧ ∃ place content, w.disk.follow w.here p = .ok place
        ∧ w.disk.get? place = some (.file content)
        ∧ w' = w.onDisk (w.disk.erase place) := by
  unfold unlink
  rw [change_ok]
  refine and_congr_right fun _ => ?_
  constructor
  · rintro ⟨d, hd, rfl⟩
    obtain ⟨place, content, hf, hg, rfl⟩ := Disk.unlink_ok.mp hd
    exact ⟨place, content, hf, hg, rfl⟩
  · rintro ⟨place, content, hf, hg, rfl⟩
    exact ⟨_, Disk.unlink_ok.mpr ⟨place, content, hf, hg, rfl⟩, rfl⟩

theorem readBytes_ok {content : ByteArray} :
    (readBytes p).run w = (.ok content, w') ↔
      hasNull p = false ∧ w' = w ∧ ∃ place, w.disk.follow w.here p = .ok place
        ∧ w.disk.get? place = some (.file content) := by
  unfold readBytes
  rw [query_ok, Disk.read_ok]
  refine and_congr_right fun _ => and_comm

/-- Bytes are a text exactly if they are its encoding. -/
theorem decodeUtf8_ok {bytes : ByteArray} {text : String} :
    Text.decodeUtf8 bytes = .ok text ↔ bytes = text.toUTF8 := by
  unfold Text.decodeUtf8 String.fromUTF8?
  constructor
  · intro h
    split at h
    · rename_i s hs
      cases h
      split at hs
      · cases hs
        rfl
      · cases hs
    · cases h
  · rintro rfl
    have hvalid : text.toUTF8.IsValidUTF8 := text.isValidUTF8
    rw [dif_pos hvalid]
    rfl

theorem readExact_ok {text : String} :
    (readExact p).run w = (.ok text, w') ↔
      hasNull p = false ∧ w' = w ∧ ∃ place content, w.disk.follow w.here p = .ok place
        ∧ w.disk.get? place = some (.file content)
        ∧ Text.decodeUtf8 content = .ok text := by
  unfold readExact
  rw [bind_ok]
  constructor
  · rintro ⟨content, w₁, hr, hd⟩
    obtain ⟨hn, rfl, place, hf, hg⟩ := readBytes_ok.mp hr
    obtain ⟨hdecode, rfl⟩ := ofExcept_ok.mp hd
    exact ⟨hn, rfl, place, content, hf, hg, hdecode⟩
  · rintro ⟨hn, rfl, place, content, hf, hg, hd⟩
    exact ⟨content, w', readBytes_ok.mpr ⟨hn, rfl, place, hf, hg⟩, ofExcept_ok.mpr ⟨hd, rfl⟩⟩

/-! ## Making folders -/

/-- The file tree gains folders, and nothing else changes. -/
def Grown (w w' : Workshop) : Prop := w' = w.onDisk w'.disk ∧ Grows w.disk w'.disk

theorem Grown.refl (w : Workshop) : Grown w w := ⟨rfl, Grows.refl _⟩

theorem Grown.trans {w₁ w₂ w₃ : Workshop} (h : Grown w₁ w₂) (h' : Grown w₂ w₃) :
    Grown w₁ w₃ := by
  refine ⟨?_, h.2.trans h'.2⟩
  rw [h'.1, h.1]
  rfl

theorem Grown.here (h : Grown w w') : w'.here = w.here := by
  rw [h.1]
  rfl

abbrev growing : Contract := .moving Grown Grown.refl Grown.trans

theorem growing_makeFolder (p : Path) : Meets growing (makeFolder p) := by
  intro w
  cases hr : (makeFolder p).run w with
  | mk result w₁ =>
      cases result with
      | ok u =>
          obtain ⟨-, d, hd, rfl⟩ := change_ok.mp hr
          obtain ⟨place, -, hg, rfl⟩ := makeFolder_ok.mp hd
          exact ⟨rfl, grows_put_folder hg⟩
      | error f =>
          rw [change_error hr]
          exact Grown.refl w

section

variable {R : Workshop → Workshop → Prop} {refl : ∀ w, R w w}
  {trans : ∀ {w₁ w₂ w₃}, R w₁ w₂ → R w₂ w₃ → R w₁ w₃}

theorem moving_settle (h : Meets (.moving R refl trans) (makeFolder p)) :
    Meets (.moving R refl trans) (makeFoldersFrom.settle p)
      ∧ ∀ f, Meets (.moving R refl trans) (makeFoldersFrom.accept p f) := by
  have haccept : ∀ f, Meets (.moving R refl trans) (makeFoldersFrom.accept p f) := by
    intro f
    unfold makeFoldersFrom.accept
    split
    · exact meets_bind (meets_isFolder (moving_admits _) p) fun _ =>
        meets_ite (meets_pure _) (moving_fail _)
    · exact moving_fail _
  exact ⟨moving_tryCatch h haccept, haccept⟩

/-- Making folders makes none but those on the path. -/
theorem moving_makeFoldersFrom : ∀ (fuel : Nat) {p : Path},
    (∀ q, q.Above p → Meets (.moving R refl trans) (makeFolder q)) →
      Meets (.moving R refl trans) (makeFoldersFrom fuel p)
  | 0, p, h => (moving_settle (h p (Path.Above.refl p))).1
  | fuel + 1, p, h => by
      obtain ⟨hsettle, haccept⟩ := moving_settle (h p (Path.Above.refl p))
      refine moving_tryCatch (h p (Path.Above.refl p)) fun f => ?_
      split
      · have climb : Meets (.moving R refl trans) (do
            makeFoldersFrom fuel p.parent
            makeFoldersFrom.settle p) :=
          meets_bind (moving_makeFoldersFrom fuel fun q hq => h q hq.of_parent) fun _ => hsettle
        exact meets_ite (meets_bind (moving_fail _) fun _ => climb) climb
      · exact haccept f

end

theorem growing_makeFoldersFrom (fuel : Nat) (p : Path) :
    Meets growing (makeFoldersFrom fuel p) :=
  moving_makeFoldersFrom fuel fun q _ => growing_makeFolder q

/-! ### Where the path leads then -/

/-- A failure that is accepted left a folder at the path. -/
theorem accept_ok {f : Failure} {u : Unit}
    (h : (makeFoldersFrom.accept p f).run w = (.ok u, w')) :
    w' = w ∧ LeadsToFolder w.disk w.here p := by
  unfold makeFoldersFrom.accept at h
  split at h
  · obtain ⟨b, w₁, hb, hk⟩ := bind_ok.mp h
    cases b with
    | true =>
        cases hk
        exact isFolder_true hb
    | false => cases hk
  · cases h

theorem makeFolder_ok {u : Unit} (h : (makeFolder p).run w = (.ok u, w')) :
    LeadsToFolder w'.disk w'.here p := by
  obtain ⟨-, d, hd, rfl⟩ := change_ok.mp h
  obtain ⟨place, hf, hg, rfl⟩ := Disk.makeFolder_ok.mp hd
  have hne : w.disk.get? place ≠ some .folder := by simp [hg]
  refine ⟨place, follow_of_keepsFolders (keepsFolders_put .folder hne) hf, ?_⟩
  exact (get?_put_place _ place .folder hne).trans (if_pos rfl)

theorem settle_ok {u : Unit} (h : (makeFoldersFrom.settle p).run w = (.ok u, w')) :
    LeadsToFolder w'.disk w'.here p := by
  unfold makeFoldersFrom.settle at h
  rw [run_tryCatch] at h
  cases hr : (makeFolder p).run w with
  | mk result w₁ =>
      rw [hr] at h
      cases result with
      | ok u' =>
          cases h
          exact makeFolder_ok hr
      | error f =>
          obtain ⟨rfl, hl⟩ := accept_ok h
          exact hl

theorem makeFoldersFrom_ok {u : Unit} : ∀ {fuel : Nat} {w : Workshop},
    (makeFoldersFrom fuel p).run w = (.ok u, w') → LeadsToFolder w'.disk w'.here p
  | 0, w, h => settle_ok h
  | fuel + 1, w, h => by
      rw [makeFoldersFrom, run_tryCatch] at h
      cases hr : (makeFolder p).run w with
      | mk result w₁ =>
          rw [hr] at h
          cases result with
          | ok u' =>
              cases h
              exact makeFolder_ok hr
          | error f =>
              dsimp only at h
              split at h
              · split at h
                · cases h
                · obtain ⟨_, w₂, -, hs⟩ := bind_ok.mp h
                  exact settle_ok hs
              · obtain ⟨rfl, hl⟩ := accept_ok h
                exact hl

theorem makeFolders_ok {u : Unit} (h : (makeFolders p).run w = (.ok u, w')) :
    Grown w w' ∧ LeadsToFolder w'.disk w'.here p :=
  ⟨(growing_makeFoldersFrom _ p).ok h, makeFoldersFrom_ok h⟩

/-- Where there is a folder already, nothing changes. -/
theorem makeFolders_of_leadsToFolder (hn : hasNull p = false)
    (h : LeadsToFolder w.disk w.here p) : (makeFolders p).run w = (.ok (), w) := by
  have hmake : (makeFolder p).run w = (.error (.disk .occupied p), w) := by
    obtain ⟨place, hf, hg⟩ := h
    unfold makeFolder change query
    simp only [hn, Bool.false_eq_true, if_false, run_bind, run_get, Disk.makeFolder, hf, hg,
      run_fail]
  have haccept : (makeFoldersFrom.accept p (.disk .occupied p)).run w = (.ok (), w) := by
    simp only [makeFoldersFrom.accept, run_bind, isFolder_of_leadsToFolder hn h]
    rfl
  rw [makeFolders, makeFoldersFrom, run_tryCatch, hmake]
  exact haccept

end Work

end PatchForge
