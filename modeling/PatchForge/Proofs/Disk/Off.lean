import PatchForge.Proofs.Work.Questions

/-!
# Trees that agree off some places

A change below one folder leaves the rest of a tree alone. `SameOff tops`
says so of two trees, entry for entry and in order: they may differ at the
places `tops` and below them, and nowhere else. So what is found at a
place elsewhere is the same (`SameOff.get?`), and so are the entries below
it (`SameOff.below`).

A path without `..` that starts at the top passes through the folders that
its names say and no others (`walk_congr`, `folders_of_walk`). So where it
leads, and what is there, is the same in two trees that agree off places
it does not reach into (`SameOff.find`). In a tree in which every entry is
found by its own path (`Reachable`) nothing lies below what is no folder.
-/

namespace PatchForge

namespace Dict

variable {α β : Type} [BEq α] [LawfulBEq α]

theorem filter_set_of_not (keep : α → Bool) {key : α} (h : keep key = false) (value : β) :
    ∀ d : Dict α β, (d.set key value).filter (fun e => keep e.1) = d.filter fun e => keep e.1
  | [] => by simp [set, h]
  | (k, v) :: d => by
      rw [set]
      split
      · rename_i heq
        obtain rfl := beq_iff_eq.mp heq
        simp [h]
      · simp only [List.filter_cons]
        rw [filter_set_of_not keep h value d]

end Dict

namespace Disk

variable {d d' d'' : Disk} {here here' place : Place} {tops tops' : List Place} {p : Path}

/-! ## Places under others -/

/-- Is the place one of these or below one? -/
def Under (tops : List Place) (place : Place) : Bool := tops.any (·.isPrefixOf place)

theorem under_iff : Under tops place = true ↔ ∃ top ∈ tops, top <+: place := by
  simp [Under, List.isPrefixOf_iff_prefix]

theorem Under.of_prefix {q : Place} (h : Under tops q = true) (hq : q <+: place) :
    Under tops place = true := by
  obtain ⟨top, htop, hprefix⟩ := under_iff.mp h
  exact under_iff.mpr ⟨top, htop, hprefix.trans hq⟩

theorem Under.mono (h : Under tops place = true) (hsub : tops ⊆ tops') :
    Under tops' place = true := by
  obtain ⟨top, htop, hprefix⟩ := under_iff.mp h
  exact under_iff.mpr ⟨top, hsub htop, hprefix⟩

/-! ## Two trees -/

/-- The trees have the same entries in the same order, apart from the places `tops` and what is
below them. -/
def SameOff (tops : List Place) (d d' : Disk) : Prop :=
  d'.entries.filter (fun e => !Under tops e.1) = d.entries.filter fun e => !Under tops e.1

namespace SameOff

theorem refl (d : Disk) : SameOff tops d d := rfl

theorem trans (h : SameOff tops d d') (h' : SameOff tops d' d'') : SameOff tops d d'' :=
  Eq.trans h' h

theorem mono (h : SameOff tops d d') (hsub : tops ⊆ tops') : SameOff tops' d d' := by
  have hkeep : ∀ l : Dict Place Entry, (l.filter fun e => !Under tops' e.1)
      = (l.filter fun e => !Under tops e.1).filter fun e => !Under tops' e.1 := by
    intro l
    rw [List.filter_filter]
    refine List.filter_congr fun e _ => ?_
    cases hunder : Under tops e.1 with
    | true => simp [Under.mono hunder hsub]
    | false => simp
  rw [SameOff, hkeep d'.entries, h, ← hkeep]

theorem get? (h : SameOff tops d d') (hplace : Under tops place = false) :
    d'.get? place = d.get? place := by
  have hfind : ∀ t : Disk,
      Dict.get? (t.entries.filter fun e => !Under tops e.1) place = t.entries.get? place := by
    intro t
    rw [Dict.get?_filter t.entries (fun q => !Under tops q), hplace]
    rfl
  unfold Disk.get?
  rw [← hfind d', h, hfind d]

/-- What lies below a place is the same if none of it is under the places. -/
theorem below (h : SameOff tops d d')
    (hplace : ∀ q, place <+: q → q ≠ place → Under tops q = false) :
    d'.below place = d.below place := by
  have hkept : ∀ t : Disk, t.below place
      = (t.entries.filter fun e => !Under tops e.1).filterMap fun e =>
        if place.isPrefixOf e.1 && e.1 ≠ place then some (e.1.drop place.length, e.2)
        else none := by
    intro t
    rw [List.filterMap_filter, Disk.below]
    refine List.filterMap_congr fun e _ => ?_
    by_cases hbelow : (place.isPrefixOf e.1 && decide (e.1 ≠ place)) = true
    · have hoff := hplace e.1 (by simp_all) (by simp_all)
      simp [hoff]
    · rw [if_neg hbelow, ite_self]
  rw [hkept d', h, ← hkept d]

end SameOff

theorem sameOff_put {top : Place} (h : top <+: place) (entry : Entry) :
    SameOff [top] d (d.put place entry) := by
  have hunder : Under [top] place = true := under_iff.mpr ⟨top, List.mem_singleton_self _, h⟩
  exact Dict.filter_set_of_not (fun q => !Under [top] q) (by simp [hunder]) entry d.entries

theorem sameOff_eraseTree (d : Disk) (top : Place) : SameOff [top] d (d.eraseTree top) := by
  unfold SameOff eraseTree
  rw [List.filter_filter]
  refine List.filter_congr fun e _ => ?_
  simp [Under]

/-- Nothing is left of a folder that was erased, or below it. -/
theorem get?_eraseTree {top : Place} (htop : top ≠ []) (h : top <+: place) :
    (d.eraseTree top).get? place = none := by
  have hplace : place ≠ [] := fun hnil => htop (List.prefix_nil.mp (hnil ▸ h))
  rw [Disk.get?, if_neg hplace, eraseTree,
    Dict.get?_filter d.entries (fun q => !top.isPrefixOf q), List.isPrefixOf_iff_prefix.mpr h]
  rfl

/-! ## Paths that go down -/

theorem step_down {name : String} (hname : name ≠ "..") (hshort : name.utf8ByteSize ≤ nameLimit)
    (h : d.get? place = some .folder) : d.step place name = .ok (place ++ [name]) := by
  unfold step
  rw [h]
  exact (if_neg hname).trans (if_neg (Nat.not_lt.mpr hshort))

theorem walk_append (d : Disk) : ∀ (names more : List String) (place : Place),
    d.walk place (names ++ more) = (d.walk place names).bind fun q => d.walk q more
  | [], more, place => rfl
  | name :: names, more, place => by
      rw [List.cons_append, walk, walk]
      cases d.step place name with
      | ok next => exact walk_append d names more next
      | error e => rfl

/-- Names without `..` lead down, through folders. -/
theorem folders_of_walk : ∀ {names : List String} {place next : Place}, ".." ∉ names →
    d.walk place names = .ok next → next = place ++ names
      ∧ ∀ q, q <+: names → q ≠ names → d.get? (place ++ q) = some .folder
  | [], place, next, _, h => by
      cases h
      refine ⟨(List.append_nil _).symm, fun q hq hne => ?_⟩
      exact (hne (List.prefix_nil.mp hq)).elim
  | name :: names, place, next, hplain, h => by
      obtain ⟨hname, hnames⟩ := not_or.mp (List.mem_cons.not.mp hplain)
      rw [walk] at h
      cases hstep : d.step place name with
      | error e =>
          rw [hstep] at h
          cases h
      | ok first =>
          have hfolder := folder_of_step hstep
          have hshort : name.utf8ByteSize ≤ nameLimit := by
            have hone : d.walk place [name] = .ok first := by rw [walk, hstep]; rfl
            exact walk_names hone name (List.mem_singleton_self _)
          rw [step_down (Ne.symm hname) hshort hfolder] at hstep
          cases hstep
          rw [step_down (Ne.symm hname) hshort hfolder] at h
          obtain ⟨rfl, hfolders⟩ := folders_of_walk hnames h
          refine ⟨by rw [List.append_assoc]; rfl, fun q hq hne => ?_⟩
          cases q with
          | nil => rwa [List.append_nil]
          | cons head tail =>
              obtain ⟨rfl, htail⟩ := List.cons_prefix_cons.mp hq
              have hbelow := hfolders tail htail fun heq => hne (heq ▸ rfl)
              rwa [List.append_assoc] at hbelow

/-- Only the folders on the way decide where names without `..` lead. -/
theorem walk_congr : ∀ {names : List String} {place : Place}, ".." ∉ names →
    (∀ q, q <+: names → q ≠ names → d'.get? (place ++ q) = d.get? (place ++ q)) →
      d'.walk place names = d.walk place names
  | [], _, _, _ => rfl
  | name :: names, place, hplain, h => by
      obtain ⟨hname, hnames⟩ := not_or.mp (List.mem_cons.not.mp hplain)
      have hhere : d'.get? place = d.get? place := by
        have := h [] (List.nil_prefix) (List.cons_ne_nil _ _).symm
        rwa [List.append_nil] at this
      have hstep : d'.step place name = d.step place name := by
        unfold step
        rw [hhere]
      rw [walk, walk, hstep]
      cases hnext : d.step place name with
      | error e => rfl
      | ok next =>
          have hwalk : d.walk place [name] = .ok next := by
            rw [walk, hnext]
            rfl
          have hplain : ".." ∉ [name] := fun hmem => hname (List.mem_singleton.mp hmem)
          obtain ⟨rfl, -⟩ := folders_of_walk hplain hwalk
          refine walk_congr hnames fun q hq hne => ?_
          have := h (name :: q) (List.cons_prefix_cons.mpr ⟨rfl, hq⟩)
            fun heq => hne (List.cons.inj heq).2
          rwa [List.append_assoc]

/-- Where no file is in the way, names that can be used lead down, or a folder is missing. -/
theorem walk_free : ∀ {names : List String} {place : Place}, ".." ∉ names →
    (∀ name ∈ names, name.utf8ByteSize ≤ nameLimit) →
    (∀ q, q <+: names → q ≠ names → ∀ content, d.get? (place ++ q) ≠ some (.file content)) →
      d.walk place names = .ok (place ++ names)
        ∨ d.walk place names = .error .missing
          ∧ ∃ q, q <+: names ∧ q ≠ names ∧ d.get? (place ++ q) = none
  | [], _, _, _, _ => Or.inl (by rw [walk, List.append_nil])
  | name :: names, place, hplain, hshort, hfree => by
      obtain ⟨hname, hnames⟩ := not_or.mp (List.mem_cons.not.mp hplain)
      obtain ⟨hfirst, hrest⟩ := List.forall_mem_cons.mp hshort
      have hempty : ([] : List String) ≠ name :: names := (List.cons_ne_nil _ _).symm
      have hhere : ∀ content, d.get? place ≠ some (.file content) := by
        have := hfree [] List.nil_prefix hempty
        rwa [List.append_nil] at this
      cases hget : d.get? place with
      | none =>
          refine Or.inr ⟨?_, [], List.nil_prefix, hempty, by rwa [List.append_nil]⟩
          rw [walk]
          unfold step
          rw [hget]
      | some entry =>
          cases entry with
          | file content => exact (hhere content hget).elim
          | folder =>
              have hassoc : ∀ q, place ++ (name :: q) = place ++ [name] ++ q := fun q => by
                rw [List.append_assoc]
                rfl
              rw [walk, step_down (Ne.symm hname) hfirst hget, hassoc names]
              refine (walk_free hnames hrest fun q hq hne => ?_).imp_right ?_
              · rw [← hassoc q]
                exact hfree (name :: q) (List.cons_prefix_cons.mpr ⟨rfl, hq⟩)
                  fun heq => hne (List.cons.inj heq).2
              · rintro ⟨hmissing, q, hq, hne, hnone⟩
                refine ⟨hmissing, name :: q, List.cons_prefix_cons.mpr ⟨rfl, hq⟩,
                  fun heq => hne (List.cons.inj heq).2, ?_⟩
                rw [hassoc q, hnone]

end Disk

/-- The path starts at the top and has no `..`. -/
structure Path.Down (p : Path) : Prop where
  top : p.root = .top
  plain : ".." ∉ p.names

theorem Path.Down.eq {p : Path} (h : p.Down) : p = ⟨.top, p.names⟩ := by
  obtain ⟨root, names⟩ := p
  rw [show root = .top from h.top]

namespace Disk

variable {d d' : Disk} {here here' place : Place} {tops : List Place} {p : Path}

theorem follow_down (hp : p.Down) (d : Disk) (here : Place) :
    d.follow here p
      = if pathLimit ≤ p.text.utf8ByteSize then .error .nameTooLong else d.walk [] p.names := by
  have habsolute : p.isAbsolute = true := by
    rw [Path.isAbsolute, hp.top]
    rfl
  unfold follow
  rw [if_pos habsolute]

/-- A path that goes down leads to the place of its names, if anywhere. -/
theorem place_of_follow (hp : p.Down) (h : d.follow here p = .ok place) :
    place = p.names ∧ ∀ q, q <+: p.names → q ≠ p.names → d.get? q = some .folder := by
  rw [follow_down hp] at h
  split at h
  · cases h
  · exact folders_of_walk hp.plain h

theorem SameOff.follow (h : SameOff tops d d') (hp : p.Down)
    (hoff : Under tops p.names = false) : d'.follow here' p = d.follow here p := by
  rw [follow_down hp, follow_down hp]
  have hwalk : d'.walk [] p.names = d.walk [] p.names := by
    refine walk_congr hp.plain fun q hq _ => h.get? ?_
    by_contra hunder
    rw [Under.of_prefix (Bool.of_not_eq_false hunder) hq] at hoff
    cases hoff
  rw [hwalk]

/-- What a path that goes down finds is the same if it does not reach under the places. -/
theorem SameOff.find (h : SameOff tops d d') (hp : p.Down)
    (hoff : Under tops p.names = false) : d'.find here' p = d.find here p := by
  have hfollows : d'.follow here' p = d.follow here p := h.follow hp hoff
  unfold Disk.find
  rw [hfollows]
  cases hfollow : d.follow here p with
  | error e => rfl
  | ok place =>
      obtain ⟨rfl, -⟩ := place_of_follow hp hfollow
      dsimp only
      rw [h.get? hoff]

/-! ## Trees in which every entry can be reached -/

/-- Every entry is found by the path of its names. -/
def Reachable (d : Disk) : Prop :=
  ∀ e ∈ d.entries, Work.hasNull ⟨.top, e.1⟩ = false ∧ d.follow [] ⟨.top, e.1⟩ = .ok e.1

instance (d : Disk) : Decidable d.Reachable :=
  inferInstanceAs (Decidable (∀ e ∈ d.entries, _))

/-- No path leads to a place with `..` among its names. -/
theorem not_mem_of_walk : ∀ {names : List String} {place next : Place}, ".." ∉ place →
    d.walk place names = .ok next → ".." ∉ next
  | [], _, _, hplace, h => by
      cases h
      exact hplace
  | name :: names, place, next, hplace, h => by
      rw [walk] at h
      cases hstep : d.step place name with
      | error e =>
          rw [hstep] at h
          cases h
      | ok first =>
          rw [hstep] at h
          refine not_mem_of_walk ?_ h
          unfold step at hstep
          rw [folder_of_step (by unfold step; exact hstep)] at hstep
          dsimp only at hstep
          split at hstep
          · cases hstep
            exact fun hmem => hplace (List.dropLast_subset _ hmem)
          · split at hstep
            · cases hstep
            · rename_i hname _
              cases hstep
              simpa [hplace] using Ne.symm hname

namespace Reachable

theorem down (h : d.Reachable) {e : Place × Entry} (he : e ∈ d.entries) :
    (⟨.top, e.1⟩ : Path).Down := by
  refine ⟨rfl, ?_⟩
  obtain ⟨-, hfollow⟩ := h e he
  unfold follow at hfollow
  split at hfollow
  · cases hfollow
  · exact not_mem_of_walk List.not_mem_nil hfollow

theorem folder_above (h : d.Reachable) {e : Place × Entry} (he : e ∈ d.entries)
    (hplace : place <+: e.1) (hne : place ≠ e.1) : d.get? place = some .folder :=
  (place_of_follow (h.down he) (h e he).2).2 place hplace hne

end Reachable

theorem mem_entries_of_get? {entry : Entry} (h : d.get? place = some entry) (hne : place ≠ []) :
    (place, entry) ∈ d.entries := by
  have hfound : ∀ l : Dict Place Entry, l.get? place = some entry → (place, entry) ∈ l := by
    intro l
    induction l with
    | nil => simp
    | cons e l ih =>
        obtain ⟨q, x⟩ := e
        rw [Dict.get?_cons]
        split
        · rename_i heq
          obtain rfl := beq_iff_eq.mp heq
          rintro ⟨⟩
          exact List.mem_cons_self ..
        · exact fun hl => List.mem_cons_of_mem _ (ih hl)
  refine hfound d.entries ?_
  rwa [Disk.get?, if_neg hne] at h

theorem mem_below {e : List String × Entry} :
    e ∈ d.below place ↔ e.1 ≠ [] ∧ (place ++ e.1, e.2) ∈ d.entries := by
  unfold below
  rw [List.mem_filterMap]
  simp only [Option.ite_none_right_eq_some, Bool.and_eq_true, List.isPrefixOf_iff_prefix,
    decide_eq_true_eq]
  constructor
  · rintro ⟨⟨_, entry⟩, hfound, ⟨⟨names, rfl⟩, hne⟩, heq⟩
    obtain rfl := Option.some.inj heq
    rw [List.drop_left]
    refine ⟨?_, hfound⟩
    rintro rfl
    exact hne (List.append_nil _)
  · rintro ⟨hne, hentry⟩
    refine ⟨_, hentry, ⟨List.prefix_append .., ?_⟩, by rw [List.drop_left]⟩
    simpa using hne

end Disk

end PatchForge
