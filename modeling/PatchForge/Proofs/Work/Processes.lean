import Mathlib.Data.List.GetD
import PatchForge.Proofs.Work.Ways

/-!
# The processes that work asks for

How the next processes end is written in the workshop
(`Workshop.outcome`). `Traces calls x a w` says all that the work `x` does
with processes from there: it asks for `calls`, one after another. If all
of them pass it gives `a`; at the first that does not it stops, and asks
for none of the rest.

What stops it is one of three things (`Stops`). A call with a null
character starts nothing. A process that says bytes that are no text is a
failure of its own, whatever its exit code. Everything else is a failure
of the toolchain: the process is refused a start, or its exit code is not
zero.

Traces go on from one another (`Traces.bind`), so the processes of a
sequence are those of its parts, in order.
-/

namespace PatchForge

open Work Disk

/-- A process can be asked for: neither the program nor an argument holds a null character. -/
def Startable (call : List String) : Prop := ∀ text ∈ call, holdsNull text = false

instance (call : List String) : Decidable (Startable call) :=
  inferInstanceAs (Decidable (∀ text ∈ call, holdsNull text = false))

theorem startable_append {call rest : List String} :
    Startable (call ++ rest) ↔ Startable call ∧ Startable rest := List.forall_mem_append

theorem startable_cons {text : String} {rest : List String} :
    Startable (text :: rest) ↔ holdsNull text = false ∧ Startable rest := List.forall_mem_cons

theorem startable_getD {calls : List (List String)} (h : ∀ call ∈ calls, Startable call) (i : Nat) :
    Startable (calls.getD i []) := by
  rw [List.getD_eq_getElem?_getD]
  cases hcall : calls[i]? with
  | none => exact List.forall_mem_nil _
  | some call => exact h call (List.mem_of_getElem? hcall)

/-- The process was started, what it says is text and its exit code is zero. -/
def Outcome.EndsWell (o : Outcome) : Prop :=
  o.refused = none ∧ o.texts.isOk = true ∧ o.exitCode = 0

instance (o : Outcome) : Decidable o.EndsWell :=
  inferInstanceAs (Decidable (o.refused = none ∧ o.texts.isOk = true ∧ o.exitCode = 0))

/-- What starting a program comes to. -/
def Outcome.result (program : String) (o : Outcome) : Except Failure Int :=
  match o.refused, o.texts with
  | some e, _ => .error (.toolchain (.notStarted program e))
  | none, .error fault => .error (.utf8 fault)
  | none, .ok _ => .ok o.exitCode

/-- How a call stops the work that makes it, given how its process would end: with how many
processes started, and with which failure. -/
inductive Stops (call : List String) (o : Outcome) : Nat → Failure → Prop
  | barred (hnull : ¬ Startable call) : Stops call o 0 .nullCharacter
  | garbled {fault : Text.Utf8Fault} (hstartable : Startable call) (hstarts : o.refused = none)
      (htexts : o.texts = .error fault) : Stops call o 1 (.utf8 fault)
  | unmade {fault : ToolchainFault} (hstartable : Startable call)
      (hends : o.refused = none → o.texts.isOk = true ∧ o.exitCode ≠ 0) :
      Stops call o 1 (.toolchain fault)

theorem Stops.started_le {call : List String} {o : Outcome} {n : Nat} {f : Failure}
    (h : Stops call o n f) : n ≤ 1 := by
  cases h with
  | barred => exact Nat.zero_le 1
  | garbled => exact Nat.le_refl 1
  | unmade => exact Nat.le_refl 1

/-- A call passes where nothing stops the work. -/
theorem Stops.not_passes {call : List String} {o : Outcome} {n : Nat} {f : Failure}
    (h : Stops call o n f) : ¬ (Startable call ∧ o.EndsWell) := by
  rintro ⟨hstartable, hstarts, htexts, hcode⟩
  cases h with
  | barred hnull => exact hnull hstartable
  | garbled _ _ hfault =>
      rw [hfault] at htexts
      cases htexts
  | unmade _ hends => exact (hends hstarts).2 hcode

/-- How the process ends before which `i` others are started. -/
def Workshop.outcome (w : Workshop) (i : Nat) : Outcome := w.outcomes.getD i {}

/-- The workshop apart from its files, its processes and what was said. -/
def Workshop.aside (w : Workshop) : Workshop :=
  { w with disk := .empty, said := [], started := [], outcomes := [] }

theorem Workshop.eq_of_aside {w w' : Workshop} (h : w'.aside = w.aside) :
    w'.grants = w.grants ∧ w'.windows = w.windows := by
  have hgrants := congrArg Workshop.grants h
  have hwindows := congrArg Workshop.windows h
  exact ⟨hgrants, hwindows⟩

namespace Work

variable {α β : Type} {calls calls' : List (List String)} {w w' w'' : Workshop} {i : Nat}
  {f : Failure}

/-- The call with index `i` can be made, and its process ends well. -/
def CallPasses (calls : List (List String)) (w : Workshop) (i : Nat) : Prop :=
  Startable (calls.getD i []) ∧ (w.outcome i).EndsWell

/-- All the processes were started and ended well. -/
structure Completes (calls : List (List String)) (w w' : Workshop) : Prop where
  well : ∀ i < calls.length, CallPasses calls w i
  started : w'.started = w.started ++ calls
  outcomes : w'.outcomes = w.outcomes.drop calls.length

/-- The call with index `i` stopped the work with the failure `f`, and was the last one made. -/
structure BreaksOff (calls : List (List String)) (i : Nat) (f : Failure) (w w' : Workshop) :
    Prop where
  lt : i < calls.length
  before : ∀ j < i, CallPasses calls w j
  ill : ∃ n, Stops (calls.getD i []) (w.outcome i) n f
    ∧ w'.started = w.started ++ calls.take (i + n)

theorem callPasses_append_left (hi : i < calls.length) :
    CallPasses (calls ++ calls') w i ↔ CallPasses calls w i := by
  rw [CallPasses, CallPasses, List.getD_append _ _ _ _ hi]

namespace Completes

theorem nil (hstarted : w'.started = w.started) (houtcomes : w'.outcomes = w.outcomes) :
    Completes [] w w' where
  well i hi := (Nat.not_lt_zero i hi).elim
  started := by rw [hstarted, List.append_nil]
  outcomes := houtcomes

theorem outcome (h : Completes calls w w') (i : Nat) :
    w'.outcome i = w.outcome (calls.length + i) := by
  rw [Workshop.outcome, Workshop.outcome, h.outcomes, List.getD_eq_getElem?_getD,
    List.getD_eq_getElem?_getD, List.getElem?_drop]

/-- Calls that follow pass as they do from there. -/
theorem passes_iff (h : Completes calls w w') (i : Nat) :
    CallPasses (calls ++ calls') w (calls.length + i) ↔ CallPasses calls' w' i := by
  rw [CallPasses, CallPasses, h.outcome, List.getD_append_right _ _ _ _ (Nat.le_add_right ..),
    Nat.add_sub_cancel_left]

/-- Calls that pass, followed by such that pass so far, pass so far. -/
theorem passes_append (h : Completes calls w w') (hnext : ∀ j < i, CallPasses calls' w' j) :
    ∀ j < calls.length + i, CallPasses (calls ++ calls') w j := by
  intro j hj
  by_cases hfirst : j < calls.length
  · exact (callPasses_append_left hfirst).mpr (h.well j hfirst)
  · obtain ⟨k, rfl⟩ := Nat.exists_eq_add_of_le (Nat.le_of_not_lt hfirst)
    exact (h.passes_iff k).mpr (hnext k (by omega))

theorem append (h : Completes calls w w') (h' : Completes calls' w' w'') :
    Completes (calls ++ calls') w w'' where
  well := by
    rw [List.length_append]
    exact h.passes_append h'.well
  started := by rw [h'.started, h.started, List.append_assoc]
  outcomes := by rw [h'.outcomes, h.outcomes, List.drop_drop, List.length_append]

theorem breaksOff (h : Completes calls w w') (h' : BreaksOff calls' i f w' w'') :
    BreaksOff (calls ++ calls') (calls.length + i) f w w'' where
  lt := by
    rw [List.length_append]
    exact Nat.add_lt_add_left h'.lt _
  before := h.passes_append h'.before
  ill := by
    obtain ⟨n, hstops, hstarted⟩ := h'.ill
    refine ⟨n, ?_, ?_⟩
    · rwa [List.getD_append_right _ _ _ _ (Nat.le_add_right ..), Nat.add_sub_cancel_left,
        ← h.outcome]
    · rw [hstarted, h.started, List.append_assoc, Nat.add_assoc, List.take_length_add_append]

end Completes

theorem BreaksOff.append (h : BreaksOff calls i f w w') (calls' : List (List String)) :
    BreaksOff (calls ++ calls') i f w w' where
  lt := by
    rw [List.length_append]
    exact Nat.lt_add_right _ h.lt
  before j hj := (callPasses_append_left (Nat.lt_trans hj h.lt)).mpr (h.before j hj)
  ill := by
    obtain ⟨n, hstops, hstarted⟩ := h.ill
    have hn : i + n ≤ calls.length :=
      Nat.le_trans (Nat.add_le_add_left hstops.started_le i) h.lt
    refine ⟨n, ?_, ?_⟩
    · rwa [List.getD_append _ _ _ _ h.lt]
    · rw [hstarted, List.take_append_of_le_length hn]

theorem BreaksOff.not_passes (h : BreaksOff calls i f w w') : ¬ CallPasses calls w i := by
  obtain ⟨n, hstops, -⟩ := h.ill
  exact hstops.not_passes

/-- The first call that does not pass is the only one of that kind. -/
theorem BreaksOff.index_eq (h : BreaksOff calls i f w w') {k : Nat}
    (hbefore : ∀ j < k, CallPasses calls w j) (hill : ¬ CallPasses calls w k) : i = k := by
  rcases Nat.lt_trichotomy i k with hlt | heq | hgt
  · exact (h.not_passes (hbefore i hlt)).elim
  · exact heq
  · exact (hill (h.before k hgt)).elim

/-! ## Traces -/

/-- The work asks for the processes one after another. It gives `a` if all pass, and stops at the
first that does not; either way the workshop moves along `R`. -/
def Traces (R : Workshop → Workshop → Prop) (calls : List (List String)) (x : Work α) (a : α)
    (w : Workshop) : Prop :=
  ∃ w', R w w' ∧ (x.run w = (.ok a, w') ∧ Completes calls w w'
    ∨ ∃ i f, x.run w = (.error f, w') ∧ BreaksOff calls i f w w')

section

variable {R R' S : Workshop → Workshop → Prop} {x : Work α} {a : α}

/-- Work without processes. -/
theorem Traces.of_run (hrun : x.run w = (.ok a, w')) (hR : R w w')
    (hstarted : w'.started = w.started) (houtcomes : w'.outcomes = w.outcomes) :
    Traces R [] x a w :=
  ⟨w', hR, Or.inl ⟨hrun, Completes.nil hstarted houtcomes⟩⟩

/-- What went before the trace without processes. -/
theorem Traces.after {y : Work α} (hy : Traces R calls y a w') (hrun : x.run w = y.run w')
    (hstarted : w'.started = w.started) (houtcomes : w'.outcomes = w.outcomes)
    (hS : ∀ {w''}, R w' w'' → S w w'') : Traces S calls x a w := by
  have houtcome : ∀ i, w'.outcome i = w.outcome i := fun i => by
    rw [Workshop.outcome, houtcomes, Workshop.outcome]
  have hpasses : ∀ i, CallPasses calls w' i ↔ CallPasses calls w i := fun i => by
    rw [CallPasses, houtcome, CallPasses]
  obtain ⟨w'', hR, ⟨hy, hcompletes⟩ | ⟨i, f, hy, hbreaks⟩⟩ := hy
  · refine ⟨w'', hS hR, Or.inl ⟨hrun.trans hy, ?_, ?_, ?_⟩⟩
    · exact fun i hi => (hpasses i).mp (hcompletes.well i hi)
    · rw [hcompletes.started, hstarted]
    · rw [hcompletes.outcomes, houtcomes]
  · refine ⟨w'', hS hR, Or.inr ⟨i, f, hrun.trans hy, hbreaks.lt, ?_, ?_⟩⟩
    · exact fun j hj => (hpasses j).mp (hbreaks.before j hj)
    · rw [← houtcome, ← hstarted]
      exact hbreaks.ill

theorem Traces.bind {k : α → Work β} {b : β} (hx : Traces R calls x a w)
    (hk : ∀ w', R w w' → Traces R' calls' (k a) b w')
    (hstop : ∀ {w'}, R w w' → S w w')
    (hnext : ∀ {w' w''}, R w w' → R' w' w'' → S w w'') :
    Traces S (calls ++ calls') (x >>= k) b w := by
  obtain ⟨w', hR, ⟨hrun, hcompletes⟩ | ⟨i, f, hrun, hbreaks⟩⟩ := hx
  · obtain ⟨w'', hR', ⟨hrun', hcompletes'⟩ | ⟨i, f, hrun', hbreaks⟩⟩ := hk w' hR
    · refine ⟨w'', hnext hR hR', Or.inl ⟨?_, hcompletes.append hcompletes'⟩⟩
      rw [run_bind, hrun]
      exact hrun'
    · refine ⟨w'', hnext hR hR', Or.inr ⟨_, f, ?_, hcompletes.breaksOff hbreaks⟩⟩
      rw [run_bind, hrun]
      exact hrun'
  · refine ⟨w', hstop hR, Or.inr ⟨i, f, ?_, hbreaks.append calls'⟩⟩
    rw [run_bind, hrun]

theorem Traces.map {g : α → β} (hx : Traces R calls x a w) : Traces R calls (g <$> x) (g a) w := by
  obtain ⟨w', hR, ⟨hrun, hcompletes⟩ | ⟨i, f, hrun, hbreaks⟩⟩ := hx
  · exact ⟨w', hR, Or.inl ⟨map_ok.mpr ⟨a, hrun, rfl⟩, hcompletes⟩⟩
  · refine ⟨w', hR, Or.inr ⟨i, f, ?_, hbreaks⟩⟩
    rw [map_eq_pure_bind, run_bind, hrun]

/-- One process for each item of a list. -/
theorem Traces.forM (hrefl : ∀ w, R w w)
    (htrans : ∀ {w₁ w₂ w₃}, R w₁ w₂ → R w₂ w₃ → R w₁ w₃) {g : α → Work PUnit}
    {call : α → List String} : ∀ {l : List α} {w : Workshop},
      (∀ a ∈ l, ∀ w', R w w' → Traces R [call a] (g a) ⟨⟩ w') →
        Traces R (l.map call) (l.forM g) ⟨⟩ w
  | [], w, _ => Traces.of_run (run_pure _ _) (hrefl w) rfl rfl
  | a :: l, w, h => by
      obtain ⟨ha, hl⟩ := List.forall_mem_cons.mp h
      refine Traces.bind (ha w (hrefl w)) (fun w' hR => ?_) (fun hR => hR) htrans
      exact Traces.forM hrefl htrans fun b hb w'' hR' => hl b hb w'' (htrans hR hR')

end

/-! ## One process -/

theorem sayLines_run : ∀ (lines : List String) (w : Workshop),
    ∃ w', (sayLines lines).run w = (.ok (), w') ∧ w'.silent = w.silent := by
  intro lines
  induction lines with
  | nil => exact fun w => ⟨w, rfl, rfl⟩
  | cons line lines ih =>
      intro w
      by_cases hline : line = ""
      · obtain ⟨w', hrun, hsilent⟩ := ih w
        refine ⟨w', ?_, hsilent⟩
        rw [sayLines, if_neg (not_not.mpr hline)]
        exact hrun
      · obtain ⟨w', hrun, hsilent⟩ := ih { w with
          said := w.said ++ [Notice.shown (.plain line none "white" false)] }
        refine ⟨w', ?_, hsilent⟩
        rw [sayLines, if_pos hline]
        exact hrun

/-- A call with a null character starts nothing. -/
theorem start_barred {program : String} {arguments : List String}
    (hnull : ¬ Startable (program :: arguments)) (w : Workshop) :
    (start program arguments).run w = (.error .nullCharacter, w) := by
  have hany : (program :: arguments).any holdsNull = true := by
    obtain ⟨text, hnull⟩ := not_forall.mp hnull
    obtain ⟨htext, hholds⟩ := Classical.not_imp.mp hnull
    exact List.any_eq_true.mpr ⟨text, htext, by simpa using hholds⟩
  rw [start]
  simp only [hany, if_true]
  rfl

/-- A process is started, and takes the next outcome. -/
theorem start_outcome {program : String} {arguments : List String}
    (hstartable : Startable (program :: arguments)) (w : Workshop) :
    ∃ w', w'.disk = w.disk ∧ w'.aside = w.aside
      ∧ w'.started = w.started ++ [program :: arguments] ∧ w'.outcomes = w.outcomes.drop 1
      ∧ (start program arguments).run w = ((w.outcome 0).result program, w') := by
  let w₁ : Workshop :=
    { w with started := w.started ++ [program :: arguments], outcomes := w.outcomes.tail }
  have htail : w₁.outcomes = w.outcomes.drop 1 := List.drop_one.symm
  have hhead : w.outcomes.headD {} = w.outcome 0 := by
    rw [Workshop.outcome]
    cases w.outcomes <;> rfl
  have hset : ∀ v : Workshop, (set v : Work PUnit).run w = (.ok ⟨⟩, v) := fun _ => rfl
  have hnone : (program :: arguments).any holdsNull = false :=
    List.any_eq_false.mpr fun text htext => by simp [hstartable text htext]
  unfold start
  simp only [hnone, Bool.false_eq_true, if_false]
  rw [run_bind, run_get]
  dsimp only
  rw [run_bind, hset, hhead]
  dsimp only
  rw [Outcome.result]
  cases (w.outcome 0).refused with
  | some e => exact ⟨w₁, rfl, rfl, rfl, htail, rfl⟩
  | none =>
      dsimp only
      cases (w.outcome 0).texts with
      | error fault => exact ⟨w₁, rfl, rfl, rfl, htail, rfl⟩
      | ok texts =>
          obtain ⟨output, errorOutput⟩ := texts
          obtain ⟨w₂, hlines, hsilent⟩ := sayLines_run (Text.lines output) w₁
          obtain ⟨w₃, herrors, hsilent'⟩ := sayLines_run (Text.lines errorOutput) w₂
          have hsame : w₃.silent = w₁.silent := hsilent'.trans hsilent
          have hdisk := congrArg Workshop.disk hsame
          have haside := congrArg Workshop.aside hsame
          have hstarted := congrArg Workshop.started hsame
          have houtcomes := congrArg Workshop.outcomes hsame
          refine ⟨w₃, hdisk, haside, hstarted, houtcomes.trans htail, ?_⟩
          show (sayLines (Text.lines output) >>= _).run w₁ = _
          rw [run_bind, hlines]
          dsimp only
          rw [run_bind, herrors]
          rfl

/-- A process that must end well. -/
theorem start_traces (program : String) (arguments : List String) (fault : ToolchainFault)
    (w : Workshop) :
    Traces (fun w w' => w'.disk = w.disk ∧ w'.aside = w.aside) [program :: arguments] (do
      let code ← start program arguments
      if code ≠ 0 then fail (.toolchain fault)) () w := by
  -- there is one call, so it is the first one that can stop the work
  have hbreaks : ∀ {n : Nat} {f : Failure} {w' : Workshop},
      Stops (program :: arguments) (w.outcome 0) n f →
        w'.started = w.started ++ [program :: arguments].take n →
          BreaksOff [program :: arguments] 0 f w w' := fun hstops hstarted =>
    ⟨Nat.zero_lt_one, fun j hj => (Nat.not_lt_zero j hj).elim, _, hstops, by
      rwa [Nat.zero_add]⟩
  by_cases hstartable : Startable (program :: arguments)
  · obtain ⟨w', hdisk, haside, hstarted, houtcomes, hstart⟩ := start_outcome hstartable w
    refine ⟨w', ⟨hdisk, haside⟩, ?_⟩
    rw [run_bind, hstart, Outcome.result]
    cases hrefused : (w.outcome 0).refused with
    | some e =>
        refine Or.inr ⟨0, _, rfl, hbreaks (.unmade hstartable fun hnone => ?_) hstarted⟩
        rw [hnone] at hrefused
        cases hrefused
    | none =>
        cases htexts : (w.outcome 0).texts with
        | error fault =>
            exact Or.inr ⟨0, _, rfl, hbreaks (.garbled hstartable hrefused htexts) hstarted⟩
        | ok texts =>
            have hreads : (w.outcome 0).texts.isOk = true := by
              rw [htexts]
              rfl
            dsimp only
            by_cases hcode : (w.outcome 0).exitCode = 0
            · rw [if_neg (not_not.mpr hcode)]
              refine Or.inl ⟨rfl, fun i hi => ?_, hstarted, houtcomes⟩
              obtain rfl := Nat.lt_one_iff.mp hi
              exact ⟨hstartable, hrefused, hreads, hcode⟩
            · rw [if_pos hcode]
              exact Or.inr ⟨0, _, rfl,
                hbreaks (.unmade hstartable fun _ => ⟨hreads, hcode⟩) hstarted⟩
  · refine ⟨w, ⟨rfl, rfl⟩, Or.inr ⟨0, _, ?_, hbreaks (.barred hstartable) ?_⟩⟩
    · rw [run_bind, start_barred hstartable]
    · rw [List.take_zero, List.append_nil]

end Work

end PatchForge
