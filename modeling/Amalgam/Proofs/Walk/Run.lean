import Amalgam.Proofs.Walk.Reach

/-!
# What happens along a walk

A walk passes from state to state until it halts. What every step keeps holds
where it halts (`run_induction`); so the headers that were asked for are those
that were found, and the one that could not be read if there is one. A walk fails
with the first header that it asks for and cannot read (`extract_eq_error`), and
otherwise it succeeds.

`states` lists the states on the way. A file is left when its lines are used up,
and `leavingOrder` lists the files as they are left: it is the postorder of the
forest that the visit makes, and then the root.
-/

namespace Amalgam.Walk

variable {reader : Reader} {ex : Exclusion} {w w' : Walk}

-- ---------------------------------------------------------------------------
-- What a step keeps
-- ---------------------------------------------------------------------------

/-- The ways that a walk goes on, with all that changes. A line that is passed may be
lifted. -/
inductive Move (reader : Reader) (ex : Exclusion) (w : Walk) : Walk → Prop where
  | left {label dir outer} :
      w.frames = ⟨label, dir, []⟩ :: outer → Move reader ex w { w with frames := outer }
  | passed {label dir line pending outer lifted} :
      w.frames = ⟨label, dir, line :: pending⟩ :: outer →
      Move reader ex w
        { w with frames := ⟨label, dir, pending⟩ :: outer, found := { w.found with lifted } }
  | failed {label dir line pending outer target cause} :
      w.frames = ⟨label, dir, line :: pending⟩ :: outer →
      directive ex dir line = .follow target → target ∉ w.visited →
      reader.read target = .error cause →
      Move reader ex w
        { w with
          frames := ⟨label, dir, pending⟩ :: outer
          visited := target :: w.visited
          reads := w.reads ++ [⟨label, target⟩]
          failure := some ⟨target, label, cause⟩ }
  | entered {label dir line pending outer target content} :
      w.frames = ⟨label, dir, line :: pending⟩ :: outer →
      directive ex dir line = .follow target → target ∉ w.visited →
      reader.read target = .ok content →
      Move reader ex w
        { w with
          frames := ⟨target, target.dir, Text.lines content⟩ :: ⟨label, dir, pending⟩ :: outer
          visited := target :: w.visited
          reads := w.reads ++ [⟨label, target⟩]
          found :=
            { w.found with
              edges := w.found.edges ++ [⟨label, target⟩]
              sources := w.found.sources ++ [(target, content)] } }

theorem move_step (hw : w.isHalted = false) : Move reader ex w (w.step reader ex) := by
  unfold step
  split
  next hf => simp [isHalted, hf] at hw
  next outer hf => exact .left hf
  next label dir line pending outer hf =>
    simp only
    split
    next => exact .passed hf
    next => exact .passed hf
    next target hd =>
      split
      next => exact .passed hf
      next hv =>
        unfold enter
        split
        next cause hr => exact .failed hf hd hv hr
        next content hr => exact .entered hf hd hv hr

theorem failure_eq_none (hw : w.isHalted = false) : w.failure = none := by
  simp only [isHalted, Bool.or_eq_false_iff] at hw
  simpa using hw.2

theorem run_induction {P : Walk → Prop}
    (hmove : ∀ w w' : Walk, w.failure = none → Move reader ex w w' → P w → P w') (w : Walk)
    (h : P w) : P (w.run reader ex) := by
  fun_induction run reader ex w with
  | case1 w _ => exact h
  | case2 w hw ih =>
    have hw : w.isHalted = false := by simpa using hw
    exact ih (hmove w _ (failure_eq_none hw) (move_step hw) h)

theorem isHalted_run (reader : Reader) (ex : Exclusion) (w : Walk) :
    (w.run reader ex).isHalted = true := by
  fun_induction run reader ex w with
  | case1 w hw => exact hw
  | case2 w _ ih => exact ih

theorem frames_run_eq_nil (h : (w.run reader ex).failure = none) :
    (w.run reader ex).frames = [] := by
  simpa [isHalted, h] using isHalted_run reader ex w

theorem result_eq_ok {x : Extraction} : w.result = .ok x ↔ w.failure = none ∧ w.found = x := by
  unfold result
  cases w.failure <;> simp

/-- Whatever was asked for was found, but for the header that the walk failed at. -/
def Accounts (w : Walk) : Prop :=
  w.reads = w.found.edges ++ w.failure.toList.map fun e => ⟨e.referrer, e.path⟩

theorem Move.accounts (hnone : w.failure = none) (hmove : Move reader ex w w') (h : w.Accounts) :
    w'.Accounts := by
  have hreads : w.reads = w.found.edges := by simpa [Accounts, hnone] using h
  cases hmove with
  | left => exact h
  | passed => exact h
  | failed => simp [Accounts, hreads]
  | entered => simp [Accounts, hreads, hnone]

theorem accounts_walk (reader : Reader) (ex : Exclusion) (rootDir : Path) (source : String) :
    (walk reader ex rootDir source).Accounts :=
  run_induction (fun _ _ => Move.accounts) (start rootDir source) rfl

theorem reads_eq_edges {rootDir : Path} {source : String} {x : Extraction}
    (h : extract reader ex rootDir source = .ok x) :
    (walk reader ex rootDir source).reads = x.edges := by
  have hacc := accounts_walk reader ex rootDir source
  obtain ⟨hnone, rfl⟩ := result_eq_ok.mp h
  simpa [Accounts, hnone] using hacc

-- ---------------------------------------------------------------------------
-- The header that a walk fails at
-- ---------------------------------------------------------------------------

/-- What was found could be read, and what the walk failed at could not. -/
structure Truthful (reader : Reader) (w : Walk) : Prop where
  found : ∀ e ∈ w.found.edges, ∃ content, reader.read e.target = .ok content
  failed : ∀ e, w.failure = some e → reader.read e.path = .error e.cause

theorem Move.truthful (hnone : w.failure = none) (hmove : Move reader ex w w')
    (h : w.Truthful reader) : w'.Truthful reader := by
  cases hmove with
  | left => exact ⟨h.found, h.failed⟩
  | passed => exact ⟨h.found, h.failed⟩
  | failed _ _ _ hr =>
    refine ⟨h.found, ?_⟩
    rintro e ⟨⟩
    exact hr
  | entered _ _ _ hr =>
    refine ⟨?_, by simp [hnone]⟩
    intro e he
    rcases List.mem_append.mp he with he | he
    · exact h.found e he
    · obtain rfl := List.mem_singleton.mp he
      exact ⟨_, hr⟩

theorem truthful_walk (reader : Reader) (ex : Exclusion) (rootDir : Path) (source : String) :
    (walk reader ex rootDir source).Truthful reader :=
  run_induction (fun _ _ => Move.truthful) (start rootDir source)
    ⟨by simp [start], by simp [start]⟩

/-- All that was asked for could be read, up to the last, which could not. -/
def StopsAt (reader : Reader) (reads : List Edge) (e : Unreadable) : Prop :=
  ∃ before, reads = before ++ [⟨e.referrer, e.path⟩] ∧
    (∀ read ∈ before, ∃ content, reader.read read.target = .ok content) ∧
    reader.read e.path = .error e.cause

section Extract

variable {rootDir : Path} {source : String}

theorem stopsAt_of_failure {e : Unreadable}
    (h : (walk reader ex rootDir source).failure = some e) :
    StopsAt reader (walk reader ex rootDir source).reads e := by
  have hacc := accounts_walk reader ex rootDir source
  have htrue := truthful_walk reader ex rootDir source
  rw [Accounts, h] at hacc
  exact ⟨_, hacc, htrue.found, htrue.failed e h⟩

theorem reads_readable (h : (walk reader ex rootDir source).failure = none) :
    ∀ read ∈ (walk reader ex rootDir source).reads,
      ∃ content, reader.read read.target = .ok content := by
  have hacc := accounts_walk reader ex rootDir source
  rw [Accounts, h] at hacc
  rw [hacc, Option.toList_none, List.map_nil, List.append_nil]
  exact (truthful_walk reader ex rootDir source).found

theorem StopsAt.unique {reads : List Edge} {e e' : Unreadable} (h : StopsAt reader reads e)
    (h' : StopsAt reader reads e') : e = e' := by
  obtain ⟨before, hreads, -, hcause⟩ := h
  obtain ⟨before', hreads', -, hcause'⟩ := h'
  -- both name the last header that was asked for
  obtain ⟨-, hlast⟩ := List.append_inj' (hreads.symm.trans hreads') rfl
  obtain ⟨path, referrer, cause⟩ := e
  obtain ⟨path', referrer', cause'⟩ := e'
  simp only [List.cons.injEq, Edge.mk.injEq, and_true] at hlast
  obtain ⟨rfl, rfl⟩ := hlast
  simp only at hcause hcause'
  rw [hcause] at hcause'
  cases hcause'
  rfl

theorem StopsAt.not_readable {reads : List Edge} {e : Unreadable} (h : StopsAt reader reads e) :
    ¬ ∀ read ∈ reads, ∃ content, reader.read read.target = .ok content := by
  obtain ⟨before, rfl, -, hcause⟩ := h
  intro hread
  obtain ⟨content, hc⟩ := hread ⟨e.referrer, e.path⟩ (by simp)
  rw [hcause] at hc
  cases hc

theorem extract_eq_error {e : Unreadable} :
    extract reader ex rootDir source = .error e ↔
      StopsAt reader (walk reader ex rootDir source).reads e := by
  rw [extract, result]
  cases hf : (walk reader ex rootDir source).failure with
  | some e' =>
    have hstops := stopsAt_of_failure hf
    simp only [Except.error.injEq]
    constructor
    · rintro rfl
      exact hstops
    · exact hstops.unique
  | none =>
    simp only [reduceCtorEq, false_iff]
    intro hstops
    exact hstops.not_readable (reads_readable hf)

theorem exists_extract_iff :
    (∃ x, extract reader ex rootDir source = .ok x) ↔
      ∀ read ∈ (walk reader ex rootDir source).reads,
        ∃ content, reader.read read.target = .ok content := by
  rw [extract, result]
  cases hf : (walk reader ex rootDir source).failure with
  | some e =>
    simp only [reduceCtorEq, exists_false, false_iff]
    exact (stopsAt_of_failure hf).not_readable
  | none => simpa using reads_readable hf

end Extract

-- ---------------------------------------------------------------------------
-- The states on the way
-- ---------------------------------------------------------------------------

def states (reader : Reader) (ex : Exclusion) (w : Walk) : List Walk :=
  if w.isHalted then [] else w :: (w.step reader ex).states reader ex
termination_by w.work reader
decreasing_by exact work_step_lt reader ex w (by simp_all)

theorem states_halted (h : w.isHalted = true) : w.states reader ex = [] := by
  rw [states, if_pos h]

theorem states_step (h : w.isHalted = false) :
    w.states reader ex = w :: (w.step reader ex).states reader ex := by
  rw [states, if_neg (by simp [h])]

/-- What the steps take of something, and what is left of it where the walk halts, are
what there was in the beginning. -/
theorem run_conserves {P : Walk → Prop} {α : Type} {stock taken : Walk → List α}
    (hstep : ∀ w : Walk, w.isHalted = false → P w →
      P (w.step reader ex) ∧ stock w = taken w ++ stock (w.step reader ex))
    (w : Walk) (h : P w) :
    stock w = (w.states reader ex).flatMap taken ++ stock (w.run reader ex) := by
  fun_induction run reader ex w with
  | case1 w hw => simp [states_halted hw]
  | case2 w hw ih =>
    have hw : w.isHalted = false := by simpa using hw
    obtain ⟨hkept, htaken⟩ := hstep w hw h
    rw [htaken, ih hkept, states_step hw, List.flatMap_cons, List.append_assoc]

-- ---------------------------------------------------------------------------
-- The files that are left
-- ---------------------------------------------------------------------------

/-- The file that is left by the next step, because no line of it is left to scan. -/
def leaving? (w : Walk) : Option String :=
  match w.frames with
  | ⟨label, _, []⟩ :: _ => some label
  | _ => none

def leavingOrder (reader : Reader) (ex : Exclusion) (w : Walk) : List String :=
  (w.states reader ex).filterMap leaving?

theorem leavingOrder_halted (h : w.isHalted = true) : w.leavingOrder reader ex = [] := by
  rw [leavingOrder, states_halted h, List.filterMap_nil]

theorem leavingOrder_scan (h : w.isHalted = false) (hl : w.leaving? = none) :
    w.leavingOrder reader ex = (w.step reader ex).leavingOrder reader ex := by
  rw [leavingOrder, states_step h, List.filterMap_cons_none hl, leavingOrder]

theorem leavingOrder_leave {label : String} (h : w.isHalted = false) (hl : w.leaving? = some label) :
    w.leavingOrder reader ex = label :: (w.step reader ex).leavingOrder reader ex := by
  rw [leavingOrder, states_step h, List.filterMap_cons_some hl, leavingOrder]

/-- A file is left after the headers that it leads to for the first time, each of
these after its own. The files around it wait. -/
theorem leavingOrder_toWalk {label : String} {dir : Path} {lines : List String} {t s : Trail}
    {r : Except Unreadable Trail} {f : Forest Path} {seen' : List Path}
    (h : Descends reader ex label dir lines t r) (hs : r = .ok s)
    (hf : Explores (includesOf reader ex) (followed ex dir lines) t.visited f seen')
    (outer : List Frame) :
    (t.toWalk (⟨label, dir, lines⟩ :: outer)).leavingOrder reader ex =
      f.postorder ++ label :: (s.toWalk outer).leavingOrder reader ex := by
  induction h generalizing s f seen' outer with
  | done =>
    cases hs
    cases hf
    rw [leavingOrder_leave rfl rfl, step_leave]
    rfl
  | text hd _ ih =>
    simp only [followed_cons, hd] at hf
    rw [leavingOrder_scan rfl rfl, step_text outer hd, ih hs hf]
  | lift hd _ ih =>
    simp only [followed_cons, hd] at hf
    rw [leavingOrder_scan rfl rfl, step_lift outer hd, ih hs hf]
  | known hd hv _ ih =>
    simp only [followed_cons, hd] at hf
    cases hf with
    | skip _ hf => rw [leavingOrder_scan rfl rfl, step_known outer hd hv, ih hs hf]
    | visit hn _ _ => exact absurd hv hn
  | unreadable => cases hs
  | stuck => cases hs
  | enter hd hv hr hdesc _ ihk ihr =>
    simp only [followed_cons, hd] at hf
    cases hf with
    | skip hm _ => exact absurd hm hv
    | visit _ hk hf =>
      simp only [includesOf, hr] at hk
      -- both the walk and the visit have now seen the same headers
      obtain ⟨kids, hk', -⟩ := hdesc.explores rfl
      obtain ⟨rfl, rfl⟩ := hk.unique hk'
      rw [leavingOrder_scan rfl rfl, step_enter outer hd hv hr, ihk rfl hk, ihr hs hf]
      simp [Forest.postorder]

theorem leavingOrder_start {rootDir : Path} {source : String} {x : Extraction} {f : Forest Path}
    {seen' : List Path} (h : extract reader ex rootDir source = .ok x)
    (hf : Explores (includesOf reader ex) (followed ex rootDir (Text.lines source)) [] f seen') :
    (start rootDir source).leavingOrder reader ex = f.postorder ++ [rootLabel] := by
  obtain ⟨s, hdesc, -⟩ := exists_descends_of_extract h
  refine (leavingOrder_toWalk hdesc rfl hf []).trans ?_
  rw [leavingOrder_halted rfl]

end Amalgam.Walk
