import Amalgam.Proofs.Walk.Run
import Amalgam.Store
import Mathlib.Logic.Function.Iterate

/-!
# How far a walk goes

Entering a header adds its lines to what is to be scanned, so the lines on the stack
say nothing about the end of a walk. What is kept is this: the lines of a file that have
been scanned, followed by those that are left, are the lines of the file
(`leftIn_run`), where all lines of a header that was not visited are left. So no line is
scanned twice, however the headers include each other. No header is put on the stack
twice either, since it is visited from then on.

The steps of a walk are those lines and one for leaving each file (`length_states`).
-/

namespace Amalgam.Walk

variable {reader : Reader} {ex : Exclusion} {w w' : Walk}

-- ---------------------------------------------------------------------------
-- The loop
-- ---------------------------------------------------------------------------

theorem run_eq_iterate (reader : Reader) (ex : Exclusion) (w : Walk) :
    w.run reader ex = (step reader ex)^[(w.states reader ex).length] w := by
  fun_induction run reader ex w with
  | case1 w hw => simp [states_halted hw]
  | case2 w hw ih => simp [states_step (Bool.eq_false_iff.mpr hw), ih]

theorem states_eq_iterate (reader : Reader) (ex : Exclusion) (w : Walk) :
    w.states reader ex =
      (List.range (w.states reader ex).length).map fun i => (step reader ex)^[i] w := by
  fun_induction states reader ex w with
  | case1 w hw => simp
  | case2 w hw ih =>
    rw [List.length_cons, List.range_succ_eq_map, List.map_cons, List.map_map]
    exact congrArg (w :: ·) ih

theorem isHalted_of_mem_states : ∀ v ∈ w.states reader ex, v.isHalted = false := by
  fun_induction states reader ex w with
  | case1 w hw => simp
  | case2 w hw ih => simpa [hw] using ih

theorem length_states_le (reader : Reader) (ex : Exclusion) (w : Walk) :
    (w.states reader ex).length ≤ w.work reader := by
  fun_induction states reader ex w with
  | case1 w hw => simp
  | case2 w hw ih =>
    have hlt := work_step_lt reader ex w (by simpa using hw)
    simp only [List.length_cons]
    omega

-- ---------------------------------------------------------------------------
-- What is put on the stack
-- ---------------------------------------------------------------------------

def pushed (w w' : Walk) : List Path :=
  (w'.frames.take (w'.frames.length - w.frames.length)).map (·.label)

def pushes (reader : Reader) (ex : Exclusion) (w : Walk) : List Path :=
  (w.states reader ex).flatMap fun v => v.pushed (v.step reader ex)

theorem Move.targets (h : Move reader ex w w') :
    w'.found.edges.map (·.target) = w.found.edges.map (·.target) ++ w.pushed w' := by
  cases h with
  | left hf => simp [pushed, hf]
  | passed hf => simp [pushed, hf]
  | failed hf => simp [pushed, hf]
  | entered hf => simp [pushed, hf]

theorem Move.work (h : Move reader ex w w') :
    total frameWork w'.frames + 1 =
      total frameWork w.frames + total (headerWork reader) (w.pushed w') := by
  cases h with
  | left hf =>
    simp [pushed, hf, frameWork]
    omega
  | passed hf =>
    simp [pushed, hf, frameWork]
    omega
  | failed hf =>
    simp [pushed, hf, frameWork]
    omega
  | entered hf _ _ hr =>
    simp [pushed, hf, frameWork, headerWork, hr]
    omega

theorem pushes_step (h : w.isHalted = false) :
    w.pushes reader ex = w.pushed (w.step reader ex) ++ (w.step reader ex).pushes reader ex := by
  rw [pushes, states_step h, List.flatMap_cons, pushes]

theorem targets_run (reader : Reader) (ex : Exclusion) (w : Walk) :
    (w.run reader ex).found.edges.map (·.target) =
      w.found.edges.map (·.target) ++ w.pushes reader ex := by
  fun_induction run reader ex w with
  | case1 w hw => simp [pushes, states_halted hw]
  | case2 w hw ih =>
    have hw : w.isHalted = false := by simpa using hw
    rw [ih, (move_step hw).targets, pushes_step hw, List.append_assoc]

/-- A step scans a line or leaves a file, so there are as many as the files that were on
the stack or came to it ask for, but for what is left. -/
theorem length_states (reader : Reader) (ex : Exclusion) (w : Walk) :
    (w.states reader ex).length + total frameWork (w.run reader ex).frames =
      total frameWork w.frames + total (headerWork reader) (w.pushes reader ex) := by
  fun_induction run reader ex w with
  | case1 w hw => simp [pushes, states_halted hw]
  | case2 w hw ih =>
    have hw : w.isHalted = false := by simpa using hw
    have hmove : total frameWork (w.step reader ex).frames + 1 = _ := (move_step hw).work
    rw [states_step hw, pushes_step hw, total_append, List.length_cons]
    omega

-- ---------------------------------------------------------------------------
-- Each header once
-- ---------------------------------------------------------------------------

/-- The headers that were asked for are those that were visited, each once. -/
structure AsksOnce (w : Walk) : Prop where
  nodup : w.visited.Nodup
  reads : w.reads.map (·.target) = w.visited.reverse

theorem Move.asksOnce (h : Move reader ex w w') (hw : w.AsksOnce) : w'.AsksOnce := by
  cases h with
  | left => exact ⟨hw.nodup, hw.reads⟩
  | passed => exact ⟨hw.nodup, hw.reads⟩
  | failed _ _ hv => exact ⟨List.nodup_cons.mpr ⟨hv, hw.nodup⟩, by simp [hw.reads]⟩
  | entered _ _ hv => exact ⟨List.nodup_cons.mpr ⟨hv, hw.nodup⟩, by simp [hw.reads]⟩

section Start

variable (reader : Reader) (ex : Exclusion) (rootDir : Path) (source : String)

theorem asksOnce_walk : (walk reader ex rootDir source).AsksOnce :=
  run_induction (fun _ _ _ => Move.asksOnce) (start rootDir source) ⟨List.nodup_nil, rfl⟩

theorem pushes_eq_targets :
    (start rootDir source).pushes reader ex =
      (walk reader ex rootDir source).found.edges.map (·.target) :=
  (targets_run reader ex (start rootDir source)).symm

theorem nodup_reads : ((walk reader ex rootDir source).reads.map (·.target)).Nodup := by
  have honce := asksOnce_walk reader ex rootDir source
  rw [honce.reads, List.nodup_reverse]
  exact honce.nodup

theorem nodup_pushes : ((start rootDir source).pushes reader ex).Nodup := by
  have hreads := nodup_reads reader ex rootDir source
  rw [accounts_walk reader ex rootDir source, List.map_append] at hreads
  rw [pushes_eq_targets]
  exact hreads.of_append_left

theorem readable_of_mem_pushes {header : Path}
    (h : header ∈ (start rootDir source).pushes reader ex) :
    ∃ content, reader.read header = .ok content := by
  rw [pushes_eq_targets] at h
  obtain ⟨e, he, rfl⟩ := List.mem_map.mp h
  exact (truthful_walk reader ex rootDir source).found e he

end Start

-- ---------------------------------------------------------------------------
-- Each line once
-- ---------------------------------------------------------------------------

/-- The header that a file on the stack is. The root is none: it is the file that
stands in no other. -/
def fileOf (label : String) (outer : List Frame) : Option Path :=
  if outer.isEmpty then none else some label

def headerLines (reader : Reader) (header : Path) : List String :=
  match reader.read header with
  | .ok content => Text.lines content
  | .error _ => []

/-- The line of a file that the next step scans, if it scans one of that file. -/
def scanIn (file : Option Path) (w : Walk) : List String :=
  match w.frames with
  | ⟨label, _, line :: _⟩ :: outer => if fileOf label outer = file then [line] else []
  | _ => []

def scansIn (reader : Reader) (ex : Exclusion) (file : Option Path) (w : Walk) : List String :=
  (w.states reader ex).flatMap (scanIn file)

def pendingIn (file : Option Path) : List Frame → List String
  | [] => []
  | ⟨label, _, pending⟩ :: outer =>
    (if fileOf label outer = file then pending else []) ++ pendingIn file outer

def unvisitedIn (reader : Reader) (file : Option Path) (w : Walk) : List String :=
  match file with
  | none => []
  | some header => if header ∈ w.visited then [] else headerLines reader header

def leftIn (reader : Reader) (file : Option Path) (w : Walk) : List String :=
  pendingIn file w.frames ++ unvisitedIn reader file w

section Scan

variable {label line : String} {dir : Path} {pending : List String} {outer : List Frame}

theorem pendingIn_scan (hf : w.frames = ⟨label, dir, line :: pending⟩ :: outer)
    (file : Option Path) :
    pendingIn file w.frames = w.scanIn file ++ pendingIn file (⟨label, dir, pending⟩ :: outer) := by
  simp only [hf, scanIn, pendingIn]
  split <;> simp

theorem pendingIn_push (file : Option Path) (target : Path) (lines : List String) (frame : Frame)
    (outer : List Frame) :
    pendingIn file (⟨target, target.dir, lines⟩ :: frame :: outer) =
      (if some target = file then lines else []) ++ pendingIn file (frame :: outer) := rfl

def KnowsStack (w : Walk) : Prop :=
  ∀ header ∉ w.visited, pendingIn (some header) w.frames = []

theorem KnowsStack.pendingIn_rest (h : w.KnowsStack)
    (hf : w.frames = ⟨label, dir, line :: pending⟩ :: outer) {header : Path}
    (hv : header ∉ w.visited) :
    pendingIn (some header) (⟨label, dir, pending⟩ :: outer) = [] := by
  have hnil := h header hv
  rw [pendingIn_scan hf, List.append_eq_nil_iff] at hnil
  exact hnil.2

end Scan

theorem Move.knowsStack (h : Move reader ex w w') (hw : w.KnowsStack) : w'.KnowsStack := by
  intro header hv
  cases h with
  | left hf => simpa [pendingIn, hf] using hw header hv
  | passed hf => exact hw.pendingIn_rest hf hv
  | failed hf => exact hw.pendingIn_rest hf (List.not_mem_of_not_mem_cons hv)
  | entered hf =>
    have hne := List.ne_of_not_mem_cons hv
    rw [pendingIn_push, hw.pendingIn_rest hf (List.not_mem_of_not_mem_cons hv)]
    simp [Ne.symm hne]

theorem Move.leftIn_eq (h : Move reader ex w w') (hw : w.KnowsStack) (file : Option Path) :
    w.leftIn reader file = w.scanIn file ++ w'.leftIn reader file := by
  cases h with
  | left hf => cases file <;> simp [leftIn, unvisitedIn, scanIn, pendingIn, hf]
  | passed hf => cases file <;> simp [leftIn, unvisitedIn, pendingIn_scan hf]
  | @failed _ _ _ _ _ target _ hf _ hv hr =>
    cases file with
    | none => simp [leftIn, unvisitedIn, pendingIn_scan hf]
    | some header =>
      by_cases hh : header = target
      · subst hh
        simp [leftIn, unvisitedIn, pendingIn_scan hf, hv, headerLines, hr]
      · simp [leftIn, unvisitedIn, pendingIn_scan hf, hh]
  | @entered _ _ _ _ _ target _ hf _ hv hr =>
    simp only [leftIn, pendingIn_scan hf, pendingIn_push]
    cases file with
    | none => simp [unvisitedIn]
    | some header =>
      by_cases hh : header = target
      · -- the lines of the header come off what is unvisited and onto the stack
        subst hh
        simp [unvisitedIn, hv, headerLines, hr, hw.pendingIn_rest hf hv]
      · simp [unvisitedIn, hh, Ne.symm hh]

theorem leftIn_run (reader : Reader) (ex : Exclusion) (file : Option Path) (w : Walk)
    (hw : w.KnowsStack) :
    w.leftIn reader file = w.scansIn reader ex file ++ (w.run reader ex).leftIn reader file := by
  refine run_conserves (fun w h hw => ?_) w hw
  have hmove : Move reader ex w (w.step reader ex) := move_step h
  exact ⟨hmove.knowsStack hw, hmove.leftIn_eq hw file⟩

-- ---------------------------------------------------------------------------
-- Walks from a root
-- ---------------------------------------------------------------------------

def fileLines (reader : Reader) (source : String) : Option Path → List String
  | none => Text.lines source
  | some header => headerLines reader header

section Files

variable {rootDir header : Path} {source : String}

theorem fileLines_eq (reader : Reader) (ex : Exclusion) (rootDir : Path) (source : String)
    (file : Option Path) :
    fileLines reader source file =
      (start rootDir source).scansIn reader ex file ++
        (walk reader ex rootDir source).leftIn reader file := by
  have hknows : (start rootDir source).KnowsStack := fun header _ => rfl
  rw [walk, ← leftIn_run reader ex file _ hknows]
  cases file <;> simp [fileLines, leftIn, unvisitedIn, pendingIn, fileOf, start]

theorem mem_pushes :
    header ∈ (start rootDir source).pushes reader ex ↔
      header ∈ (walk reader ex rootDir source).visited ∧
        ∃ content, reader.read header = .ok content := by
  have hreads : header ∈ (walk reader ex rootDir source).visited ↔
      header ∈ (walk reader ex rootDir source).reads.map (·.target) := by
    rw [(asksOnce_walk reader ex rootDir source).reads, List.mem_reverse]
  rw [hreads, accounts_walk reader ex rootDir source, List.map_append, List.mem_append,
    ← pushes_eq_targets]
  constructor
  · intro h
    exact ⟨.inl h, readable_of_mem_pushes reader ex rootDir source h⟩
  · rintro ⟨h | h, content, hr⟩
    · exact h
    · -- the header that the walk failed at cannot be read
      obtain ⟨_, hm, rfl⟩ := List.mem_map.mp h
      obtain ⟨e, he, rfl⟩ := List.mem_map.mp hm
      have herror := (truthful_walk reader ex rootDir source).failed e (Option.mem_toList.mp he)
      rw [hr] at herror
      cases herror

theorem headerLines_of_unreadable (h : ¬ ∃ content, reader.read header = .ok content) :
    headerLines reader header = [] := by
  unfold headerLines
  split
  next content hr => exact absurd ⟨content, hr⟩ h
  next => rfl

theorem scansIn_of_not_mem (h : header ∉ (start rootDir source).pushes reader ex) :
    (start rootDir source).scansIn reader ex (some header) = [] := by
  have hlines := fileLines_eq reader ex rootDir source (some header)
  by_cases hv : header ∈ (walk reader ex rootDir source).visited
  · have hr : ¬ ∃ content, reader.read header = .ok content :=
      fun hr => h (mem_pushes.mpr ⟨hv, hr⟩)
    rw [fileLines, headerLines_of_unreadable hr] at hlines
    exact (List.append_eq_nil_iff.mp hlines.symm).1
  · simp only [fileLines, leftIn, unvisitedIn, hv, if_false] at hlines
    rw [← List.append_assoc, List.self_eq_append_left, List.append_eq_nil_iff] at hlines
    exact hlines.1

theorem frames_eq_nil {x : Extraction} (h : extract reader ex rootDir source = .ok x) :
    (walk reader ex rootDir source).frames = [] :=
  frames_run_eq_nil (result_eq_ok.mp h).1

theorem scansIn_eq {x : Extraction} {file : Option Path}
    (h : extract reader ex rootDir source = .ok x)
    (hfile : ∀ header ∈ file, header ∈ (start rootDir source).pushes reader ex) :
    (start rootDir source).scansIn reader ex file = fileLines reader source file := by
  have hleft : (walk reader ex rootDir source).leftIn reader file = [] := by
    cases file with
    | none => simp [leftIn, unvisitedIn, frames_eq_nil h, pendingIn]
    | some header =>
      have hv := (mem_pushes.mp (hfile header rfl)).1
      simp [leftIn, unvisitedIn, frames_eq_nil h, pendingIn, hv]
  rw [fileLines_eq reader ex rootDir source file, hleft, List.append_nil]

end Files

/-- A walk halts after finitely many steps. It puts no file on its stack twice and only
headers that can be read. What it scans of a file are the first lines of it, each once.
If it succeeds it scans the root and these headers completely, and a step for each line
and one for leaving each file is all it takes. -/
theorem ends_scanning_once (reader : Reader) (ex : Exclusion) (rootDir : Path) (source : String) :
    ∃ n,
      ((step reader ex)^[n] (start rootDir source)).isHalted = true ∧
      (∀ i < n, ((step reader ex)^[i] (start rootDir source)).isHalted = false) ∧
      (start rootDir source).states reader ex =
        (List.range n).map (fun i => (step reader ex)^[i] (start rootDir source)) ∧
      n ≤ (Text.lines source).length + 1 + total (headerWork reader) reader.support ∧
      ((start rootDir source).pushes reader ex).Nodup ∧
      (∀ header ∈ (start rootDir source).pushes reader ex,
        ∃ content, reader.read header = .ok content) ∧
      (∀ file, (start rootDir source).scansIn reader ex file <+: fileLines reader source file) ∧
      (∀ header, header ∉ (start rootDir source).pushes reader ex →
        (start rootDir source).scansIn reader ex (some header) = []) ∧
      (∀ x, extract reader ex rootDir source = .ok x →
        (∀ file : Option Path, (∀ header ∈ file, header ∈ (start rootDir source).pushes reader ex) →
          (start rootDir source).scansIn reader ex file = fileLines reader source file) ∧
        n = (Text.lines source).length + 1 +
          total (headerWork reader) ((start rootDir source).pushes reader ex)) := by
  have hstates := states_eq_iterate reader ex (start rootDir source)
  refine ⟨((start rootDir source).states reader ex).length, ?_, ?_, hstates, ?_,
    nodup_pushes reader ex rootDir source, fun _ => readable_of_mem_pushes reader ex rootDir source,
    ?_, fun _ => scansIn_of_not_mem, ?_⟩
  · rw [← run_eq_iterate]
    exact isHalted_run reader ex _
  · intro i hi
    have hmem : (step reader ex)^[i] (start rootDir source) ∈
        (start rootDir source).states reader ex := by
      rw [hstates]
      exact List.mem_map.mpr ⟨i, List.mem_range.mpr hi, rfl⟩
    exact isHalted_of_mem_states _ hmem
  · have hle := length_states_le reader ex (start rootDir source)
    simpa [work, start, frameWork] using hle
  · intro file
    exact ⟨_, (fileLines_eq reader ex rootDir source file).symm⟩
  · intro x hx
    have hframes : ((start rootDir source).run reader ex).frames = [] := frames_eq_nil hx
    have hroot : total frameWork (start rootDir source).frames =
        (Text.lines source).length + 1 := by
      simp [start, frameWork]
    have hlength := length_states reader ex (start rootDir source)
    rw [hframes, hroot] at hlength
    exact ⟨fun file => scansIn_eq hx, hlength⟩

def tangled : Store :=
  ⟨[("inc/a.h", "#include \"b.h\"\n#include \"./a.h\""),
    ("inc/b.h", "#include \"../inc/a.h\"\nint b;"), ("inc/c.h", "int c;")]⟩

def tangledRoot : String :=
  "#include \"a.h\"\n#include \"x/../b.h\""

def tangledResult : Extraction where
  edges := [⟨"<root>", "inc/a.h"⟩, ⟨"inc/a.h", "inc/b.h"⟩]
  sources := tangled.entries.take 2

theorem ends_scanning_once_tangled :
    extract tangled.reader .none "inc" tangledRoot = .ok tangledResult ∧
    ((step tangled.reader .none)^[9] (start "inc" tangledRoot)).isHalted = true ∧
    ((step tangled.reader .none)^[8] (start "inc" tangledRoot)).isHalted = false ∧
    (start "inc" tangledRoot).scansIn tangled.reader .none (some "inc/b.h") =
      ["#include \"../inc/a.h\"", "int b;"] ∧
    (start "inc" tangledRoot).scansIn tangled.reader .none (some "inc/c.h") = [] := by
  have hx : extract tangled.reader .none "inc" tangledRoot = .ok tangledResult := by decide +kernel
  have hpushes :
      (start "inc" tangledRoot).pushes tangled.reader .none = ["inc/a.h", "inc/b.h"] := by
    rw [pushes_eq_targets, (result_eq_ok.mp hx).2]
    rfl
  obtain ⟨n, hhalted, hgoes, -, -, -, -, -, hnone, hall⟩ :=
    ends_scanning_once tangled.reader .none "inc" tangledRoot
  obtain ⟨hscans, hn⟩ := hall tangledResult hx
  rw [hpushes] at hnone hscans hn
  obtain rfl : n = 9 := hn.trans (by decide +kernel)
  refine ⟨hx, hhalted, hgoes 8 (by decide), ?_, hnone "inc/c.h" (by decide)⟩
  exact (hscans (some "inc/b.h") (by simp)).trans (by decide +kernel)

end Amalgam.Walk
