import Amalgam.Directive
import Amalgam.Extraction
import Amalgam.Total

/-!
# The walk over includes

A walk keeps a stack of files that are being scanned, each with the lines still
to be scanned. One step scans one line of the innermost file, or leaves that
file when its lines are used up. An include that is followed for the first time
puts its header on the stack, so a header is scanned completely before the line
after its include. A header that cannot be read ends the walk.

`work` counts the lines still to be scanned, those of files not yet visited
included. Every step lowers it, so every walk ends.
-/

namespace Amalgam

structure Frame where
  label : String
  dir : Path
  pending : List String

structure Walk where
  /-- The files being scanned, the innermost first. -/
  frames : List Frame
  visited : List Path := []
  /-- The headers that were asked for, with the files that include them. -/
  reads : List Edge := []
  found : Extraction := {}
  failure : Option Unreadable := none

namespace Walk

def start (rootDir : Path) (content : String) : Walk :=
  { frames := [⟨rootLabel, rootDir, Text.lines content⟩] }

def isHalted (w : Walk) : Bool :=
  w.frames.isEmpty || w.failure.isSome

/-- Follows an include to a header that was not visited before. `rest` holds
the files that remain to be scanned. -/
def enter (reader : Reader) (w : Walk) (rest : List Frame) (referrer : String) (target : Path) :
    Walk :=
  let asked : Walk :=
    { w with
      frames := rest
      visited := target :: w.visited
      reads := w.reads ++ [⟨referrer, target⟩] }
  match reader.read target with
  | .error cause => { asked with failure := some ⟨target, referrer, cause⟩ }
  | .ok content =>
    { asked with
      frames := ⟨target, target.dir, Text.lines content⟩ :: rest
      found :=
        { w.found with
          edges := w.found.edges ++ [⟨referrer, target⟩]
          sources := w.found.sources ++ [(target, content)] } }

def step (reader : Reader) (ex : Exclusion) (w : Walk) : Walk :=
  match w.frames with
  | [] => w
  | ⟨_, _, []⟩ :: outer => { w with frames := outer }
  | ⟨label, dir, line :: pending⟩ :: outer =>
    let rest := ⟨label, dir, pending⟩ :: outer
    match directive ex dir line with
    | .text => { w with frames := rest }
    | .lift =>
      { w with frames := rest, found := { w.found with lifted := w.found.lifted.push line } }
    | .follow target =>
      if target ∈ w.visited then { w with frames := rest }
      else w.enter reader rest label target

-- ---------------------------------------------------------------------------
-- The walk ends
-- ---------------------------------------------------------------------------

def frameWork (f : Frame) : Nat :=
  f.pending.length + 1

def headerWork (reader : Reader) (path : Path) : Nat :=
  match reader.read path with
  | .ok content => (Text.lines content).length + 1
  | .error _ => 1

def work (reader : Reader) (w : Walk) : Nat :=
  total frameWork w.frames + total (headerWork reader) (reader.support.filter (· ∉ w.visited))

theorem total_unvisited_le (weight : Path → Nat) (visited : List Path) (target : Path)
    (paths : List Path) :
    total weight (paths.filter (· ∉ target :: visited)) ≤
      total weight (paths.filter (· ∉ visited)) := by
  induction paths with
  | nil => simp
  | cons path paths ih =>
    by_cases hv : path ∈ visited
    · simpa [hv] using ih
    · by_cases hp : path = target
      · subst hp
        simp [hv] at ih ⊢
        omega
      · simpa [hv, hp] using ih

theorem total_unvisited_add_le (weight : Path → Nat) (visited : List Path) (target : Path)
    (ht : target ∉ visited) (paths : List Path) (hm : target ∈ paths) :
    total weight (paths.filter (· ∉ target :: visited)) + weight target ≤
      total weight (paths.filter (· ∉ visited)) := by
  induction paths with
  | nil => simp at hm
  | cons path paths ih =>
    by_cases hp : path = target
    · have h := total_unvisited_le weight visited target paths
      simp [hp, ht] at h ⊢
      omega
    · have h := ih (by simpa [Ne.symm hp] using hm)
      by_cases hv : path ∈ visited <;> simp [hp, hv] at h ⊢ <;> omega

theorem work_enter_lt (reader : Reader) (w : Walk) (rest : List Frame) (referrer : String)
    (target : Path) (ht : target ∉ w.visited)
    (hw : total frameWork rest < total frameWork w.frames) :
    (w.enter reader rest referrer target).work reader < w.work reader := by
  rw [enter]
  split
  next cause h =>
    have hu := total_unvisited_le (headerWork reader) w.visited target reader.support
    simp only [work]
    omega
  next content h =>
    have hu := total_unvisited_add_le (headerWork reader) w.visited target ht reader.support
      (reader.mem_support h)
    have ht : headerWork reader target = (Text.lines content).length + 1 := by
      simp [headerWork, h]
    simp only [work, total_cons, frameWork]
    omega

theorem work_step_lt (reader : Reader) (ex : Exclusion) (w : Walk) (h : w.isHalted = false) :
    (w.step reader ex).work reader < w.work reader := by
  rw [step]
  split
  next hf => simp [isHalted, hf] at h
  next hf => simp [work, hf, frameWork]
  next label dir line pending outer hf =>
    have hrest : total frameWork (⟨label, dir, pending⟩ :: outer) < total frameWork w.frames := by
      simp [hf, frameWork]
    simp only
    split
    · simp only [work]
      omega
    · simp only [work]
      omega
    · split
      · simp only [work]
        omega
      next ht => exact work_enter_lt reader w _ label _ ht hrest

-- ---------------------------------------------------------------------------
-- Running
-- ---------------------------------------------------------------------------

def run (reader : Reader) (ex : Exclusion) (w : Walk) : Walk :=
  if w.isHalted then w else (w.step reader ex).run reader ex
termination_by w.work reader
decreasing_by exact work_step_lt reader ex w (by simp_all)

def result (w : Walk) : Except Unreadable Extraction :=
  match w.failure with
  | some e => .error e
  | none => .ok w.found

end Walk

/-- The walk over all includes that the root content reaches. Its quoted
includes are resolved against `rootDir`. -/
def walk (reader : Reader) (ex : Exclusion) (rootDir : Path) (content : String) : Walk :=
  (Walk.start rootDir content).run reader ex

def extract (reader : Reader) (ex : Exclusion) (rootDir : Path) (content : String) :
    Except Unreadable Extraction :=
  (walk reader ex rootDir content).result

end Amalgam
