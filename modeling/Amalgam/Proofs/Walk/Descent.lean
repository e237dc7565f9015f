import Amalgam.Walk
import Amalgam.Proofs.Forest

/-!
# The walk by recursion

`descend` scans a file line by line. It lifts the lines to lift, and where an
include leads to a header for the first time it scans that header completely
before the next line. It keeps no stack: each file being scanned is a call, and
what is left of the file are the lines that the call scans when it goes on.

`Descends` gives the same walk as rules, one for each way a line can go, so that
later proofs follow the rules. The walk with a stack finds what the recursive
one finds, or fails as it does, whatever else is on its stack.
-/

namespace Amalgam

structure Trail where
  visited : List Path := []
  found : Extraction := {}

namespace Trail

def lift (t : Trail) (line : String) : Trail :=
  { t with found := { t.found with lifted := t.found.lifted.push line } }

def follow (t : Trail) (referrer : String) (target : Path) (content : String) : Trail where
  visited := target :: t.visited
  found :=
    { t.found with
      edges := t.found.edges ++ [⟨referrer, target⟩]
      sources := t.found.sources ++ [(target, content)] }

@[simp] theorem visited_lift (t : Trail) (line : String) : (t.lift line).visited = t.visited := rfl

@[simp] theorem visited_follow (t : Trail) (referrer : String) (target : Path) (content : String) :
    (t.follow referrer target content).visited = target :: t.visited := rfl

abbrev Beyond (t : Trail) : Type :=
  { s : Trail // t.visited ⊆ s.visited }

def Beyond.widen {t mid : Trail} (h : t.visited ⊆ mid.visited) (s : Beyond mid) : Beyond t :=
  ⟨s.val, List.Subset.trans h s.property⟩

theorem Beyond.val_widen {t mid : Trail} (h : t.visited ⊆ mid.visited)
    (r : Except Unreadable mid.Beyond) : (r.map (widen h)).map (·.val) = r.map (·.val) := by
  cases r <;> rfl

end Trail

-- ---------------------------------------------------------------------------
-- The recursive walk
-- ---------------------------------------------------------------------------

/-- Scans the lines of the file `label`, which lies in `dir`. The visited paths
only grow, so a call for a header has fewer readable paths left to visit. -/
def scanLines (reader : Reader) (ex : Exclusion) (label : String) (dir : Path)
    (lines : List String) (t : Trail) : Except Unreadable t.Beyond :=
  match lines with
  | [] => .ok ⟨t, fun _ h => h⟩
  | line :: lines =>
    match directive ex dir line with
    | .text => scanLines reader ex label dir lines t
    | .lift => scanLines reader ex label dir lines (t.lift line)
    | .follow target =>
      if hv : target ∈ t.visited then scanLines reader ex label dir lines t
      else
        match hr : reader.read target with
        | .error cause => .error ⟨target, label, cause⟩
        | .ok content =>
          have := unseen_cons_lt (reader.mem_support hr) hv
          match scanLines reader ex target target.dir (Text.lines content)
              (t.follow label target content) with
          | .error e => .error e
          | .ok mid =>
            have hmid : t.visited ⊆ mid.val.visited :=
              List.Subset.trans (List.subset_cons_self target t.visited) mid.property
            (scanLines reader ex label dir lines mid.val).map (.widen hmid)
termination_by (unseen reader.support t.visited, lines.length)
decreasing_by
  · exact Prod.Lex.right _ (by simp)
  · exact Prod.Lex.right _ (by simp)
  · exact Prod.Lex.right _ (by simp)
  · exact Prod.Lex.left _ _ this
  · exact Prod.Lex.left _ _ (Nat.lt_of_le_of_lt (unseen_le mid.property) this)

def descend (reader : Reader) (ex : Exclusion) (label : String) (dir : Path)
    (lines : List String) (t : Trail) : Except Unreadable Trail :=
  (scanLines reader ex label dir lines t).map (·.val)

def extractByDescent (reader : Reader) (ex : Exclusion) (rootDir : Path) (content : String) :
    Except Unreadable Extraction :=
  (descend reader ex rootLabel rootDir (Text.lines content) {}).map (·.found)

-- ---------------------------------------------------------------------------
-- Its rules
-- ---------------------------------------------------------------------------

/-- Scanning the lines of the file `label` from a trail ends in a trail or in a
header that cannot be read. -/
inductive Descends (reader : Reader) (ex : Exclusion) :
    String → Path → List String → Trail → Except Unreadable Trail → Prop where
  | done {label dir t} : Descends reader ex label dir [] t (.ok t)
  | text {label dir line lines t r} :
      directive ex dir line = .text → Descends reader ex label dir lines t r →
      Descends reader ex label dir (line :: lines) t r
  | lift {label dir line lines t r} :
      directive ex dir line = .lift → Descends reader ex label dir lines (t.lift line) r →
      Descends reader ex label dir (line :: lines) t r
  | known {label dir line lines t r target} :
      directive ex dir line = .follow target → target ∈ t.visited →
      Descends reader ex label dir lines t r →
      Descends reader ex label dir (line :: lines) t r
  | unreadable {label dir line lines t target cause} :
      directive ex dir line = .follow target → target ∉ t.visited →
      reader.read target = .error cause →
      Descends reader ex label dir (line :: lines) t (.error ⟨target, label, cause⟩)
  | stuck {label dir line lines t target content e} :
      directive ex dir line = .follow target → target ∉ t.visited →
      reader.read target = .ok content →
      Descends reader ex target target.dir (Text.lines content) (t.follow label target content)
        (.error e) →
      Descends reader ex label dir (line :: lines) t (.error e)
  | enter {label dir line lines t target content mid r} :
      directive ex dir line = .follow target → target ∉ t.visited →
      reader.read target = .ok content →
      Descends reader ex target target.dir (Text.lines content) (t.follow label target content)
        (.ok mid) →
      Descends reader ex label dir lines mid r →
      Descends reader ex label dir (line :: lines) t r

theorem descends_descend (reader : Reader) (ex : Exclusion) (label : String) (dir : Path)
    (lines : List String) (t : Trail) :
    Descends reader ex label dir lines t (descend reader ex label dir lines t) := by
  rw [descend]
  fun_induction scanLines reader ex label dir lines t with
  | case1 => exact .done
  | case2 label dir t line lines hd ih => exact .text hd ih
  | case3 label dir t line lines hd ih => exact .lift hd ih
  | case4 label dir t line lines target hd hv ih => exact .known hd hv ih
  | case5 label dir t line lines target hd hv cause hr => exact .unreadable hd hv hr
  | case6 label dir t line lines target hd hv content hr _ e he ih =>
    rw [he] at ih
    exact .stuck hd hv hr ih
  | case7 label dir t line lines target hd hv content hr _ mid hm hmid ihk ihr =>
    rw [hm] at ihk
    rw [Trail.Beyond.val_widen]
    exact .enter hd hv hr ihk ihr

-- ---------------------------------------------------------------------------
-- The stack does the same
-- ---------------------------------------------------------------------------

/-- The walk that has come as far as a trail, with the given files on its stack.
As long as nothing fails, what was asked for is what was found. -/
def Trail.toWalk (t : Trail) (frames : List Frame) : Walk where
  frames := frames
  visited := t.visited
  reads := t.found.edges
  found := t.found

namespace Walk

variable {reader : Reader} {ex : Exclusion} {label : String} {dir : Path} {lines : List String}
  {t : Trail}

theorem run_halted {w : Walk} (h : w.isHalted = true) : w.run reader ex = w := by
  rw [run, if_pos h]

theorem run_step {w : Walk} (h : w.isHalted = false) :
    w.run reader ex = (w.step reader ex).run reader ex := by
  rw [run, if_neg (by simp [h])]

section Step

variable (outer : List Frame) {line : String} {target : Path}

theorem step_leave :
    (t.toWalk (⟨label, dir, []⟩ :: outer)).step reader ex = t.toWalk outer := rfl

theorem step_text (hd : directive ex dir line = .text) :
    (t.toWalk (⟨label, dir, line :: lines⟩ :: outer)).step reader ex =
      t.toWalk (⟨label, dir, lines⟩ :: outer) := by
  simp [step, Trail.toWalk, hd]

theorem step_lift (hd : directive ex dir line = .lift) :
    (t.toWalk (⟨label, dir, line :: lines⟩ :: outer)).step reader ex =
      (t.lift line).toWalk (⟨label, dir, lines⟩ :: outer) := by
  simp [step, Trail.toWalk, Trail.lift, hd]

theorem step_known (hd : directive ex dir line = .follow target) (hv : target ∈ t.visited) :
    (t.toWalk (⟨label, dir, line :: lines⟩ :: outer)).step reader ex =
      t.toWalk (⟨label, dir, lines⟩ :: outer) := by
  simp [step, Trail.toWalk, hd, hv]

theorem step_enter {content : String} (hd : directive ex dir line = .follow target)
    (hv : target ∉ t.visited) (hr : reader.read target = .ok content) :
    (t.toWalk (⟨label, dir, line :: lines⟩ :: outer)).step reader ex =
      (t.follow label target content).toWalk
        (⟨target, target.dir, Text.lines content⟩ :: ⟨label, dir, lines⟩ :: outer) := by
  simp [step, Trail.toWalk, Trail.follow, hd, hv, Walk.enter, hr]

end Step

/-- A walk scans the innermost file as the recursive walk does and then goes on
with the files around it. -/
theorem result_run_toWalk {r : Except Unreadable Trail} (h : Descends reader ex label dir lines t r)
    (outer : List Frame) :
    ((t.toWalk (⟨label, dir, lines⟩ :: outer)).run reader ex).result =
      r.bind fun s => ((s.toWalk outer).run reader ex).result := by
  induction h generalizing outer with
  | done =>
    rw [run_step rfl, step_leave]
    rfl
  | text hd _ ih => rw [run_step rfl, step_text outer hd, ih]
  | lift hd _ ih => rw [run_step rfl, step_lift outer hd, ih]
  | known hd hv _ ih => rw [run_step rfl, step_known outer hd hv, ih]
  | unreadable hd hv hr =>
    rw [run_step rfl]
    simp only [step, Trail.toWalk, hd, hv, if_false, Walk.enter, hr]
    rw [run_halted (by simp [isHalted])]
    rfl
  | stuck hd hv hr _ ih =>
    rw [run_step rfl, step_enter outer hd hv hr, ih]
    rfl
  | enter hd hv hr _ _ ihk ihr =>
    rw [run_step rfl, step_enter outer hd hv hr, ihk]
    exact ihr outer

end Walk

theorem extract_of_descends {reader : Reader} {ex : Exclusion} {rootDir : Path} {content : String}
    {r : Except Unreadable Trail}
    (h : Descends reader ex rootLabel rootDir (Text.lines content) {} r) :
    extract reader ex rootDir content = r.map (·.found) := by
  refine (Walk.result_run_toWalk h []).trans ?_
  cases r with
  | error e => rfl
  | ok s =>
    simp only [Except.bind]
    rw [Walk.run_halted rfl]
    rfl

theorem exists_descends_of_extract {reader : Reader} {ex : Exclusion} {rootDir : Path}
    {content : String} {x : Extraction} (h : extract reader ex rootDir content = .ok x) :
    ∃ s, Descends reader ex rootLabel rootDir (Text.lines content) {} (.ok s) ∧ s.found = x := by
  have hdesc := descends_descend reader ex rootLabel rootDir (Text.lines content) {}
  rw [extract_of_descends hdesc] at h
  cases hr : descend reader ex rootLabel rootDir (Text.lines content) {} with
  | error e =>
    rw [hr] at h
    cases h
  | ok s =>
    rw [hr] at h hdesc
    exact ⟨s, hdesc, Except.ok.inj h⟩

/-- The walk with a stack finds the same edges, lifted lines and contents as the
recursive walk, or fails at the same header. -/
theorem extract_eq_extractByDescent (reader : Reader) (ex : Exclusion) (rootDir : Path)
    (content : String) :
    extract reader ex rootDir content = extractByDescent reader ex rootDir content :=
  extract_of_descends (descends_descend reader ex rootLabel rootDir (Text.lines content) {})

end Amalgam
